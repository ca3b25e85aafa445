import ScopeCheck.Proofs.Outline.Standing

/-!
# Ways through statements

On a way through statements and their clauses every node is read, and the names of a node belong to the
innermost definition that the way leads through.
-/

namespace ScopeCheck

open Cst (Label Path Step Way)

namespace Cst

/-- The kinds of statements that can hold a statement, of their clauses and of blocks. -/
def statementKinds : List String :=
  ["module", "block", "expression_statement", "assignment", "augmented_assignment", "if_statement",
    "elif_clause", "else_clause", "while_statement", "for_statement", "try_statement", "except_clause",
    "except_group_clause", "finally_clause", "with_statement", "match_statement", "case_clause",
    "decorated_definition", "function_definition", "class_definition"]

def definitionKinds : List String := ["function_definition", "class_definition"]

/-- A step from a statement, a clause or a block to one that stands directly in it. -/
structure Step.WithinStatement (step : Step) : Prop where
  named : step.named = true
  parent : step.parent.kind ∈ statementKinds
  child : step.child.kind ∈ statementKinds
  /-- What stands in a definition stands in its body. -/
  body : step.parent.kind ∈ definitionKinds → step.inField "body" = true
  /-- What is decorated is a definition. -/
  decorated : step.parent.kind = "decorated_definition" → step.isFirstIn "definition" = true
  /-- What stands in a handler is not the name that it gives to the exception. -/
  handler : step.parent.kind ∈ ["except_clause", "except_group_clause"] →
    step.followsAs = false ∧ step.inField "alias" = false

instance (step : Step) : Decidable step.WithinStatement :=
  decidable_of_iff
    (step.named = true ∧ step.parent.kind ∈ statementKinds ∧ step.child.kind ∈ statementKinds ∧
      (step.parent.kind ∈ definitionKinds → step.inField "body" = true) ∧
      (step.parent.kind = "decorated_definition" → step.isFirstIn "definition" = true) ∧
      (step.parent.kind ∈ ["except_clause", "except_group_clause"] →
        step.followsAs = false ∧ step.inField "alias" = false))
    ⟨fun ⟨named, parent, child, body, decorated, handler⟩ =>
      ⟨named, parent, child, body, decorated, handler⟩,
      fun within => ⟨within.named, within.parent, within.child, within.body, within.decorated,
        within.handler⟩⟩

namespace Way

/-- The path of the innermost definition above the node to which a way leads, where the way begins at a
path and `outer` is the path of the innermost definition above that. -/
def definitionFrom (path : Path) (outer : Option Path) : Way → Option Path
  | [] => outer
  | step :: way =>
    definitionFrom (path ++ [step.before.length])
      (if step.parent.kind ∈ definitionKinds then some path else outer) way

/-- The path of the innermost definition above the node to which a way leads from the root, if any is
above it. -/
def definition? (way : Way) : Option Path := way.definitionFrom [] none

end Way

theorem Step.inField_of_ne {step : Step} {field : String} (inside : step.inField field = true)
    (other : String) (different : field ≠ other) : step.inField other = false := by
  simp only [inField, beq_iff_eq] at inside
  simp [inField, inside, different]

theorem Step.inField_of_isFirstIn {step : Step} {field : String}
    (first : step.isFirstIn field = true) : step.inField field = true := by
  simp only [isFirstIn, isFirst, Bool.and_eq_true] at first
  exact first.1

end Cst

open Cst (statementKinds definitionKinds)

/-- Statements and clauses are read as plain constructs, unless they bind, handle or match, or are
definitions. -/
theorem Construct.ofKind_statement {kind : String} (statement : kind ∈ statementKinds) :
    Construct.ofKind kind ∈ [Construct.plain, .binds "left", .caseClause] ∨
    kind ∈ definitionKinds ∧ Construct.ofKind kind ∈ [Construct.function, .classDef] ∨
    kind = "decorated_definition" ∧ Construct.ofKind kind = .decorated ∨
    kind ∈ ["except_clause", "except_group_clause"] ∧ Construct.ofKind kind = .handler := by
  revert kind
  decide

theorem Construct.ofKind_definition {kind : String} (definition : kind ∈ definitionKinds) :
    Construct.ofKind kind = .function ∨ Construct.ofKind kind = .classDef := by
  revert kind
  decide

theorem NameContext.forKind_statement {kind : String} (statement : kind ∈ statementKinds) :
    NameContext.load.forKind kind = .load ∧ NameContext.store.forKind kind = .load := by
  revert kind
  decide

/-- What stands in a statement that is read is read in turn. -/
theorem NameContext.below_statement {context : NameContext} {step : Step}
    (within : step.WithinStatement) (reads : context.forKind step.parent.kind = .load) :
    (context.below step).forKind step.child.kind = .load := by
  obtain ⟨load, store⟩ := forKind_statement within.child
  have named := within.named
  rw [below_load reads]
  rcases Construct.ofKind_statement within.parent with
    plain | ⟨isDefinition, defines⟩ | ⟨isDecorated, construct⟩ | ⟨isHandler, construct⟩
  · simp only [List.mem_cons, List.not_mem_nil, or_false] at plain
    rcases plain with construct | construct | construct
    · simp [construct, Construct.below, Step.ifNamed, named, load]
    · rw [construct, Construct.below, Step.withField, Step.ifNamed, if_pos named]
      -- What is assigned to is no statement, but the context changes to loading in any case.
      split
      · exact store
      · exact load
    · have other : step.child.kind ≠ "case_pattern" := by
        intro same
        exact absurd (same ▸ within.child) (by decide)
      simp [construct, Construct.below, Step.ifNamed, named, other, load]
  · -- The body of a definition is neither its name nor its list of parameters.
    have body := within.body isDefinition
    have name := Step.inField_of_ne body "name" (by decide)
    have types := Step.inField_of_ne body "type_parameters" (by decide)
    have parameters := Step.inField_of_ne body "parameters" (by decide)
    simp only [List.mem_cons, List.not_mem_nil, or_false] at defines
    rcases defines with construct | construct
    · simp [construct, Construct.below, Step.ifNamed, named, name, types, parameters, load]
    · simp [construct, Construct.below, Step.ifNamed, named, name, types, load]
  · -- The definition is read, whether it is taken with its decorators or not.
    rw [construct, Construct.below, if_pos (within.decorated isDecorated), Step.ifNamed, if_pos named]
    split <;> exact load
  · obtain ⟨notAfter, notAlias⟩ := within.handler isHandler
    simp [construct, Construct.below, Step.ifNamed, named, notAfter, notAlias, load]

namespace Standing

variable {standing : Standing}

/-- In a definition that is read, the names of a statement belong to it; elsewhere they belong where the
statement around it does, unless the inner one is a definition itself. -/
theorem ownerBelow_statement {step : Step} (within : step.WithinStatement)
    (reads : standing.context.forKind step.parent.kind = .load) :
    step.child.kind ∈ definitionKinds ∨ standing.ownerBelow step =
      if step.parent.kind ∈ definitionKinds then some standing.path else standing.owner := by
  rw [ownerBelow_load reads]
  by_cases isDefinition : step.parent.kind ∈ definitionKinds
  · refine .inr ?_
    rw [if_pos isDefinition]
    rcases Construct.ofKind_definition isDefinition with construct | construct
    · rw [construct]
    · rw [construct]
  rw [if_neg isDefinition]
  rcases Construct.ofKind_statement within.parent with
    plain | ⟨defines, -⟩ | ⟨isDecorated, construct⟩ | ⟨-, construct⟩
  · simp only [List.mem_cons, List.not_mem_nil, or_false] at plain
    rcases plain with construct | construct | construct
    all_goals exact .inr (by rw [construct])
  · exact absurd defines isDefinition
  · rw [construct]
    -- Next to decorators stands the definition itself, if there is one.
    have first : Cst.firstInField? "definition" step.siblings = some step.child :=
      Cst.find?_of_isFirst (within.decorated isDecorated)
    rw [Cst.decorated?, first]
    dsimp only
    by_cases defines : step.child.kind = "function_definition" ∨ step.child.kind = "class_definition"
    · exact .inl (by simpa [definitionKinds] using defines)
    · exact .inr (by rw [if_neg defines])
  · exact .inr (by rw [construct])

/-- Along a way through statements from a node that is read, every node is read. At its end the names
belong to the innermost definition above, but for those of a definition. -/
theorem along_within {tree node : Cst} {way : Way} (member : (way, node) ∈ tree.nodes)
    (within : ∀ step ∈ way, step.WithinStatement)
    (reads : standing.context.forKind tree.kind = .load) {outer : Option Path}
    (owned : tree.kind ∈ definitionKinds ∨ standing.owner = outer) :
    (way.foldl below standing).context.forKind node.kind = .load ∧
      (node.kind ∈ definitionKinds ∨
        (way.foldl below standing).owner = way.definitionFrom standing.path outer) := by
  induction way generalizing tree standing outer with
  | nil =>
    cases Cst.mem_nodes_nil_iff.mp member
    exact ⟨reads, owned⟩
  | cons step way ih =>
    obtain ⟨isStep, inside⟩ := Cst.mem_nodes_cons_iff.mp member
    obtain ⟨here, later⟩ := List.forall_mem_cons.mp within
    rw [← Cst.parent_kind isStep] at reads owned
    refine ih inside later (NameContext.below_statement here reads) ?_
    rcases ownerBelow_statement here reads with defines | owner
    · exact .inl defines
    · refine .inr (owner.trans ?_)
      split
      · rfl
      next other => exact owned.resolve_left other

/-- A statement of a module is read, and its names belong to the innermost definition above it, but for
those of a definition. -/
theorem along_statements {tree : Cst} (isModule : tree.kind = "module") {way : Way} {statement : Cst}
    (member : (way, statement) ∈ tree.nodes) (inner : statement.kind ≠ "module")
    (within : ∀ step ∈ way, step.WithinStatement) :
    (along way).context.forKind statement.kind = .load ∧
      (statement.kind ∈ definitionKinds ∨ (along way).owner = way.definition?) := by
  cases way with
  | nil =>
    cases Cst.mem_nodes_nil_iff.mp member
    exact absurd isModule inner
  | cons step way =>
    obtain ⟨isStep, inside⟩ := Cst.mem_nodes_cons_iff.mp member
    obtain ⟨here, later⟩ := List.forall_mem_cons.mp within
    rw [← Cst.parent_kind isStep] at isModule
    -- The root is no definition, and its children are read.
    have context : NameContext.root.below step = .load := by
      simp [NameContext.below, NameContext.forKind, Cst.Step.ifNamed, here.named]
    have reads : (NameContext.root.below step).forKind step.child.kind = .load := by
      rw [context]
      rfl
    have unowned : ownerBelow ⟨.root, none, []⟩ step =
        if step.parent.kind ∈ definitionKinds then some [] else none := by
      rw [isModule]
      exact ownerBelow_of_not_load (by simp [NameContext.forKind])
    exact along_within inside later reads (.inr unowned)

end Standing

end ScopeCheck
