import ScopeCheck.Outline.Construct
import ScopeCheck.Outline.Reading
import ScopeCheck.Proofs.Outline.NameContext

/-!
# What the nodes of a tree stand for

The entries of a whole tree, node by node from the root down.
-/

namespace ScopeCheck

open Cst (Label Path Step stepsFrom)

namespace Construct

/-- The context below a construct that is read. -/
def below (step : Step) : Construct → NameContext
  | .name | .nameless => .hidden
  | .function =>
    step.ifNamed <|
      if step.inField "name" || step.inField "type_parameters" then .hidden
      else if step.inField "parameters" then .parameters
      else .load
  | .classDef =>
    step.ifNamed <| if step.inField "name" || step.inField "type_parameters" then .hidden else .load
  | .decorated =>
    if (Cst.decorated? step.siblings).isSome then
      if step.isFirstIn "definition" then .load
      else step.ifNamed <| if step.child.kind == "decorator" then .load else .hidden
    else step.ifNamed .load
  | .binds field => step.withField field .store
  | .skips field => step.withField field .hidden
  | .withItem =>
    step.ifNamed <|
      if step.inField "alias" then .store
      else if step.child.kind == "as_pattern" then .withAlias
      else .load
  | .handler => step.ifNamed <| if step.followsAs || step.inField "alias" then .hidden else .load
  | .lambda =>
    if step.isFirstIn "parameters" then .parameters
    else if step.isFirstIn "body" then .load
    else .hidden
  | .deletion => step.ifNamed .deleted
  | .caseClause => step.ifNamed <| if step.child.kind == "case_pattern" then .matched else .load
  | .typeAlias =>
    if step.isFirstIn "left" then .typeName step.child.label.line
    else if step.isFirstIn "right" then .load
    else .hidden
  | .plain => step.ifNamed .load

theorem belowLoad_eq (step : Step) : step.belowLoad = (ofKind step.parent.kind).below step := by
  unfold Step.belowLoad
  generalize step.parent.kind = kind
  fun_cases ofKind kind
  -- In the last case of the kinds, all those of the table are excluded.
  case case27 => split <;> first | rfl | contradiction
  all_goals rfl

/-- What a construct that is read stands for by itself. -/
def standsFor? (text : Label → String) (standing : Standing) (label : Label) :
    Construct → Option Entry
  | .name => some (.name ⟨.reference, text label, label.line⟩ standing.owner)
  | .function => some (.definition .function label.line standing.path)
  | .classDef => some (.definition .classDef label.line standing.path)
  | _ => none

end Construct

theorem NameContext.below_load {context : NameContext} {step : Step}
    (reads : context.forKind step.parent.kind = .load) :
    context.below step = (Construct.ofKind step.parent.kind).below step := by
  rw [below, reads]
  exact Construct.belowLoad_eq step

/-! ### Names below the left side of a name for a type -/

mutual

theorem holdsName_eq (text : Label → String) (tree : Cst) :
    tree.holdsName = !(namesIn text tree).isEmpty := by
  cases tree with
  | node label children =>
    rw [Cst.holdsName, namesIn, anyHoldsName_eq text children]
    cases label.kind == "identifier" <;> rfl

theorem anyHoldsName_eq (text : Label → String) (trees : List Cst) :
    Cst.anyHoldsName trees = !(namesInNamed text trees).isEmpty := by
  cases trees with
  | nil => rfl
  | cons tree rest =>
    rw [Cst.anyHoldsName, namesInNamed, holdsName_eq text tree, anyHoldsName_eq text rest]
    -- Neither the search nor the test looks into a token.
    cases tree.named with
    | false => rfl
    | true => cases namesIn text tree <;> simp

end

theorem anyHoldsName_append (left right : List Cst) :
    Cst.anyHoldsName (left ++ right) = (Cst.anyHoldsName left || Cst.anyHoldsName right) := by
  induction left with
  | nil => rfl
  | cons tree rest ih => simp only [List.cons_append, Cst.anyHoldsName, ih, Bool.or_assoc]

namespace Standing

variable {standing : Standing}

theorem ownerBelow_load {step : Step}
    (reads : standing.context.forKind step.parent.kind = .load) :
    standing.ownerBelow step = match Construct.ofKind step.parent.kind with
      | .function | .classDef => some standing.path
      | .decorated =>
        match Cst.decorated? step.siblings with
        | some index => some (standing.path ++ [index])
        | none => standing.owner
      | _ => standing.owner := by
  rw [ownerBelow, if_pos reads]
  generalize step.parent.kind = kind
  fun_cases Construct.ofKind kind
  case case27 => split <;> first | rfl | contradiction
  all_goals rfl

theorem standsFor_load {text : Label → String} {node : Cst}
    (reads : standing.context.forKind node.kind = .load) :
    standing.standsFor? text node =
      (Construct.ofKind node.kind).standsFor? text standing node.label := by
  rw [standsFor?, reads]
  generalize node.kind = kind
  fun_cases Construct.ofKind kind
  case case27 => split <;> first | rfl | contradiction
  all_goals rfl

theorem ownerBelow_of_not_load {step : Step}
    (other : standing.context.forKind step.parent.kind ≠ .load) :
    standing.ownerBelow step = standing.owner := by
  rw [ownerBelow, if_neg other]

/-- The names below a construct that is read belong where those of the construct do, but for definitions
and what decorates them. -/
theorem below_ordinary {step : Step} {construct : Construct}
    (reads : standing.context.forKind step.parent.kind = .load)
    (kind : Construct.ofKind step.parent.kind = construct)
    (ordinary : construct ∉ [Construct.function, .classDef, .decorated]) :
    (standing.below step).context = construct.below step ∧
      (standing.below step).owner = standing.owner := by
  have context : (standing.below step).context = _ := NameContext.below_load reads
  have owned : (standing.below step).owner = _ := ownerBelow_load reads
  rw [context, owned, kind]
  refine ⟨rfl, ?_⟩
  cases construct with
  | function | classDef | decorated => exact absurd (by decide) ordinary
  | _ => rfl

/-- What the nodes of a tree stand for, when the root has a standing. -/
def entries (text : Label → String) (standing : Standing) (tree : Cst) : List Entry :=
  tree.nodes.filterMap fun found => (found.1.foldl below standing).standsFor? text found.2

/-- What the nodes below the root of a tree stand for. -/
def entriesBelow (text : Label → String) (standing : Standing) (tree : Cst) : List Entry :=
  tree.steps.flatMap fun step => (standing.below step).entries text step.child

theorem entries_eq (text : Label → String) (standing : Standing) (tree : Cst) :
    standing.entries text tree =
      (standing.standsFor? text tree).toList ++ standing.entriesBelow text tree := by
  rw [entries, Cst.nodes_node, List.filterMap_cons, List.filterMap_flatMap]
  simp only [List.filterMap_map, Function.comp_def, List.foldl_cons, List.foldl_nil]
  cases standing.standsFor? text tree <;> rfl

/-- Nothing below a hidden node stands for anything. -/
theorem entries_hidden (text : Label → String) (owner : Option Path) (path : Path) (tree : Cst) :
    entries text ⟨.hidden, owner, path⟩ tree = [] := by
  induction tree using Cst.induction generalizing owner path with
  | node label children ih =>
    have below : entriesBelow text ⟨.hidden, owner, path⟩ (.node label children) = [] :=
      List.flatMap_eq_nil_iff.mpr fun step member =>
        ih step.child (Cst.of_mem_steps member).2.2 _ _
    rw [entries_eq, below]
    rfl

theorem entriesBelow_hidden {text : Label → String} {standing : Standing} {tree : Cst}
    (hidden : ∀ step ∈ tree.steps, standing.context.below step = .hidden) :
    standing.entriesBelow text tree = [] := by
  refine List.flatMap_eq_nil_iff.mpr fun step member => ?_
  rw [below, hidden step member]
  exact entries_hidden text _ _ step.child

def firstBinding (line : Nat) (owner : Option Path) (names : List String) : List Entry :=
  (names.head?.map fun name => Entry.name ⟨.binding, name, line⟩ owner).toList

theorem firstBinding_append (line : Nat) (owner : Option Path) (first later : List String) :
    firstBinding line owner (first ++ later) =
      firstBinding line owner first ++ if first.isEmpty then firstBinding line owner later else [] := by
  cases first <;> simp [firstBinding]

theorem entries_steps_typeName (text : Label → String) (line : Nat) (owner : Option Path)
    (path : Path) {parent : Label} (construct : parent.kind ≠ "identifier")
    (before children : List Cst) (each : ∀ child ∈ children, ∀ path,
      entries text ⟨.typeName line, owner, path⟩ child =
        firstBinding line owner (namesIn text child)) :
    ((stepsFrom parent before children).flatMap fun step =>
        (Standing.below ⟨.typeName line, owner, path⟩ step).entries text step.child) =
      if Cst.anyHoldsName before then []
      else firstBinding line owner (namesInNamed text children) := by
  induction children generalizing before with
  | nil => simp [stepsFrom, namesInNamed, firstBinding]
  | cons child after ih =>
    obtain ⟨here, later⟩ := List.forall_mem_cons.mp each
    have owned : ownerBelow ⟨.typeName line, owner, path⟩ ⟨parent, before, child, after⟩ = owner :=
      ownerBelow_of_not_load (by simp [NameContext.forKind])
    -- A child is entered as long as no sibling before it holds a name.
    have context : NameContext.below (.typeName line) ⟨parent, before, child, after⟩ =
        if Cst.anyHoldsName before then .hidden
        else if child.named then .typeName line else .hidden := by
      change (if parent.kind == "identifier" || Cst.anyHoldsName before then _ else _) = _
      rw [beq_eq_false_iff_ne.mpr construct, Bool.false_or]
      rfl
    rw [stepsFrom, List.flatMap_cons, ih (before ++ [child]) later, Standing.below, owned, context,
      anyHoldsName_append, namesInNamed]
    by_cases met : Cst.anyHoldsName before = true
    · simp [met, entries_hidden]
    · by_cases named : child.named = true
      · rw [if_pos named, if_pos named, if_neg met, if_neg met, firstBinding_append, here]
        simp only [met, named, Cst.anyHoldsName, holdsName_eq text]
        cases namesIn text child <;> simp
      · simp [met, named, entries_hidden, Cst.anyHoldsName]

/-- On the left side of a name for a type, the first name stands for a binding. -/
theorem entries_typeName (text : Label → String) (line : Nat) (owner : Option Path) (path : Path)
    (tree : Cst) :
    entries text ⟨.typeName line, owner, path⟩ tree = firstBinding line owner (namesIn text tree) := by
  induction tree using Cst.induction generalizing path with
  | node label children ih =>
    rw [entries_eq, namesIn]
    by_cases isName : label.kind = "identifier"
    · -- The search ends at a name, and below it everything is hidden.
      have below : entriesBelow text ⟨.typeName line, owner, path⟩ (.node label children) = [] := by
        refine List.flatMap_eq_nil_iff.mpr fun step member => ?_
        have parent : step.parent.kind = "identifier" := by
          rw [(Cst.of_mem_steps member).1]
          exact isName
        have hidden : NameContext.below (.typeName line) step = .hidden := by
          simp [NameContext.below, NameContext.forKind, parent]
        rw [Standing.below, hidden, entries_hidden]
      have own : standsFor? text ⟨.typeName line, owner, path⟩ (.node label children) =
          some (.name ⟨.binding, text label, line⟩ owner) := by
        simp [standsFor?, NameContext.forKind, Cst.kind, Cst.label, isName]
      rw [below, own, isName]
      rfl
    · have own : standsFor? text ⟨.typeName line, owner, path⟩ (.node label children) = none := by
        simp [standsFor?, NameContext.forKind, Cst.kind, Cst.label, isName]
      have below := entries_steps_typeName text line owner path isName [] children ih
      rw [own, entriesBelow, Cst.steps, if_neg (by simpa using isName)]
      exact below

end Standing

end ScopeCheck
