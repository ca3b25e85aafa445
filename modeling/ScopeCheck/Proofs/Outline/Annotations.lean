import ScopeCheck.Proofs.Linter.Findings
import ScopeCheck.Proofs.Outline.LineOrigin
import ScopeCheck.Proofs.Outline.Statements

/-!
# Names in annotations

An annotation is read in the scope around the assignment to a variable, and in the scope of the function
for parameters and for what is returned. Each name in it is a reference, but for what follows a dot.

There are two exceptions. Nothing is read in the arguments of a generic type, which have the kind of the
parameters of a generic definition. And what follows the dot of a member type is read.
-/

namespace ScopeCheck

open Cst (Label Path Step Way definitionKinds)

namespace Cst

/-! ### Where annotations stand -/

/-- A statement of a program, with the way to it through the statements around it. -/
structure Statement (tree : Cst) (way : Way) (statement : Cst) : Prop where
  reached : (way, statement) ∈ tree.nodes
  within : ∀ step ∈ way, step.WithinStatement

/-- A step to the annotation that stands in a field of its parent. -/
structure Step.ToType (step : Step) (field : String) : Prop where
  named : step.named = true
  first : step.isFirstIn field = true
  isType : step.child.kind = "type"

/-- The annotations of a program, each with the way to it and the path of the definition to which it
belongs, if it belongs to any. -/
inductive Annotates (tree : Cst) : Way → Cst → Option Path → Prop where
  /-- The annotation of a variable belongs to the innermost definition around the assignment. -/
  | assigned {way : Way} {assignment : Cst} {step : Step} :
    tree.Statement way assignment → assignment.kind = "assignment" →
    step ∈ assignment.steps → step.ToType "type" →
    Annotates tree (way ++ [step]) step.child way.definition?
  /-- The annotation of a parameter belongs to the function. -/
  | parameter {way : Way} {function : Cst} {list parameter step : Step} :
    tree.Statement way function → function.kind = "function_definition" →
    list ∈ function.steps → list.named = true → list.inField "parameters" = true →
    parameter ∈ list.child.steps → parameter.named = true →
    parameter.child.kind ∈ ["typed_parameter", "typed_default_parameter"] →
    step ∈ parameter.child.steps → step.ToType "type" →
    Annotates tree (way ++ [list, parameter, step]) step.child (some way.path)
  /-- The annotation of what is returned belongs to the function. -/
  | returned {way : Way} {function : Cst} {step : Step} :
    tree.Statement way function → function.kind = "function_definition" →
    step ∈ function.steps → step.ToType "return_type" →
    Annotates tree (way ++ [step]) step.child (some way.path)

/-! ### What annotations are made of -/

/-- The kinds of constructs that hold the names of an annotation. -/
def typeKinds : List String :=
  ["type", "attribute", "subscript", "generic_type", "type_parameter", "union_type",
    "binary_operator", "splat_type", "list_splat", "member_type", "constrained_type", "list", "tuple",
    "parenthesized_expression"]

/-- Whether a dot stands before the child. -/
def Step.followsDot (step : Step) : Bool :=
  step.before.any fun sibling => !sibling.named && sibling.kind == "."

/-- A step from a construct of an annotation to a part of it. -/
structure Step.WithinType (step : Step) : Prop where
  named : step.named = true
  parent : step.parent.kind ∈ typeKinds
  /-- A dot is followed by a name, in attributes and in member types. -/
  dotted : step.followsDot = true →
    step.child.kind = "identifier" ∧ step.parent.kind ∈ ["attribute", "member_type"]
  field : step.parent.kind = "attribute" → step.inField "attribute" = step.followsDot

instance (step : Step) : Decidable step.WithinType :=
  decidable_of_iff
    (step.named = true ∧ step.parent.kind ∈ typeKinds ∧
      (step.followsDot = true →
        step.child.kind = "identifier" ∧ step.parent.kind ∈ ["attribute", "member_type"]) ∧
      (step.parent.kind = "attribute" → step.inField "attribute" = step.followsDot))
    ⟨fun ⟨named, parent, dotted, field⟩ => ⟨named, parent, dotted, field⟩,
      fun within => ⟨within.named, within.parent, within.dotted, within.field⟩⟩

/-- An annotation in which all names are held by names, attributes, subscripts, generic types with
their arguments, unions, splats, member types, and lists of these. -/
def IsTypeExpression (type : Cst) : Prop :=
  ∀ way name, (way, name) ∈ type.nodes → name.kind = "identifier" →
    ∀ step ∈ way, step.WithinType

instance (type : Cst) : Decidable type.IsTypeExpression :=
  decidable_of_iff
    (∀ found ∈ type.nodes, found.2.kind = "identifier" → ∀ step ∈ found.1, step.WithinType)
    ⟨fun all way name => all (way, name), fun all found => all found.1 found.2⟩

namespace Way

def followsDot (way : Way) : Bool := way.getLast?.any Step.followsDot

/-- Whether the node to which a way leads follows the dot of a construct of some kind. -/
def followsDotOf (way : Way) (kind : String) : Bool :=
  way.getLast?.any fun step => step.followsDot && step.parent.kind == kind

/-- Whether a way leads through the arguments of a generic type. -/
def entersArguments (way : Way) : Bool := way.any fun step => step.parent.kind == "type_parameter"

end Way

/-- No name of an annotation that is an expression stands in the arguments of a generic type, and no
name outside of them follows the dot of a member type. -/
structure KeepsNames (type : Cst) : Prop where
  arguments : ∀ way name, (way, name) ∈ type.nodes → name.kind = "identifier" →
    way.followsDot = false → way.entersArguments = false
  members : ∀ way name, (way, name) ∈ type.nodes → name.kind = "identifier" →
    way.followsDotOf "member_type" = true → way.entersArguments = true

instance (type : Cst) : Decidable type.KeepsNames :=
  decidable_of_iff
    ((∀ found ∈ type.nodes, found.2.kind = "identifier" → found.1.followsDot = false →
        found.1.entersArguments = false) ∧
      ∀ found ∈ type.nodes, found.2.kind = "identifier" → found.1.followsDotOf "member_type" = true →
        found.1.entersArguments = true)
    ⟨fun ⟨arguments, members⟩ =>
      ⟨fun way name => arguments (way, name), fun way name => members (way, name)⟩,
      fun keeps => ⟨fun found => keeps.arguments found.1 found.2,
        fun found => keeps.members found.1 found.2⟩⟩

end Cst

/-- The scope that belongs to the definition with a path, or to the module where there is no path. -/
def Outline.ScopeAt (outline : Outline) (sited : List Outline.Sited) :
    Option Path → ScopeContents → Prop
  | none, scope => scope = outline.moduleScope
  | some path, scope => (scope, path) ∈ sited

/-- An annotation of a file is read as it should be, when it belongs to some definition and the
definitions of the outline have paths. -/
structure ReadsType (file : SourceFile) (outline : Outline) (sited : List Outline.Sited)
    (way : Way) (type : Cst) (owner : Option Path) : Prop where
  /-- A name that is an expression stands for one reference, in the scope of the annotation. -/
  expressions : ∀ inner name, (inner, name) ∈ type.nodes → name.kind = "identifier" →
    inner.followsDot = false → (Standing.along (way ++ inner)).standsFor? file.textOf name =
      some (.name ⟨.reference, file.textOf name.label, name.label.line⟩ owner)
  /-- A name that follows a dot stands for nothing. -/
  members : ∀ inner name, (inner, name) ∈ type.nodes → name.kind = "identifier" →
    inner.followsDot = true → (Standing.along (way ++ inner)).standsFor? file.textOf name = none
  /-- A name that is an expression is not unused in the scope of the annotation. -/
  used : ∀ inner name, (inner, name) ∈ type.nodes → name.kind = "identifier" →
    inner.followsDot = false → ∃ scope, outline.ScopeAt sited owner scope ∧
      file.textOf name.label ∉ scope.unused

/-- The constructs of an annotation are plain, but for arguments and attributes. -/
theorem Construct.ofKind_type {kind : String} (isType : kind ∈ Cst.typeKinds) :
    kind = "type_parameter" ∧ Construct.ofKind kind = .nameless ∨
    kind = "attribute" ∧ Construct.ofKind kind = .skips "attribute" ∨
    kind ≠ "type_parameter" ∧ kind ≠ "attribute" ∧ Construct.ofKind kind = .plain := by
  revert kind
  decide

/-! ### The standing of an annotation -/

namespace Standing

variable {standing : Standing}

theorem along_append (way : Way) (steps : List Step) :
    along (way ++ steps) = steps.foldl below (along way) := List.foldl_append

theorem path_along (way : Way) : (along way).path = way.path :=
  (foldl_below_path _ way).trans (List.nil_append _)

/-- A part of a function that stands neither with its name nor with its type parameters is read, or has
the parameters; its names belong to the function. -/
theorem below_function {function : Cst} {step : Step}
    (isFunction : function.kind = "function_definition")
    (reads : standing.context.forKind function.kind = .load) (isStep : step ∈ function.steps)
    (named : step.named = true) {field : String} (inside : step.inField field = true)
    (other : field ∉ ["name", "type_parameters"]) :
    (standing.below step).context = (if field = "parameters" then .parameters else .load) ∧
      (standing.below step).owner = some standing.path := by
  have parent : step.parent.kind = function.kind := Cst.parent_kind isStep
  rw [← parent] at reads
  -- A function puts what stands in each of its fields into a context of its own.
  have construct : Construct.ofKind step.parent.kind = .function := by
    rw [parent, isFunction]
    rfl
  have context : (standing.below step).context = _ := NameContext.below_load reads
  have owned : (standing.below step).owner = _ := ownerBelow_load reads
  rw [context, owned, construct]
  refine ⟨?_, rfl⟩
  simp only [List.mem_cons, List.not_mem_nil, or_false, not_or] at other
  -- What stands in one field stands in no other, which decides all tests but the one for the
  -- parameters.
  have name := Step.inField_of_ne inside _ other.1
  have types := Step.inField_of_ne inside _ other.2
  by_cases isList : field = "parameters"
  · rw [isList] at inside
    simp [Construct.below, Step.ifNamed, named, name, types, inside, isList]
  · have list := Step.inField_of_ne inside _ isList
    simp [Construct.below, Step.ifNamed, named, name, types, list, isList]

/-- The annotation of a parameter is read where the parameters are. -/
theorem below_parameters {parameter step : Step} (inList : standing.context = .parameters)
    (named : parameter.named = true)
    (typed : parameter.child.kind ∈ ["typed_parameter", "typed_default_parameter"])
    (first : step.isFirstIn "type" = true) :
    ((standing.below parameter).below step).context = .load ∧
      ((standing.below parameter).below step).owner = standing.owner := by
  -- A parameter with a type is one of those that are passed over a second time.
  have detailed : ["default_parameter", "typed_default_parameter", "typed_parameter"].contains
      parameter.child.kind = true := by
    simp only [List.mem_cons, List.not_mem_nil, or_false] at typed
    rcases typed with kind | kind
    · rw [kind]
      rfl
    · rw [kind]
      rfl
  have inParameter : (standing.below parameter).context = .parameter := by
    change standing.context.below parameter = _
    rw [NameContext.below, inList]
    simp only [NameContext.forKind, Step.ifNamed, if_pos named, if_pos detailed]
  constructor
  · change (standing.below parameter).context.below step = _
    rw [NameContext.below, inParameter]
    simp [NameContext.forKind, first]
  · have outer : (standing.below parameter).owner = standing.owner :=
      ownerBelow_of_not_load (by simp [inList, NameContext.forKind])
    exact (ownerBelow_of_not_load (by simp [inParameter, NameContext.forKind])).trans outer

/-- Every annotation of a module is read, in the scope to which it belongs. -/
theorem along_annotates {tree type : Cst} (isModule : tree.kind = "module") {way : Way}
    {owner : Option Path} (annotates : tree.Annotates way type owner) :
    (along way).context = .load ∧ (along way).owner = owner := by
  cases annotates with
  | @assigned way assignment step statement isAssignment isStep toType =>
    have parent : step.parent.kind = assignment.kind := Cst.parent_kind isStep
    obtain ⟨reads, outer⟩ := along_statements isModule statement.reached
      (by simp [isAssignment]) statement.within
    rw [← parent] at reads
    have construct : Construct.ofKind step.parent.kind = .binds "left" := by
      rw [parent, isAssignment]
      rfl
    have context : ((along way).below step).context = _ := NameContext.below_load reads
    have owned : ((along way).below step).owner = _ := ownerBelow_load reads
    rw [construct] at context owned
    rw [along_append]
    constructor
    · -- The annotation stands in its own field, so it is not on the left.
      have left := Step.inField_of_ne (Step.inField_of_isFirstIn toType.first) "left" (by decide)
      refine context.trans ?_
      simp [Construct.below, Step.withField, Step.ifNamed, toType.named, left]
    · exact owned.trans (outer.resolve_left (by simp [isAssignment, definitionKinds]))
  | @parameter way function list parameter step statement isFunction isList namedList inParameters
      isParameter namedParameter typed isStep toType =>
    obtain ⟨reads, -⟩ := along_statements isModule statement.reached
      (by simp [isFunction]) statement.within
    -- From the list on, everything belongs to the function.
    obtain ⟨inList, owned⟩ :=
      below_function isFunction reads isList namedList inParameters (by decide)
    rw [path_along] at owned
    obtain ⟨context, same⟩ := below_parameters inList namedParameter typed toType.first
    rw [along_append]
    exact ⟨context, same.trans owned⟩
  | @returned way function step statement isFunction isStep toType =>
    obtain ⟨reads, -⟩ := along_statements isModule statement.reached
      (by simp [isFunction]) statement.within
    obtain ⟨context, owned⟩ := below_function isFunction reads isStep toType.named
      (Step.inField_of_isFirstIn toType.first) (by decide)
    rw [path_along] at owned
    rw [along_append]
    exact ⟨context, owned⟩

end Standing

/-! ### The names of an annotation -/

namespace Cst

/-- Whether nothing is read below a step inside an annotation. -/
def Step.hidesNames (step : Step) : Bool :=
  step.parent.kind == "type_parameter" || (step.parent.kind == "attribute" && step.followsDot)

/-- On the way to a node of an annotation, no step but the last leads past a dot. -/
theorem followsDot_of_mem_dropLast {tree node : Cst} {way : Way} (member : (way, node) ∈ tree.nodes)
    (within : ∀ step ∈ way, step.WithinType) : ∀ step ∈ way.dropLast, step.followsDot = false := by
  induction way generalizing tree with
  | nil => simp
  | cons step way ih =>
    obtain ⟨-, inside⟩ := mem_nodes_cons_iff.mp member
    obtain ⟨here, later⟩ := List.forall_mem_cons.mp within
    cases way with
    | nil => simp
    | cons next way =>
      rw [List.dropLast_cons_cons]
      refine List.forall_mem_cons.mpr ⟨?_, ih inside later⟩
      -- What follows a dot is a name, but here there is a construct with parts.
      rw [Bool.eq_false_iff]
      intro dotted
      have construct : step.child.kind ∈ typeKinds := by
        rw [← parent_kind (mem_nodes_cons_iff.mp inside).1]
        exact (later next List.mem_cons_self).parent
      rw [(here.dotted dotted).1] at construct
      exact absurd construct (by decide)

theorem any_hidesNames {tree node : Cst} {way : Way} (member : (way, node) ∈ tree.nodes)
    (within : ∀ step ∈ way, step.WithinType) :
    way.any Step.hidesNames = (way.entersArguments || way.followsDotOf "attribute") := by
  have early := followsDot_of_mem_dropLast member within
  -- Only the last step can follow a dot, so it is split from the others.
  rcases List.eq_nil_or_concat way with rfl | ⟨steps, last, rfl⟩
  · rfl
  · rw [List.concat_eq_append, List.dropLast_concat] at early
    -- Before the last step, names are hidden by arguments only.
    have same : steps.any Step.hidesNames = Way.entersArguments steps := by
      rw [Bool.eq_iff_iff, Way.entersArguments, List.any_eq_true, List.any_eq_true]
      refine exists_congr fun step => and_congr_right fun member => ?_
      rw [Step.hidesNames, early step member, Bool.and_false, Bool.or_false]
    simp only [List.concat_eq_append, List.any_append, same, Way.entersArguments, Way.followsDotOf,
      List.getLast?_concat, Option.any_some, List.any_cons, List.any_nil, Bool.or_false,
      Step.hidesNames, Bool.or_assoc, Bool.and_comm]

/-- What follows a dot does so in an attribute or in a member type. -/
theorem followsDot_eq {tree name : Cst} (shape : tree.IsTypeExpression) {way : Way}
    (member : (way, name) ∈ tree.nodes) (isName : name.kind = "identifier") :
    way.followsDot = (way.followsDotOf "attribute" || way.followsDotOf "member_type") := by
  have within := shape way name member isName
  simp only [Way.followsDot, Way.followsDotOf]
  cases last : way.getLast? with
  | none => rfl
  | some step =>
    simp only [Option.any_some]
    cases dot : step.followsDot with
    | false => rfl
    | true =>
      -- A dot stands in these two constructs only.
      have construct := ((within step (List.mem_of_getLast? last)).dotted dot).2
      simp only [List.mem_cons, List.not_mem_nil, or_false] at construct
      rcases construct with kind | kind
      · rw [kind]
        rfl
      · rw [kind]
        rfl

theorem Way.followsDotOf_of_ne {way : Way} {kind other : String}
    (follows : way.followsDotOf kind = true) (different : kind ≠ other) :
    way.followsDotOf other = false := by
  simp only [followsDotOf] at follows ⊢
  cases last : way.getLast? with
  | none => rfl
  | some step =>
    rw [last, Option.any_some, Bool.and_eq_true, beq_iff_eq] at follows
    simp [follows.2, different]

end Cst

namespace Standing

variable {standing : Standing}

/-- One step inside an annotation that is read. -/
theorem below_type {step : Step} (within : step.WithinType) (reads : standing.context = .load) :
    (standing.below step).context = (if step.hidesNames then .hidden else .load) ∧
      (standing.below step).owner = standing.owner := by
  have load : standing.context.forKind step.parent.kind = .load := by
    rw [reads]
    rfl
  have named := within.named
  have here : (standing.below step).context = _ := NameContext.below_load load
  have owned : (standing.below step).owner = _ := ownerBelow_load load
  rw [here, owned]
  rcases Construct.ofKind_type within.parent with
    ⟨arguments, construct⟩ | ⟨isAttribute, construct⟩ | ⟨notArguments, notAttribute, construct⟩
  · rw [construct, Step.hidesNames, arguments]
    exact ⟨rfl, rfl⟩
  · rw [construct, Construct.below, Step.withField, Step.ifNamed, if_pos named,
      within.field isAttribute, Step.hidesNames, isAttribute]
    exact ⟨rfl, rfl⟩
  · rw [construct, Construct.below, Step.ifNamed, if_pos named]
    simp [Step.hidesNames, notArguments, notAttribute]

theorem along_hidden (hidden : standing.context = .hidden) (way : Way) :
    (way.foldl below standing).context = .hidden := by
  induction way generalizing standing with
  | nil => exact hidden
  | cons step way ih =>
    refine ih ?_
    change standing.context.below step = _
    rw [hidden]
    rfl

/-- The way to a name of an annotation that is read ends where the name is read, unless a step of it
hides all that is below. -/
theorem along_type {way : Way} (within : ∀ step ∈ way, step.WithinType)
    (reads : standing.context = .load) :
    (way.foldl below standing).context = .hidden ∧ way.any Step.hidesNames = true ∨
      (way.foldl below standing).context = .load ∧ way.any Step.hidesNames = false ∧
        (way.foldl below standing).owner = standing.owner := by
  induction way generalizing standing with
  | nil => exact .inr ⟨reads, rfl, rfl⟩
  | cons step way ih =>
    obtain ⟨here, later⟩ := List.forall_mem_cons.mp within
    obtain ⟨context, owned⟩ := below_type here reads
    rw [List.foldl_cons, List.any_cons]
    cases hides : step.hidesNames with
    -- Below a step that hides names, nothing brings them back.
    | true =>
      rw [if_pos hides] at context
      exact .inl ⟨along_hidden context way, rfl⟩
    -- Such a step leaves context and owner as they were, so the rest of the way starts alike.
    | false =>
      rw [if_neg (by simp [hides])] at context
      rw [← owned, Bool.false_or]
      exact ih later context

/-- A name of an annotation that is read stands for a reference, unless it is an argument of a generic
type or follows the dot of an attribute; then it stands for nothing. -/
theorem standsFor_annotated {text : Label → String} {type name : Cst}
    (shape : type.IsTypeExpression) (reads : standing.context = .load) {inner : Way}
    (member : (inner, name) ∈ type.nodes) (isName : name.kind = "identifier") :
    (inner.foldl below standing).standsFor? text name =
      if inner.entersArguments || inner.followsDotOf "attribute" then none
      else some (.name ⟨.reference, text name.label, name.label.line⟩ standing.owner) := by
  have within := shape inner name member isName
  rw [← Cst.any_hidesNames member within, standsFor?, isName]
  rcases along_type within reads with ⟨context, hides⟩ | ⟨context, reaches, owned⟩
  · rw [context, hides]
    rfl
  · rw [context, reaches, owned]
    rfl

end Standing

/-! ### Scopes and entries -/

namespace Outline

/-- The name of an entry occurs in the scope at its owner. -/
theorem exists_scopeAt {outline : Outline} {sited : List Sited} {occurrence : Occurrence}
    {owner : Option Path} (member : .name occurrence owner ∈ outline.entries sited) :
    ∃ scope, outline.ScopeAt sited owner scope ∧ occurrence ∈ scope.occurrences := by
  -- An entry of the module has no owner; all others are listed with the path of their scope.
  rcases List.mem_append.mp member with module | inner
  · obtain ⟨owned, isOwned, same⟩ := List.mem_map.mp module
    cases same
    exact ⟨outline.moduleScope, rfl, isOwned⟩
  · obtain ⟨⟨scope, path⟩, isSited, isEntry⟩ := List.mem_flatMap.mp inner
    rcases List.mem_cons.mp isEntry with definition | name
    · cases definition
    · obtain ⟨owned, isOwned, same⟩ := List.mem_map.mp name
      cases same
      exact ⟨scope, isSited, isOwned⟩

theorem not_mem_unused {scope : ScopeContents} {name : String} {line : Nat}
    (reads : ⟨.reference, name, line⟩ ∈ scope.occurrences) : name ∉ scope.unused := by
  rw [scope.mem_unused]
  exact fun unused => unused.2 ⟨line, reads⟩

end Outline

/-- The names and definitions of an outline, with the paths of the definitions, are what the nodes of
the tree stand for. -/
theorem SourceFile.exists_sited {file : SourceFile} {outline : Outline}
    (read : file.outline = .ok outline) :
    ∃ sited, sited.map Prod.fst = outline.definitions ∧ (sited.map Prod.snd).Nodup ∧
      (outline.entries sited).Perm (file.tree.nodes.filterMap fun found =>
        (Standing.along found.1).standsFor? file.textOf found.2) := by
  obtain ⟨parts, rfl, sited, sites, entries⟩ := accounted_of_outline read
  refine ⟨sited, sites, ?_, entries⟩
  -- The paths are those of the entries, and no two nodes of the tree share one.
  rw [← Outline.entriesOf_path none]
  exact (entries.filterMap Entry.path?).nodup_iff.mpr (definition_paths_nodup _ file.tree)

theorem Cst.Annotates.mem_nodes {tree type : Cst} {way : Way} {owner : Option Path}
    (annotates : tree.Annotates way type owner) : (way, type) ∈ tree.nodes := by
  cases annotates with
  | assigned statement _ isStep _ | returned statement _ isStep _ =>
    exact mem_nodes_trans statement.reached (mem_nodes_of_step isStep (root_mem_nodes _))
  | parameter statement _ isList _ _ isParameter _ _ isStep _ =>
    exact mem_nodes_trans statement.reached (mem_nodes_of_step isList
      (mem_nodes_of_step isParameter (mem_nodes_of_step isStep (root_mem_nodes _))))

section Reading

variable {file : SourceFile} {outline : Outline} {sited : List Outline.Sited} {way : Way}
  {type : Cst} {owner : Option Path}

theorem standsFor_at (isModule : file.tree.kind = "module")
    (annotates : file.tree.Annotates way type owner) (shape : type.IsTypeExpression)
    {inner : Way} {name : Cst} (member : (inner, name) ∈ type.nodes)
    (isName : name.kind = "identifier") :
    (Standing.along (way ++ inner)).standsFor? file.textOf name =
      if inner.entersArguments || inner.followsDotOf "attribute" then none
      else some (.name ⟨.reference, file.textOf name.label, name.label.line⟩ owner) := by
  obtain ⟨reads, owned⟩ := Standing.along_annotates isModule annotates
  rw [Standing.along_append, ← owned]
  exact Standing.standsFor_annotated shape reads member isName

theorem keepsNames_of_reads (isModule : file.tree.kind = "module")
    (annotates : file.tree.Annotates way type owner) (shape : type.IsTypeExpression)
    (reads : ReadsType file outline sited way type owner) : type.KeepsNames where
  arguments := by
    intro inner name member isName expression
    -- In the arguments of a generic type a name stands for nothing, so an expression is not there.
    have stands := reads.expressions inner name member isName expression
    rw [standsFor_at isModule annotates shape member isName] at stands
    by_contra enters
    simp [Bool.eq_true_of_not_eq_false enters] at stands
  members := by
    intro inner name member isName dotted
    have follows : inner.followsDot = true := by
      rw [Cst.followsDot_eq shape member isName, dotted, Bool.or_true]
    -- After the dot of a member type a name stands for a reference, unless it is in such arguments.
    have stands := reads.members inner name member isName follows
    rw [standsFor_at isModule annotates shape member isName,
      Cst.Way.followsDotOf_of_ne dotted (by decide), Bool.or_false] at stands
    by_contra outside
    simp [Bool.eq_false_of_not_eq_true outside] at stands

theorem reads_of_keepsNames (isModule : file.tree.kind = "module")
    (annotates : file.tree.Annotates way type owner) (shape : type.IsTypeExpression)
    (entries : (outline.entries sited).Perm (file.tree.nodes.filterMap fun found =>
      (Standing.along found.1).standsFor? file.textOf found.2))
    (keeps : type.KeepsNames) : ReadsType file outline sited way type owner := by
  have expressions : ∀ inner name, (inner, name) ∈ type.nodes → name.kind = "identifier" →
      inner.followsDot = false → (Standing.along (way ++ inner)).standsFor? file.textOf name =
        some (.name ⟨.reference, file.textOf name.label, name.label.line⟩ owner) := by
    intro inner name member isName expression
    have noDot := expression
    rw [Cst.followsDot_eq shape member isName, Bool.or_eq_false_iff] at noDot
    rw [standsFor_at isModule annotates shape member isName,
      keeps.arguments inner name member isName expression, noDot.1]
    rfl
  refine ⟨expressions, fun inner name member isName dotted => ?_,
    fun inner name member isName expression => ?_⟩
  · -- What follows the dot of an attribute is hidden, and what follows that of a member type is in
    -- arguments.
    rw [standsFor_at isModule annotates shape member isName]
    rw [Cst.followsDot_eq shape member isName, Bool.or_eq_true] at dotted
    rcases dotted with ofAttribute | ofMember
    · rw [ofAttribute, Bool.or_true]
      rfl
    · rw [keeps.members inner name member isName ofMember, Bool.true_or]
      rfl
  · -- The reference is an entry of the outline, so its name occurs in the scope of its owner.
    have isNode : (way ++ inner, name) ∈ file.tree.nodes :=
      Cst.mem_nodes_trans annotates.mem_nodes member
    have isEntry := entries.symm.subset (List.mem_filterMap.mpr
      ⟨_, isNode, expressions inner name member isName expression⟩)
    obtain ⟨scope, atOwner, occurs⟩ := Outline.exists_scopeAt isEntry
    exact ⟨scope, atOwner, Outline.not_mem_unused occurs⟩

end Reading

/-- In a module that is not nested too deeply the names of the outline are what the nodes of the tree
stand for. A name in an annotation stands for a reference in the scope of the annotation, unless it is
an argument of a generic type or follows the dot of an attribute; then it stands for nothing. So an
annotation is read as it should be exactly when no expression in it is an argument of a generic type,
and no name outside of such arguments follows the dot of a member type. -/
theorem annotation_read_iff (file : SourceFile) (shallow : file.tooDeep? = none)
    (isModule : file.tree.kind = "module") :
    ∃ outline sited, file.outline = .ok outline ∧
      unusedNames file.name outline = .ok (outline.findings file.name) ∧
      sited.map Prod.fst = outline.definitions ∧ (sited.map Prod.snd).Nodup ∧
      (outline.entries sited).Perm (file.tree.nodes.filterMap fun found =>
        (Standing.along found.1).standsFor? file.textOf found.2) ∧
      ∀ way type owner, file.tree.Annotates way type owner → type.IsTypeExpression →
        (∀ inner name, (inner, name) ∈ type.nodes → name.kind = "identifier" →
          (Standing.along (way ++ inner)).standsFor? file.textOf name =
            if inner.entersArguments || inner.followsDotOf "attribute" then none
            else some (.name ⟨.reference, file.textOf name.label, name.label.line⟩ owner)) ∧
        (ReadsType file outline sited way type owner ↔ type.KeepsNames) := by
  obtain ⟨outline, read, -, -, tracked⟩ := SourceFile.tracked_of_shallow shallow
  obtain ⟨sited, sites, distinct, entries⟩ := SourceFile.exists_sited read
  refine ⟨outline, sited, read, tracked file.name, sites, distinct, entries,
    fun way type owner annotates shape => ⟨fun inner name member isName => ?_, ?_, ?_⟩⟩
  · exact standsFor_at isModule annotates shape member isName
  · exact keepsNames_of_reads isModule annotates shape
  · exact reads_of_keepsNames isModule annotates shape entries

namespace TypedFiles

def name (start : Place) (stop : Nat) (field : Option String := none) : Cst :=
  .node { kind := "identifier", field, start, stop } []

def token (kind : String) (start : Place) (stop : Nat) (field : Option String := none) : Cst :=
  .node { kind, named := false, field, start, stop } []

/-! #### A union with an attribute, at a parameter -/

def union : Cst :=
  .node { kind := "type", field := some "type", start := ⟨9, 0, 9⟩, stop := 16 }
    [.node { kind := "binary_operator", start := ⟨9, 0, 9⟩, stop := 16 }
      [.node { kind := "attribute", field := some "left", start := ⟨9, 0, 9⟩, stop := 12 }
        [name ⟨9, 0, 9⟩ 10 (some "object"), token "." ⟨10, 0, 10⟩ 11,
          name ⟨11, 0, 11⟩ 12 (some "attribute")],
        token "|" ⟨13, 0, 13⟩ 14 (some "operator"), name ⟨15, 0, 15⟩ 16 (some "right")]]

def toUnion : Step :=
  ⟨{ kind := "typed_parameter", start := ⟨6, 0, 6⟩, stop := 16 },
    [name ⟨6, 0, 6⟩ 7, token ":" ⟨7, 0, 7⟩ 8], union, []⟩

def toParameter : Step :=
  ⟨{ kind := "parameters", field := some "parameters", start := ⟨5, 0, 5⟩, stop := 17 },
    [token "(" ⟨5, 0, 5⟩ 6], .node toUnion.parent toUnion.siblings, [token ")" ⟨16, 0, 16⟩ 17]⟩

def toParameters : Step :=
  ⟨{ kind := "function_definition", stop := 23 },
    [token "def" {} 3, name ⟨4, 0, 4⟩ 5 (some "name")], .node toParameter.parent toParameter.siblings,
    [token ":" ⟨17, 0, 17⟩ 18,
      .node { kind := "block", field := some "body", start := ⟨19, 0, 19⟩, stop := 23 }
        [.node { kind := "pass_statement", start := ⟨19, 0, 19⟩, stop := 23 }
          [token "pass" ⟨19, 0, 19⟩ 23]]]⟩

def toFunction : Step :=
  ⟨{ kind := "module", stop := 23 }, [], .node toParameters.parent toParameters.siblings, []⟩

def unionFile : SourceFile where
  name := "t.py"
  text := "def f(p: m.A | u): pass\n"
  tree := .node toFunction.parent toFunction.siblings

theorem unionFile_shallow : unionFile.tooDeep? = none :=
  (SourceFile.tooDeep?_eq_none_iff _).mpr (by decide)

theorem union_annotates :
    unionFile.tree.Annotates [toFunction, toParameters, toParameter, toUnion] union (some [0]) :=
  have function : unionFile.tree.Statement [toFunction] toFunction.child :=
    ⟨List.mem_of_getElem? (i := 1) rfl, by decide⟩
  .parameter function rfl
    (List.mem_of_getElem? (i := 2) rfl) rfl rfl
    (List.mem_of_getElem? (i := 1) rfl) rfl (by decide)
    (List.mem_of_getElem? (i := 2) rfl) ⟨rfl, rfl, rfl⟩

/-- The annotation is read as it should be, in the function. -/
theorem unionFile_reads :
    unionFile.tooDeep? = none ∧ unionFile.tree.kind = "module" ∧
    ∃ outline sited, unionFile.outline = .ok outline ∧
      ReadsType unionFile outline sited [toFunction, toParameters, toParameter, toUnion] union
        (some [0]) := by
  obtain ⟨outline, sited, read, -, -, -, -, each⟩ := annotation_read_iff unionFile unionFile_shallow rfl
  obtain ⟨-, reads⟩ := each _ _ _ union_annotates (by decide)
  exact ⟨unionFile_shallow, rfl, outline, sited, read, reads.mpr (by decide)⟩

/-! #### An argument of a generic type, at a variable -/

def argument : Cst :=
  .node { kind := "type", start := ⟨21, 1, 11⟩, stop := 24 } [name ⟨21, 1, 11⟩ 24]

def generic : Cst :=
  .node { kind := "type", field := some "type", start := ⟨16, 1, 6⟩, stop := 25 }
    [.node { kind := "generic_type", start := ⟨16, 1, 6⟩, stop := 25 }
      [name ⟨16, 1, 6⟩ 20,
        .node { kind := "type_parameter", start := ⟨20, 1, 10⟩, stop := 25 }
          [token "[" ⟨20, 1, 10⟩ 21, argument, token "]" ⟨24, 1, 14⟩ 25]]]

def toGeneric : Step :=
  ⟨{ kind := "assignment", start := ⟨10, 1, 0⟩, stop := 30 },
    [name ⟨10, 1, 0⟩ 14 (some "left"), token ":" ⟨14, 1, 4⟩ 15], generic,
    [token "=" ⟨26, 1, 16⟩ 27,
      .node { kind := "list", field := some "right", start := ⟨28, 1, 18⟩, stop := 30 }
        [token "[" ⟨28, 1, 18⟩ 29, token "]" ⟨29, 1, 19⟩ 30]]⟩

def toAssignment : Step :=
  ⟨{ kind := "expression_statement", start := ⟨10, 1, 0⟩, stop := 30 }, [],
    .node toGeneric.parent toGeneric.siblings, []⟩

def toStatement : Step :=
  ⟨{ kind := "module", stop := 42 },
    [.node { kind := "expression_statement", stop := 9 }
      [.node { kind := "assignment", stop := 9 }
        [name {} 3 (some "left"), token "=" ⟨4, 0, 4⟩ 5, name ⟨6, 0, 6⟩ 9 (some "right")]]],
    .node toAssignment.parent toAssignment.siblings,
    [.node { kind := "expression_statement", start := ⟨31, 2, 0⟩, stop := 42 }
      [.node { kind := "call", start := ⟨31, 2, 0⟩, stop := 42 }
        [name ⟨31, 2, 0⟩ 36 (some "function"),
          .node { kind := "argument_list", field := some "arguments", start := ⟨36, 2, 5⟩, stop := 42 }
            [token "(" ⟨36, 2, 5⟩ 37, name ⟨37, 2, 6⟩ 41, token ")" ⟨41, 2, 10⟩ 42]]]]⟩

/-- A file in which a name is bound and then read in an annotation alone. -/
def rowsFile : SourceFile where
  name := "t.py"
  text := "Row = int\nrows: list[Row] = []\nprint(rows)\n"
  tree := .node toStatement.parent toStatement.siblings

theorem rowsFile_shallow : rowsFile.tooDeep? = none :=
  (SourceFile.tooDeep?_eq_none_iff _).mpr (by decide)

theorem rowsFile_validate : rowsFile.validate = .ok () := by
  have accepted : rowsFile.refused? = none := by
    rw [SourceFile.refused?, Cst.walk_eq_preorder]
    rfl
  rw [SourceFile.validate, rowsFile_shallow, accepted]
  rfl

theorem generic_annotates :
    rowsFile.tree.Annotates [toStatement, toAssignment, toGeneric] generic none :=
  have statement : rowsFile.tree.Statement [toStatement, toAssignment] toAssignment.child :=
    ⟨List.mem_of_getElem? (i := 7) rfl, by decide⟩
  .assigned statement rfl (List.mem_of_getElem? (i := 2) rfl) ⟨rfl, rfl, rfl⟩

/-- What is left of the file: the name in the annotation is lost. -/
def rowsOutline : Outline :=
  .module [
    .group "expression_statement" [.group "assignment" [.binding "Row" 1, .reference "int" 1]],
    .group "expression_statement" [.group "assignment"
      [.binding "rows" 2, .group "type" [.group "generic_type" [.reference "list" 2]]]],
    .group "expression_statement" [.group "call"
      [.reference "print" 3, .group "argument_list" [.reference "rows" 3]]]]

theorem rowsFile_outline : rowsFile.outline = .ok rowsOutline := by
  rw [SourceFile.outline, rowsFile_shallow]
  rfl

theorem rowsFile_findings : rowsFile.findings {} = .ok [.unusedVariable "t.py" 0 "Row"] := by
  obtain ⟨outline, read, shallow, returned⟩ := SourceFile.findings_eq rowsFile_validate {}
  rw [rowsFile_outline] at read
  cases read
  have tracked : unusedNames "t.py" rowsOutline = .ok (rowsOutline.findings "t.py") := by
    rw [unusedNames_eq]
    exact if_pos shallow
  have names : rowsOutline.findings rowsFile.name = [.unusedVariable "t.py" 0 "Row"] :=
    Except.ok.inj (tracked.symm.trans (by rfl))
  have lines : scanLines rowsFile.name rowsFile.text 80 = [] := by rfl
  have enabled : enabledOf {} [.unusedVariable "t.py" 0 "Row"] =
      [.unusedVariable "t.py" 0 "Row"] := by rfl
  rw [returned, names]
  change Except.ok (sortByLine (enabledOf {} (_ ++ scanLines rowsFile.name rowsFile.text 80))) = _
  rw [lines, List.append_nil, enabled, sortByLine, List.mergeSort_singleton]

/-- An annotation of a file that passes validation is not read as it should be, and the name that is
read there is reported as unused. -/
theorem rowsFile_loses_name :
    rowsFile.validate = .ok () ∧
    rowsFile.tree.Annotates [toStatement, toAssignment, toGeneric] generic none ∧
    generic.IsTypeExpression ∧
    (∀ outline sited,
      ¬ ReadsType rowsFile outline sited [toStatement, toAssignment, toGeneric] generic none) ∧
    rowsFile.findings {} = .ok [.unusedVariable "t.py" 0 "Row"] := by
  refine ⟨rowsFile_validate, generic_annotates, by decide, fun outline sited reads => ?_,
    rowsFile_findings⟩
  have keeps := keepsNames_of_reads rfl generic_annotates (by decide) reads
  exact absurd keeps (by decide)

end TypedFiles

end ScopeCheck
