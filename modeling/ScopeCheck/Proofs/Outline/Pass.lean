import ScopeCheck.Proofs.Outline.Account
import ScopeCheck.Proofs.Outline.Origin
import ScopeCheck.Proofs.Outline.Standing
import ScopeCheck.Proofs.Outline.StepRoles

/-!
# Passes over the children of a node

When each child gives the parts that its nodes stand for, then so does a pass over the children whose
roles fit their contexts.
-/

namespace ScopeCheck

open Cst (Label Path Step)

/-- The context in which a role reads a node. -/
def Role.context : Role → NameContext
  | .read => .load
  | .bind => .store
  | .skip => .hidden
  | .bindAlias => .withAlias
  | .delete => .deleted
  | .matched => .matched
  | .classOfPattern => .className
  | .parameters => .parameters
  | .parameter => .parameter
  | .definition _ => .load

theorem Role.context_ifNamed (step : Step) (role : Role) :
    (ifNamed step role).context = step.ifNamed role.context := by
  unfold ifNamed Step.ifNamed
  split <;> rfl

open Outline (Accounted)
open Role (AllOrdinary)

section Passes

variable (text : Label → String)

/-- Whatever its role and its owner are, a node gives the parts that its nodes stand for. -/
def Accurate (tree : Cst) : Prop :=
  ∀ role : Role, role.Ordinary → ∀ owner path,
    Accounted owner (readAs text role tree) (Standing.entries text ⟨role.context, owner, path⟩ tree)

variable {text}

theorem readEach_accounted {label : Label} {children : List Cst}
    (each : ∀ child ∈ children, Accurate text child)
    {roles : List Role} (ordinary : AllOrdinary roles) {role : Step → Role}
    (given : roles = (Cst.node label children).steps.map role) (owner : Option Path) (path : Path) :
    Accounted owner (readEach text roles children)
      ((Cst.node label children).steps.flatMap fun step =>
        Standing.entries text ⟨(role step).context, owner, path ++ [step.before.length]⟩
          step.child) := by
  subst given
  rw [readEach_steps]
  refine Accounted.flatMap fun step member => ?_
  exact each step.child (Cst.of_mem_steps member).2.2 (role step)
    (ordinary _ (List.mem_map_of_mem member)) owner _

/-- A single pass, whose roles fit the contexts of the children. -/
theorem pass_accounted {label : Label} {children : List Cst}
    (each : ∀ child ∈ children, Accurate text child)
    {standing : Standing} {roles : List Role} (ordinary : AllOrdinary roles) {role : Step → Role}
    (given : roles = (Cst.node label children).steps.map role) {owner : Option Path}
    (fits : ∀ step ∈ (Cst.node label children).steps,
      standing.context.below step = (role step).context ∧ standing.ownerBelow step = owner) :
    Accounted owner (readEach text roles children)
      (standing.entriesBelow text (.node label children)) := by
  -- The roles fit the contexts, so the entries are those of the standings below.
  have same : standing.entriesBelow text (.node label children) =
      (Cst.node label children).steps.flatMap fun step =>
        Standing.entries text ⟨(role step).context, owner, standing.path ++ [step.before.length]⟩
          step.child := by
    refine List.flatMap_congr fun step member => ?_
    rw [Standing.below, (fits step member).1, (fits step member).2]
  rw [same]
  exact readEach_accounted each ordinary given owner standing.path

/-- Two passes, each of which skips the children that the other one reads. -/
theorem passes_accounted {label : Label} {children : List Cst}
    (each : ∀ child ∈ children, Accurate text child)
    {standing : Standing} {roles rolesLater : List Role} (ordinary : AllOrdinary roles)
    (ordinaryLater : AllOrdinary rolesLater) {first later : Step → Role}
    (given : roles = (Cst.node label children).steps.map first)
    (givenLater : rolesLater = (Cst.node label children).steps.map later) {owner : Option Path}
    (fits : ∀ step ∈ (Cst.node label children).steps,
      (standing.context.below step = (first step).context ∧ (later step).context = .hidden ∨
        (first step).context = .hidden ∧ standing.context.below step = (later step).context) ∧
      standing.ownerBelow step = owner) :
    Accounted owner (readEach text roles children ++ readEach text rolesLater children)
      (standing.entriesBelow text (.node label children)) := by
  refine Accounted.perm ((readEach_accounted each ordinary given owner standing.path).append
    (readEach_accounted each ordinaryLater givenLater owner standing.path)) ?_
  -- Step by step, one of the two passes gives what the child stands for and the other one nothing.
  refine (List.flatMap_append_perm _ _ _).trans (List.Perm.of_eq ?_)
  refine List.flatMap_congr fun step member => ?_
  obtain ⟨⟨context, hidden⟩ | ⟨hidden, context⟩, owned⟩ := fits step member
  · rw [hidden, Standing.entries_hidden, List.append_nil, Standing.below, context, owned]
  · rw [hidden, Standing.entries_hidden, List.nil_append, Standing.below, context, owned]

/-! ### The plan of a node -/

def Plan.parts (text : Label → String) (label : Label) (children : List Cst) : Plan → List Outline
  | .splice parts passes => parts ++ passes.flatMap fun roles => readEach text roles children
  | .group parts passes =>
    Outline.groupUnlessEmpty label.kind
      (parts ++ passes.flatMap fun roles => readEach text roles children)
  | .function decorators roles =>
    [.function (definedName text children) label.line (definedParameters text children)
      (decorators ++ readEach text roles children)]
  | .classDef decorators roles =>
    [.classDef (definedName text children) label.line (decorators ++ readEach text roles children)]
  | .decorated roles =>
    readEach text (Role.onField "definition" (.definition (readEach text roles children))
      (children.map Cst.label)) children

theorem readAs_node (role : Role) (label : Label) (children : List Cst) :
    readAs text role (.node label children) =
      (Plan.of text role label children).parts text label children := by
  rw [readAs]
  cases Plan.of text role label children <;> rfl

theorem group_single (label : Label) (children : List Cst) (roles : List Role) :
    (Plan.group [] [roles]).parts text label children =
      Outline.groupUnlessEmpty label.kind (readEach text roles children) := by
  simp [Plan.parts]

theorem group_accounted {owner : Option Path} {label : Label} {children : List Cst}
    {roles : List Role} {found : List Entry}
    (accounted : Accounted owner (readEach text roles children) found) :
    Accounted owner ((Plan.group [] [roles]).parts text label children) found := by
  rw [group_single]
  exact accounted.groupUnlessEmpty label.kind

theorem group_pair (label : Label) (children : List Cst) (roles rolesLater : List Role) :
    (Plan.group [] [roles, rolesLater]).parts text label children =
      Outline.groupUnlessEmpty label.kind
        (readEach text roles children ++ readEach text rolesLater children) := by
  simp [Plan.parts]

theorem splice_pair (label : Label) (children : List Cst) (roles rolesLater : List Role) :
    (Plan.splice [] [roles, rolesLater]).parts text label children =
      readEach text roles children ++ readEach text rolesLater children := by
  simp [Plan.parts]

theorem splice_single (label : Label) (children : List Cst) (roles : List Role) :
    (Plan.splice [] [roles]).parts text label children = readEach text roles children := by
  simp [Plan.parts]

/-- A pass over the named children, by what each of them says of itself. -/
theorem named_accounted {label : Label} {children : List Cst}
    (each : ∀ child ∈ children, Accurate text child) {standing : Standing} {role : Label → Role}
    (ordinary : AllOrdinary (Role.onNamed role (children.map Cst.label))) {owner : Option Path}
    (fits : ∀ step ∈ (Cst.node label children).steps,
      standing.context.below step = step.ifNamed (role step.child.label).context ∧
        standing.ownerBelow step = owner) :
    Accounted owner (readEach text (Role.onNamed role (children.map Cst.label)) children)
      (standing.entriesBelow text (.node label children)) := by
  refine pass_accounted each ordinary (Role.onNamed_eq label [] children role) fun step member => ?_
  rw [Role.context_ifNamed]
  exact fits step member

theorem uniform_accounted {label : Label} {children : List Cst}
    (each : ∀ child ∈ children, Accurate text child) {standing : Standing} {role : Role}
    (ordinary : role.Ordinary)
    (fits : ∀ step ∈ (Cst.node label children).steps,
      standing.context.below step = step.ifNamed role.context ∧
        standing.ownerBelow step = standing.owner) :
    Accounted standing.owner
      (readEach text (Role.onNamed (fun _ => role) (children.map Cst.label)) children)
      (standing.entriesBelow text (.node label children)) :=
  named_accounted each (Role.onNamed_ordinary (fun _ => ordinary) _) fits

theorem withField_accounted {label : Label} {children : List Cst}
    (each : ∀ child ∈ children, Accurate text child) {standing : Standing} {field : String}
    {role : Role} (ordinary : role.Ordinary)
    (fits : ∀ step ∈ (Cst.node label children).steps,
      standing.context.below step = step.withField field role.context ∧
        standing.ownerBelow step = standing.owner) :
    Accounted standing.owner
      (readEach text (Role.withField field role (children.map Cst.label)) children)
      (standing.entriesBelow text (.node label children)) := by
  refine named_accounted each (Plan.withField_ordinary ordinary field _) fun step member => ?_
  rw [apply_ite Role.context]
  exact fits step member

/-- A construct that reads two of its fields, one after the other. -/
theorem fields_accounted {label : Label} {children : List Cst}
    (each : ∀ child ∈ children, Accurate text child) {standing : Standing} {field fieldLater : String}
    (different : field ≠ fieldLater) {role roleLater : Role} (ordinary : role.Ordinary)
    (ordinaryLater : roleLater.Ordinary)
    (below : ∀ step ∈ (Cst.node label children).steps,
      standing.context.below step =
        (if step.isFirstIn field then role.context
        else if step.isFirstIn fieldLater then roleLater.context else .hidden) ∧
      standing.ownerBelow step = standing.owner) :
    Accounted standing.owner
      (readEach text (Role.onField field role (children.map Cst.label)) children ++
        readEach text (Role.onField fieldLater roleLater (children.map Cst.label)) children)
      (standing.entriesBelow text (.node label children)) := by
  refine passes_accounted each (Role.onFirst_ordinary ordinary _ _)
    (Role.onFirst_ordinary ordinaryLater _ _) (Role.onField_eq label [] children _ _ rfl)
    (Role.onField_eq label [] children _ _ rfl) fun step member => ⟨?_, (below step member).2⟩
  rw [(below step member).1]
  by_cases first : step.isFirstIn field = true
  · -- A child stands in one field, so the second pass skips what the first one reads.
    have other : step.isFirstIn fieldLater = false := Cst.isFirstIn_of_ne first different
    rw [if_pos first, if_pos first, other]
    exact .inl ⟨rfl, rfl⟩
  · rw [if_neg first, if_neg first]
    refine .inr ⟨rfl, ?_⟩
    split <;> rfl

end Passes

end ScopeCheck
