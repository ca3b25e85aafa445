import ScopeCheck.Outline.Reading
import ScopeCheck.Proofs.Cst.Shape

/-!
# Where the parts of an outline come from

Whatever the construct, a group or a definition that it gives is made of parts that its children give.
So a property which every construct hands on holds of all parts of an outline.
-/

namespace ScopeCheck

open Cst (Label)

namespace Role

/-- All roles but that of a definition whose decorators were read already. -/
def Ordinary : Role → Prop
  | .definition _ => False
  | _ => True

def AllOrdinary (roles : List Role) : Prop := ∀ role ∈ roles, role.Ordinary

theorem onNamed_ordinary {role : Label → Role} (ordinary : ∀ label, (role label).Ordinary)
    (labels : List Label) : AllOrdinary (onNamed role labels) := by
  intro given member
  obtain ⟨label, _, rfl⟩ := List.mem_map.mp member
  split
  · exact ordinary label
  · trivial

theorem mem_onFirst {condition : Label → Bool} {role given : Role} {labels : List Label}
    (member : given ∈ onFirst condition role labels) : given = .skip ∨ given = role := by
  induction labels with
  | nil => simp [onFirst] at member
  | cons label rest ih =>
    rw [onFirst] at member
    split at member
    · rcases List.mem_cons.mp member with rfl | later
      · exact .inr rfl
      · obtain ⟨_, _, rfl⟩ := List.mem_map.mp later
        exact .inl rfl
    · rcases List.mem_cons.mp member with rfl | later
      · exact .inl rfl
      · exact ih later

theorem onFirst_ordinary {role : Role} (ordinary : role.Ordinary) (condition : Label → Bool)
    (labels : List Label) : AllOrdinary (onFirst condition role labels) := by
  intro given member
  rcases mem_onFirst member with rfl | rfl
  · trivial
  · exact ordinary

theorem onLaterNamed_ordinary {role : Role} (ordinary : role.Ordinary) (labels : List Label) :
    AllOrdinary (onLaterNamed role labels) := by
  induction labels with
  | nil => simp [AllOrdinary, onLaterNamed]
  | cons label rest ih =>
    intro given member
    rw [onLaterNamed] at member
    split at member
    · rcases List.mem_cons.mp member with rfl | later
      · trivial
      · exact onNamed_ordinary (fun _ => ordinary) rest given later
    · rcases List.mem_cons.mp member with rfl | later
      · trivial
      · exact ih given later

theorem ofHandler_ordinary (afterAs : Bool) (labels : List Label) :
    AllOrdinary (ofHandler afterAs labels) := by
  induction labels generalizing afterAs with
  | nil => simp [AllOrdinary, ofHandler]
  | cons label rest ih =>
    intro given member
    rw [ofHandler] at member
    split at member
    · rcases List.mem_cons.mp member with rfl | later
      · trivial
      · exact ih _ given later
    · split at member
      · rcases List.mem_cons.mp member with rfl | later
        · trivial
        · exact ih _ given later
      · rcases List.mem_cons.mp member with rfl | later
        · trivial
        · exact ih _ given later

end Role

open Role (AllOrdinary)

namespace Plan

variable (text : Label → String)

/-- What the plan of a node can be: parts of its own are names at its line, or what a name for a type
binds; a definition begins with the decorators that its role holds, if any; and a role that holds
decorators is handed on to the definition below a node alone. -/
def Sound (role : Role) (label : Label) (children : List Cst) : Plan → Prop
  | .splice parts passes =>
    (∀ part ∈ parts, ∃ name, part = .binding name label.line ∨ part = .reference name label.line) ∧
      ∀ roles ∈ passes, AllOrdinary roles
  | .group parts passes =>
    (parts = [] ∨ parts = aliasBinding text children) ∧ ∀ roles ∈ passes, AllOrdinary roles
  | .function decorators roles | .classDef decorators roles =>
    (decorators = [] ∨ role = .definition decorators) ∧ AllOrdinary roles
  | .decorated roles => AllOrdinary roles

variable {text} {role : Role} {label : Label} {children : List Cst}

theorem Sound.splice {passes : List (List Role)} (ordinary : ∀ roles ∈ passes, AllOrdinary roles) :
    Sound text role label children (.splice [] passes) :=
  ⟨by simp, ordinary⟩

theorem Sound.group {passes : List (List Role)} (ordinary : ∀ roles ∈ passes, AllOrdinary roles) :
    Sound text role label children (.group [] passes) :=
  ⟨.inl rfl, ordinary⟩

theorem Sound.name {part : Outline}
    (named : ∃ name, part = .binding name label.line ∨ part = .reference name label.line) :
    Sound text role label children (.splice [part] []) :=
  ⟨by simpa using named, by simp⟩

theorem single {roles : List Role} (ordinary : AllOrdinary roles) :
    ∀ given ∈ [roles], AllOrdinary given := by
  simpa using ordinary

theorem ofFunction_ordinary (labels : List Label) : AllOrdinary (Role.ofFunction labels) := by
  refine Role.onNamed_ordinary (fun label => ?_) labels
  split
  · trivial
  · split <;> trivial

theorem ofDefinition_ordinary (labels : List Label) : AllOrdinary (Role.ofDefinition labels) := by
  refine Role.onNamed_ordinary (fun label => ?_) labels
  split <;> trivial

theorem withField_ordinary {given : Role} (ordinary : given.Ordinary) (field : String)
    (labels : List Label) : AllOrdinary (Role.withField field given labels) := by
  refine Role.onNamed_ordinary (fun label => ?_) labels
  split
  · exact ordinary
  · trivial

theorem ofRead_sound : (ofRead text label children).Sound text role label children := by
  unfold ofRead
  cases Construct.ofKind label.kind with
  | name => exact Sound.name ⟨_, .inr rfl⟩
  | nameless => exact Sound.splice (by simp)
  | function => exact ⟨.inl rfl, ofFunction_ordinary _⟩
  | classDef => exact ⟨.inl rfl, ofDefinition_ordinary _⟩
  -- With a definition in its field, the node is no group.
  | decorated =>
    dsimp only
    split
    · refine Role.onNamed_ordinary (fun label => ?_) _
      split <;> trivial
    · exact Sound.group (single (Role.onNamed_ordinary (fun _ => by trivial) _))
  | binds field => exact Sound.group (single (withField_ordinary (by trivial) field _))
  | skips field => exact Sound.group (single (withField_ordinary (by trivial) field _))
  | withItem =>
    refine Sound.group (single (Role.onNamed_ordinary (fun label => ?_) _))
    split
    · trivial
    · split <;> trivial
  | handler => exact Sound.group (single (Role.ofHandler_ordinary false _))
  | lambda =>
    refine Sound.group fun roles member => ?_
    simp only [List.mem_cons, List.not_mem_nil, or_false] at member
    rcases member with rfl | rfl
    · exact Role.onFirst_ordinary (by trivial) _ _
    · exact Role.onFirst_ordinary (by trivial) _ _
  | deletion => exact Sound.group (single (Role.onNamed_ordinary (fun _ => by trivial) _))
  | caseClause =>
    refine Sound.group (single (Role.onNamed_ordinary (fun label => ?_) _))
    split <;> trivial
  -- Only here a group has a part of its own.
  | typeAlias => exact ⟨.inr rfl, single (Role.onFirst_ordinary (by trivial) _ _)⟩
  | plain => exact Sound.group (single (Role.onNamed_ordinary (fun _ => by trivial) _))

theorem ofBind_sound : (ofBind text label children).Sound text role label children := by
  unfold ofBind
  cases Target.ofKind label.kind with
  | name => exact Sound.name ⟨_, .inl rfl⟩
  | aliased =>
    dsimp only
    split
    · exact Sound.splice (single (Role.onNamed_ordinary (fun _ => by trivial) _))
    · exact Sound.name ⟨_, .inl rfl⟩
  | unpacked => exact Sound.splice (single (Role.onNamed_ordinary (fun _ => by trivial) _))
  | nameless => exact Sound.splice (by simp)
  | read => exact ofRead_sound

theorem ofDelete_sound : (ofDelete text label children).Sound text role label children := by
  unfold ofDelete
  split
  · exact Sound.splice (by simp)
  · split
    · exact Sound.splice (single (Role.onNamed_ordinary (fun _ => by trivial) _))
    · exact ofRead_sound

theorem ofMatched_sound : (ofMatched label children).Sound text role label children := by
  unfold ofMatched
  cases Pattern.ofKind label.kind with
  | nameless => exact Sound.splice (by simp)
  | dotted =>
    dsimp only
    split
    · exact Sound.splice (single (Role.onFirst_ordinary (by trivial) _ _))
    · exact Sound.splice (by simp)
  | ofClass =>
    refine Sound.splice (single (Role.onNamed_ordinary (fun label => ?_) _))
    split <;> trivial
  | keyword => exact Sound.splice (single (Role.onLaterNamed_ordinary (by trivial) _))
  | compound => exact Sound.splice (single (Role.onNamed_ordinary (fun _ => by trivial) _))

theorem of_sound : (Plan.of text role label children).Sound text role label children := by
  unfold Plan.of
  cases role with
  | read => exact ofRead_sound
  | bind => exact ofBind_sound
  | skip => exact Sound.splice (by simp)
  | bindAlias => exact Sound.group (single (withField_ordinary (by trivial) _ _))
  | delete => exact ofDelete_sound
  | matched => exact ofMatched_sound
  | classOfPattern => exact Sound.splice (single (Role.onFirst_ordinary (by trivial) _ _))
  | parameters =>
    refine Sound.splice (single (Role.onNamed_ordinary (fun label => ?_) _))
    split <;> trivial
  | parameter =>
    refine Sound.splice fun roles member => ?_
    simp only [List.mem_cons, List.not_mem_nil, or_false] at member
    rcases member with rfl | rfl
    · exact Role.onFirst_ordinary (by trivial) _ _
    · exact Role.onFirst_ordinary (by trivial) _ _
  -- The decorators that the role holds are those with which the definition begins.
  | definition decorators =>
    dsimp only
    split
    · exact ⟨.inr rfl, ofFunction_ordinary _⟩
    · exact ⟨.inr rfl, ofDefinition_ordinary _⟩

end Plan

theorem Outline.mem_groupUnlessEmpty {kind : String} {parts : List Outline} {part : Outline} :
    part ∈ groupUnlessEmpty kind parts ↔ parts ≠ [] ∧ part = .group kind parts := by
  cases parts <;> simp [groupUnlessEmpty]

section Reading

variable {text : Label → String}

@[simp] theorem readAs_skip (tree : Cst) : readAs text .skip tree = [] := by
  cases tree with
  | node label children => simp [readAs, Plan.of]

/-- A definition under decorators is one part that begins with what the decorators gave. -/
theorem readAs_definition (decorators : List Outline) (label : Label) (children : List Cst) :
    readAs text (.definition decorators) (.node label children) =
      if Construct.ofKind label.kind = .function then
        [.function (definedName text children) label.line (definedParameters text children)
          (decorators ++ readEach text (Role.ofFunction (children.map Cst.label)) children)]
      else
        [.classDef (definedName text children) label.line
          (decorators ++ readEach text (Role.ofDefinition (children.map Cst.label)) children)] := by
  rw [readAs, Plan.of]
  by_cases isFunction : Construct.ofKind label.kind = .function
  · simp only [if_pos isFunction]
  · simp only [if_neg isFunction]

theorem mem_readEach {roles : List Role} {trees : List Cst} {part : Outline}
    (member : part ∈ readEach text roles trees) :
    ∃ role ∈ roles, ∃ tree ∈ trees, part ∈ readAs text role tree := by
  induction trees generalizing roles with
  | nil => cases roles <;> simp [readEach] at member
  | cons tree rest ih =>
    cases roles with
    | nil => simp [readEach] at member
    | cons role roles =>
      rw [readEach, List.mem_append] at member
      rcases member with first | later
      · exact ⟨role, List.mem_cons_self, tree, List.mem_cons_self, first⟩
      · obtain ⟨given, inRoles, child, inRest, found⟩ := ih later
        exact ⟨given, List.mem_cons_of_mem _ inRoles, child, List.mem_cons_of_mem _ inRest, found⟩

theorem mem_aliasBinding {children : List Cst} {part : Outline}
    (member : part ∈ aliasBinding text children) :
    ∃ left ∈ children, ∃ name, part = .binding name left.label.line := by
  unfold aliasBinding at member
  split at member
  · simp at member
  next left found =>
    split at member
    · simp at member
    next name _ _ =>
      exact ⟨left, List.mem_of_find?_eq_some found, name, by simpa using member⟩

/-- A property of a tree and a part that every construct hands on: names stand at a line of the tree,
and a group or a definition is made of parts that the children give. -/
structure Inherited (holds : Cst → Outline → Prop) : Prop where
  binding {tree : Cst} {line : Nat} (name : String) : line ∈ tree.lines → holds tree (.binding name line)
  reference {tree : Cst} {line : Nat} (name : String) :
    line ∈ tree.lines → holds tree (.reference name line)
  lift {tree child : Cst} {part : Outline} :
    child ∈ tree.children → holds child part → holds tree part
  group {tree : Cst} {parts : List Outline} (kind : String) :
    (∀ part ∈ parts, ∃ child ∈ tree.children, holds child part) → holds tree (.group kind parts)
  function {tree : Cst} {line : Nat} {parts : List Outline} (name : String) (params : List String) :
    line ∈ tree.lines → (∀ part ∈ parts, ∃ child ∈ tree.children, holds child part) →
      holds tree (.function name line params parts)
  classDef {tree : Cst} {line : Nat} {parts : List Outline} (name : String) :
    line ∈ tree.lines → (∀ part ∈ parts, ∃ child ∈ tree.children, holds child part) →
      holds tree (.classDef name line parts)

namespace Inherited

variable {holds : Cst → Outline → Prop}

/-- What the children of a node give in passes of ordinary roles. -/
theorem passes {children : List Cst}
    (below : ∀ child ∈ children, ∀ role : Role, role.Ordinary →
      ∀ part ∈ readAs text role child, holds child part)
    {passes : List (List Role)} (ordinary : ∀ roles ∈ passes, AllOrdinary roles) {part : Outline}
    (member : part ∈ passes.flatMap fun roles => readEach text roles children) :
    ∃ child ∈ children, holds child part := by
  obtain ⟨roles, inPasses, given⟩ := List.mem_flatMap.mp member
  obtain ⟨role, inRoles, child, inChildren, found⟩ := mem_readEach given
  exact ⟨child, inChildren, below child inChildren role (ordinary roles inPasses role inRoles) part found⟩

theorem pass {children : List Cst}
    (below : ∀ child ∈ children, ∀ role : Role, role.Ordinary →
      ∀ part ∈ readAs text role child, holds child part)
    {roles : List Role} (ordinary : AllOrdinary roles) {part : Outline}
    (member : part ∈ readEach text roles children) : ∃ child ∈ children, holds child part :=
  passes below (Plan.single ordinary) (by simpa using member)

/-- The definition below a node, when the decorators that it begins with come from the siblings of
the definition. -/
theorem definition (inherited : Inherited holds) {tree child : Cst} (isChild : child ∈ tree.children)
    (below : ∀ grandchild ∈ child.children, ∀ role : Role, role.Ordinary →
      ∀ part ∈ readAs text role grandchild, holds grandchild part)
    {decorators : List Outline}
    (decorated : ∀ part ∈ decorators, ∃ child ∈ tree.children, holds child part) :
    ∀ part ∈ readAs text (.definition decorators) child, holds tree part := by
  obtain ⟨label, children⟩ := child
  have line : label.line ∈ tree.lines :=
    Cst.lines_child_subset isChild (Cst.mem_lines_self (.node label children))
  -- The parts are the decorators, which are there already, and those that the grandchildren give.
  have body : ∀ roles, AllOrdinary roles → ∀ part ∈ decorators ++ readEach text roles children,
      ∃ child ∈ tree.children, holds child part := by
    intro roles ordinary part member
    rcases List.mem_append.mp member with before | inside
    · exact decorated part before
    · obtain ⟨grandchild, isGrandchild, found⟩ := pass below ordinary inside
      exact ⟨_, isChild, inherited.lift isGrandchild found⟩
  intro part member
  rw [readAs_definition] at member
  split at member
  · obtain rfl := List.mem_singleton.mp member
    exact inherited.function _ _ line (body _ (Plan.ofFunction_ordinary _))
  · obtain rfl := List.mem_singleton.mp member
    exact inherited.classDef _ line (body _ (Plan.ofDefinition_ordinary _))

/-- The parts that a node gives in an ordinary role, when its children and theirs hand the property
on. -/
theorem node (inherited : Inherited holds) (label : Label) (children : List Cst)
    (below : ∀ child ∈ children, ∀ role : Role, role.Ordinary →
      ∀ part ∈ readAs text role child, holds child part)
    (further : ∀ child ∈ children, ∀ grandchild ∈ child.children, ∀ role : Role, role.Ordinary →
      ∀ part ∈ readAs text role grandchild, holds grandchild part)
    (role : Role) (ordinary : role.Ordinary) :
    ∀ part ∈ readAs text role (.node label children), holds (.node label children) part := by
  intro part member
  have line : label.line ∈ (Cst.node label children).lines := Cst.mem_lines_self (.node label children)
  have sound : (Plan.of text role label children).Sound text role label children := Plan.of_sound
  -- An ordinary role holds no decorators, so a definition begins with none.
  have bare : ∀ decorators, decorators = [] ∨ role = .definition decorators → decorators = [] := by
    rintro decorators (rfl | rfl)
    · rfl
    · exact ordinary.elim
  rw [readAs] at member
  cases plan : Plan.of text role label children with
  | splice parts passed =>
    rw [plan] at sound member
    rcases List.mem_append.mp member with own | given
    · obtain ⟨name, rfl | rfl⟩ := sound.1 part own
      · exact inherited.binding name line
      · exact inherited.reference name line
    · obtain ⟨child, isChild, found⟩ := passes below sound.2 given
      exact inherited.lift isChild found
  | group parts passed =>
    rw [plan] at sound member
    obtain ⟨_, rfl⟩ := Outline.mem_groupUnlessEmpty.mp member
    refine inherited.group _ fun inner innerMember => ?_
    rcases List.mem_append.mp innerMember with own | given
    · rcases sound.1 with rfl | rfl
      · simp at own
      · -- What a name for a type binds has the line of the left side.
        obtain ⟨left, isChild, name, rfl⟩ := mem_aliasBinding own
        exact ⟨left, isChild, inherited.binding name (Cst.mem_lines_self left)⟩
    · exact passes below sound.2 given
  | function decorators roles =>
    rw [plan] at sound member
    obtain rfl := bare decorators sound.1
    obtain rfl := List.mem_singleton.mp member
    exact inherited.function _ _ line fun inner innerMember => pass below sound.2 innerMember
  | classDef decorators roles =>
    rw [plan] at sound member
    obtain rfl := bare decorators sound.1
    obtain rfl := List.mem_singleton.mp member
    exact inherited.classDef _ line fun inner innerMember => pass below sound.2 innerMember
  | decorated roles =>
    rw [plan] at sound member
    obtain ⟨given, inRoles, child, isChild, found⟩ := mem_readEach member
    rcases Role.mem_onFirst inRoles with rfl | rfl
    · simp at found
    · -- The decorators come from siblings of the definition, and it takes them in one level up.
      have decorators : ∀ part ∈ readEach text roles children,
          ∃ child ∈ (Cst.node label children).children, holds child part :=
        fun _ => pass below sound
      exact inherited.definition isChild (further child isChild) decorators part found

/-- An inherited property holds of all parts that a tree gives in an ordinary role. -/
theorem readAs (inherited : Inherited holds) (tree : Cst) (role : Role) (ordinary : role.Ordinary) :
    ∀ part ∈ readAs text role tree, holds tree part := by
  have both : (∀ role : Role, role.Ordinary → ∀ part ∈ ScopeCheck.readAs text role tree, holds tree part) ∧
      ∀ child ∈ tree.children, ∀ role : Role, role.Ordinary →
        ∀ part ∈ ScopeCheck.readAs text role child, holds child part := by
    induction tree using Cst.induction with
    | node label children ih =>
      exact ⟨inherited.node label children (fun child member => (ih child member).1)
        (fun child member => (ih child member).2), fun child member => (ih child member).1⟩
  exact both.1 role ordinary

end Inherited

end Reading

end ScopeCheck
