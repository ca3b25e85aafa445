import ScopeCheck.Proofs.Outline.Reading
import ScopeCheck.Proofs.SourceFile.Nesting

/-!
# Each name is classified on its own

The outline of a file is read off its tree in one recursion, in which constructs hand roles to their
children. All the same each name can be told from its node and the way that leads to it.
-/

namespace ScopeCheck

open Cst (Label Path Step)
open Outline (Accounted)
open Role (AllOrdinary)

variable {text : Label → String}

/-! ### Names that are bound -/

theorem forKind_store (kind : String) :
    NameContext.store.forKind kind =
      if Target.ofKind kind = .read ∨ Target.ofKind kind = .nameless then .load else .store := by
  fun_cases Target.ofKind kind
  -- The last kind is every kind that the table does not list.
  case case13 => simp_all [NameContext.forKind, storeKinds]
  all_goals rfl

theorem Target.ofKind_eq_name_iff (kind : String) : ofKind kind = .name ↔ kind = "identifier" := by
  fun_cases ofKind kind <;> simp_all

theorem Target.ofKind_eq_nameless_iff (kind : String) :
    ofKind kind = .nameless ↔ kind = "comment" := by
  fun_cases ofKind kind <;> simp_all

theorem Standing.standsFor_store {standing : Standing} {node : Cst}
    (stores : standing.context.forKind node.kind = .store) :
    standing.standsFor? text node = match Target.ofKind node.kind with
      | .name => some (.name ⟨.binding, text node.label, node.label.line⟩ standing.owner)
      | .aliased =>
        if node.children.any Cst.named then none
        else some (.name ⟨.binding, text node.label, node.label.line⟩ standing.owner)
      | _ => none := by
  rw [standsFor?, stores]
  generalize node.kind = kind
  fun_cases Target.ofKind kind
  case case13 => split <;> first | rfl | contradiction
  all_goals rfl

theorem fits_store {label : Label} {children : List Cst} {standing : Standing}
    (stores : standing.context.forKind label.kind = .store) :
    ∀ step ∈ (Cst.node label children).steps,
      standing.context.below step =
        (if label.kind = "identifier" then .hidden else step.ifNamed .store) ∧
      standing.ownerBelow step = standing.owner := by
  intro step member
  have parent : step.parent = label := (Cst.of_mem_steps member).1
  constructor
  · rw [NameContext.below, parent, stores]
  · exact Standing.ownerBelow_of_not_load (by rw [parent, stores]; decide)

theorem aliased_accounted {label : Label} {children : List Cst}
    (unnamed : children.any Cst.named = false) {standing : Standing}
    (stores : standing.context.forKind label.kind = .store) :
    Accounted standing.owner
      ((Plan.splice [.binding (text label) label.line] []).parts text label children)
      (.name ⟨.binding, text label, label.line⟩ standing.owner ::
        standing.entriesBelow text (.node label children)) := by
  -- Tokens stand in no context, and all children are tokens.
  have hidden : standing.entriesBelow text (.node label children) = [] := by
    refine Standing.entriesBelow_hidden fun step member => ?_
    have token : step.named = false := by
      simp only [List.any_eq_false, Bool.not_eq_true] at unnamed
      exact unnamed step.child (Cst.of_mem_steps member).2.2
    rw [(fits_store stores step member).1, Step.ifNamed, token]
    exact ite_self _
  rw [hidden]
  exact Accounted.binding (text label) label.line

theorem store_accounted {label : Label} {children : List Cst}
    (each : ∀ child ∈ children, Accurate text child) {standing : Standing}
    (stores : standing.context.forKind label.kind = .store)
    (target : Target.ofKind label.kind ∉ [Target.read, Target.nameless]) :
    Accounted standing.owner ((Plan.ofBind text label children).parts text label children)
      (standing.entries text (.node label children)) := by
  have own : standing.standsFor? text (.node label children) =
      match Target.ofKind label.kind with
      | .name => some (.name ⟨.binding, text label, label.line⟩ standing.owner)
      | .aliased =>
        if children.any Cst.named then none
        else some (.name ⟨.binding, text label, label.line⟩ standing.owner)
      | _ => none := Standing.standsFor_store stores
  have fits : ∀ step ∈ (Cst.node label children).steps, _ := fits_store stores
  -- Any target but a name hands its context to its named children.
  have passed : label.kind ≠ "identifier" → Accounted standing.owner
      ((Plan.splice [] [Role.onNamed (fun _ => .bind) (children.map Cst.label)]).parts text label
        children) (standing.entriesBelow text (.node label children)) := by
    intro other
    rw [splice_single]
    refine uniform_accounted each (by trivial) fun step member => ?_
    have fit := fits step member
    rw [if_neg other] at fit
    exact fit
  rw [Standing.entries_eq, own, Plan.ofBind]
  cases kind : Target.ofKind label.kind with
  | read | nameless => simp [kind] at target
  | name =>
    have isName := (Target.ofKind_eq_name_iff label.kind).mp kind
    have hidden : standing.entriesBelow text (.node label children) = [] :=
      Standing.entriesBelow_hidden fun step member => by rw [(fits step member).1, if_pos isName]
    rw [hidden]
    exact Accounted.binding (text label) label.line
  | unpacked =>
    refine passed fun isName => ?_
    rw [(Target.ofKind_eq_name_iff label.kind).mpr isName] at kind
    cases kind
  | aliased =>
    have anyNamed : (children.map Cst.label).any (·.named) = children.any Cst.named := by
      rw [List.any_map]
      rfl
    simp only [anyNamed]
    -- A target after `as` is a name by itself, or holds a target.
    cases named : children.any Cst.named with
    | true =>
      refine passed fun isName => ?_
      rw [(Target.ofKind_eq_name_iff label.kind).mpr isName] at kind
      cases kind
    | false => exact aliased_accounted named stores

theorem bind_accounted {label : Label} {children : List Cst}
    (each : ∀ child ∈ children, Accurate text child)
    (further : ∀ child ∈ children, ∀ grandchild ∈ child.children, Accurate text grandchild)
    {standing : Standing} (stands : standing.context = .store) :
    Accounted standing.owner ((Plan.ofBind text label children).parts text label children)
      (standing.entries text (.node label children)) := by
  -- An attribute or a subscript is read even where it is assigned to.
  by_cases reads : Target.ofKind label.kind = .read ∨ Target.ofKind label.kind = .nameless
  · have loads : standing.context.forKind label.kind = .load := by
      rw [stands, forKind_store, if_pos reads]
    have sameAsRead : Plan.ofBind text label children = Plan.ofRead text label children := by
      rcases reads with other | comment
      · rw [Plan.ofBind, other]
      · rw [Plan.ofBind, Plan.ofRead, (Target.ofKind_eq_nameless_iff label.kind).mp comment]
        rfl
    rw [sameAsRead]
    exact read_accounted each further loads
  · have stores : standing.context.forKind label.kind = .store := by
      rw [stands, forKind_store, if_neg reads]
    exact store_accounted each stores (by simpa using reads)

/-! ### Names that are deleted, and patterns -/

/-- Only in the contexts of names a node stands for something. -/
theorem Standing.entries_plain {standing : Standing} {node : Cst}
    (plain : standing.context.forKind node.kind ∈ [NameContext.root, .withAlias, .deleted, .matched,
      .className, .parameters, .parameter]) :
    standing.entries text node = standing.entriesBelow text node := by
  have own : standing.standsFor? text node = none := by
    rw [standsFor?]
    split <;> simp_all
  rw [entries_eq, own]
  rfl

theorem owner_plain {label : Label} {children : List Cst} {standing : Standing}
    {context : NameContext} (plain : standing.context.forKind label.kind = context)
    (other : context ≠ .load) :
    ∀ step ∈ (Cst.node label children).steps, standing.ownerBelow step = standing.owner := by
  intro step member
  have parent : step.parent = label := (Cst.of_mem_steps member).1
  exact Standing.ownerBelow_of_not_load (by rw [parent, plain]; exact other)

def Pattern.below (step : Step) : Pattern → NameContext
  | .nameless => .hidden
  | .dotted =>
    if step.isFirst Label.named && 1 < step.siblings.countP Cst.named then .load else .hidden
  | .ofClass => step.ifNamed <| if step.child.kind == "dotted_name" then .className else .matched
  | .keyword => step.ifNamed <| if step.before.any Cst.named then .matched else .hidden
  | .compound => step.ifNamed .matched

theorem Pattern.belowMatched_eq (step : Step) :
    step.belowMatched = (ofKind step.parent.kind).below step := by
  unfold Step.belowMatched
  generalize step.parent.kind = kind
  fun_cases ofKind kind
  case case6 => split <;> first | rfl | contradiction
  all_goals rfl

theorem deletedKinds_contains (kind : String) :
    deletedKinds.contains kind = (kind == "identifier" || deletionContainers.contains kind) :=
  List.contains_cons

theorem delete_accounted {label : Label} {children : List Cst}
    (each : ∀ child ∈ children, Accurate text child)
    (further : ∀ child ∈ children, ∀ grandchild ∈ child.children, Accurate text grandchild)
    {standing : Standing} (stands : standing.context = .deleted) :
    Accounted standing.owner ((Plan.ofDelete text label children).parts text label children)
      (standing.entries text (.node label children)) := by
  rw [Plan.ofDelete]
  -- A name, or a container of targets, is deleted, and everything else is read.
  by_cases deletes : deletedKinds.contains label.kind = true
  · have deleted : standing.context.forKind label.kind = .deleted := by
      rw [stands, NameContext.forKind, if_pos deletes]
    have context : ∀ step ∈ (Cst.node label children).steps, standing.context.below step =
        if label.kind = "identifier" then .hidden else step.ifNamed .deleted := by
      intro step member
      rw [NameContext.below, (Cst.of_mem_steps member).1, Cst.label, deleted]
    rw [Standing.entries_plain (by simp [Cst.kind, Cst.label, deleted])]
    by_cases isName : (label.kind == "identifier") = true
    · have hidden : standing.entriesBelow text (.node label children) = [] :=
        Standing.entriesBelow_hidden fun step member => by
          rw [context step member, if_pos (beq_iff_eq.mp isName)]
      rw [hidden, if_pos isName]
      exact Accounted.nil
    · -- A container hands the deletion on to its parts.
      have container : deletionContainers.contains label.kind = true := by
        rw [deletedKinds_contains] at deletes
        exact (Bool.or_eq_true_iff.mp deletes).resolve_left isName
      rw [if_neg isName, if_pos container, splice_single]
      refine uniform_accounted each (by trivial) fun step member => ⟨?_, ?_⟩
      · rw [context step member, if_neg (fun same => isName (beq_iff_eq.mpr same))]
        rfl
      · exact owner_plain deleted (by decide) step member
  · have loads : standing.context.forKind label.kind = .load := by
      rw [stands, NameContext.forKind, if_neg deletes]
    rw [deletedKinds_contains] at deletes
    simp only [Bool.or_eq_true, not_or] at deletes
    rw [if_neg deletes.1, if_neg deletes.2]
    exact read_accounted each further loads

theorem matched_accounted {label : Label} {children : List Cst}
    (each : ∀ child ∈ children, Accurate text child) {standing : Standing}
    (stands : standing.context = .matched) :
    Accounted standing.owner ((Plan.ofMatched label children).parts text label children)
      (standing.entries text (.node label children)) := by
  have matched : standing.context.forKind label.kind = .matched := by
    rw [stands]
    rfl
  have context : ∀ step ∈ (Cst.node label children).steps,
      standing.context.below step = (Pattern.ofKind label.kind).below step := by
    intro step member
    have parent : step.parent = label := (Cst.of_mem_steps member).1
    rw [NameContext.below, parent, matched, ← parent]
    exact Pattern.belowMatched_eq step
  have owned : ∀ step ∈ (Cst.node label children).steps, _ := owner_plain matched (by decide)
  rw [Standing.entries_plain (by simp [Cst.kind, Cst.label, matched]), Plan.ofMatched]
  cases pattern : Pattern.ofKind label.kind with
  | nameless =>
    rw [Standing.entriesBelow_hidden fun step member => by rw [context step member, pattern]; rfl]
    exact Accounted.nil
  | dotted =>
    -- The labels of the children tell how many of them are named.
    have counted : (children.map Cst.label).countP (·.named) = children.countP Cst.named := by
      rw [List.countP_map]
      rfl
    simp only [counted]
    -- Of a name with dots the first part is read; a name alone is a capture.
    by_cases several : 1 < children.countP Cst.named
    · rw [if_pos several, splice_single]
      refine pass_accounted each (Role.onFirst_ordinary (by trivial) _ _)
        (Role.onFirst_eq label [] children _ _ rfl) fun step member => ⟨?_, owned step member⟩
      have siblings : step.siblings = children := (Cst.of_mem_steps member).2.1
      rw [context step member, pattern, Pattern.below, siblings, apply_ite Role.context]
      simp only [several, decide_true, Bool.and_true]
      rfl
    · rw [if_neg several, Standing.entriesBelow_hidden fun step member => ?_]
      · exact Accounted.nil
      · have siblings : step.siblings = children := (Cst.of_mem_steps member).2.1
        rw [context step member, pattern, Pattern.below, siblings]
        simp [several]
  | ofClass =>
    rw [splice_single]
    refine named_accounted each (Role.onNamed_ordinary (fun label => ?_) _)
      fun step member => ⟨?_, owned step member⟩
    · split <;> trivial
    · rw [context step member, pattern, apply_ite Role.context]
      rfl
  | keyword =>
    rw [splice_single]
    refine pass_accounted each (Role.onLaterNamed_ordinary (by trivial) _)
      (Role.onLaterNamed_eq label [] children _ rfl) fun step member => ⟨?_, owned step member⟩
    rw [context step member, pattern, Role.context_ifNamed, apply_ite Role.context]
    rfl
  | compound =>
    rw [splice_single]
    refine uniform_accounted each (by trivial) fun step member => ⟨?_, owned step member⟩
    rw [context step member, pattern]
    rfl

/-! ### All roles -/

/-- In every role, a node gives the parts that its nodes stand for if its children and theirs do. -/
theorem node_accurate {label : Label} {children : List Cst}
    (each : ∀ child ∈ children, Accurate text child)
    (further : ∀ child ∈ children, ∀ grandchild ∈ child.children, Accurate text grandchild) :
    Accurate text (.node label children) := by
  intro role ordinary owner path
  -- The standing gets a name of its own, so that its parts are not unfolded in what follows.
  obtain ⟨standing, isStanding⟩ : ∃ standing : Standing, standing = ⟨role.context, owner, path⟩ :=
    ⟨_, rfl⟩
  have owned : standing.owner = owner := by rw [isStanding]
  have stands : standing.context = role.context := by rw [isStanding]
  rw [← isStanding, ← owned, readAs_node]
  -- Where a role does not change the context, the children stand in the context of the role.
  have below : ∀ step, standing.context.below step = role.context.below step := by
    intro step
    rw [stands]
  cases role with
  | read => exact read_accounted each further (by rw [stands]; rfl)
  | bind => exact bind_accounted each further stands
  | delete => exact delete_accounted each further stands
  | matched => exact matched_accounted each stands
  | definition decorators => exact ordinary.elim
  | skip =>
    -- Nothing is read in a node that is skipped, and nothing below it stands for anything.
    rw [isStanding]
    exact (Standing.entries_hidden text owner path (.node label children)).symm ▸ Accounted.nil
  | bindAlias =>
    -- An alias is bound where it stands in its field.
    have plain : standing.context.forKind label.kind = .withAlias := by rw [stands]; rfl
    rw [Standing.entries_plain (by simp [Cst.kind, Cst.label, plain])]
    exact group_accounted (withField_accounted each (by trivial) fun step member =>
      ⟨below step, owner_plain plain (by decide) step member⟩)
  | classOfPattern =>
    -- Only the first name of a class in a pattern is read.
    have plain : standing.context.forKind label.kind = .className := by rw [stands]; rfl
    rw [Standing.entries_plain (by simp [Cst.kind, Cst.label, plain])]
    refine (splice_single label children _).symm ▸ pass_accounted each
      (Role.onFirst_ordinary (by trivial) _ _) (Role.onFirst_eq label [] children _ _ rfl)
      fun step member => ⟨?_, owner_plain plain (by decide) step member⟩
    rw [below step, apply_ite Role.context]
    rfl
  | parameters =>
    have plain : standing.context.forKind label.kind = .parameters := by rw [stands]; rfl
    rw [Standing.entries_plain (by simp [Cst.kind, Cst.label, plain])]
    refine (splice_single label children _).symm ▸ named_accounted each
      (Role.onNamed_ordinary (fun label => ?_) _)
      fun step member => ⟨?_, owner_plain plain (by decide) step member⟩
    · split <;> trivial
    · rw [below step, apply_ite Role.context]
      rfl
  | parameter =>
    have plain : standing.context.forKind label.kind = .parameter := by rw [stands]; rfl
    rw [Standing.entries_plain (by simp [Cst.kind, Cst.label, plain])]
    refine (splice_pair label children _ _).symm ▸ fields_accounted each (by decide) (by trivial)
      (by trivial) fun step member => ⟨?_, owner_plain plain (by decide) step member⟩
    rw [below step]
    cases type : step.isFirstIn "type" with
    | true => simp [NameContext.below, NameContext.forKind, Role.context, type]
    | false => simp [NameContext.below, NameContext.forKind, Role.context, type]

/-- Every tree gives, in every role, the parts that its nodes stand for. -/
theorem accurate (tree : Cst) : Accurate text tree := by
  -- A decorated definition is read two levels up, so the children are carried along.
  have both : Accurate text tree ∧ ∀ child ∈ tree.children, Accurate text child := by
    induction tree using Cst.induction with
    | node label children ih =>
      exact ⟨node_accurate (fun child member => (ih child member).1)
        (fun child member => (ih child member).2), fun child member => (ih child member).1⟩
  exact both.1

theorem root_accounted (text : Label → String) (tree : Cst) :
    Accounted none (readEach text (Role.onNamed (fun _ => .read) (tree.children.map Cst.label))
      tree.children)
      (tree.nodes.filterMap fun found => (Standing.along found.1).standsFor? text found.2) := by
  obtain ⟨label, children⟩ := tree
  obtain ⟨standing, isStanding⟩ : ∃ standing : Standing, standing = ⟨.root, none, []⟩ := ⟨_, rfl⟩
  -- The children of the root are read, and no definition lies above them.
  have root : standing.context.forKind label.kind = .root := by rw [isStanding]; rfl
  have unowned : standing.owner = none := by rw [isStanding]
  have entries : ((Cst.node label children).nodes.filterMap fun found =>
      (Standing.along found.1).standsFor? text found.2) =
        standing.entries text (.node label children) := by
    rw [isStanding]
    rfl
  rw [entries, Standing.entries_plain (by simp [Cst.kind, Cst.label, root]), ← unowned]
  refine uniform_accounted (fun child _ => accurate child) (by trivial) fun step member =>
    ⟨?_, owner_plain root (by decide) step member⟩
  rw [NameContext.below, isStanding]
  rfl

/-! ### The nodes of definitions -/

def Entry.path? : Entry → Option Path
  | .name .. => none
  | .definition _ _ path => some path

theorem Standing.foldl_below_path (standing : Standing) (way : Cst.Way) :
    (way.foldl below standing).path = standing.path ++ way.path := by
  induction way generalizing standing with
  | nil => exact (List.append_nil _).symm
  | cons step way ih =>
    rw [List.foldl_cons, ih]
    exact List.append_assoc _ _ _

/-- The path of a definition is that of its node. -/
theorem Standing.path_of_standsFor {standing : Standing} {node : Cst} {entry : Entry} {path : Path}
    (stands : standing.standsFor? text node = some entry) (definition : entry.path? = some path) :
    path = standing.path := by
  unfold standsFor? at stands
  split at stands <;> grind [Entry.path?]

theorem Outline.entriesOf_path (owner : Option Path) (parts : List Outline) (sited : List Sited) :
    (entriesOf owner parts sited).filterMap Entry.path? = sited.map Prod.snd := by
  -- Each definition contributes its own path, and names contribute none.
  have each : ∀ one : Sited, (entriesAt one).filterMap Entry.path? = [one.2] := by
    intro one
    simp [entriesAt, Entry.path?]
  rw [entriesOf, List.filterMap_append, List.filterMap_flatMap]
  simp [each, Entry.path?, ← List.map_eq_flatMap]

theorem definition_paths_nodup (text : Label → String) (tree : Cst) :
    ((tree.nodes.filterMap fun found => (Standing.along found.1).standsFor? text found.2).filterMap
      Entry.path?).Nodup := by
  -- A definition that a node stands for has the path of the node.
  have own : ∀ found : Cst.Way × Cst, ∀ entry, (Standing.along found.1).standsFor? text found.2 =
      some entry → ∀ path, entry.path? = some path → path = found.1.path := by
    intro found entry stands path definition
    rw [Standing.path_of_standsFor stands definition]
    exact Standing.foldl_below_path _ found.1
  refine List.pairwise_filterMap.mpr (List.pairwise_filterMap.mpr ?_)
  refine (List.pairwise_map.mp tree.paths_nodup).imp fun {first later} different => ?_
  intro entry stands entryLater standsLater path definition pathLater definitionLater same
  refine different ?_
  rw [← own first entry stands path definition, same]
  exact own later entryLater standsLater pathLater definitionLater

/-- The names of an outline are those that the nodes of the tree stand for, each node by its own way
from the root: none is lost, none is made up, and none is counted twice. -/
theorem outline_names_classified (file : SourceFile) (shallow : file.tooDeep? = none) :
    ∃ outline sited, file.outline = .ok outline ∧
      sited.map Prod.fst = outline.definitions ∧ (sited.map Prod.snd).Nodup ∧
        (outline.entries sited).Perm (file.tree.nodes.filterMap fun found =>
          (Standing.along found.1).standsFor? file.textOf found.2) := by
  obtain ⟨sited, sites, entries⟩ := root_accounted file.textOf file.tree
  refine ⟨.module _, sited, ?_, sites, ?_, entries⟩
  · rw [SourceFile.outline, shallow]
  · -- The paths of the definitions are read off the entries, which are those of the tree in some
    -- order.
    rw [← Outline.entriesOf_path none]
    exact (entries.filterMap Entry.path?).nodup_iff.mpr (definition_paths_nodup _ file.tree)

def letterAt (byte row : Nat) (field : Option String) : Cst :=
  .node { kind := "identifier", field, start := ⟨byte, row, 0⟩, stop := byte + 1 } []

/-- A decorated function with a default, in which two names are bound, and a name that is bound
outside. -/
def decoratedFile : SourceFile where
  name := "m.py"
  text := "@d\ndef f(x=y):\n    p, q = x\nz = f\n"
  tree := .node { kind := "module" }
    [.node { kind := "decorated_definition" }
      [.node { kind := "decorator" } [letterAt 1 0 none],
        .node { kind := "function_definition", field := some "definition", start := ⟨3, 1, 0⟩ }
          [letterAt 7 1 (some "name"),
            .node { kind := "parameters", field := some "parameters" }
              [.node { kind := "default_parameter" }
                [letterAt 9 1 (some "name"), letterAt 11 1 (some "value")]],
            .node { kind := "block", field := some "body" }
              [.node { kind := "assignment" }
                [.node { kind := "pattern_list", field := some "left" }
                  [letterAt 19 2 none, letterAt 22 2 none], letterAt 26 2 (some "right")]]]],
      .node { kind := "assignment" } [letterAt 28 3 (some "left"), letterAt 32 3 (some "right")]]

theorem decoratedFile_shallow : decoratedFile.tooDeep? = none :=
  (SourceFile.tooDeep?_eq_none_iff _).mpr (by decide)

theorem decoratedFile_names_classified :
    decoratedFile.tooDeep? = none ∧ (∃ outline sited, decoratedFile.outline = .ok outline ∧
      sited.map Prod.fst = outline.definitions ∧ (sited.map Prod.snd).Nodup ∧
        (outline.entries sited).Perm (decoratedFile.tree.nodes.filterMap fun found =>
          (Standing.along found.1).standsFor? decoratedFile.textOf found.2)) ∧
    (decoratedFile.tree.nodes.filterMap fun found =>
      (Standing.along found.1).standsFor? decoratedFile.textOf found.2) =
      [.name ⟨.reference, "d", 1⟩ (some [0, 1]), .definition .function 2 [0, 1],
        .name ⟨.reference, "y", 2⟩ (some [0, 1]), .name ⟨.binding, "p", 3⟩ (some [0, 1]),
        .name ⟨.binding, "q", 3⟩ (some [0, 1]), .name ⟨.reference, "x", 3⟩ (some [0, 1]),
        .name ⟨.binding, "z", 4⟩ none, .name ⟨.reference, "f", 4⟩ none] :=
  ⟨decoratedFile_shallow, outline_names_classified _ decoratedFile_shallow, by decide +kernel⟩

end ScopeCheck
