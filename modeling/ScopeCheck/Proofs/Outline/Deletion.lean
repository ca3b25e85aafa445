import ScopeCheck.Proofs.Outline.Construct
import ScopeCheck.Proofs.SourceFile.Validation

/-!
# What a deletion reads

Validation and reading take the targets of a deletion apart, each in a recursion of its own, and meet the
same targets. In a file that passes validation only the objects and indices of attributes and items are
read where they are deleted; a bare name gives nothing.
-/

namespace ScopeCheck

open Cst (Label)

namespace Cst

mutual

/-- The parts of a deleted node that are read: a bare name is not, and containers are taken apart. -/
def handedOn : Cst → List Cst
  | .node label children =>
    if label.kind == "identifier" then []
    else if deletionContainers.contains label.kind then handedOnNamed children
    else [.node label children]

def handedOnNamed : List Cst → List Cst
  | [] => []
  | tree :: rest => if tree.named then handedOn tree ++ handedOnNamed rest else handedOnNamed rest

end

/-- What is read of an attribute or of an item: its object, and the indices. -/
def readParts (target : Cst) : List Cst :=
  match target.kind with
  | "attribute" =>
    target.children.filter fun child => child.named && child.label.field != some "attribute"
  | "subscript" => target.children.filter named
  | _ => []

theorem handedOnNamed_eq (trees : List Cst) :
    handedOnNamed trees = (trees.filter named).flatMap handedOn := by
  induction trees with
  | nil => rfl
  | cons tree rest ih =>
    rw [handedOnNamed, ih]
    cases isNamed : tree.named with
    | true => rw [if_pos rfl, List.filter_cons_of_pos isNamed, List.flatMap_cons]
    | false => rw [if_neg Bool.false_ne_true, List.filter_cons_of_neg (by simp [isNamed])]

mutual

/-- The parts that are read are the targets without the bare names. -/
theorem handedOn_eq (tree : Cst) :
    tree.handedOn = tree.targetParts.filter fun target => target.kind != "identifier" := by
  obtain ⟨label, children⟩ := tree
  rw [handedOn, targetParts]
  by_cases isName : label.kind = "identifier"
  · -- A bare name is a target by itself, which the filter leaves out.
    have single : ¬ (Cst.node label children).holdsTargets := by
      simp [holdsTargets, Cst.kind, Cst.label, isName]
    rw [if_pos (beq_iff_eq.mpr isName), if_neg single]
    simp [Cst.kind, Cst.label, isName]
  · rw [if_neg (mt beq_iff_eq.mp isName)]
    by_cases holds : (Cst.node label children).holdsTargets
    · -- The containers of both recursions are the same, so the parts decide.
      have container : deletionContainers.contains label.kind = true :=
        List.contains_iff_mem.mpr holds
      rw [if_pos container, if_pos holds]
      exact handedOnNamed_eq_filter children
    · have plain : ¬ deletionContainers.contains label.kind = true := fun container =>
        holds (List.contains_iff_mem.mp container)
      rw [if_neg plain, if_neg holds]
      simp [Cst.kind, Cst.label, isName]

theorem handedOnNamed_eq_filter (trees : List Cst) :
    handedOnNamed trees =
      (targetPartsNamed trees).filter fun target => target.kind != "identifier" := by
  cases trees with
  | nil => rfl
  | cons tree rest =>
    rw [handedOnNamed, targetPartsNamed]
    split
    · rw [List.filter_append, handedOn_eq tree, handedOnNamed_eq_filter rest]
    · exact handedOnNamed_eq_filter rest

end

end Cst

section Reading

variable {text : Label → String}

/-- A deleted node gives what the parts give that it hands on to be read. -/
theorem readAs_delete (tree : Cst) :
    readAs text .delete tree = tree.handedOn.flatMap (readAs text .read) := by
  induction tree using Cst.induction with
  | node label children ih =>
    have plan : Plan.of text .delete label children = Plan.ofDelete text label children := rfl
    rw [readAs_node, plan, Plan.ofDelete, Cst.handedOn]
    split
    · rfl
    · split
      · have each : (children.filter Cst.named).flatMap (readAs text .delete) =
            (children.filter Cst.named).flatMap fun child =>
              child.handedOn.flatMap (readAs text .read) :=
          List.flatMap_congr fun child member => ih child (List.mem_of_mem_filter member)
        rw [splice_single, readEach_onNamed, each, Cst.handedOnNamed_eq, List.flatMap_assoc]
      · rw [List.flatMap_singleton, readAs_node]
        rfl

/-- A deletion that is read gives what its targets hand on. -/
theorem readAs_deletion {statement : Cst} (isDelete : statement.kind = "delete_statement") :
    readAs text .read statement = Outline.groupUnlessEmpty "delete_statement"
      ((Cst.handedOnNamed statement.children).flatMap (readAs text .read)) := by
  obtain ⟨label, children⟩ := statement
  have kind : label.kind = "delete_statement" := isDelete
  have construct : Construct.ofKind label.kind = .deletion := by
    rw [kind]
    rfl
  have plan : Plan.of text .read label children =
      .group [] [Role.onNamed (fun _ => .delete) (children.map Cst.label)] := by
    rw [Plan.of, Plan.ofRead, construct]
  have each : (children.filter Cst.named).flatMap (readAs text .delete) =
      (children.filter Cst.named).flatMap fun child =>
        child.handedOn.flatMap (readAs text .read) :=
    List.flatMap_congr fun child _ => readAs_delete child
  rw [readAs_node, plan, group_single, readEach_onNamed, each, ← List.flatMap_assoc,
    ← Cst.handedOnNamed_eq, kind]
  rfl

/-- Of a target that can be deleted and is no bare name, its object and its indices are read. -/
theorem readAs_target {target : Cst} (kind : target.kind ∈ ["attribute", "subscript", "comment"]) :
    readAs text .read target =
      Outline.groupUnlessEmpty target.kind (target.readParts.flatMap (readAs text .read)) := by
  simp only [List.mem_cons, List.not_mem_nil, or_false] at kind
  rcases kind with isAttribute | isSubscript | isComment
  · have skips : Construct.ofKind target.kind = .skips "attribute" := by
      rw [isAttribute]
      rfl
    rw [readAs_skips skips, Cst.readParts, isAttribute]
    rfl
  · have plain : Construct.ofKind target.kind = .plain := by
      rw [isSubscript]
      rfl
    rw [readAs_plain plain, Cst.readParts, isSubscript]
    rfl
  · rw [readAs_comment isComment, Cst.readParts, isComment]
    rfl

end Reading

/-! ### Bare names -/

/-- Below a deletion, and below the containers of its targets, nothing is bound or read. -/
theorem Standing.deleted_along {inner : Cst.Way}
    (parents : ∀ step ∈ inner, step.parent.kind ∈ "delete_statement" :: deletionContainers)
    {standing : Standing}
    (deleted : standing.context = .deleted ∨ standing.context = .hidden) :
    (inner.foldl below standing).context = .deleted ∨
      (inner.foldl below standing).context = .hidden := by
  induction inner generalizing standing with
  | nil => exact deleted
  | cons step inner ih =>
    obtain ⟨parent, others⟩ := List.forall_mem_cons.mp parents
    refine ih others ?_
    change standing.context.below step = .deleted ∨ standing.context.below step = .hidden
    rcases deleted with isDeleted | isHidden
    · -- Neither a deletion nor a container of targets changes the context of what is deleted.
      have named : standing.context.below step = step.ifNamed .deleted := by
        simp only [deletionContainers, List.mem_cons, List.not_mem_nil, or_false] at parent
        rw [isDeleted, NameContext.below, NameContext.forKind]
        rcases parent with kind | kind | kind | kind | kind <;>
          simp [kind, deletedKinds, Cst.Step.belowLoad]
      rw [named, Cst.Step.ifNamed]
      cases step.named with
      | true => exact .inl rfl
      | false => exact .inr rfl
    · rw [isHidden]
      exact .inr rfl

/-- A bare name that is deleted stands for nothing. -/
theorem Standing.standsFor_deleted {text : Label → String} {inner : Cst.Way}
    (parents : ∀ step ∈ inner, step.parent.kind ∈ "delete_statement" :: deletionContainers)
    {statement name : Cst} (isDelete : statement.kind = "delete_statement")
    (member : (inner, name) ∈ statement.nodes) (isName : name.kind = "identifier")
    {standing : Standing} (reads : standing.context.forKind statement.kind = .load) :
    (inner.foldl below standing).standsFor? text name = none := by
  cases inner with
  | nil =>
    cases Cst.mem_nodes_nil_iff.mp member
    rw [isDelete] at isName
    exact absurd isName (by decide)
  | cons step inner =>
    obtain ⟨isStep, _⟩ := Cst.mem_nodes_cons_iff.mp member
    obtain ⟨_, others⟩ := List.forall_mem_cons.mp parents
    have parent : step.parent.kind = statement.kind := Cst.parent_kind isStep
    rw [← parent] at reads isDelete
    have construct : Construct.ofKind step.parent.kind = .deletion := by
      rw [isDelete]
      rfl
    -- From the deletion on, its targets are deleted and its tokens hidden.
    have first : (standing.below step).context = _ := NameContext.below_load reads
    rw [construct, Construct.below, Cst.Step.ifNamed] at first
    have start : (standing.below step).context = .deleted ∨
        (standing.below step).context = .hidden := by
      rw [first]
      cases step.named with
      | true => exact .inl rfl
      | false => exact .inr rfl
    rw [List.foldl_cons, standsFor?, isName]
    rcases deleted_along others start with context | context
    · rw [context]
      rfl
    · rw [context]
      rfl

/-! ### Validation and reading -/

/-- Reading takes up the targets that validation looks at, without the bare names. In a file with
nothing to refuse, a deletion reads attributes and items alone, of each its object and its indices, once
and from left to right; where the deletion is read, a bare name stands for nothing, however deep it lies
in containers. What is refused in a file is never a deletion of which all targets can be deleted. -/
theorem deletions_agree (file : SourceFile) :
    (∀ statement : Cst, Cst.handedOnNamed statement.children =
      statement.deletionTargets.filter fun target => target.kind != "identifier") ∧
    (file.refused? = none → ∀ way statement, (way, statement) ∈ file.tree.nodes →
      statement.kind = "delete_statement" →
      (∀ target ∈ Cst.handedOnNamed statement.children,
        target.kind ∈ ["attribute", "subscript", "comment"]) ∧
      readAs file.textOf .read statement = Outline.groupUnlessEmpty "delete_statement"
        ((Cst.handedOnNamed statement.children).flatMap fun target =>
          Outline.groupUnlessEmpty target.kind
            (target.readParts.flatMap (readAs file.textOf .read))) ∧
      ((Standing.along way).context.forKind statement.kind = .load →
        ∀ inner name, (inner, name) ∈ statement.nodes → name.kind = "identifier" →
          (∀ step ∈ inner, step.parent.kind ∈ ["delete_statement", "expression_list", "tuple", "list",
            "parenthesized_expression"]) →
          (Standing.along (way ++ inner)).standsFor? file.textOf name = none)) ∧
    ∀ way statement, (way, statement) ∈ file.tree.nodes → statement.kind = "delete_statement" →
      (∀ target ∈ statement.deletionTargets,
        target.kind ∈ ["identifier", "attribute", "subscript", "comment"]) →
      ∀ position, file.refused? = some position → ∃ before found after place,
        file.tree.nodes = before ++ found :: after ∧
        (∀ earlier ∈ before, earlier.2.offence? = none) ∧
        found.2.offence? = some place ∧ place.label.position = position ∧
        found ≠ (way, statement) := by
  have agree : ∀ statement : Cst, Cst.handedOnNamed statement.children =
      statement.deletionTargets.filter fun target => target.kind != "identifier" :=
    fun statement => Cst.handedOnNamed_eq_filter statement.children
  refine ⟨agree, fun accepted way statement member isDelete => ?_,
    fun way statement member isDelete can position refused => ?_⟩
  · -- Nothing in the file is refused, so the deletion is not either, and its targets can be
    -- deleted.
    have harmless : statement.offence? = none := by
      rw [SourceFile.refused?_eq, Option.map_eq_none_iff, List.findSome?_eq_none_iff] at accepted
      exact accepted _ member
    have kinds : ∀ target ∈ Cst.handedOnNamed statement.children,
        target.kind ∈ ["attribute", "subscript", "comment"] := by
      intro target handed
      rw [agree, List.mem_filter] at handed
      have can := (Cst.offence?_eq_none_iff.mp harmless).2.2 isDelete target handed.1
      have other : target.kind ≠ "identifier" := by simpa using handed.2
      exact (List.mem_cons.mp can).resolve_left other
    refine ⟨kinds, ?_, fun reads inner name inside isName parents => ?_⟩
    · rw [readAs_deletion isDelete]
      exact congrArg _ (List.flatMap_congr fun target handed => readAs_target (kinds target handed))
    · rw [Standing.along, List.foldl_append]
      exact Standing.standsFor_deleted parents isDelete inside isName reads
  · -- What is refused is the first offence in document order, and this deletion is none.
    have harmless : statement.offence? = none := Cst.offence?_eq_none_iff.mpr
      ⟨by simp [isDelete], by simp [isDelete], fun _ => can⟩
    rw [SourceFile.refused?_eq, Option.map_eq_some_iff] at refused
    obtain ⟨place, first, position⟩ := refused
    obtain ⟨before, found, after, nodes, offends, earlier⟩ := List.findSome?_eq_some_iff.mp first
    refine ⟨before, found, after, place, nodes, earlier, offends, position, ?_⟩
    rintro rfl
    rw [harmless] at offends
    cases offends

namespace DeletedTargets

def name (byte : Nat) (field : Option String := none) : Cst :=
  .node { kind := "identifier", field, start := ⟨byte, 0, byte⟩, stop := byte + 1 } []

def token (kind : String) : Cst := .node { kind, named := false } []

def dotted : Cst :=
  .node { kind := "attribute" } [name 9 "object", token ".", name 11 "attribute"]

def item : Cst :=
  .node { kind := "subscript" } [name 14 "value", token "[", name 16 "subscript", token "]"]

def list : Cst := .node { kind := "list" } [token "[", dotted, token ",", item, token "]"]

def inner : Cst :=
  .node { kind := "tuple" } [token "(", name 5, token ",", list, token ")"]

def statement : Cst :=
  .node { kind := "delete_statement" }
    [token "del", .node { kind := "expression_list" } [inner, token ",",
      .node { kind := "parenthesized_expression" } [token "(", name 22, token ")"]]]

/-- A file that deletes two names, an attribute and an item, in containers of all sorts. -/
def file : SourceFile where
  name := "d.py"
  text := "del (a, [b.c, d[e]]), (f)\n"
  tree := .node { kind := "module" } [statement]

def way : Cst.Way := [⟨{ kind := "module" }, [], statement, []⟩]

/-- The name in brackets stands for nothing, and of the others only the parts are read. -/
theorem file_deletes :
    file.refused? = none ∧ readAs file.textOf .read statement =
      [.group "delete_statement" [.group "attribute" [.reference "b" 1],
        .group "subscript" [.reference "d" 1, .reference "e" 1]]] ∧
    ∃ inner, (inner, name 22) ∈ statement.nodes ∧
      (Standing.along (way ++ inner)).standsFor? file.textOf (name 22) = none := by
  have accepted : file.refused? = none := by
    rw [SourceFile.refused?_eq]
    rfl
  have member : (way, statement) ∈ file.tree.nodes := List.mem_of_getElem? (i := 1) rfl
  obtain ⟨inner, inside, parents⟩ : ∃ inner, (inner, name 22) ∈ statement.nodes ∧
      ∀ step ∈ inner, step.parent.kind ∈ ["delete_statement", "expression_list", "tuple", "list",
        "parenthesized_expression"] := ⟨_, List.mem_of_getElem? (i := 24) rfl, by decide⟩
  obtain ⟨-, agrees, -⟩ := deletions_agree file
  obtain ⟨-, reading, bare⟩ := agrees accepted way statement member rfl
  exact ⟨accepted, reading.trans rfl, inner, inside, bare rfl inner (name 22) inside rfl parents⟩

end DeletedTargets

end ScopeCheck
