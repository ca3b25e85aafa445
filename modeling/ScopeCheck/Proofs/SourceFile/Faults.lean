import ScopeCheck.Proofs.Cst.Search
import ScopeCheck.SourceFile.Validity

/-!
# The faulty nodes of a tree

The search for faulty nodes enters only what is marked as holding one, and nothing below a faulty node.
In a tree whose marks are right it finds the outermost faulty nodes, all of them.
-/

namespace ScopeCheck

namespace Cst

/-- A node is marked exactly when it or a node below it is faulty. -/
def Marked (tree : Cst) : Prop :=
  ∀ found ∈ tree.nodes,
    found.2.label.hasError = true ↔ ∃ inner ∈ found.2.nodes, inner.2.isFaulty = true

mutual

/-- The faulty nodes that lie below no other one, from left to right. -/
def outermostFaulty : Cst → List Cst
  | .node label children =>
    if (Cst.node label children).isFaulty then [.node label children]
    else outermostFaultyAll children

def outermostFaultyAll : List Cst → List Cst
  | [] => []
  | tree :: rest => outermostFaulty tree ++ outermostFaultyAll rest

end

mutual

/-- The first of the outermost faulty nodes is the first faulty node in document order. -/
theorem head?_outermostFaulty (tree : Cst) :
    tree.outermostFaulty.head? = tree.first? fun node _ => node.isFaulty := by
  obtain ⟨label, children⟩ := tree
  rw [first?, outermostFaulty, nodes, List.find?_cons]
  cases (Cst.node label children).isFaulty with
  | true => rfl
  | false => exact head?_outermostFaultyAll label [] children

theorem head?_outermostFaultyAll (parent : Label) (before children : List Cst) :
    (outermostFaultyAll children).head? =
      ((nodesBelow parent before children).find? fun found => found.2.isFaulty).map Prod.snd := by
  cases children with
  | nil => rfl
  | cons child after =>
    have here := head?_outermostFaulty child
    have later := head?_outermostFaultyAll parent (before ++ [child]) after
    rw [outermostFaultyAll, List.head?_append, here, later, first?, nodesBelow, List.find?_append,
      List.find?_map, Option.map_or, Option.map_map]
    rfl

end

theorem outermostFaulty_eq_nil_iff {tree : Cst} :
    tree.outermostFaulty = [] ↔ ∀ found ∈ tree.nodes, found.2.isFaulty = false := by
  rw [← List.head?_eq_none_iff, head?_outermostFaulty, first?_eq_none_iff]

theorem Marked.child {label : Label} {children : List Cst}
    (marked : Marked (.node label children)) {child : Cst} (isChild : child ∈ children) :
    child.Marked := by
  intro inner isInner
  obtain ⟨found, member, same, _⟩ := exists_mem_nodesBelow label [] isChild isInner
  have right := marked found (List.mem_cons_of_mem _ member)
  rwa [same] at right

theorem Marked.hasError_iff {tree : Cst} (marked : tree.Marked) :
    tree.label.hasError = true ↔ ∃ found ∈ tree.nodes, found.2.isFaulty = true :=
  marked ([], tree) tree.root_mem_nodes

theorem isFaulty_iff {tree : Cst} : tree.isFaulty = true ↔ tree.label.soundness ≠ .sound :=
  decide_eq_true_iff

/-- Whether the node at the end of a way is faulty and lies below no other faulty node. -/
def isOutermostFaulty (found : Way × Cst) : Bool :=
  found.2.isFaulty && found.1.all fun step => step.parent.soundness = .sound

theorem isOutermostFaulty_iff {found : Way × Cst} :
    isOutermostFaulty found = true ↔
      found.2.isFaulty = true ∧ ∀ step ∈ found.1, step.parent.soundness = .sound := by
  simp [isOutermostFaulty]

/-- Below a faulty node nothing is outermost. -/
theorem filter_isOutermostFaulty_of_faulty {parent : Label} (faulty : parent.soundness ≠ .sound)
    (before children : List Cst) :
    (nodesBelow parent before children).filter isOutermostFaulty = [] := by
  rw [List.filter_eq_nil_iff]
  intro found member outermost
  rw [nodesBelow_eq, List.mem_flatMap] at member
  obtain ⟨step, isStep, inside⟩ := member
  obtain ⟨inner, _, rfl⟩ := List.mem_map.mp inside
  -- The first step would go down from a sound node.
  have sound := (isOutermostFaulty_iff.mp outermost).2 step List.mem_cons_self
  rw [(of_mem_stepsFrom isStep).1] at sound
  exact faulty sound

mutual

/-- The recursion lists the outermost faulty nodes among all nodes, in document order. -/
theorem outermostFaulty_eq (tree : Cst) :
    tree.outermostFaulty = (tree.nodes.filter isOutermostFaulty).map Prod.snd := by
  obtain ⟨label, children⟩ := tree
  rw [outermostFaulty, nodes, List.filter_cons]
  by_cases faulty : (Cst.node label children).isFaulty = true
  · have unsound : label.soundness ≠ .sound := isFaulty_iff.mp faulty
    have own : isOutermostFaulty ([], .node label children) = true :=
      isOutermostFaulty_iff.mpr ⟨faulty, by simp⟩
    rw [if_pos faulty, if_pos own, filter_isOutermostFaulty_of_faulty unsound]
    rfl
  · -- The root is sound, and all of them lie below its children.
    have sound : label.soundness = .sound := by
      rw [isFaulty_iff, not_not] at faulty
      exact faulty
    have other : ¬ isOutermostFaulty ([], .node label children) = true := fun outermost =>
      faulty (isOutermostFaulty_iff.mp outermost).1
    rw [if_neg faulty, if_neg other]
    exact outermostFaultyAll_eq sound [] children

theorem outermostFaultyAll_eq {parent : Label} (sound : parent.soundness = .sound)
    (before children : List Cst) :
    outermostFaultyAll children =
      ((nodesBelow parent before children).filter isOutermostFaulty).map Prod.snd := by
  cases children with
  | nil => rfl
  | cons child after =>
    -- A step down from a sound node changes nothing in what lies above.
    have inner : ((nodes child).map fun found =>
        (⟨parent, before, child, after⟩ :: found.1, found.2)).filter isOutermostFaulty =
          ((nodes child).filter isOutermostFaulty).map fun found =>
            (⟨parent, before, child, after⟩ :: found.1, found.2) := by
      rw [List.filter_map]
      refine congrArg _ (List.filter_congr fun found _ => ?_)
      simp [isOutermostFaulty, sound]
    rw [outermostFaultyAll, outermostFaulty_eq child,
      outermostFaultyAll_eq sound (before ++ [child]) after, nodesBelow, List.filter_append, inner,
      List.map_append, List.map_map]
    rfl

end

/-- What is reported of a faulty node. -/
def fault (node : Cst) : TreeFault := ⟨node.label.position, node.kind⟩

def faultVisitor : Visitor (List TreeFault) := fun found node _ =>
  if node.isFaulty then (found ++ [node.fault], false) else (found, node.label.hasError)

mutual

theorem preorder_faultVisitor (found : List TreeFault) (level : Nat) {tree : Cst}
    (marked : tree.Marked) :
    preorder faultVisitor found level tree = found ++ tree.outermostFaulty.map fault := by
  obtain ⟨label, children⟩ := tree
  by_cases faulty : (Cst.node label children).isFaulty = true
  · have left : preorder faultVisitor found level (.node label children) =
        found ++ [fault (.node label children)] := by
      simp [preorder, faultVisitor, faulty]
    rw [left, outermostFaulty, if_pos faulty]
    rfl
  · by_cases entered : label.hasError = true
    · have inside : preorder faultVisitor found level (.node label children) =
          preorderAll faultVisitor found (level + 1) children := by
        simp [preorder, faultVisitor, faulty, Cst.label, entered]
      rw [inside, outermostFaulty, if_neg faulty]
      exact preorderAll_faultVisitor found (level + 1) children fun child => marked.child
    · have skipped : preorder faultVisitor found level (.node label children) = found := by
        simp [preorder, faultVisitor, faulty, Cst.label, entered]
      have clean : outermostFaulty (.node label children) = [] := by
        refine outermostFaulty_eq_nil_iff.mpr fun inner member => ?_
        by_contra hidden
        exact entered (marked.hasError_iff.mpr ⟨inner, member, by simpa using hidden⟩)
      rw [skipped, clean, List.map_nil, List.append_nil]

theorem preorderAll_faultVisitor (found : List TreeFault) (level : Nat) (trees : List Cst)
    (marked : ∀ tree ∈ trees, tree.Marked) :
    preorderAll faultVisitor found level trees = found ++ (outermostFaultyAll trees).map fault := by
  cases trees with
  | nil => simp [preorderAll, outermostFaultyAll]
  -- What the first tree adds stands before what the others add.
  | cons tree rest =>
    have first := preorder_faultVisitor found level (marked tree List.mem_cons_self)
    have later := preorderAll_faultVisitor (found ++ tree.outermostFaulty.map fault) level rest
      fun other member => marked other (List.mem_cons_of_mem _ member)
    rw [preorderAll, first, later, outermostFaultyAll, List.map_append, List.append_assoc]

end

end Cst

namespace SourceFile

theorem faults_eq {file : SourceFile} (marked : file.tree.Marked) :
    file.faults = file.tree.outermostFaulty.map Cst.fault := by
  have walked : Cst.walk Cst.faultVisitor [] file.tree = file.tree.outermostFaulty.map Cst.fault := by
    rw [Cst.walk_eq_preorder, Cst.preorder_faultVisitor [] 0 marked, List.nil_append]
  unfold faults
  split
  · exact walked
  next sound =>
    -- Without a mark at the root there is nothing to find.
    have clean : file.tree.outermostFaulty = [] := by
      refine Cst.outermostFaulty_eq_nil_iff.mpr fun found member => ?_
      by_contra hidden
      exact sound (marked.hasError_iff.mpr ⟨found, member, by simpa using hidden⟩)
    rw [clean, List.map_nil]

/-- The first fault that is reported is the first faulty node in document order. -/
theorem head?_faults {file : SourceFile} (marked : file.tree.Marked) :
    file.faults.head? = (file.tree.first? fun node _ => node.isFaulty).map Cst.fault := by
  rw [faults_eq marked, List.head?_map, Cst.head?_outermostFaulty]

/-- A file has errors exactly when its tree has a faulty node. -/
theorem hasErrors_iff {file : SourceFile} (marked : file.tree.Marked) :
    file.hasErrors = true ↔ ∃ node, file.tree.first? (fun node _ => node.isFaulty) = some node := by
  rw [← Option.isSome_iff_exists, Cst.first?, Option.isSome_map, List.find?_isSome]
  exact marked.hasError_iff.trans (by simp)

/-- In a tree whose marks are right, the faults of a file are the faulty nodes that lie below no other
one, all of them and each once, in document order, with their lines and columns counted from 1 and
their kinds. There are none exactly when the file has no errors. -/
theorem faults_are_outermost (file : SourceFile) (marked : file.tree.Marked) :
    (∃ found : List (Cst.Way × Cst),
      (∀ way node, (way, node) ∈ found ↔ (way, node) ∈ file.tree.nodes ∧ node.isFaulty = true ∧
        ∀ step ∈ way, step.parent.soundness = .sound) ∧
      (found.map fun one => one.1.path).Pairwise (· < ·) ∧
      file.faults = found.map fun one =>
        ⟨(one.2.label.start.row + 1, one.2.label.start.column + 1), one.2.kind⟩) ∧
    (file.faults = [] ↔ file.hasErrors = false) := by
  refine ⟨⟨file.tree.nodes.filter Cst.isOutermostFaulty, fun way node => ?_, ?_, ?_⟩, ?_⟩
  · -- They are chosen out of all nodes by this property.
    rw [List.mem_filter, Cst.isOutermostFaulty_iff]
  · -- What is chosen keeps the order of the document.
    exact file.tree.paths_ascending.sublist (List.filter_sublist.map _)
  · rw [faults_eq marked, Cst.outermostFaulty_eq, List.map_map]
    rfl
  · -- None is outermost where none is faulty, which is what the mark of the root says.
    rw [faults_eq marked, List.map_eq_nil_iff, Cst.outermostFaulty_eq_nil_iff,
      ← Bool.not_eq_true, hasErrors, marked.hasError_iff]
    simp

end SourceFile

/-- A call without its last token, which is supplied, and text that is skipped, in which there is a
further error node and a name that is supplied. -/
def brokenFile : SourceFile where
  name := "b.py"
  text := "f(a\ng ? (\n"
  tree := .node { kind := "module", hasError := true, stop := 10 }
    [.node { kind := "call", hasError := true, stop := 3 }
      [.node { kind := "identifier", stop := 1 } [],
        .node { kind := "argument_list", hasError := true, start := ⟨1, 0, 1⟩, stop := 3 }
          [.node { kind := "(", named := false, start := ⟨1, 0, 1⟩, stop := 2 } [],
            .node { kind := "identifier", start := ⟨2, 0, 2⟩, stop := 3 } [],
            .node
              { kind := ")", named := false, start := ⟨3, 0, 3⟩, stop := 3, soundness := .missing,
                hasError := true } []]],
      .node { kind := "identifier", start := ⟨4, 1, 0⟩, stop := 5 } [],
      .node
        { kind := "ERROR", start := ⟨6, 1, 2⟩, stop := 9, soundness := .error, hasError := true }
        [.node
            { kind := "ERROR", start := ⟨6, 1, 2⟩, stop := 7, soundness := .error, hasError := true }
            [],
          .node
            { kind := "identifier", start := ⟨9, 1, 5⟩, stop := 9, soundness := .missing,
              hasError := true } []]]

/-- The token is found below unbroken siblings, and nothing inside the error node is reported. -/
theorem brokenFile_faults :
    brokenFile.tree.Marked ∧ brokenFile.faults = [⟨(1, 4), ")"⟩, ⟨(2, 3), "ERROR"⟩] ∧
    ¬ brokenFile.faults = [] := by
  have marked : brokenFile.tree.Marked := by
    unfold Cst.Marked
    decide
  obtain ⟨_, empty_iff⟩ := SourceFile.faults_are_outermost brokenFile marked
  refine ⟨marked, ?_, mt empty_iff.mp (by decide)⟩
  rw [SourceFile.faults_eq marked]
  rfl

end ScopeCheck
