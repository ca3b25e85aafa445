import ScopeCheck.Proofs.SourceFile.Faults
import ScopeCheck.Proofs.SourceFile.Nesting

/-!
# What validation reports

Validation makes three searches. What is wrong with a tree, and at which node, is said here without any
search: a faulty node, else a node that lies too deep, else a statement that the language refuses.
-/

namespace ScopeCheck

namespace Cst

/-- A name, an attribute or an item can be deleted; a comment is passed over. -/
def canBeDeleted (target : Cst) : Prop :=
  target.kind ∈ ["identifier", "attribute", "subscript", "comment"]

/-- A target can be made of several others. -/
def holdsTargets (target : Cst) : Prop :=
  target.kind ∈ ["expression_list", "tuple", "list", "parenthesized_expression"]

instance (target : Cst) : Decidable target.canBeDeleted :=
  inferInstanceAs (Decidable (target.kind ∈ ["identifier", "attribute", "subscript", "comment"]))

instance (target : Cst) : Decidable target.holdsTargets :=
  inferInstanceAs (Decidable
    (target.kind ∈ ["expression_list", "tuple", "list", "parenthesized_expression"]))

mutual

/-- The targets of which a target is made, or else the target itself. -/
def targetParts : Cst → List Cst
  | .node label children =>
    if (Cst.node label children).holdsTargets then targetPartsNamed children
    else [.node label children]

def targetPartsNamed : List Cst → List Cst
  | [] => []
  | tree :: rest =>
    if tree.named then targetParts tree ++ targetPartsNamed rest else targetPartsNamed rest

end

/-- What a deletion deletes, from left to right. -/
def deletionTargets (statement : Cst) : List Cst := targetPartsNamed statement.children

/-- A statement that no longer exists is refused as a whole, and a deletion at its first target that
cannot be deleted. -/
def offence? (node : Cst) : Option Cst :=
  if node.kind = "print_statement" ∨ node.kind = "exec_statement" then some node
  else if node.kind = "delete_statement" then
    node.deletionTargets.find? fun target => ¬ target.canBeDeleted
  else none

/-- What is wrong with a tree, and at which node: faulty nodes come before nodes that lie too deep, and
these before statements that are refused. -/
def firstFault? (tree : Cst) : Option (SyntaxFault × Cst) :=
  ((tree.first? fun node _ => node.isFaulty).map (SyntaxFault.invalid, ·)).or <|
  ((tree.first? fun _ level => level = 501).map (SyntaxFault.tooDeep, ·)).or <|
  (tree.nodes.findSome? fun found => found.2.offence?).map (SyntaxFault.invalid, ·)

mutual

theorem undeletable?_eq (tree : Cst) :
    undeletable? tree = tree.targetParts.find? fun target => ¬ target.canBeDeleted := by
  obtain ⟨label, children⟩ := tree
  rw [undeletable?, targetParts]
  by_cases can : (Cst.node label children).canBeDeleted
  · -- No construct that can be deleted holds other targets.
    have single : ¬ (Cst.node label children).holdsTargets := by
      have disjoint : ∀ kind ∈ deletable, kind ∉ deletionContainers := by decide
      exact disjoint label.kind can
    have listed : deletable.contains label.kind = true := List.contains_iff_mem.mpr can
    rw [if_pos listed, if_neg single]
    simp [can]
  · -- What cannot be deleted is a container, whose parts are looked at, or the offence itself.
    have unlisted : ¬ deletable.contains label.kind = true := fun listed =>
      can (List.contains_iff_mem.mp listed)
    rw [if_neg unlisted]
    by_cases holds : (Cst.node label children).holdsTargets
    · have container : deletionContainers.contains label.kind = true :=
        List.contains_iff_mem.mpr holds
      rw [if_pos container, if_pos holds]
      exact undeletableAmong?_eq children
    · have plain : ¬ deletionContainers.contains label.kind = true := fun container =>
        holds (List.contains_iff_mem.mp container)
      rw [if_neg plain, if_neg holds]
      simp [can]

theorem undeletableAmong?_eq (trees : List Cst) :
    undeletableAmong? trees = (targetPartsNamed trees).find? fun target => ¬ target.canBeDeleted := by
  cases trees with
  | nil => rfl
  | cons tree rest =>
    rw [undeletableAmong?, targetPartsNamed]
    split
    · rw [List.find?_append, ← undeletable?_eq tree, ← undeletableAmong?_eq rest]
      cases undeletable? tree <;> rfl
    · exact undeletableAmong?_eq rest

end

theorem offence?_eq_none_iff {node : Cst} :
    node.offence? = none ↔ node.kind ≠ "print_statement" ∧ node.kind ≠ "exec_statement" ∧
      (node.kind = "delete_statement" → ∀ target ∈ node.deletionTargets, target.canBeDeleted) := by
  unfold offence?
  split
  next refused =>
    rcases refused with isPrint | isExec
    · simp [isPrint]
    · simp [isExec]
  next other =>
    rw [not_or] at other
    split
    next isDelete => simp [isDelete, List.find?_eq_none]
    next noDelete => simp [noDelete, other]

end Cst

namespace SourceFile

open Cst (first? searching walk_searching firstFault?)

theorem refused?_visitor (file : SourceFile) : file.refused? =
    Cst.walk (searching fun node _ => node.offence?.map fun place => place.label.position) none
      file.tree := by
  unfold refused?
  refine congrArg (Cst.walk · none file.tree) ?_
  funext found node level
  unfold searching Cst.offence?
  -- The search asks the same questions in the same order.
  by_cases old : node.kind = "print_statement" ∨ node.kind = "exec_statement"
  · have listed : refusedStatements.contains node.kind = true := by
      simpa [refusedStatements] using old
    simp only [if_pos old, listed, if_true, Option.map_some]
  · have unlisted : refusedStatements.contains node.kind = false := by
      simpa [refusedStatements] using old
    simp only [if_neg old, unlisted, Bool.false_eq_true, if_false, beq_iff_eq]
    by_cases isDelete : node.kind = "delete_statement"
    · simp only [if_pos isDelete, Cst.undeletableAmong?_eq, Cst.deletionTargets]
      cases (Cst.targetPartsNamed node.children).find? fun target => ¬ target.canBeDeleted <;> rfl
    · simp only [if_neg isDelete, Option.map_none]

/-- The place that is found is that of the first offence. -/
theorem refused?_eq (file : SourceFile) : file.refused? =
    (file.tree.nodes.findSome? fun found => found.2.offence?).map
      fun place => place.label.position := by
  rw [refused?_visitor, walk_searching, List.map_findSome?]
  rfl

/-- Validation fails with the first fault of the tree, and succeeds when there is none. -/
theorem validate_eq {file : SourceFile} (marked : file.tree.Marked) :
    file.validate =
      match file.tree.firstFault? with
      | none => .ok ()
      | some (fault, node) =>
        .error (.badSource fault file.name (node.label.start.row + 1)
          (node.label.start.column + 1)) := by
  unfold validate firstFault?
  cases faulty : file.tree.first? fun node _ => node.isFaulty with
  | some node =>
    have errors : file.hasErrors = true := (hasErrors_iff marked).mpr ⟨node, faulty⟩
    simp only [if_pos errors, head?_faults marked, faulty]
    rfl
  | none =>
    have clean : ¬ file.hasErrors = true := fun errors => by
      obtain ⟨node, found⟩ := (hasErrors_iff marked).mp errors
      rw [faulty] at found
      cases found
    rw [if_neg clean, tooDeep?_eq, maxNesting, Cst.first?_beyond, refused?_eq]
    cases file.tree.first? fun _ level => level = 501 with
    | some node => rfl
    | none =>
      cases file.tree.nodes.findSome? fun found => found.2.offence? with
      | some node => rfl
      | none => rfl

end SourceFile

/-- A tree has no fault when no node is faulty, none lies deeper than level 500, and none is a statement
that the language refuses. -/
theorem Cst.firstFault?_eq_none_iff {tree : Cst} :
    tree.firstFault? = none ↔ ∀ found ∈ tree.nodes,
      found.2.isFaulty = false ∧ found.1.length ≤ 500 ∧ found.2.offence? = none := by
  unfold firstFault?
  rw [← first?_beyond]
  simp only [Option.or_eq_none_iff, Option.map_eq_none_iff, first?_eq_none_iff,
    List.findSome?_eq_none_iff, decide_eq_false_iff_not, Nat.not_lt]
  constructor
  · rintro ⟨sound, shallow, allowed⟩ found member
    exact ⟨sound found member, shallow found member, allowed found member⟩
  · intro each
    exact ⟨fun found member => (each found member).1, fun found member => (each found member).2.1,
      fun found member => (each found member).2.2⟩

/-- A file whose marks are right passes validation exactly when nothing is wrong with any node, and
fails with its first fault otherwise: the first faulty node, or else the first node at level 501, or else
the first statement that is refused. A faulty node is always found where the root is marked. -/
theorem validation_reports_first_fault (file : SourceFile) (marked : file.tree.Marked) :
    (file.validate = .ok () ↔ ∀ way node, (way, node) ∈ file.tree.nodes →
      node.isFaulty = false ∧ way.length ≤ 500 ∧
        node.kind ≠ "print_statement" ∧ node.kind ≠ "exec_statement" ∧
        (node.kind = "delete_statement" → ∀ target ∈ node.deletionTargets,
          target.kind ∈ ["identifier", "attribute", "subscript", "comment"])) ∧
    (∀ failure, file.validate = .error failure ↔ ∃ fault node,
      file.tree.firstFault? = some (fault, node) ∧
        failure = .badSource fault file.name (node.label.start.row + 1)
          (node.label.start.column + 1)) ∧
    (file.hasErrors = true → file.faults ≠ []) ∧
    SyntaxFault.invalid.words = "invalid syntax" ∧ SyntaxFault.tooDeep.words = "too deeply nested" := by
  refine ⟨?_, ?_, ?_, rfl, rfl⟩
  · -- Validation passes exactly where there is no first fault.
    have passes : file.validate = .ok () ↔ file.tree.firstFault? = none := by
      rw [SourceFile.validate_eq marked]
      cases file.tree.firstFault? <;> simp
    rw [passes, Cst.firstFault?_eq_none_iff, Prod.forall]
    simp only [Cst.offence?_eq_none_iff]
    exact Iff.rfl
  · intro failure
    rw [SourceFile.validate_eq marked]
    cases file.tree.firstFault? with
    | none => simp
    | some found =>
      obtain ⟨fault, node⟩ := found
      simp [eq_comm]
  · intro errors none
    -- A mark at the root stands for a faulty node, and the first one is reported.
    obtain ⟨node, faulty⟩ := (SourceFile.hasErrors_iff marked).mp errors
    have first := SourceFile.head?_faults marked
    rw [none, faulty] at first
    cases first

/-- A file that deletes a call in a tuple and then prints a name, which may have to be supplied. -/
def removingFile (name : Cst.Soundness) : SourceFile where
  name := "d.py"
  text := "del (a, f())\nprint b\n"
  tree := .node { kind := "module", hasError := name ≠ .sound }
    [.node { kind := "delete_statement" }
      [.node { kind := "del", named := false, stop := 3 } [],
        .node { kind := "tuple", start := ⟨4, 0, 4⟩, stop := 12 }
          [.node { kind := "identifier", start := ⟨5, 0, 5⟩, stop := 6 } [],
            .node { kind := "call", start := ⟨8, 0, 8⟩, stop := 11 } []]],
      .node { kind := "print_statement", start := ⟨13, 1, 0⟩, stop := 20, hasError := name ≠ .sound }
        [.node
          { kind := "identifier", start := ⟨19, 1, 6⟩, stop := 20, soundness := name,
            hasError := name ≠ .sound } []]]

/-- The call comes before the statement that is refused, and a name that is missing before both. -/
theorem removingFile_validation :
    (removingFile .sound).tree.Marked ∧
    (removingFile .sound).validate = .error (.badSource .invalid "d.py" 1 9) ∧
    (removingFile .missing).tree.Marked ∧
    (removingFile .missing).validate = .error (.badSource .invalid "d.py" 2 7) := by
  have sound : (removingFile .sound).tree.Marked := by
    unfold Cst.Marked
    decide
  have missing : (removingFile .missing).tree.Marked := by
    unfold Cst.Marked
    decide
  refine ⟨sound, ?_, missing, ?_⟩
  · exact ((validation_reports_first_fault _ sound).2.1 _).mpr ⟨_, _, rfl, rfl⟩
  · exact ((validation_reports_first_fault _ missing).2.1 _).mpr ⟨_, _, rfl, rfl⟩

end ScopeCheck
