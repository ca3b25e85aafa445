import ScopeCheck.Proofs.Cst.Search
import ScopeCheck.SourceFile.Validity

/-! # When a file is nested too deeply -/

namespace ScopeCheck.SourceFile

open Cst

def nestingVisitor : Visitor (Option Position) := fun found node depth =>
  if found.isSome then (found, false)
  else if maxNesting < depth then (some node.label.position, false)
  else (none, true)

theorem nestingVisitor_eq : nestingVisitor = searching fun node level =>
    if maxNesting < level then some node.label.position else none := by
  funext found node level
  unfold nestingVisitor searching
  by_cases deep : maxNesting < level
  · simp only [deep, if_true]
  · simp only [deep, if_false]

/-- The place that is found is that of the first node beyond the deepest level. -/
theorem tooDeep?_eq (file : SourceFile) :
    file.tooDeep? =
      (file.tree.first? fun _ level => maxNesting < level).map fun node => node.label.position := by
  have walked : file.tooDeep? = walk nestingVisitor none file.tree := rfl
  -- A walk that stops at the first hit is a search among the nodes with their levels.
  rw [walked, nestingVisitor_eq, walk_searching, ← findSome?_nodes]
  simp only [decide_eq_true_eq]

/-- No node lies too deep in a tree of limited height, and only there. -/
theorem tooDeep?_eq_none_iff (file : SourceFile) :
    file.tooDeep? = none ↔ file.tree.height ≤ maxNesting := by
  rw [tooDeep?_eq, Option.map_eq_none_iff, first?_eq_none_iff, height_le_iff]
  simp only [decide_eq_false_iff_not, Nat.not_lt]

end ScopeCheck.SourceFile
