import ScopeCheck.Cst.Basic

/-! # The shape of a tree -/

namespace ScopeCheck.Cst

mutual

/-- The level of the deepest node, tokens included, where the root is at level 0. -/
def height : Cst → Nat
  | .node _ children => levels children

def levels : List Cst → Nat
  | [] => 0
  | tree :: rest => max (height tree + 1) (levels rest)

end

mutual

/-- The lines at which the nodes of a tree begin. -/
def lines : Cst → List Nat
  | .node label children => label.line :: linesAll children

def linesAll : List Cst → List Nat
  | [] => []
  | tree :: rest => lines tree ++ linesAll rest

end

theorem levels_le_iff {trees : List Cst} {bound : Nat} :
    levels trees ≤ bound ↔ ∀ tree ∈ trees, tree.height + 1 ≤ bound := by
  induction trees with
  | nil => simp [levels]
  | cons tree rest ih => simp only [levels, Nat.max_le, ih, List.forall_mem_cons]

theorem height_lt_levels {tree : Cst} {trees : List Cst} (member : tree ∈ trees) :
    tree.height < levels trees :=
  levels_le_iff.mp (Nat.le_refl _) tree member

theorem height_child_lt {tree child : Cst} (member : child ∈ tree.children) :
    child.height < tree.height := by
  cases tree with
  | node label children => exact height_lt_levels member

theorem mem_lines_self (tree : Cst) : tree.label.line ∈ tree.lines := by
  cases tree with
  | node label children => exact List.mem_cons_self

theorem mem_linesAll {trees : List Cst} {line : Nat} :
    line ∈ linesAll trees ↔ ∃ tree ∈ trees, line ∈ tree.lines := by
  induction trees with
  | nil => simp [linesAll]
  | cons tree rest ih => simp [linesAll, ih]

theorem lines_child_subset {tree child : Cst} (member : child ∈ tree.children) :
    child.lines ⊆ tree.lines := by
  cases tree with
  | node label children =>
    intro line inside
    exact List.mem_cons_of_mem _ (mem_linesAll.mpr ⟨child, member, inside⟩)

/-- What holds of a node whenever it holds of all its children holds of every tree. -/
@[elab_as_elim]
theorem induction {motive : Cst → Prop}
    (node : ∀ label children, (∀ child ∈ children, motive child) → motive (.node label children))
    (tree : Cst) : motive tree := by
  cases tree with
  | node label children =>
    refine node label children fun child member => ?_
    have smaller := List.sizeOf_lt_of_mem member
    exact induction node child
termination_by sizeOf tree

theorem lines_pos (tree : Cst) : ∀ line ∈ tree.lines, 0 < line := by
  induction tree using induction with
  | node label children ih =>
    intro line member
    rcases List.mem_cons.mp member with rfl | inside
    · exact Nat.succ_pos _
    · obtain ⟨child, isChild, found⟩ := mem_linesAll.mp inside
      exact ih child isChild line found

end ScopeCheck.Cst
