import ScopeCheck.Cst.Walk

/-!
# The walk visits a tree in preorder

What is left to do at any time is fixed by the cursor: the node with all below it, its later siblings,
and the later siblings of every node on the way up.
-/

namespace ScopeCheck.Cst

variable {σ : Type}

/-- Visits the later siblings of the nodes on the way up, innermost first. The first of these nodes
lies at level `depth - 1`. -/
def unwind (visit : Visitor σ) (state : σ) (depth : Nat) : List (Cst × List Cst) → σ × Nat
  | [] => (state, depth)
  | (_, later) :: above =>
    unwind visit (preorderAll visit state (depth - 1) later) (depth - 1) above

/-- Visits the node of a cursor, its later siblings, and then those of the nodes above. -/
def finish (visit : Visitor σ) (state : σ) (cursor : Cursor) (depth : Nat) : σ × Nat :=
  unwind visit (preorderAll visit state depth (cursor.node :: cursor.later)) depth cursor.above

/-- Climbing passes over levels at which nothing is left to do. -/
theorem unwind_climb (visit : Visitor σ) (state : σ) (depth : Nat) (above : List (Cst × List Cst)) :
    unwind visit state depth above =
      match Cursor.climb depth above with
      | (some next, level) => finish visit state next level
      | (none, level) => (state, level) := by
  induction above generalizing depth with
  | nil => rfl
  | cons level above ih =>
    obtain ⟨node, later⟩ := level
    cases later with
    -- There is nothing to the right, and the climb goes on.
    | nil => exact ih (depth - 1)
    | cons sibling rest => rfl

/-- After a node and all below it, the walk goes on where the cursor skips to. -/
theorem unwind_skip (visit : Visitor σ) (state : σ) (cursor : Cursor) (depth : Nat) :
    unwind visit (preorderAll visit state depth cursor.later) depth cursor.above =
      match cursor.skip depth with
      | (some next, level) => finish visit state next level
      | (none, level) => (state, level) := by
  obtain ⟨node, later, above⟩ := cursor
  cases later with
  | nil => exact unwind_climb visit state depth above
  | cons sibling rest => rfl

theorem preorder_of_not_down {visit : Visitor σ} {state next : σ} {enter : Bool} {cursor : Cursor}
    {depth : Nat} (visited : visit state cursor.node depth = (next, enter))
    (stays : (if enter then cursor.firstChild? else none) = none) :
    preorder visit state depth cursor.node = next := by
  obtain ⟨⟨label, children⟩, later, above⟩ := cursor
  rw [preorder, visited]
  cases enter with
  | false => rfl
  | true =>
    -- The visitor wants to go down, so that there must be no child.
    cases children with
    | nil => rfl
    | cons child rest => simp [Cursor.firstChild?, Cst.children] at stays

/-- Going down to the first child leaves to do what the children ask for, and then the rest. -/
theorem finish_down {visit : Visitor σ} {state next : σ} {enter : Bool} {cursor child : Cursor}
    {depth : Nat} (visited : visit state cursor.node depth = (next, enter))
    (down : (if enter then cursor.firstChild? else none) = some child) :
    finish visit next child (depth + 1) = finish visit state cursor depth := by
  obtain ⟨⟨label, children⟩, later, above⟩ := cursor
  cases enter with
  | false => simp at down
  | true =>
    cases children with
    | nil => simp [Cursor.firstChild?, Cst.children] at down
    | cons first rest =>
      -- The first child, what lies to its right, and then the rest of the walk: this is what the
      -- node asks for.
      simp only [Cursor.firstChild?, Cst.children, if_true, Option.some.injEq] at down
      subst down
      simp only [finish, unwind, preorderAll, preorder, visited, if_true, Nat.add_sub_cancel]

/-- One round of the loop: down to the first child, or on to where the cursor skips to. -/
theorem walkFrom_step {visit : Visitor σ} {state next : σ} {enter : Bool} {cursor : Cursor}
    {depth : Nat} (visited : visit state cursor.node depth = (next, enter)) :
    walkFrom visit state cursor depth =
      match if enter then cursor.firstChild? else none with
      | some child => walkFrom visit next child (depth + 1)
      | none =>
        match cursor.skip depth with
        | (some following, level) => walkFrom visit next following level
        | (none, level) => (next, level) := by
  rw [walkFrom]
  simp only [visited]
  split
  next child down =>
    simp only [visited] at down
    simp only [down]
  next stays =>
    simp only [visited] at stays
    simp only [stays]
    split
    next following level skipped => simp only [skipped]
    next level skipped => simp only [skipped]

/-- A walk from any cursor does what is left to do there. -/
theorem walkFrom_eq (visit : Visitor σ) (state : σ) (cursor : Cursor) (depth : Nat) :
    walkFrom visit state cursor depth = finish visit state cursor depth := by
  induction state, cursor, depth using walkFrom.induct visit with
  | case1 state cursor depth next enter visited child down ih =>
    simp only [dite_eq_ite] at down
    rw [walkFrom_step visited, down]
    exact ih.trans (finish_down visited down)
  | case2 state cursor depth next enter visited stays following level skipped ih =>
    simp only [dite_eq_ite] at stays
    rw [walkFrom_step visited, stays, finish, preorderAll, preorder_of_not_down visited stays,
      unwind_skip]
    simp only [skipped, ih]
  | case3 state cursor depth next enter visited stays level skipped =>
    simp only [dite_eq_ite] at stays
    rw [walkFrom_step visited, stays, finish, preorderAll, preorder_of_not_down visited stays,
      unwind_skip]
    simp only [skipped]

/-- The walk over a tree makes the visits of the recursion, in the same order. -/
theorem walk_eq_preorder (visit : Visitor σ) (state : σ) (tree : Cst) :
    walk visit state tree = preorder visit state 0 tree := by
  rw [walk, walkFrom_eq]
  rfl

end ScopeCheck.Cst
