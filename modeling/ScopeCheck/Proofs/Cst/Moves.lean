import Mathlib.Logic.Relation
import ScopeCheck.Proofs.Cst.Walk

/-!
# The loop of a walk, move by move

A walk goes down to a first child, aside to a sibling, or up to a parent. What is left to visit decides
how it ends, and no move changes that; its counter is the number of nodes above the cursor.
-/

namespace ScopeCheck.Cst

variable {σ : Type} {visit : Visitor σ}

/-- The node above, if there is one. -/
def Cursor.parent? (cursor : Cursor) : Option Cursor :=
  match cursor.above with
  | [] => none
  | (node, later) :: above => some ⟨node, later, above⟩

/-- A moment of a walk. -/
structure Moment (σ : Type) where
  state : σ
  cursor : Cursor
  depth : Nat
  /-- Whether the visitor has been called on the node, so that the walk is on its way out of it. -/
  visited : Bool

namespace Moment

def start (state : σ) (tree : Cst) : Moment σ := ⟨state, Cursor.root tree, 0, false⟩

/-- There is neither a sibling nor a parent to go to. -/
def Final (moment : Moment σ) : Prop :=
  moment.visited = true ∧ moment.cursor.nextSibling? = none ∧ moment.cursor.parent? = none

end Moment

/-- The moves of a walk. The last one lowers the counter, so it cannot be made from level 0. -/
inductive Move (visit : Visitor σ) : Moment σ → Moment σ → Prop where
  | down {state next : σ} {cursor child : Cursor} {depth : Nat} :
    visit state cursor.node depth = (next, true) → cursor.firstChild? = some child →
      Move visit ⟨state, cursor, depth, false⟩ ⟨next, child, depth + 1, false⟩
  | stay {state next : σ} {enter : Bool} {cursor : Cursor} {depth : Nat} :
    visit state cursor.node depth = (next, enter) →
      (if enter then cursor.firstChild? else none) = none →
      Move visit ⟨state, cursor, depth, false⟩ ⟨next, cursor, depth, true⟩
  | aside {state : σ} {cursor sibling : Cursor} {depth : Nat} :
    cursor.nextSibling? = some sibling →
      Move visit ⟨state, cursor, depth, true⟩ ⟨state, sibling, depth, false⟩
  | up {state : σ} {cursor parent : Cursor} {depth : Nat} :
    cursor.nextSibling? = none → cursor.parent? = some parent →
      Move visit ⟨state, cursor, depth + 1, true⟩ ⟨state, parent, depth, true⟩

/-! ### Where a cursor can go -/

namespace Cursor

variable {cursor next : Cursor}

theorem later_eq_nil (none : cursor.nextSibling? = none) : cursor.later = [] := by
  obtain ⟨node, later, above⟩ := cursor
  cases later with
  | nil => rfl
  | cons sibling rest => cases none

theorem above_eq_nil (none : cursor.parent? = none) : cursor.above = [] := by
  obtain ⟨node, later, above⟩ := cursor
  cases above with
  | nil => rfl
  | cons parent above => cases none

theorem of_firstChild? (down : cursor.firstChild? = some next) :
    next.above = (cursor.node, cursor.later) :: cursor.above ∧
      cursor.node.size = next.node.size + sizeAll next.later + 1 := by
  obtain ⟨⟨label, children⟩, later, above⟩ := cursor
  cases children with
  | nil => cases down
  | cons child rest =>
    cases down
    exact ⟨rfl, rfl⟩

theorem of_nextSibling? (aside : cursor.nextSibling? = some next) :
    cursor.later = next.node :: next.later ∧ next.above = cursor.above := by
  obtain ⟨node, later, above⟩ := cursor
  cases later with
  | nil => cases aside
  | cons sibling rest =>
    cases aside
    exact ⟨rfl, rfl⟩

theorem of_parent? (up : cursor.parent? = some next) :
    cursor.above = (next.node, next.later) :: next.above := by
  obtain ⟨node, later, above⟩ := cursor
  cases above with
  | nil => cases up
  | cons parent above =>
    cases up
    rfl

end Cursor

/-! ### One move -/

namespace Moment

/-- The counter is the number of nodes above. -/
def Level (moment : Moment σ) : Prop := moment.depth = moment.cursor.above.length

/-- The state and the counter at the end, once what is left to visit has been visited. -/
def outcome (visit : Visitor σ) (moment : Moment σ) : σ × Nat :=
  if moment.visited then
    unwind visit (preorderAll visit moment.state moment.depth moment.cursor.later) moment.depth
      moment.cursor.above
  else finish visit moment.state moment.cursor moment.depth

/-- The moves that are left to make are fewer than this. -/
def remaining (moment : Moment σ) : Nat :=
  3 * (sizeAll moment.cursor.later + Cursor.laterSize moment.cursor.above) +
    moment.cursor.above.length + if moment.visited then 1 else 3 * moment.cursor.node.size

end Moment

namespace Move

variable {moment next : Moment σ}

theorem level (move : Move visit moment next) (right : moment.Level) : next.Level := by
  unfold Moment.Level at right ⊢
  cases move with
  | down _ down =>
    -- The node that was left is one more above.
    rw [(Cursor.of_firstChild? down).1, List.length_cons]
    exact congrArg (· + 1) right
  | stay => exact right
  | aside aside =>
    rw [(Cursor.of_nextSibling? aside).2]
    exact right
  | up _ up =>
    -- The level of the parent is one less, and the counter goes back by one.
    rw [Cursor.of_parent? up, List.length_cons] at right
    exact Nat.succ.inj right

/-- What is left to visit after a move is what was left before it, less what was visited. -/
theorem outcome (move : Move visit moment next) : next.outcome visit = moment.outcome visit := by
  cases move with
  -- `finish_down` says the same of a round of the loop.
  | down visited down => exact finish_down visited (by rw [if_pos rfl]; exact down)
  | stay visited stays =>
    -- The node has been visited, and nothing below it is to be.
    have here := preorder_of_not_down visited stays
    simp only [Moment.outcome, if_true, finish, preorderAll, here]
    rfl
  | aside aside =>
    obtain ⟨later, above⟩ := Cursor.of_nextSibling? aside
    simp only [Moment.outcome, if_true, finish, later, above]
    rfl
  | up none up =>
    simp only [Moment.outcome, if_true, Cursor.later_eq_nil none, Cursor.of_parent? up, unwind,
      preorderAll, Nat.add_sub_cancel]

theorem remaining_lt (move : Move visit moment next) : next.remaining < moment.remaining := by
  cases move with
  | down _ down =>
    -- The child and what lies to its right were counted with the node itself.
    obtain ⟨above, size⟩ := Cursor.of_firstChild? down
    simp only [Moment.remaining, above, Cursor.laterSize, List.length_cons, size,
      Bool.false_eq_true, if_false]
    omega
  | @stay _ _ _ cursor _ _ _ =>
    -- A node counts for three moves, and only the move out of it is left.
    have filled := cursor.node.size_pos
    simp only [Moment.remaining, if_true, Bool.false_eq_true, if_false]
    omega
  | aside aside =>
    obtain ⟨later, above⟩ := Cursor.of_nextSibling? aside
    simp only [Moment.remaining, later, above, sizeAll, if_true, Bool.false_eq_true, if_false]
    omega
  | up none up =>
    simp only [Moment.remaining, Cursor.later_eq_nil none, Cursor.of_parent? up, sizeAll,
      Cursor.laterSize, List.length_cons, if_true]
    omega

/-- Until a walk has come to its end it can go on. -/
theorem exists_next {moment : Moment σ} (right : moment.Level) (going : ¬ moment.Final) :
    ∃ next, Move visit moment next := by
  obtain ⟨state, cursor, depth, visited⟩ := moment
  cases visited with
  | false =>
    -- The answer of the visitor decides between going down and staying.
    obtain ⟨⟨next, enter⟩, answer⟩ : ∃ answer, visit state cursor.node depth = answer := ⟨_, rfl⟩
    cases down : if enter then cursor.firstChild? else none with
    | none => exact ⟨_, .stay answer down⟩
    | some child =>
      cases enter with
      | false => cases down
      | true => exact ⟨_, .down answer down⟩
  | true =>
    -- On the way out of a node, its later siblings come before its parent.
    cases aside : cursor.nextSibling? with
    | some sibling => exact ⟨_, .aside aside⟩
    | none =>
      cases up : cursor.parent? with
      | none => exact absurd ⟨rfl, aside, up⟩ going
      | some parent =>
        have above : depth = parent.above.length + 1 := by
          have counted : depth = cursor.above.length := right
          rw [counted, Cursor.of_parent? up, List.length_cons]
        subst above
        exact ⟨_, .up aside up⟩

theorem wellFounded (visit : Visitor σ) :
    WellFounded fun next moment : Moment σ => Move visit moment next :=
  Subrelation.wf remaining_lt (measure Moment.remaining).wf

end Move

/-! ### All moves of a walk -/

namespace Moment

variable {state : σ} {tree : Cst} {moment : Moment σ}

theorem level_of_reached
    (reached : Relation.ReflTransGen (Move visit) (start state tree) moment) : moment.Level := by
  induction reached with
  | refl => rfl
  | tail _ move right => exact move.level right

theorem outcome_of_reached
    (reached : Relation.ReflTransGen (Move visit) (start state tree) moment) :
    moment.outcome visit = walkFrom visit state (Cursor.root tree) 0 := by
  induction reached with
  | refl => exact (walkFrom_eq visit state (Cursor.root tree) 0).symm
  | tail _ move same => exact move.outcome.trans same

/-- At the end nothing is left to visit. -/
theorem outcome_of_final (final : moment.Final) :
    moment.outcome visit = (moment.state, moment.depth) := by
  obtain ⟨visited, noSibling, noParent⟩ := final
  rw [outcome, if_pos visited, Cursor.later_eq_nil noSibling, Cursor.above_eq_nil noParent]
  rfl

/-- A walk comes to its end. -/
theorem exists_final (visit : Visitor σ) (right : moment.Level) :
    ∃ last, Relation.ReflTransGen (Move visit) moment last ∧ last.Final := by
  induction moment using (Move.wellFounded visit).induction with
  | _ moment ih =>
    by_cases final : moment.Final
    · exact ⟨moment, .refl, final⟩
    · -- After one move there is less left to do, so the rest of the walk comes to its end.
      obtain ⟨next, move⟩ : ∃ next, Move visit moment next := Move.exists_next right final
      obtain ⟨last, later, ends⟩ := ih next move (move.level right)
      exact ⟨last, .head move later, ends⟩

end Moment

/-! ### The calls of a visitor -/

/-- A visitor that keeps a record of its calls, each with the level of the node. -/
def Visitor.recording (visit : Visitor σ) : Visitor (σ × List (Cst × Nat)) :=
  fun (state, calls) node depth =>
    let (next, enter) := visit state node depth
    ((next, calls ++ [(node, depth)]), enter)

mutual

theorem preorder_recording (visit : Visitor σ) (state : σ) (calls : List (Cst × Nat)) (depth : Nat) :
    ∀ tree : Cst, (preorder visit.recording (state, calls) depth tree).1 =
      preorder visit state depth tree
  | .node label children => by
    rw [preorder, preorder, Visitor.recording]
    obtain ⟨⟨next, enter⟩, answer⟩ : ∃ answer, visit state (.node label children) depth = answer :=
      ⟨_, rfl⟩
    simp only [answer]
    cases enter with
    | false => rfl
    | true => exact preorderAll_recording visit next _ (depth + 1) children

theorem preorderAll_recording (visit : Visitor σ) (state : σ) (calls : List (Cst × Nat))
    (depth : Nat) : ∀ trees : List Cst,
      (preorderAll visit.recording (state, calls) depth trees).1 = preorderAll visit state depth trees
  | [] => rfl
  | tree :: rest => by
    obtain ⟨⟨next, made⟩, first⟩ :
        ∃ after, preorder visit.recording (state, calls) depth tree = after := ⟨_, rfl⟩
    have same := preorder_recording visit state calls depth tree
    rw [first] at same
    rw [preorderAll, preorderAll, first, ← same]
    exact preorderAll_recording visit next made depth rest

end

/-- A walk leaves the visitor in the state in which the recursion leaves it, after the same calls, on the
same nodes, at the same levels and in the same order. Move by move: no walk goes on forever, and each
comes to its end; at every moment the counter is the number of nodes above, so the walk goes on unless
it is at its end, and there the counter is back at 0. -/
theorem walk_visits_in_preorder (visit : Visitor σ) (state : σ) (tree : Cst) :
    walk visit state tree = preorder visit state 0 tree ∧
    walk visit.recording (state, []) tree = preorder visit.recording (state, []) 0 tree ∧
    (walk visit.recording (state, []) tree).1 = walk visit state tree ∧
    (walkFrom visit state (Cursor.root tree) 0).2 = 0 ∧
    WellFounded (fun next moment : Moment σ => Move visit moment next) ∧
    (∃ last, Relation.ReflTransGen (Move visit) (Moment.start state tree) last ∧ last.Final) ∧
    ∀ moment, Relation.ReflTransGen (Move visit) (Moment.start state tree) moment →
      moment.depth = moment.cursor.above.length ∧
      (¬ moment.Final → ∃ next, Move visit moment next) ∧
      (moment.Final → moment.state = walk visit state tree ∧ moment.depth = 0) := by
  have ended : (walkFrom visit state (Cursor.root tree) 0).2 = 0 := by
    -- At the root nothing is left above, so that the recursion ends at the level where it began.
    rw [walkFrom_eq]
    rfl
  refine ⟨walk_eq_preorder visit state tree, walk_eq_preorder _ _ tree, ?_, ended,
    Move.wellFounded visit, Moment.exists_final visit rfl, fun moment reached => ?_⟩
  · -- The record does not change the state, since it does not in the recursion.
    rw [walk_eq_preorder, walk_eq_preorder, preorder_recording]
  · have right := Moment.level_of_reached reached
    refine ⟨right, Move.exists_next right, fun final => ?_⟩
    -- What is left at the end is the outcome, and no move has changed it.
    have outcome := Moment.outcome_of_reached reached
    rw [Moment.outcome_of_final final] at outcome
    exact ⟨congrArg Prod.fst outcome, (congrArg Prod.snd outcome).trans ended⟩

/-- Counts the nodes, and enters the first two. -/
def enterTwo : Visitor Nat := fun count _ _ => (count + 1, count < 2)

/-- A tree with two inner nodes below the root. -/
def forkedTree : Cst :=
  .node { kind := "module" }
    [.node { kind := "block" } [.node { kind := "pass" } []],
      .node { kind := "call" } [.node { kind := "identifier" } []]]

theorem forkedTree_visited :
    ((walk enterTwo.recording (0, []) forkedTree).2.map fun call => (call.1.kind, call.2)) =
      [("module", 0), ("block", 1), ("pass", 2), ("call", 1)] ∧
    walk enterTwo 0 forkedTree = 4 ∧
    ∃ last, Relation.ReflTransGen (Move enterTwo) (Moment.start 0 forkedTree) last ∧
      last.Final ∧ last.state = 4 ∧ last.depth = 0 := by
  obtain ⟨walked, recorded, -, -, -, ⟨last, reached, final⟩, moments⟩ :=
    walk_visits_in_preorder enterTwo 0 forkedTree
  have four : walk enterTwo 0 forkedTree = 4 := walked.trans (by decide)
  obtain ⟨-, -, ends⟩ := moments last reached
  obtain ⟨state, depth⟩ := ends final
  exact ⟨by rw [recorded]; decide, four, last, reached, final, state.trans four, depth⟩

end ScopeCheck.Cst
