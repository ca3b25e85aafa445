import ScopeCheck.Cst.Basic

/-!
# ScopeCheck.Cst.Walk

A walk calls a visitor on the nodes of a tree in document order. It is a loop over a cursor, which
knows the siblings to the right of every node on the way up, and needs no stack of calls.
-/

namespace ScopeCheck.Cst

/-- A visitor: from its state, a node and the level of the node to its next state, and whether the
children of the node are to be visited. -/
abbrev Visitor (σ : Type) := σ → Cst → Nat → σ × Bool

structure Cursor where
  node : Cst
  /-- The siblings to its right. -/
  later : List Cst
  /-- The nodes above it, innermost first, each with the siblings to its right. -/
  above : List (Cst × List Cst)

namespace Cursor

def root (tree : Cst) : Cursor := ⟨tree, [], []⟩

def firstChild? (cursor : Cursor) : Option Cursor :=
  match cursor.node.children with
  | [] => none
  | child :: rest => some ⟨child, rest, (cursor.node, cursor.later) :: cursor.above⟩

def nextSibling? (cursor : Cursor) : Option Cursor :=
  match cursor.later with
  | [] => none
  | sibling :: rest => some ⟨sibling, rest, cursor.above⟩

/-- The next sibling of the nearest node that has one, out of a list of nodes on the way up, with
the level of that node. The first node of the list lies at level `depth - 1`. -/
def climb (depth : Nat) : List (Cst × List Cst) → Option Cursor × Nat
  | [] => (none, depth)
  | (_, []) :: above => climb (depth - 1) above
  | (_, sibling :: rest) :: above => (some ⟨sibling, rest, above⟩, depth - 1)

/-- The node that follows all nodes below this one, with its level; this one lies at level
`depth`. -/
def skip (cursor : Cursor) (depth : Nat) : Option Cursor × Nat :=
  match cursor.nextSibling? with
  | some sibling => (some sibling, depth)
  | none => climb depth cursor.above

/-- The number of nodes to the right of some nodes on the way up. -/
def laterSize : List (Cst × List Cst) → Nat
  | [] => 0
  | (_, later) :: above => sizeAll later + laterSize above

/-- The number of nodes that a walk has still to visit. -/
def pending (cursor : Cursor) : Nat :=
  cursor.node.size + sizeAll cursor.later + laterSize cursor.above

/-- Going down leaves the node itself behind. -/
theorem pending_firstChild? {cursor child : Cursor} (h : cursor.firstChild? = some child) :
    child.pending < cursor.pending := by
  obtain ⟨⟨label, children⟩, later, above⟩ := cursor
  cases children with
  | nil => simp [firstChild?, Cst.children] at h
  | cons first rest =>
    -- The node is counted in what was left, and no more once the walk has left it.
    simp only [firstChild?, Cst.children, Option.some.injEq] at h
    subst h
    simp only [pending, laterSize, size, sizeAll]
    omega

/-- Climbing loses no node to the right. -/
theorem pending_climb {above : List (Cst × List Cst)} {depth : Nat} {next : Cursor}
    (h : (climb depth above).1 = some next) : next.pending ≤ laterSize above := by
  induction above generalizing depth with
  | nil => simp [climb] at h
  | cons level above ih =>
    obtain ⟨node, later⟩ := level
    cases later with
    | nil =>
      -- A level without siblings to the right has nothing to count.
      simpa [laterSize, sizeAll] using ih h
    | cons sibling rest =>
      simp only [climb, Option.some.injEq] at h
      subst h
      simp [pending, laterSize, sizeAll]

/-- What follows a node leaves the node itself behind. -/
theorem pending_skip {cursor next : Cursor} {depth : Nat}
    (h : (cursor.skip depth).1 = some next) : next.pending < cursor.pending := by
  obtain ⟨node, later, above⟩ := cursor
  have hpos := node.size_pos
  cases later with
  | nil =>
    have hle : next.pending ≤ laterSize above := pending_climb h
    show next.pending < node.size + 0 + laterSize above
    omega
  | cons sibling rest =>
    simp only [skip, nextSibling?, Option.some.injEq] at h
    subst h
    simp only [pending, sizeAll]
    omega

end Cursor

variable {σ : Type}

/-- Walks on from a cursor whose node lies at level `depth`. The answer holds the last state of the
visitor and the level that is reached at the end. -/
def walkFrom (visit : Visitor σ) (state : σ) (cursor : Cursor) (depth : Nat) : σ × Nat :=
  let (state, enter) := visit state cursor.node depth
  match hdown : if enter then cursor.firstChild? else none with
  | some child => walkFrom visit state child (depth + 1)
  | none =>
    match _hnext : cursor.skip depth with
    | (some next, depth) => walkFrom visit state next depth
    | (none, depth) => (state, depth)
termination_by cursor.pending
decreasing_by
  · -- The visitor wants to go down, and there is a child.
    have hchild : cursor.firstChild? = some child := by
      split at hdown
      · exact hdown
      · simp at hdown
    exact Cursor.pending_firstChild? hchild
  · exact Cursor.pending_skip (congrArg Prod.fst _hnext)

/-- Visits a tree in document order; the root lies at level 0. -/
def walk (visit : Visitor σ) (state : σ) (tree : Cst) : σ :=
  (walkFrom visit state (Cursor.root tree) 0).1

mutual

/-- Visits a tree whose root lies at level `depth`, by recursion. -/
def preorder (visit : Visitor σ) (state : σ) (depth : Nat) : Cst → σ
  | .node label children =>
    let (state, enter) := visit state (.node label children) depth
    if enter then preorderAll visit state (depth + 1) children else state

/-- Visits some trees one after the other, by recursion. -/
def preorderAll (visit : Visitor σ) (state : σ) (depth : Nat) : List Cst → σ
  | [] => state
  | tree :: rest => preorderAll visit (preorder visit state depth tree) depth rest

end

end ScopeCheck.Cst
