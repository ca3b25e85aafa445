import ScopeCheck.Proofs.Cst.Walk
import ScopeCheck.Proofs.Cst.Way

/-!
# Searching a tree

A walk that looks for something and stops at its first hit finds what stands first in the list of all
nodes in document order, each with the level at which it lies.
-/

namespace ScopeCheck.Cst

/-- The first node in document order that satisfies a condition on it and its level. -/
def first? (tree : Cst) (condition : Cst → Nat → Bool) : Option Cst :=
  (tree.nodes.find? fun found => condition found.2 found.1.length).map Prod.snd

/-- The visitor that keeps its first hit and enters no node after it. -/
def searching {α : Type} (probe : Cst → Nat → Option α) : Visitor (Option α) :=
  fun found node level =>
    if found.isSome then (found, false)
    else
      match probe node level with
      | some hit => (some hit, false)
      | none => (none, true)

theorem first?_eq_none_iff {tree : Cst} {condition : Cst → Nat → Bool} :
    tree.first? condition = none ↔
      ∀ found ∈ tree.nodes, condition found.2 found.1.length = false := by
  simp [first?]

theorem mem_nodesBelow {parent : Label} {before children : List Cst} {found : Way × Cst}
    (member : found ∈ nodesBelow parent before children) :
    ∃ child ∈ children, ∃ inner ∈ child.nodes,
      found.2 = inner.2 ∧ found.1.length = inner.1.length + 1 := by
  rw [nodesBelow_eq, List.mem_flatMap] at member
  -- The way to the node begins with a step to the child.
  obtain ⟨step, isStep, inside⟩ := member
  obtain ⟨inner, isInner, rfl⟩ := List.mem_map.mp inside
  exact ⟨step.child, (of_mem_stepsFrom isStep).2.2, inner, isInner, rfl, rfl⟩

theorem exists_mem_nodesBelow (parent : Label) (before : List Cst) {children : List Cst}
    {child : Cst} (isChild : child ∈ children) {inner : Way × Cst} (member : inner ∈ child.nodes) :
    ∃ found ∈ nodesBelow parent before children,
      found.2 = inner.2 ∧ found.1.length = inner.1.length + 1 := by
  rw [← stepsFrom_map_child parent before children, List.mem_map] at isChild
  obtain ⟨step, isStep, rfl⟩ := isChild
  refine ⟨(step :: inner.1, inner.2), ?_, rfl, rfl⟩
  rw [nodesBelow_eq]
  exact List.mem_flatMap.mpr ⟨step, isStep, List.mem_map.mpr ⟨inner, member, rfl⟩⟩

section Search

variable {α : Type} {probe : Cst → Nat → Option α}

/-- After a hit the search changes nothing. -/
theorem preorder_searching_some (hit : α) (level : Nat) (tree : Cst) :
    preorder (searching probe) (some hit) level tree = some hit := by
  cases tree with
  | node label children => rfl

theorem preorderAll_searching_some (hit : α) (level : Nat) (trees : List Cst) :
    preorderAll (searching probe) (some hit) level trees = some hit := by
  induction trees with
  | nil => rfl
  | cons tree rest ih => rw [preorderAll, preorder_searching_some, ih]

mutual

/-- A search below a level finds the first node with a hit, whose level is counted from there. -/
theorem preorder_searching (level : Nat) (tree : Cst) :
    preorder (searching probe) none level tree =
      tree.nodes.findSome? fun found => probe found.2 (level + found.1.length) := by
  obtain ⟨label, children⟩ := tree
  rw [nodes, List.findSome?_cons]
  simp only [List.length_nil, Nat.add_zero]
  cases here : probe (.node label children) level with
  | some hit => simp [preorder, searching, here]
  | none =>
    -- Otherwise the search goes on in the children, one level further down.
    have entered : preorder (searching probe) none level (.node label children) =
        preorderAll (searching probe) none (level + 1) children := by
      simp [preorder, searching, here]
    rw [entered]
    exact preorderAll_searching level label [] children

theorem preorderAll_searching (level : Nat) (parent : Label) (before children : List Cst) :
    preorderAll (searching probe) none (level + 1) children =
      (nodesBelow parent before children).findSome? fun found =>
        probe found.2 (level + found.1.length) := by
  cases children with
  | nil => rfl
  | cons child after =>
    -- A way to a node below the child is one step longer than the way from the child.
    have inner : ((nodes child).map fun found =>
        (⟨parent, before, child, after⟩ :: found.1, found.2)).findSome?
          (fun found => probe found.2 (level + found.1.length)) =
        preorder (searching probe) none (level + 1) child := by
      rw [preorder_searching (level + 1) child, List.findSome?_map]
      refine congrArg (List.findSome? · _) (funext fun found => ?_)
      simp only [Function.comp_apply, List.length_cons]
      rw [Nat.add_right_comm, Nat.add_assoc]
    rw [preorderAll, nodesBelow, List.findSome?_append, inner]
    cases preorder (searching probe) none (level + 1) child with
    | some hit => rw [preorderAll_searching_some, Option.some_or]
    | none =>
      rw [Option.none_or]
      exact preorderAll_searching level parent (before ++ [child]) after

end

/-- A search over a tree finds the first hit in document order. -/
theorem walk_searching (probe : Cst → Nat → Option α) (tree : Cst) :
    walk (searching probe) none tree =
      tree.nodes.findSome? fun found => probe found.2 found.1.length := by
  rw [walk_eq_preorder, preorder_searching]
  simp only [Nat.zero_add]

/-- A search for nodes that satisfy a condition gives what is asked of the first of them. -/
theorem findSome?_nodes (condition : Cst → Nat → Bool) (value : Cst → α) (tree : Cst) :
    (tree.nodes.findSome? fun found =>
      if condition found.2 found.1.length then some (value found.2) else none) =
        (tree.first? condition).map value := by
  rw [first?]
  induction tree.nodes with
  | nil => rfl
  | cons found rest ih =>
    rw [List.findSome?_cons, List.find?_cons]
    -- Both lists are searched to the first node that satisfies the condition.
    cases condition found.2 found.1.length with
    | true => rfl
    | false => exact ih

end Search

/-! ### Levels -/

theorem find?_nodesBelow_congr (condition other : Cst → Nat → Bool) {parent : Label}
    (before : List Cst) {children : List Cst}
    (same : ∀ child ∈ children,
      (child.nodes.find? fun found => condition found.2 (found.1.length + 1)) =
        child.nodes.find? fun found => other found.2 (found.1.length + 1)) :
    ((nodesBelow parent before children).find? fun found => condition found.2 found.1.length) =
      (nodesBelow parent before children).find? fun found => other found.2 found.1.length := by
  induction children generalizing before with
  | nil => rfl
  | cons child after ih =>
    rw [nodesBelow, List.find?_append, List.find?_append, List.find?_map, List.find?_map]
    have here := same child List.mem_cons_self
    have later := ih (before ++ [child]) fun other member =>
      same other (List.mem_cons_of_mem _ member)
    rw [later]
    exact congrArg₂ Option.or (congrArg (Option.map _) here) rfl

/-- The first node that lies beyond a level lies directly below that level. -/
theorem first?_beyond (level : Nat) (tree : Cst) :
    (tree.first? fun _ depth => level < depth) = tree.first? fun _ depth => depth = level + 1 := by
  have same : (tree.nodes.find? fun found => decide (level < found.1.length)) =
      tree.nodes.find? fun found => decide (found.1.length = level + 1) := by
    induction level generalizing tree with
    | zero =>
      obtain ⟨label, children⟩ := tree
      rw [nodes, List.find?_cons, List.find?_cons]
      refine find?_nodesBelow_congr (fun _ depth => decide (0 < depth))
        (fun _ depth => decide (depth = 1)) [] fun child _ => ?_
      rw [nodes_node child]
      rfl
    -- A node below a child lies beyond the level if it lies beyond one less, counted from the
    -- child.
    | succ level ih =>
      obtain ⟨label, children⟩ := tree
      rw [nodes, List.find?_cons, List.find?_cons]
      refine find?_nodesBelow_congr (fun _ depth => decide (level + 1 < depth))
        (fun _ depth => decide (depth = level + 2)) [] fun child _ => ?_
      simpa using ih child
  rw [first?, first?, same]

/-- The height of a tree bounds the levels of its nodes. -/
theorem height_le_iff {tree : Cst} {bound : Nat} :
    tree.height ≤ bound ↔ ∀ found ∈ tree.nodes, found.1.length ≤ bound := by
  induction tree using induction generalizing bound with
  | node label children ih =>
    rw [height, levels_le_iff, nodes, List.forall_mem_cons]
    constructor
    · intro low
      refine ⟨Nat.zero_le _, fun found member => ?_⟩
      -- Each node below the root lies in the tree of a child.
      obtain ⟨child, isChild, inner, isInner, _, length⟩ := mem_nodesBelow member
      have level := (ih child isChild).mp (Nat.le_refl child.height) inner isInner
      have reached := low child isChild
      omega
    · rintro ⟨-, low⟩ child isChild
      have below : ∀ inner ∈ child.nodes, inner.1.length + 1 ≤ bound := by
        intro inner isInner
        obtain ⟨found, member, _, length⟩ := exists_mem_nodesBelow label [] isChild isInner
        have level := low found member
        omega
      -- The child itself lies at level 1, so that the bound is not 0.
      have own : 1 ≤ bound := below ([], child) child.root_mem_nodes
      have inside : child.height ≤ bound - 1 :=
        (ih child isChild).mpr fun inner isInner => Nat.le_sub_one_of_lt (below inner isInner)
      omega

end ScopeCheck.Cst
