import Mathlib.Data.List.Nodup
import ScopeCheck.Proofs.Cst.Shape

/-!
# The way to a node

A node is known by the way that leads to it from the root. Each step goes from a node down to one of
its children, and shows the label of the node and the other children on both sides.
-/

namespace ScopeCheck.Cst

/-- A step from a node down to one of its children. -/
structure Step where
  parent : Label
  before : List Cst
  child : Cst
  after : List Cst

/-- The steps that lead from the root to a node. -/
abbrev Way := List Step

/-- Which child is taken at each step, counted from 0. -/
abbrev Path := List Nat

def Way.path (way : Way) : Path := way.map fun step => step.before.length

namespace Step

def siblings (step : Step) : List Cst := step.before ++ step.child :: step.after

def named (step : Step) : Bool := step.child.named

def inField (step : Step) (field : String) : Bool := step.child.label.field == some field

/-- Whether no child before this one satisfies a condition that this one satisfies. -/
def isFirst (step : Step) (condition : Label → Bool) : Bool :=
  condition step.child.label && !step.before.any fun earlier => condition earlier.label

def isFirstIn (step : Step) (field : String) : Bool :=
  step.isFirst fun label => label.field == some field

end Step

/-- The steps from a node to those of its children that follow some others. -/
def stepsFrom (parent : Label) (before : List Cst) : List Cst → List Step
  | [] => []
  | child :: after =>
    ⟨parent, before, child, after⟩ :: stepsFrom parent (before ++ [child]) after

def steps (tree : Cst) : List Step := stepsFrom tree.label [] tree.children

mutual

/-- All nodes of a tree, each with the way to it. -/
def nodes : Cst → List (Way × Cst)
  | .node label children => ([], .node label children) :: nodesBelow label [] children

/-- All nodes below those children of a node that follow some others. -/
def nodesBelow (parent : Label) (before : List Cst) : List Cst → List (Way × Cst)
  | [] => []
  | child :: after =>
    (nodes child).map (fun found => (⟨parent, before, child, after⟩ :: found.1, found.2)) ++
      nodesBelow parent (before ++ [child]) after

end

theorem stepsFrom_map_child (parent : Label) (before children : List Cst) :
    (stepsFrom parent before children).map Step.child = children := by
  induction children generalizing before with
  | nil => rfl
  | cons child after ih => rw [stepsFrom, List.map_cons, ih]

/-- A step shows all children of its parent. -/
theorem of_mem_stepsFrom {parent : Label} {before children : List Cst} {step : Step}
    (member : step ∈ stepsFrom parent before children) :
    step.parent = parent ∧ step.siblings = before ++ children ∧ step.child ∈ children := by
  induction children generalizing before with
  | nil => simp [stepsFrom] at member
  | cons child after ih =>
    rcases List.mem_cons.mp member with rfl | later
    · exact ⟨rfl, rfl, List.mem_cons_self⟩
    · -- A later step shows the child among those before it.
      obtain ⟨sameParent, sameSiblings, isChild⟩ := ih later
      exact ⟨sameParent, by rw [sameSiblings, List.append_assoc]; rfl,
        List.mem_cons_of_mem _ isChild⟩

theorem of_mem_steps {tree : Cst} {step : Step} (member : step ∈ tree.steps) :
    step.parent = tree.label ∧ step.siblings = tree.children ∧ step.child ∈ tree.children :=
  of_mem_stepsFrom member

theorem parent_kind {tree : Cst} {step : Step} (member : step ∈ tree.steps) :
    step.parent.kind = tree.kind := congrArg Label.kind (of_mem_steps member).1

/-- Steps to different children differ in the number of children before. -/
theorem stepsFrom_pairwise (parent : Label) (before children : List Cst) :
    (stepsFrom parent before children).Pairwise
      (fun first later => first.before.length < later.before.length) ∧
    ∀ step ∈ stepsFrom parent before children, before.length ≤ step.before.length := by
  induction children generalizing before with
  | nil => simp [stepsFrom]
  | cons child after ih =>
    obtain ⟨ascending, bound⟩ := ih (before ++ [child])
    rw [List.length_append, List.length_singleton] at bound
    constructor
    · exact List.pairwise_cons.mpr ⟨bound, ascending⟩
    · intro step member
      rcases List.mem_cons.mp member with rfl | later
      · exact Nat.le_refl _
      · exact Nat.le_of_succ_le (bound step later)

theorem before_subset {parent : Label} {before children : List Cst} {step : Step}
    (member : step ∈ stepsFrom parent before children) : before ⊆ step.before := by
  induction children generalizing before with
  | nil => simp [stepsFrom] at member
  | cons child after ih =>
    rcases List.mem_cons.mp member with rfl | later
    · exact List.Subset.refl before
    · exact List.Subset.trans (List.subset_append_left before [child]) (ih later)

theorem any_before {parent : Label} {before children : List Cst} {condition : Cst → Bool}
    (met : before.any condition = true) :
    ∀ step ∈ stepsFrom parent before children, step.before.any condition = true := by
  intro step member
  obtain ⟨earlier, inBefore, satisfies⟩ := List.any_eq_true.mp met
  exact List.any_eq_true.mpr ⟨earlier, before_subset member inBefore, satisfies⟩

theorem isFirst_of_met {parent : Label} {before children : List Cst} {condition : Label → Bool}
    (met : before.any (fun earlier => condition earlier.label) = true) :
    ∀ step ∈ stepsFrom parent before children, step.isFirst condition = false := by
  intro step member
  rw [Step.isFirst, any_before met step member]
  simp

theorem isFirstIn_of_ne {step : Step} {field other : String} (first : step.isFirstIn field = true)
    (different : field ≠ other) : step.isFirstIn other = false := by
  simp only [Step.isFirstIn, Step.isFirst, Bool.and_eq_true, beq_iff_eq] at first ⊢
  simp [first.1, different]

/-- The first child that satisfies a condition is the one that a search for it finds. -/
theorem find?_of_isFirst {step : Step} {condition : Label → Bool}
    (first : step.isFirst condition = true) :
    step.siblings.find? (fun sibling => condition sibling.label) = some step.child := by
  simp only [Step.isFirst, Bool.and_eq_true, Bool.not_eq_true', List.any_eq_false] at first
  have before : step.before.find? (fun sibling => condition sibling.label) = none :=
    List.find?_eq_none.mpr first.2
  rw [Step.siblings, List.find?_append, before, Option.none_or]
  simp [first.1]

/-- Either no child satisfies a condition, or there is a step to the first one that does, and only this
step gives anything where the other children are passed over. -/
theorem exists_first (parent : Label) (before children : List Cst) (condition : Label → Bool)
    (fresh : before.any (fun earlier => condition earlier.label) = false) :
    (children.find? (fun child => condition child.label) = none ∧
      ∀ step ∈ stepsFrom parent before children, step.isFirst condition = false) ∨
    ∃ step ∈ stepsFrom parent before children, step.isFirst condition = true ∧
      children.find? (fun child => condition child.label) = some step.child ∧
      step.before.length =
        before.length + children.findIdx (fun child => condition child.label) ∧
      ∀ (α : Type) (give : Step → List α), ((stepsFrom parent before children).flatMap fun step =>
        if step.isFirst condition then give step else []) = give step := by
  induction children generalizing before with
  | nil => exact .inl ⟨rfl, by simp [stepsFrom]⟩
  | cons child after ih =>
    by_cases here : condition child.label = true
    · -- The first child is the one, and none after it can be the first.
      have met : (before ++ [child]).any (fun earlier => condition earlier.label) = true := by
        simp [here]
      have first : Step.isFirst ⟨parent, before, child, after⟩ condition = true := by
        simp [Step.isFirst, here, fresh]
      refine .inr ⟨_, List.mem_cons_self, first, by simp [here], by simp [List.findIdx_cons, here], ?_⟩
      intro α give
      have later : ((stepsFrom parent (before ++ [child]) after).flatMap fun step =>
          if step.isFirst condition then give step else []) = [] := by
        refine List.flatMap_eq_nil_iff.mpr fun step member => ?_
        rw [isFirst_of_met met step member]
        rfl
      rw [stepsFrom, List.flatMap_cons, if_pos first, later, List.append_nil]
    · have other : Step.isFirst ⟨parent, before, child, after⟩ condition = false := by
        simp [Step.isFirst, here]
      have next : (child :: after).find? (fun child => condition child.label) =
          after.find? fun child => condition child.label := by
        simp [here]
      rw [next]
      rcases ih (before ++ [child]) (by simpa [here] using fresh) with
        ⟨none, nowhere⟩ | ⟨step, member, first, found, index, given⟩
      · exact .inl ⟨none, List.forall_mem_cons.mpr ⟨other, nowhere⟩⟩
      · refine .inr ⟨step, List.mem_cons_of_mem _ member, first, found, ?_, fun α give => ?_⟩
        · rw [index, List.findIdx_cons]
          simp only [here, List.length_append, List.length_singleton, cond_false]
          omega
        · rw [stepsFrom, List.flatMap_cons, other, given]
          rfl

theorem nodesBelow_eq (parent : Label) (before children : List Cst) :
    nodesBelow parent before children = (stepsFrom parent before children).flatMap fun step =>
      step.child.nodes.map fun found => (step :: found.1, found.2) := by
  induction children generalizing before with
  | nil => rfl
  | cons child after ih => rw [nodesBelow, stepsFrom, List.flatMap_cons, ih]

theorem nodes_node (tree : Cst) :
    tree.nodes = ([], tree) :: tree.steps.flatMap fun step =>
      step.child.nodes.map fun found => (step :: found.1, found.2) := by
  cases tree with
  | node label children =>
    rw [nodes, nodesBelow_eq]
    rfl

theorem mem_nodes_iff {tree : Cst} {found : Way × Cst} :
    found ∈ tree.nodes ↔ found = ([], tree) ∨
      ∃ step ∈ tree.steps, ∃ inner ∈ step.child.nodes, (step :: inner.1, inner.2) = found := by
  rw [nodes_node, List.mem_cons]
  simp only [List.mem_flatMap, List.mem_map]

theorem mem_nodes_nil_iff {tree node : Cst} : ([], node) ∈ tree.nodes ↔ node = tree := by
  rw [mem_nodes_iff]
  simp

theorem mem_nodes_cons_iff {tree node : Cst} {step : Step} {way : Way} :
    (step :: way, node) ∈ tree.nodes ↔ step ∈ tree.steps ∧ (way, node) ∈ step.child.nodes := by
  rw [mem_nodes_iff]
  constructor
  · rintro (root | ⟨first, isStep, inner, inside, same⟩)
    · cases root
    · cases same
      exact ⟨isStep, inside⟩
  · rintro ⟨isStep, inside⟩
    exact .inr ⟨step, isStep, _, inside, rfl⟩

theorem getLast?_child {tree node : Cst} {way : Way} (member : (way, node) ∈ tree.nodes) {step : Step}
    (last : way.getLast? = some step) : step.child = node := by
  induction way generalizing tree with
  | nil => cases last
  | cons first way ih =>
    obtain ⟨-, inside⟩ := mem_nodes_cons_iff.mp member
    cases way with
    | nil =>
      cases last
      exact (mem_nodes_nil_iff.mp inside).symm
    | cons next way =>
      rw [List.getLast?_cons_cons] at last
      exact ih inside last

theorem root_mem_nodes (tree : Cst) : ([], tree) ∈ tree.nodes := mem_nodes_iff.mpr (.inl rfl)

theorem mem_nodes_of_step {tree : Cst} {step : Step} (isStep : step ∈ tree.steps)
    {found : Way × Cst} (member : found ∈ step.child.nodes) :
    (step :: found.1, found.2) ∈ tree.nodes :=
  mem_nodes_iff.mpr (.inr ⟨step, isStep, found, member, rfl⟩)

theorem mem_nodes_trans {tree : Cst} {outer inner : Way × Cst} (isOuter : outer ∈ tree.nodes)
    (isInner : inner ∈ outer.2.nodes) : (outer.1 ++ inner.1, inner.2) ∈ tree.nodes := by
  induction tree using induction generalizing outer with
  | node label children ih =>
    rcases mem_nodes_iff.mp isOuter with rfl | ⟨step, isStep, found, isFound, rfl⟩
    · exact isInner
    · have below := ih step.child (of_mem_steps isStep).2.2 isFound isInner
      exact mem_nodes_of_step isStep below

/-- In document order the paths of the nodes ascend: a node comes before those below it, and these
before all nodes to the right of it. -/
theorem paths_ascending (tree : Cst) :
    (tree.nodes.map fun found => found.1.path).Pairwise (· < ·) := by
  induction tree using induction with
  | node label children ih =>
    have paths : ((Cst.node label children).nodes.map fun found => found.1.path) =
        [] :: (Cst.node label children).steps.flatMap fun step =>
          (step.child.nodes.map fun found => found.1.path).map (step.before.length :: ·) := by
      rw [nodes_node]
      simp [Way.path, List.map_flatMap, Function.comp_def]
    rw [paths, List.pairwise_cons, List.pairwise_flatMap]
    -- Paths below one child ascend by the induction, and paths below two of them in the first step.
    refine ⟨fun path inside => ?_, fun step member => ?_, ?_⟩
    · -- The empty path of the root comes before all others.
      obtain ⟨step, _, below⟩ := List.mem_flatMap.mp inside
      obtain ⟨_, _, rfl⟩ := List.mem_map.mp below
      exact List.nil_lt_cons _ _
    · have below := ih step.child (of_mem_steps member).2.2
      exact List.pairwise_map.mpr (below.imp List.cons_lt_cons_self.mpr)
    · refine (stepsFrom_pairwise label [] children).1.imp fun {first later} earlier => ?_
      -- Of two steps the one to the earlier child comes first.
      intro path inFirst pathLater inLater
      obtain ⟨_, _, rfl⟩ := List.mem_map.mp inFirst
      obtain ⟨_, _, rfl⟩ := List.mem_map.mp inLater
      exact List.cons_lt_cons_iff.mpr (.inl earlier)

/-- No two nodes are reached by the same path. -/
theorem paths_nodup (tree : Cst) : (tree.nodes.map fun found => found.1.path).Nodup := by
  -- A path that ascends to itself would be less than itself.
  refine tree.paths_ascending.imp fun {first later} before same => ?_
  exact List.lt_irrefl first (same ▸ before)

end ScopeCheck.Cst
