import ScopeCheck.Proofs.Cst.Way

/-!
# The parts of a node

Comments may stand anywhere in a construct, so the parts of a node are its children without the tokens
and the comments.
-/

namespace ScopeCheck.Cst

/-- Whether a node is a token or a comment. -/
def isFiller (tree : Cst) : Bool := !tree.named || tree.kind == "comment"

/-- The identifiers of a tree, in document order. -/
def identifiers (tree : Cst) : List Label :=
  (tree.nodes.filter fun found => found.2.kind == "identifier").map fun found => found.2.label

/-- The children of a node are some parts, in this order, with tokens and comments between them. -/
structure MadeOf (tree : Cst) (parts : List Cst) : Prop where
  parts_eq : (tree.children.filter fun child => !child.isFiller) = parts
  fillers : ∀ child ∈ tree.children, child.isFiller = true →
    child.label.field = none ∧ child.identifiers = []

/-- Identifiers are leaves, and none of them is hidden below a token. -/
def NamesExposed (tree : Cst) : Prop :=
  ∀ found ∈ tree.nodes, found.2.kind = "identifier" →
    found.2.children = [] ∧ ∀ step ∈ found.1, step.named = true

theorem flatMap_identifiers_steps (tree : Cst) :
    (tree.steps.flatMap fun step => step.child.identifiers) = tree.children.flatMap identifiers := by
  have children : tree.steps.map Step.child = tree.children := stepsFrom_map_child _ _ _
  rw [← children, List.flatMap_map]

theorem identifiers_eq (tree : Cst) :
    tree.identifiers =
      (if tree.kind = "identifier" then [tree.label] else []) ++ tree.children.flatMap identifiers := by
  -- The first of the nodes is the root, and the others follow step by step.
  rw [← flatMap_identifiers_steps, identifiers, nodes_node, List.filter_cons, List.filter_flatMap]
  have below : ∀ step : Step, ((step.child.nodes.map fun found => (step :: found.1, found.2)).filter
      fun found => found.2.kind == "identifier").map (fun found => found.2.label) =
        step.child.identifiers := by
    intro step
    rw [List.filter_map, List.map_map]
    rfl
  by_cases isName : tree.kind = "identifier"
  · simp [isName, List.map_flatMap, below]
  · simp [isName, List.map_flatMap, below]

theorem flatMap_filter_of_quiet {α β : Type} {keep : α → Bool} {give : α → List β} {items : List α}
    (quiet : ∀ item ∈ items, keep item = false → give item = []) :
    (items.filter keep).flatMap give = items.flatMap give := by
  induction items with
  | nil => rfl
  | cons item rest ih =>
    have later := ih fun other member => quiet other (List.mem_cons_of_mem _ member)
    rw [List.flatMap_cons, ← later]
    cases kept : keep item with
    | true => rw [List.filter_cons_of_pos kept, List.flatMap_cons]
    | false =>
      rw [List.filter_cons_of_neg (by simp [kept]), quiet item List.mem_cons_self kept, List.nil_append]

namespace MadeOf

variable {tree : Cst} {parts : List Cst}

theorem mem_iff (made : tree.MadeOf parts) {part : Cst} :
    part ∈ parts ↔ part ∈ tree.children ∧ part.named = true ∧ part.kind ≠ "comment" := by
  rw [← made.parts_eq, List.mem_filter]
  simp [isFiller]

/-- What the named children give is what the parts give, where comments give nothing. -/
theorem flatMap_named {α : Type} {give : Cst → List α} (made : tree.MadeOf parts)
    (quiet : ∀ child, child.kind = "comment" → child.label.field = none → give child = []) :
    (tree.children.filter named).flatMap give = parts.flatMap give := by
  have twice : parts =
      (tree.children.filter named).filter fun child => !(child.kind == "comment") := by
    rw [List.filter_filter, ← made.parts_eq]
    refine List.filter_congr fun child _ => ?_
    -- A part is a child that is named and no comment, in whichever order this is asked.
    rw [isFiller, Bool.not_or, Bool.not_not, Bool.and_comm]
  -- Named children that are no parts are comments, which stand in no field.
  rw [twice]
  refine (flatMap_filter_of_quiet fun child member dropped => ?_).symm
  have comment : child.kind = "comment" := by simpa using dropped
  have inside := List.mem_of_mem_filter member
  exact quiet child comment (made.fillers child inside (by simp [isFiller, comment])).1

theorem identifiers_eq (made : tree.MadeOf parts) (other : tree.kind ≠ "identifier") :
    tree.identifiers = parts.flatMap identifiers := by
  rw [Cst.identifiers_eq, if_neg other, List.nil_append, ← made.parts_eq]
  refine (flatMap_filter_of_quiet fun child member dropped => ?_).symm
  exact (made.fillers child member (by simpa using dropped)).2

/-- What stands in a field is a part. -/
theorem filter_inField (made : tree.MadeOf parts) (field : String) :
    (tree.children.filter fun child => child.label.field == some field) =
      parts.filter fun part => part.label.field == some field := by
  rw [← made.parts_eq, List.filter_filter]
  refine List.filter_congr fun child member => ?_
  cases filler : child.isFiller with
  | false => simp
  | true => simp [(made.fillers child member filler).1]

theorem firstInField?_eq (made : tree.MadeOf parts) (field : String) :
    firstInField? field tree.children = firstInField? field parts := by
  rw [firstInField?, firstInField?, ← List.head?_filter, made.filter_inField, List.head?_filter]

end MadeOf

theorem exists_step {tree child : Cst} (isChild : child ∈ tree.children) :
    ∃ step ∈ tree.steps, step.child = child := by
  rw [← stepsFrom_map_child tree.label [] tree.children] at isChild
  exact List.mem_map.mp isChild

theorem NamesExposed.child {tree child : Cst} (exposed : tree.NamesExposed)
    (isChild : child ∈ tree.children) : child.NamesExposed := by
  intro found member isName
  obtain ⟨step, isStep, rfl⟩ := exists_step isChild
  obtain ⟨leaf, named⟩ := exposed _ (mem_nodes_of_step isStep member) isName
  exact ⟨leaf, fun later inWay => named later (List.mem_cons_of_mem _ inWay)⟩

/-- There are no identifiers below a token. -/
theorem NamesExposed.identifiers_of_token {tree child : Cst} (exposed : tree.NamesExposed)
    (isChild : child ∈ tree.children) (token : child.named = false) : child.identifiers = [] := by
  obtain ⟨step, isStep, rfl⟩ := exists_step isChild
  rw [identifiers, List.map_eq_nil_iff, List.filter_eq_nil_iff]
  intro found member isName
  -- A name below the token would have only named nodes on the way to it, the token among them.
  have named := (exposed _ (mem_nodes_of_step isStep member) (by simpa using isName)).2
  have shown : step.child.named = true := named step List.mem_cons_self
  rw [token] at shown
  exact Bool.false_ne_true shown

end ScopeCheck.Cst
