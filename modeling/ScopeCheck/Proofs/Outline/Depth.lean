import ScopeCheck.Proofs.Outline.Origin
import ScopeCheck.Proofs.Scope.Ownership
import ScopeCheck.Proofs.SourceFile.Nesting

/-!
# How deep an outline is, and at which lines it stands

No construct adds a level: a part of an outline lies no deeper in it than the node that gave it lies in
the tree. In the same way no construct makes up a line.
-/

namespace ScopeCheck

open Cst (Label)

namespace Outline

mutual

/-- The lines at which the definitions, bindings and references of a part stand. -/
def lines : Outline → List Nat
  | .module children | .group _ children => linesAll children
  | .function _ line _ children | .classDef _ line children => line :: linesAll children
  | .binding _ line | .reference _ line => [line]

def linesAll : List Outline → List Nat
  | [] => []
  | part :: rest => lines part ++ linesAll rest

end

theorem linesAll_subset_iff {parts : List Outline} {bound : List Nat} :
    linesAll parts ⊆ bound ↔ ∀ part ∈ parts, part.lines ⊆ bound := by
  induction parts with
  | nil => simp [linesAll]
  | cons part rest ih => simp only [linesAll, List.append_subset, ih, List.forall_mem_cons]

mutual

theorem line_mem_of_mem_definitions (part : Outline) :
    ∀ scope ∈ part.definitions, scope.line ∈ part.lines := by
  cases part with
  | module children =>
    rw [definitions, lines]
    exact line_mem_of_mem_definitionsAll children
  | group kind children =>
    rw [definitions, lines]
    exact line_mem_of_mem_definitionsAll children
  -- The definition comes after those inside it, and its line before theirs.
  | function name line params children =>
    intro scope member
    rw [definitions, List.mem_append] at member
    rw [lines]
    rcases member with inner | own
    · exact List.mem_cons_of_mem _ (line_mem_of_mem_definitionsAll children scope inner)
    · obtain rfl := List.mem_singleton.mp own
      exact List.mem_cons_self
  | classDef name line children =>
    intro scope member
    rw [definitions, List.mem_append] at member
    rw [lines]
    rcases member with inner | own
    · exact List.mem_cons_of_mem _ (line_mem_of_mem_definitionsAll children scope inner)
    · obtain rfl := List.mem_singleton.mp own
      exact List.mem_cons_self
  | binding name line => simp [definitions]
  | reference name line => simp [definitions]

theorem line_mem_of_mem_definitionsAll (parts : List Outline) :
    ∀ scope ∈ definitionsAll parts, scope.line ∈ linesAll parts := by
  cases parts with
  | nil => simp [definitionsAll]
  | cons part rest =>
    intro scope member
    rw [definitionsAll, List.mem_append] at member
    rw [linesAll, List.mem_append]
    exact member.imp (line_mem_of_mem_definitions part scope)
      (line_mem_of_mem_definitionsAll rest scope)

end

end Outline

/-- No construct adds a level. -/
theorem height_inherited : Inherited fun tree part => part.height ≤ tree.height := by
  -- A group or a definition is one level above its parts, as a node is above its children.
  have contained : ∀ {tree : Cst} {parts : List Outline},
      (∀ part ∈ parts, ∃ child ∈ tree.children, part.height ≤ child.height) →
        Outline.levels parts ≤ tree.height := by
    intro tree parts given
    refine Outline.levels_le_iff.mpr fun part member => ?_
    obtain ⟨child, isChild, bound⟩ := given part member
    exact Nat.lt_of_le_of_lt bound (Cst.height_child_lt isChild)
  exact {
    binding := fun _ _ => Nat.zero_le _
    reference := fun _ _ => Nat.zero_le _
    lift := fun isChild bound => Nat.le_trans bound (Cst.height_child_lt isChild).le
    group := fun _ => contained
    function := fun _ _ _ => contained
    classDef := fun _ _ => contained }

/-- No construct makes up a line. -/
theorem lines_inherited : Inherited fun tree part => part.lines ⊆ tree.lines := by
  -- The lines of the parts are lines of children, and so of the node.
  have contained : ∀ {tree : Cst} {parts : List Outline},
      (∀ part ∈ parts, ∃ child ∈ tree.children, part.lines ⊆ child.lines) →
        Outline.linesAll parts ⊆ tree.lines := by
    intro tree parts given
    refine Outline.linesAll_subset_iff.mpr fun part member => ?_
    obtain ⟨child, isChild, subset⟩ := given part member
    exact List.Subset.trans subset (Cst.lines_child_subset isChild)
  exact {
    binding := fun _ line => List.cons_subset.mpr ⟨line, List.nil_subset _⟩
    reference := fun _ line => List.cons_subset.mpr ⟨line, List.nil_subset _⟩
    lift := fun isChild subset => List.Subset.trans subset (Cst.lines_child_subset isChild)
    group := fun _ => contained
    function := fun _ _ line given => List.cons_subset.mpr ⟨line, contained given⟩
    classDef := fun _ line given => List.cons_subset.mpr ⟨line, contained given⟩ }

namespace SourceFile

theorem mem_root_parts {holds : Cst → Outline → Prop} (inherited : Inherited holds)
    {file : SourceFile} {part : Outline}
    (member : part ∈ readEach file.textOf
      (Role.onNamed (fun _ => .read) (file.tree.children.map Cst.label)) file.tree.children) :
    ∃ child ∈ file.tree.children, holds child part :=
  Inherited.pass (fun child _ => inherited.readAs child)
    (Role.onNamed_ordinary (fun _ => by trivial) _) member

/-- A file that is not nested too deeply has an outline, which is no higher than its tree. -/
theorem outline_of_shallow {file : SourceFile} (shallow : file.tooDeep? = none) :
    ∃ outline, file.outline = .ok outline ∧ outline.height ≤ file.tree.height := by
  refine ⟨_, by rw [SourceFile.outline, shallow], ?_⟩
  refine Outline.levels_le_iff.mpr fun part member => ?_
  obtain ⟨child, isChild, bound⟩ := mem_root_parts height_inherited member
  exact Nat.lt_of_le_of_lt bound (Cst.height_child_lt isChild)

/-- Every line of an outline is that of a node. -/
theorem outline_lines {file : SourceFile} {outline : Outline} (read : file.outline = .ok outline) :
    outline.lines ⊆ file.tree.lines := by
  rw [SourceFile.outline] at read
  split at read
  · cases read
  · cases read
    refine Outline.linesAll_subset_iff.mpr fun part member => ?_
    obtain ⟨child, isChild, subset⟩ := mem_root_parts lines_inherited member
    exact List.Subset.trans subset (Cst.lines_child_subset isChild)

end SourceFile

end ScopeCheck
