import ScopeCheck.Proofs.Scope.Isolation

/-!
# What a walk leaves alone

A walk over a part opens and closes scopes on top of those that it found open. When it comes back they
are all there again, and only the innermost one has taken in names.
-/

namespace ScopeCheck

/-! ### Names that lie open -/

def Occurrence.part : Occurrence → Outline
  | ⟨.binding, name, line⟩ => .binding name line
  | ⟨.reference, name, line⟩ => .reference name line

namespace Outline

/-- A part lies open in an outline when no definition of the outline is above it. -/
inductive LiesOpenIn (part : Outline) : Outline → Prop
  | itself : LiesOpenIn part part
  | inside {outline child : Outline} :
    outline.isDefinition = false → child ∈ outline.children → LiesOpenIn part child →
    LiesOpenIn part outline

theorem mem_ownedAll_iff {occurrence : Occurrence} {parts : List Outline} :
    occurrence ∈ ownedAll parts ↔ ∃ part ∈ parts, occurrence ∈ part.owned := by
  induction parts with
  | nil => simp [ownedAll]
  | cons part rest ih => simp only [ownedAll, List.mem_append, ih, List.exists_mem_cons_iff]

theorem owned_subset {outline child : Outline} (isOpen : outline.isDefinition = false)
    (isChild : child ∈ outline.children) : child.owned ⊆ outline.owned := by
  intro occurrence member
  have inside : occurrence ∈ ownedAll outline.children := mem_ownedAll_iff.mpr ⟨child, isChild, member⟩
  cases outline with
  | module children | group kind children =>
    rw [owned]
    exact inside
  -- The definitions keep their names, and names have no parts.
  | function | classDef => cases isOpen
  | binding | reference => cases isChild

mutual

theorem liesOpenIn_of_mem_owned {occurrence : Occurrence} (outline : Outline)
    (member : occurrence ∈ outline.owned) : occurrence.part.LiesOpenIn outline := by
  cases outline with
  | binding name line | reference name line =>
    rw [owned, List.mem_singleton] at member
    subst member
    exact .itself
  | module children | group kind children =>
    rw [owned] at member
    obtain ⟨child, isChild, lies⟩ := liesOpenIn_of_mem_ownedAll children member
    exact .inside rfl isChild lies
  | function | classDef =>
    rw [owned] at member
    cases member

theorem liesOpenIn_of_mem_ownedAll {occurrence : Occurrence} (parts : List Outline)
    (member : occurrence ∈ ownedAll parts) :
    ∃ part ∈ parts, occurrence.part.LiesOpenIn part := by
  cases parts with
  | nil => cases member
  | cons part rest =>
    rw [ownedAll] at member
    rcases List.mem_append.mp member with here | later
    · exact ⟨part, List.mem_cons_self, liesOpenIn_of_mem_owned part here⟩
    · obtain ⟨other, isLater, lies⟩ := liesOpenIn_of_mem_ownedAll rest later
      exact ⟨other, List.mem_cons_of_mem _ isLater, lies⟩

end

/-- The occurrences that an outline leaves to the scope around it are those that lie open in it. -/
theorem mem_owned_iff {occurrence : Occurrence} {outline : Outline} :
    occurrence ∈ outline.owned ↔ occurrence.part.LiesOpenIn outline := by
  constructor
  · exact liesOpenIn_of_mem_owned outline
  · intro lies
    induction lies with
    | itself =>
      obtain ⟨usage, name, line⟩ := occurrence
      -- A name of either usage leaves one occurrence, which is its own.
      cases usage with
      | binding | reference => exact List.mem_singleton_self _
    | inside isOpen isChild _ ih => exact owned_subset isOpen isChild ih

end Outline

theorem ScopeContents.mem_namesUsed_owned {usage : Usage} {name : String} {outline : Outline} :
    name ∈ namesUsed usage outline.owned ↔
      ∃ line, (Occurrence.part ⟨usage, name, line⟩).LiesOpenIn outline := by
  simp only [namesUsed, List.mem_map, List.mem_filter, decide_eq_true_eq, Outline.mem_owned_iff]
  constructor
  · rintro ⟨⟨_, _, line⟩, ⟨lies, rfl⟩, rfl⟩
    exact ⟨line, lies⟩
  · rintro ⟨line, lies⟩
    exact ⟨_, ⟨lies, rfl⟩, rfl⟩

/-! ### The frame of a walk -/

/-- A scope after a walk over a part: it has become larger by the names that lie open there. -/
structure Scope.TakesIn (scope : Scope) (part : Outline) (later : Scope) : Prop where
  kind : later.kind = scope.kind
  line : later.line = scope.line
  bound : ∀ name, name ∈ later.bound ↔
    name ∈ scope.bound ∨ ∃ line, (Outline.binding name line).LiesOpenIn part
  read : ∀ name, name ∈ later.read ↔
    name ∈ scope.read ∨ ∃ line, (Outline.reference name line).LiesOpenIn part

theorem Scope.recordAll_kind (scope : Scope) (occurrences : List Occurrence) :
    (scope.recordAll occurrences).kind = scope.kind := by
  induction occurrences generalizing scope with
  | nil => rfl
  | cons occurrence rest ih =>
    -- One occurrence more or less changes the names of a scope alone.
    refine (ih (scope.record occurrence)).trans ?_
    unfold record
    split <;> rfl

theorem Scope.recordAll_takesIn (scope : Scope) (part : Outline) :
    scope.TakesIn part (scope.recordAll part.owned) where
  kind := scope.recordAll_kind part.owned
  line := scope.recordAll_line part.owned
  bound := by
    intro name
    rw [mem_bound_recordAll, ScopeContents.mem_namesUsed_owned]
    rfl
  read := by
    intro name
    rw [mem_read_recordAll, ScopeContents.mem_namesUsed_owned]
    rfl

/-- A tracker after a walk over a part. What is found on the way is determined by the part and by the
name of the file. -/
structure Tracker.Frames (tracker : Tracker) (part : Outline) (later : Tracker) : Prop where
  file : later.file = tracker.file
  length : later.scopes.length = tracker.scopes.length
  /-- The scopes further out are the same, in the same order. -/
  outer : later.scopes.tail = tracker.scopes.tail
  innermost : ∃ scope ∈ tracker.scopes.head?, ∃ top ∈ later.scopes.head?, scope.TakesIn part top
  findings : later.findings =
    tracker.findings ++ part.definitions.flatMap fun scope => scope.findings tracker.file

theorem Tracker.after_frames {tracker : Tracker} (opened : tracker.scopes ≠ []) (part : Outline) :
    tracker.Frames part (tracker.after part.owned part.definitions) := by
  -- What `visit_eq` says of the state is looked at scope by scope.
  obtain ⟨file, scopes, findings⟩ := tracker
  cases scopes with
  | nil => exact absurd rfl opened
  | cons scope outer =>
    constructor
    · rfl
    · rfl
    · rfl
    · exact ⟨scope, rfl, _, rfl, scope.recordAll_takesIn part⟩
    · rfl

/-- A walk that starts with an open scope succeeds unless it reaches below the deepest level, and then it
leaves the same scopes open. Only the innermost one has changed: it has taken in the names that lie open in
the part. New findings stand behind the old ones, and neither the scopes nor the findings before have any
influence on them. -/
theorem Tracker.visit_frames {tracker : Tracker} (opened : tracker.scopes ≠ []) (depth : Nat)
    (part : Outline) :
    ((∃ later, tracker.visit depth part = .ok later) ↔ depth + part.height ≤ 500) ∧
      ∀ later, tracker.visit depth part = .ok later → tracker.Frames part later := by
  rw [visit_eq tracker opened depth part]
  constructor
  · constructor
    · rintro ⟨later, walked⟩
      split at walked
      · assumption
      · cases walked
    · intro shallow
      exact ⟨_, if_pos shallow⟩
  · intro later walked
    -- There is one state after it, which has the frame.
    split at walked
    · cases walked
      exact after_frames opened part
    · cases walked

namespace ClassWithMethod

/-- The state inside a class, when two names of it and one finding are known. -/
def tracker : Tracker where
  file := "m.py"
  scopes := [{ kind := .classDef, line := 2, bound := NameSet.empty.insert "x" },
    { kind := .module, line := 0, read := NameSet.empty.insert "K" }]
  findings := [.unusedVariable "m.py" 1 "a"]

def part : Outline :=
  .group "block" [.binding "y" 3, .function "f" 4 ["x"] [.reference "y" 5], .reference "x" 6]

/-- The names of the class go to its scope and those of the method do not; the module is left alone. -/
theorem tracker_frames :
    tracker.scopes ≠ [] ∧ ∃ later, tracker.visit 3 part = .ok later ∧ tracker.Frames part later ∧
      later.scopes.map (fun scope => (scope.bound.names, scope.read.names)) =
        [(["x", "y"], ["x"]), ([], ["K"])] ∧
      later.findings = [.unusedVariable "m.py" 1 "a", .unusedVariable "m.py" 4 "x"] := by
  have opened : tracker.scopes ≠ [] := List.cons_ne_nil _ _
  refine ⟨opened, _, rfl, ?_, by decide, by rfl⟩
  exact (Tracker.visit_frames opened 3 part).2 _ rfl

end ClassWithMethod

end ScopeCheck
