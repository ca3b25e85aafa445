import ScopeCheck.Proofs.Scope.Ownership
import ScopeCheck.Scope.Tracker

/-!
# What the tracker computes

The effect of a walk on the open scopes and on the findings is determined by the part that it goes over,
whatever was there before.
-/

namespace ScopeCheck

namespace Scope

/-- Takes one occurrence into a scope. -/
def record (scope : Scope) (occurrence : Occurrence) : Scope :=
  match occurrence.usage with
  | .binding => scope.bind occurrence.name
  | .reference => scope.markRead occurrence.name

def recordAll (scope : Scope) (occurrences : List Occurrence) : Scope :=
  occurrences.foldl record scope

def bindAll (scope : Scope) (names : List String) : Scope :=
  names.foldl bind scope

@[simp] theorem recordAll_nil (scope : Scope) : scope.recordAll [] = scope := rfl

theorem recordAll_append (scope : Scope) (first later : List Occurrence) :
    scope.recordAll (first ++ later) = (scope.recordAll first).recordAll later :=
  List.foldl_append

theorem recordAll_line (scope : Scope) (occurrences : List Occurrence) :
    (scope.recordAll occurrences).line = scope.line := by
  induction occurrences generalizing scope with
  | nil => rfl
  | cons occurrence rest ih =>
    refine (ih (scope.record occurrence)).trans ?_
    unfold record
    split <;> rfl

theorem bindAll_line (scope : Scope) (names : List String) :
    (scope.bindAll names).line = scope.line := by
  induction names generalizing scope with
  | nil => rfl
  | cons name rest ih => exact ih (scope.bind name)

theorem mem_bound_recordAll (scope : Scope) (occurrences : List Occurrence) (name : String) :
    name ∈ (scope.recordAll occurrences).bound ↔
      name ∈ scope.bound ∨ name ∈ ScopeContents.namesUsed .binding occurrences := by
  induction occurrences generalizing scope with
  | nil => simp [ScopeContents.namesUsed]
  | cons occurrence rest ih =>
    refine (ih (scope.record occurrence)).trans ?_
    obtain ⟨usage, used, line⟩ := occurrence
    -- A name that is bound comes to those that are bound, and a name that is read changes nothing.
    cases usage with
    | binding => simp [record, bind, ScopeContents.namesUsed, or_assoc, or_left_comm]
    | reference => simp [record, markRead, ScopeContents.namesUsed]

theorem mem_read_recordAll (scope : Scope) (occurrences : List Occurrence) (name : String) :
    name ∈ (scope.recordAll occurrences).read ↔
      name ∈ scope.read ∨ name ∈ ScopeContents.namesUsed .reference occurrences := by
  induction occurrences generalizing scope with
  | nil => simp [ScopeContents.namesUsed]
  | cons occurrence rest ih =>
    refine (ih (scope.record occurrence)).trans ?_
    obtain ⟨usage, used, line⟩ := occurrence
    cases usage with
    | binding => simp [record, bind, ScopeContents.namesUsed]
    | reference => simp [record, markRead, ScopeContents.namesUsed, or_assoc, or_left_comm]

theorem mem_bound_bindAll (scope : Scope) (names : List String) (name : String) :
    name ∈ (scope.bindAll names).bound ↔ name ∈ scope.bound ∨ name ∈ names := by
  induction names generalizing scope with
  | nil => simp [bindAll]
  | cons first rest ih =>
    refine (ih (scope.bind first)).trans ?_
    simp [bind, or_assoc, or_left_comm]

theorem read_bindAll (scope : Scope) (names : List String) :
    (scope.bindAll names).read = scope.read := by
  induction names generalizing scope with
  | nil => rfl
  | cons name rest ih => exact ih (scope.bind name)

theorem unused_sortedLT (scope : Scope) : scope.unused.SortedLT :=
  (scope.bound.ascending.filter _).sortedLT

theorem mem_unused (scope : Scope) (name : String) :
    name ∈ scope.unused ↔ name ∈ scope.bound ∧ name ∉ scope.read := by
  simp [unused, NameSet.without, NameSet.contains, NameSet.mem_iff]

/-- A scope that was opened with parameters and took in occurrences has the unused names that its
contents determine. -/
theorem unused_eq (contents : ScopeContents) :
    ((bindAll { kind := contents.kind, line := contents.line } contents.params).recordAll
      contents.occurrences).unused = contents.unused := by
  -- Both lists ascend, so that it is enough to compare their members.
  refine List.SortedLT.eq_of_mem_iff (unused_sortedLT _) (Finset.sortedLT_sort _) fun name => ?_
  rw [mem_unused, mem_bound_recordAll, mem_read_recordAll, mem_bound_bindAll, read_bindAll,
    ScopeContents.unused, Finset.mem_sort]
  simp [NameSet.mem_iff, NameSet.empty]

end Scope

namespace Tracker

/-- The state after a walk over a part of an outline: `owned` went to the innermost scope, and the
definitions `closed` ended. -/
def after (tracker : Tracker) (owned : List Occurrence) (closed : List ScopeContents) : Tracker :=
  { tracker with
    scopes := tracker.scopes.modifyHead (·.recordAll owned)
    findings := tracker.findings ++ closed.flatMap (·.findings tracker.file) }

theorem after_after (tracker : Tracker) (owned later : List Occurrence)
    (closed next : List ScopeContents) :
    (tracker.after owned closed).after later next = tracker.after (owned ++ later) (closed ++ next) := by
  obtain ⟨file, scopes, findings⟩ := tracker
  -- The innermost scope takes in one occurrence after the other.
  cases scopes <;> simp [after, Scope.recordAll_append, List.flatMap_append]

@[simp] theorem after_nil (tracker : Tracker) : tracker.after [] [] = tracker := by
  obtain ⟨file, scopes, findings⟩ := tracker
  cases scopes <;> simp [after]

theorem after_scopes_ne_nil {tracker : Tracker} (opened : tracker.scopes ≠ [])
    (owned : List Occurrence) (closed : List ScopeContents) :
    (tracker.after owned closed).scopes ≠ [] := by
  simpa [after] using opened

/-- A scope that was opened for a definition, took in what the definition owns and is closed again
leaves the other scopes as they were, and adds the findings on the definition. -/
theorem closeScope_after (tracker : Tracker) (contents : ScopeContents)
    (closed : List ScopeContents) :
    ((tracker.openScope (Scope.bindAll { kind := contents.kind, line := contents.line }
      contents.params)).after contents.occurrences closed).closeScope =
      .ok (tracker.after [] (closed ++ [contents])) := by
  -- The finding stands at the line of the scope that was opened, which no occurrence changes.
  have line : ∀ scope : Scope, scope = (Scope.bindAll { kind := contents.kind, line := contents.line }
      contents.params).recordAll contents.occurrences → scope.line = contents.line := by
    rintro scope rfl
    rw [Scope.recordAll_line, Scope.bindAll_line]
  simp only [openScope, after, List.modifyHead_cons, closeScope, Scope.unused_eq, line _ rfl]
  cases tracker.scopes <;> simp [ScopeContents.findings, List.flatMap_append]

/-- Changing the innermost scope of a stack with an open scope never fails. -/
theorem updateScope_eq {tracker : Tracker} (opened : tracker.scopes ≠ [])
    (change : Scope → Scope) :
    tracker.updateScope change =
      .ok { tracker with scopes := tracker.scopes.modifyHead change } := by
  obtain ⟨file, scopes, findings⟩ := tracker
  cases scopes with
  | nil => exact absurd rfl opened
  | cons scope outer => rfl

mutual

/-- The effect of a walk over one part at a level: the innermost scope takes in what the part leaves
to it and the findings on its definitions are added, unless the part reaches below the deepest level.
Nothing else can go wrong, and nothing else of the state matters. -/
theorem visit_eq (tracker : Tracker) (opened : tracker.scopes ≠ []) (depth : Nat) (part : Outline) :
    tracker.visit depth part =
      if depth + part.height ≤ maxNesting then .ok (tracker.after part.owned part.definitions)
      else .error (.internal (.treeTooDeep maxNesting)) := by
  by_cases deep : maxNesting < depth
  · -- The tracker stops at a part beyond the limit before it looks inside.
    have below : ¬ depth + part.height ≤ maxNesting := by omega
    rw [visit.eq_def, if_pos deep, if_neg below]
  · have reached : depth ≤ maxNesting := by omega
    cases part with
    | module children =>
      rw [visit, if_neg deep]
      exact visitAll_eq tracker opened depth reached children
    | group kind children =>
      rw [visit, if_neg deep]
      exact visitAll_eq tracker opened depth reached children
    | binding name line =>
      rw [visit, if_neg deep, if_pos (by simpa [Outline.height] using reached)]
      simp [updateScope_eq opened, after, Outline.owned, Outline.definitions, Scope.recordAll,
        Scope.record]
    | reference name line =>
      rw [visit, if_neg deep, if_pos (by simpa [Outline.height] using reached)]
      simp [updateScope_eq opened, after, Outline.owned, Outline.definitions, Scope.recordAll,
        Scope.record]
    | function name line params children =>
      -- The new scope lies on top, so the parts meet a stack with an open scope again.
      rw [visit, if_neg deep]
      change (visitAll (tracker.openScope (Scope.bindAll { kind := .function, line } params))
        (depth + 1) children).bind closeScope = _
      rw [visitAll_eq _ (List.cons_ne_nil _ _) depth reached children, Outline.height]
      split
      · exact closeScope_after tracker
          { kind := .function, line, params, occurrences := Outline.ownedAll children } _
      · rfl
    | classDef name line children =>
      rw [visit, if_neg deep]
      change (visitAll (tracker.openScope (Scope.bindAll { kind := .classDef, line } []))
        (depth + 1) children).bind closeScope = _
      rw [visitAll_eq _ (List.cons_ne_nil _ _) depth reached children, Outline.height]
      split
      · exact closeScope_after tracker
          { kind := .classDef, line, occurrences := Outline.ownedAll children } _
      · rfl

theorem visitAll_eq (tracker : Tracker) (opened : tracker.scopes ≠ []) (depth : Nat)
    (reached : depth ≤ maxNesting) (parts : List Outline) :
    tracker.visitAll (depth + 1) parts =
      if depth + Outline.levels parts ≤ maxNesting then
        .ok (tracker.after (Outline.ownedAll parts) (Outline.definitionsAll parts))
      else .error (.internal (.treeTooDeep maxNesting)) := by
  cases parts with
  | nil =>
    rw [visitAll, if_pos (by simpa [Outline.levels] using reached)]
    simp [Outline.ownedAll, Outline.definitionsAll]
  | cons part rest =>
    rw [visitAll, visit_eq tracker opened (depth + 1) part]
    by_cases first : depth + 1 + part.height ≤ maxNesting
    · -- The first part leaves a scope open, so the rest is walked over from there.
      rw [if_pos first]
      change visitAll _ (depth + 1) rest = _
      rw [visitAll_eq _ (after_scopes_ne_nil opened _ _) depth reached rest, after_after]
      have both : depth + Outline.levels rest ≤ maxNesting ↔
          depth + Outline.levels (part :: rest) ≤ maxNesting := by
        simp only [Outline.levels]
        omega
      simp only [both, Outline.ownedAll, Outline.definitionsAll]
    · -- The first part reaches too deep, and the rest is not met.
      have below : ¬ depth + Outline.levels (part :: rest) ≤ maxNesting := by
        simp only [Outline.levels]
        omega
      rw [if_neg first, if_neg below]
      rfl

end

end Tracker

/-- The findings on an outline are those on its scopes, one scope after the other. An outline that
reaches below the deepest level is refused. -/
theorem unusedNames_eq (file : String) (outline : Outline) :
    unusedNames file outline =
      if outline.height ≤ maxNesting then
        .ok (outline.scopes.flatMap fun scope => scope.findings file)
      else .error (.internal (.treeTooDeep maxNesting)) := by
  -- The walk begins with the scope of the module alone, which is closed at the end.
  have walked := Tracker.visit_eq (Tracker.start file) (List.cons_ne_nil _ _) 0 outline
  rw [Nat.zero_add] at walked
  unfold unusedNames
  rw [walked]
  split
  · have closed := Tracker.closeScope_after { file, scopes := [], findings := [] }
      outline.moduleScope outline.definitions
    change ((Tracker.start file).after outline.owned outline.definitions).closeScope.map _ = _
    exact congrArg (Except.map Tracker.findings) closed
  · rfl

/-- A name is unused in a scope when it is a parameter or is bound there, and is nowhere read there. -/
theorem ScopeContents.mem_unused (contents : ScopeContents) (name : String) :
    name ∈ contents.unused ↔
      (name ∈ contents.params ∨ ∃ line, ⟨.binding, name, line⟩ ∈ contents.occurrences) ∧
        ¬ ∃ line, ⟨.reference, name, line⟩ ∈ contents.occurrences := by
  -- A name is used where an occurrence of it has the usage, at any line.
  have used : ∀ usage, name ∈ namesUsed usage contents.occurrences ↔
      ∃ line, ⟨usage, name, line⟩ ∈ contents.occurrences := by
    intro usage
    simp only [namesUsed, List.mem_map, List.mem_filter, decide_eq_true_eq]
    constructor
    · rintro ⟨⟨_, _, line⟩, ⟨member, rfl⟩, rfl⟩
      exact ⟨line, member⟩
    · rintro ⟨line, member⟩
      exact ⟨_, ⟨member, rfl⟩, rfl⟩
  simp only [unused, Finset.mem_sort, Finset.mem_sdiff, List.mem_toFinset, List.mem_append, used]

/-- On an outline of at most 500 levels below its root the tracker succeeds. It reports the scopes
in the order in which their definitions end and the module last, and of each scope the names that are
parameters or bound in it and not read in it, each once and in ascending order. -/
theorem unusedNames_of_height_le (file : String) (outline : Outline)
    (shallow : outline.height ≤ 500) :
    unusedNames file outline = .ok (outline.scopes.flatMap fun scope => scope.findings file) ∧
      ∀ scope ∈ outline.scopes, scope.unused.Pairwise (· < ·) ∧
        ∀ name, name ∈ scope.unused ↔
          (name ∈ scope.params ∨ ∃ line, ⟨.binding, name, line⟩ ∈ scope.occurrences) ∧
            ¬ ∃ line, ⟨.reference, name, line⟩ ∈ scope.occurrences := by
  constructor
  · rw [unusedNames_eq]
    exact if_pos shallow
  · intro scope _
    exact ⟨(Finset.sortedLT_sort _).pairwise, scope.mem_unused⟩

/-- A function with a class inside: the class reads a name of the function and binds one of the
module, which changes nothing outside of it. -/
def nestedScopes : Outline :=
  .module [.reference "k" 1, .binding "y" 1, .binding "x" 1,
    .function "f" 2 ["b", "a", "b"] [.binding "c" 3, .group "block" [.classDef "K" 4
      [.binding "x" 5, .reference "c" 6]], .reference "a" 7], .reference "y" 8]

theorem unusedNames_nestedScopes :
    nestedScopes.height ≤ 500 ∧
    unusedNames "m.py" nestedScopes = .ok (nestedScopes.scopes.flatMap (·.findings "m.py")) ∧
    unusedNames "m.py" nestedScopes = .ok
      [.unusedVariable "m.py" 4 "x", .unusedVariable "m.py" 2 "b", .unusedVariable "m.py" 2 "c",
        .unusedVariable "m.py" 0 "x"] :=
  ⟨by decide, (unusedNames_of_height_le "m.py" nestedScopes (by decide)).1, by rfl⟩

end ScopeCheck
