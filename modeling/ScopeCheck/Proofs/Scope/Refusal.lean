import ScopeCheck.Proofs.Scope.Tracking

/-!
# When the tracker refuses an outline

Every scope that the tracker opens is closed again before the definition ends, so that of its four
failures only the one for a part that lies too deep is ever met.
-/

namespace ScopeCheck

namespace Outline

/-- The outline itself lies at level 0, and the parts directly below a part one level below it. -/
inductive LiesAt : Outline → Nat → Outline → Prop
  | root (outline : Outline) : LiesAt outline 0 outline
  | inside {outline child part : Outline} {level : Nat} :
    child ∈ outline.children → LiesAt child level part → LiesAt outline (level + 1) part

theorem height_eq_levels (outline : Outline) : outline.height = levels outline.children := by
  cases outline <;> simp only [height, children, levels]

theorem le_levels_iff {parts : List Outline} {level : Nat} :
    level + 1 ≤ levels parts ↔ ∃ part ∈ parts, level ≤ part.height := by
  constructor
  · intro high
    by_contra none
    -- If every part stayed above the level, so would the highest.
    have low : levels parts ≤ level := by
      refine levels_le_iff.mpr fun part member => ?_
      have beyond : ¬ level ≤ part.height := fun reaches => none ⟨part, member, reaches⟩
      omega
    omega
  · rintro ⟨part, member, reaches⟩
    have bound := levels_le_iff.mp (Nat.le_refl (levels parts)) part member
    omega

/-- The levels of an outline are those up to its height. -/
theorem exists_liesAt_iff {outline : Outline} {level : Nat} :
    (∃ part, outline.LiesAt level part) ↔ level ≤ outline.height := by
  constructor
  · rintro ⟨part, lies⟩
    induction lies with
    | root outline => exact Nat.zero_le _
    | inside isChild _ ih =>
      -- A part of the child lies one level deeper in the outline.
      rw [height_eq_levels]
      exact le_levels_iff.mpr ⟨_, isChild, ih⟩
  · intro reaches
    induction level generalizing outline with
    | zero => exact ⟨outline, .root outline⟩
    | succ level ih =>
      rw [height_eq_levels] at reaches
      -- Some child reaches as deep as is needed, and so on down from there.
      obtain ⟨child, isChild, below⟩ := le_levels_iff.mp reaches
      obtain ⟨part, lies⟩ := ih below
      exact ⟨part, .inside isChild lies⟩

end Outline

/-- The promises that a tracker makes about its stack of scopes. -/
def InternalFault.isOfStack : InternalFault → Bool
  | .scopeUnderflow | .noOpenScope | .unbalancedScopes _ => true
  | .treeTooDeep _ | .other _ => false

theorem unusedNames_eq_error {file : String} {outline : Outline} {failure : Failure}
    (failed : unusedNames file outline = .error failure) :
    maxNesting < outline.height ∧ failure = .internal (.treeTooDeep maxNesting) := by
  rw [unusedNames_eq] at failed
  split at failed
  · cases failed
  next deep =>
    cases failed
    exact ⟨Nat.lt_of_not_le deep, rfl⟩

/-- The tracker fails on an outline exactly when a part of it lies at level 501 or deeper, always with
the same failure and never because of its stack. -/
theorem unusedNames_fails_iff_deep (file : String) (outline : Outline) :
    ((∃ failure, unusedNames file outline = .error failure) ↔
      ∃ level, 501 ≤ level ∧ ∃ part, outline.LiesAt level part) ∧
    (∀ failure, unusedNames file outline = .error failure →
      failure = .internal (.treeTooDeep 500) ∧ failure.kind = .internalFailure ∧
        failure.message = "syntax tree nested deeper than 500 levels") ∧
    ∀ fault : InternalFault, fault.isOfStack = true →
      unusedNames file outline ≠ .error (.internal fault) := by
  refine ⟨⟨?_, ?_⟩, ?_, ?_⟩
  · rintro ⟨failure, failed⟩
    -- The deepest part lies at the height of the outline, beyond the limit.
    exact ⟨_, (unusedNames_eq_error failed).1, Outline.exists_liesAt_iff.mpr (Nat.le_refl _)⟩
  · rintro ⟨level, deep, lies⟩
    have reaches := Outline.exists_liesAt_iff.mp lies
    have high : ¬ outline.height ≤ maxNesting := Nat.not_le_of_lt (Nat.lt_of_lt_of_le deep reaches)
    exact ⟨_, by rw [unusedNames_eq, if_neg high]⟩
  · intro failure failed
    obtain ⟨_, rfl⟩ := unusedNames_eq_error failed
    exact ⟨rfl, rfl, by decide⟩
  · intro fault ofStack failed
    -- The one failure there is speaks of a level, and not of the stack.
    obtain ⟨_, same⟩ := unusedNames_eq_error failed
    cases same
    cases ofStack

/-- A name below a number of groups. -/
def buriedName : Nat → Outline
  | 0 => .reference "x" 3
  | count + 1 => .group "block" [buriedName count]

theorem buriedName_liesAt (count : Nat) : (buriedName count).LiesAt count (.reference "x" 3) := by
  induction count with
  | zero => exact .root _
  | succ count ih => exact .inside List.mem_cons_self ih

/-- A class and a function are open when the name is reached, and nothing of them is left. -/
theorem unusedNames_buriedName :
    unusedNames "m.py" (.classDef "K" 1 [.function "f" 2 ["a"] [buriedName 499]]) =
      .error (.internal (.treeTooDeep 500)) := by
  have result := unusedNames_fails_iff_deep "m.py"
    (.classDef "K" 1 [.function "f" 2 ["a"] [buriedName 499]])
  obtain ⟨failure, failed⟩ := result.1.mpr ⟨501, Nat.le_refl _, _,
    .inside List.mem_cons_self (.inside List.mem_cons_self (buriedName_liesAt 499))⟩
  rw [failed, (result.2.1 failure failed).1]

end ScopeCheck
