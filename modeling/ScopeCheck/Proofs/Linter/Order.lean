import Mathlib.Data.List.Basic
import ScopeCheck.Linter

/-! # Sorting by line -/

namespace ScopeCheck

/-- Some findings in the order of their lines, where those on one line keep the order that they had. -/
structure StablySorted (found sorted : List Diagnostic) : Prop where
  ascending : sorted.Pairwise fun a b => a.line ≤ b.line
  same_line (line : Nat) : sorted.filter (fun finding => finding.line = line) =
    found.filter (fun finding => finding.line = line)

/-- There is one stable order only. -/
theorem StablySorted.unique {found left right : List Diagnostic} (first : StablySorted found left)
    (second : StablySorted found right) : left = right := by
  -- Both lists have the same findings on each line, in the same order.
  have same : ∀ line, left.filter (fun finding => finding.line = line) =
      right.filter (fun finding => finding.line = line) :=
    fun line => (first.same_line line).trans (second.same_line line).symm
  have ascending := first.ascending
  have ascendingRight := second.ascending
  clear first second
  induction left generalizing right with
  | nil =>
    cases right with
    | nil => rfl
    | cons head rest => simpa using same head.line
  | cons a left ih =>
    cases right with
    | nil => simpa using same a.line
    | cons b right =>
      rw [List.pairwise_cons] at ascending ascendingRight
      -- Each head stands in the other list, so neither line is above the other.
      have inRight : a ∈ b :: right := by
        have inside : a ∈ (b :: right).filter fun finding => finding.line = a.line := by
          rw [← same a.line]
          simp
        exact (List.mem_filter.mp inside).1
      have inLeft : b ∈ a :: left := by
        have inside : b ∈ (a :: left).filter fun finding => finding.line = b.line := by
          rw [same b.line]
          simp
        exact (List.mem_filter.mp inside).1
      -- In an ascending list nothing stands below the line of the head.
      have lines : a.line = b.line := by
        have upper : b.line ≤ a.line := by
          rcases List.mem_cons.mp inRight with rfl | later
          · exact Nat.le_refl _
          · exact ascendingRight.1 a later
        have lower : a.line ≤ b.line := by
          rcases List.mem_cons.mp inLeft with rfl | later
          · exact Nat.le_refl _
          · exact ascending.1 b later
        exact Nat.le_antisymm lower upper
      -- So both heads are the first finding on one line.
      obtain rfl : a = b := by
        have heads := same a.line
        simp only [List.filter_cons, decide_true, if_true, ← lines] at heads
        exact (List.cons.inj heads).1
      refine congrArg (a :: ·) (ih (fun line => ?_) ascending.2 ascendingRight.2)
      have tails := same line
      simp only [List.filter_cons] at tails
      split at tails
      · exact (List.cons.inj tails).2
      · exact tails

theorem sortByLine_perm (found : List Diagnostic) : (sortByLine found).Perm found :=
  List.mergeSort_perm found _

theorem notAfter_trans (a b c : Diagnostic) (first : decide (a.line ≤ b.line) = true)
    (second : decide (b.line ≤ c.line) = true) : decide (a.line ≤ c.line) = true := by
  simp only [decide_eq_true_eq] at *
  exact Nat.le_trans first second

theorem notAfter_total (a b : Diagnostic) :
    (decide (a.line ≤ b.line) || decide (b.line ≤ a.line)) = true := by
  simpa using Nat.le_total a.line b.line

theorem sortByLine_stable (found : List Diagnostic) : StablySorted found (sortByLine found) where
  ascending := (List.pairwise_mergeSort notAfter_trans notAfter_total found).imp of_decide_eq_true
  same_line line := by
    -- The findings on the line are a sorted sublist, which a stable sort keeps.
    have level : (found.filter fun finding => finding.line = line).Pairwise
        fun a b => decide (a.line ≤ b.line) = true := by
      refine List.pairwise_of_forall_mem_list fun a first b second => ?_
      simp only [List.mem_filter, decide_eq_true_eq] at first second ⊢
      omega
    have kept := List.sublist_mergeSort notAfter_trans notAfter_total level List.filter_sublist
    have within := kept.filter fun finding => decide (finding.line = line)
    simp only [List.filter_filter, Bool.and_self] at within
    exact (within.eq_of_length_le
      (Nat.le_of_eq ((sortByLine_perm found).filter _).length_eq)).symm

theorem StablySorted.filter {found sorted : List Diagnostic} (isSort : StablySorted found sorted)
    (keep : Diagnostic → Bool) : StablySorted (found.filter keep) (sorted.filter keep) where
  ascending := isSort.ascending.filter keep
  same_line line := by
    rw [List.filter_comm, isSort.same_line line, List.filter_comm]

/-- It does not matter whether findings are left out before they are sorted or after. -/
theorem filter_sortByLine (keep : Diagnostic → Bool) (found : List Diagnostic) :
    (sortByLine found).filter keep = sortByLine (found.filter keep) :=
  ((sortByLine_stable found).filter keep).unique (sortByLine_stable (found.filter keep))

/-- In the order of lines, the findings at line 0 come before all others. -/
theorem zero_first {found : List Diagnostic} (ascending : found.Pairwise fun a b => a.line ≤ b.line) :
    found = found.filter (fun finding => finding.line = 0) ++
      found.filter fun finding => 0 < finding.line := by
  induction found with
  | nil => rfl
  | cons first rest ih =>
    rw [List.pairwise_cons] at ascending
    have split := ih ascending.2
    by_cases zero : first.line = 0
    · simpa [zero] using split
    · have positive : ∀ finding ∈ rest, 0 < finding.line := fun finding member =>
        Nat.lt_of_lt_of_le (Nat.pos_of_ne_zero zero) (ascending.1 finding member)
      have none : rest.filter (fun finding => finding.line = 0) = [] :=
        List.filter_eq_nil_iff.mpr fun finding member => by
          simpa using Nat.ne_of_gt (positive finding member)
      have all : rest.filter (fun finding => 0 < finding.line) = rest :=
        List.filter_eq_self.mpr fun finding member => by simpa using positive finding member
      simp [zero, none, all, Nat.pos_of_ne_zero zero]

end ScopeCheck
