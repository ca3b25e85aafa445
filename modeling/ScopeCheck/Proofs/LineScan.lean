import ScopeCheck.LineScan

/-! # The findings on one physical line -/

namespace ScopeCheck

theorem mem_lineFindings {file : String} {limit line : Nat} {content : String}
    {finding : Diagnostic} (member : finding ∈ lineFindings file limit line content) :
    finding = .lineTooLong file line limit ∨ finding = .trailingWhitespace file line := by
  rcases List.mem_append.mp member with long | blank
  · split at long
    · exact .inl (List.mem_singleton.mp long)
    · simp at long
  · split at blank
    · exact .inr (List.mem_singleton.mp blank)
    · simp at blank

theorem line_of_mem_lineFindings {file : String} {limit line : Nat} {content : String}
    {finding : Diagnostic} (member : finding ∈ lineFindings file limit line content) :
    finding.line = line := by
  rcases mem_lineFindings member with rfl | rfl <;> rfl

/-- The findings on some lines, the first of which has number `first`. -/
def scanFrom (file : String) (limit first : Nat) (contents : List String) : List Diagnostic :=
  (contents.zipIdx first).flatMap fun (content, line) => lineFindings file limit line content

theorem scanFrom_cons (file : String) (limit first : Nat) (content : String) (rest : List String) :
    scanFrom file limit first (content :: rest) =
      lineFindings file limit first content ++ scanFrom file limit (first + 1) rest := by
  simp [scanFrom, List.zipIdx_cons]

theorem mem_scanFrom {file : String} {limit first : Nat} {contents : List String}
    {finding : Diagnostic} (member : finding ∈ scanFrom file limit first contents) :
    first ≤ finding.line ∧ (finding = .lineTooLong file finding.line limit ∨
      finding = .trailingWhitespace file finding.line) := by
  induction contents generalizing first with
  | nil => simp [scanFrom] at member
  | cons content rest ih =>
    rw [scanFrom_cons, List.mem_append] at member
    rcases member with here | later
    · have line := line_of_mem_lineFindings here
      exact ⟨Nat.le_of_eq line.symm, line ▸ mem_lineFindings here⟩
    · obtain ⟨below, shape⟩ := ih later
      exact ⟨Nat.le_of_succ_le below, shape⟩

/-- A limit has a say in the findings on lengths alone. -/
theorem filter_not_long_scanFrom (file : String) (limit other first : Nat)
    (contents : List String) :
    (scanFrom file limit first contents).filter (fun finding => finding.rule ≠ .lineTooLong) =
      (scanFrom file other first contents).filter fun finding => finding.rule ≠ .lineTooLong := by
  -- Leaving out lengths leaves the same of a line whatever the limit is.
  have blank : ∀ limit line content,
      (lineFindings file limit line content).filter (fun finding => finding.rule ≠ .lineTooLong) =
        if Text.endsBlank content then [.trailingWhitespace file line] else [] := by
    intro limit line content
    rw [lineFindings, List.filter_append]
    split <;> split <;> rfl
  induction contents generalizing first with
  | nil => rfl
  | cons content rest ih =>
    rw [scanFrom_cons, scanFrom_cons, List.filter_append, List.filter_append, blank, blank, ih]

/-- A line that is too long under a limit is too long under a lower one. -/
theorem long_scanFrom {file : String} {limit wider first : Nat} (lower : limit ≤ wider)
    {contents : List String} {finding : Diagnostic}
    (member : finding ∈ scanFrom file wider first contents) (long : finding.rule = .lineTooLong) :
    .lineTooLong file finding.line limit ∈ scanFrom file limit first contents := by
  induction contents generalizing first with
  | nil => simp [scanFrom] at member
  | cons content rest ih =>
    rw [scanFrom_cons, List.mem_append] at member ⊢
    rcases member with here | later
    · left
      have line := line_of_mem_lineFindings here
      rw [lineFindings, List.mem_append] at here ⊢
      rcases here with exceeds | blank
      · left
        split at exceeds
        next above => simp [Nat.lt_of_le_of_lt lower above, line]
        next => simp at exceeds
      · -- The other finding on a line is of another rule.
        split at blank
        · rw [List.mem_singleton.mp blank] at long
          cases long
        · simp at blank
    · right
      exact ih later

/-- The findings at one line are those on the content of that line. -/
theorem filter_scanFrom (file : String) (limit first line : Nat) (contents : List String) :
    (scanFrom file limit first contents).filter (fun finding => finding.line = line) =
      if first ≤ line then contents[line - first]?.elim [] (lineFindings file limit line) else [] := by
  induction contents generalizing first with
  | nil => simp [scanFrom]
  | cons content rest ih =>
    -- The findings on the first line are all at that line.
    have here : (lineFindings file limit first content).filter (fun finding => finding.line = line) =
        if first = line then lineFindings file limit line content else [] := by
      split
      next same =>
        subst same
        exact List.filter_eq_self.mpr fun finding member => by
          simpa using line_of_mem_lineFindings member
      next other =>
        refine List.filter_eq_nil_iff.mpr fun finding member => ?_
        simpa [line_of_mem_lineFindings member] using other
    rw [scanFrom_cons, List.filter_append, here, ih]
    rcases Nat.lt_trichotomy first line with before | same | behind
    · have index : line - first = line - (first + 1) + 1 := by omega
      rw [if_neg (by omega), if_pos (by omega), if_pos (by omega), index]
      simp
    · subst same
      rw [if_pos rfl, if_neg (by omega), if_pos (Nat.le_refl _), Nat.sub_self]
      simp
    · rw [if_neg (by omega), if_neg (by omega), if_neg (by omega)]
      rfl

theorem filter_scanLines (file text : String) (limit line : Nat) :
    (scanLines file text limit).filter (fun finding => finding.line = line) =
      if 1 ≤ line then
        (Text.physicalLines text)[line - 1]?.elim [] (lineFindings file limit line)
      else [] :=
  filter_scanFrom file limit 1 line (Text.physicalLines text)

end ScopeCheck
