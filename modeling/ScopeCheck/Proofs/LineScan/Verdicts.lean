import Mathlib.Data.List.DropRight
import ScopeCheck.Proofs.LineScan
import ScopeCheck.Proofs.Text.Joining

/-!
# The verdict on each line

A text may be cut behind any ending, as long as no carriage return is parted from its line feed. The
lines of the two parts are then those of the whole, so that the parts can be scanned one by one.
-/

namespace ScopeCheck

namespace Text

/-! ### The parts of a text -/

/-- Lines that all have endings can stand in front of others, unless this brings a carriage return and a
line feed together. -/
theorem EndedLine.Joinable.append {front rest : List EndedLine} (joinable : Joinable front)
    (later : Joinable rest) (ended : ∀ line ∈ front, line.ending ≠ none)
    (apart : (join front).getLast? = some '\r' → (join rest).head? ≠ some '\n') :
    Joinable (front ++ rest) := by
  induction front with
  | nil => exact later
  | cons line front ih =>
    obtain ⟨clean, _, lone, others⟩ := joinable_cons.mp joinable
    obtain ⟨hasEnding, othersEnded⟩ := List.forall_mem_cons.mp ended
    -- The text of all lines is that of the first one and then that of the others.
    have laid : join (line :: front) = line.chars ++ join front := List.flatMap_cons
    rw [List.cons_append]
    refine joinable_cons.mpr ⟨clean, fun none => absurd none hasEnding, fun isReturn => ?_, ?_⟩
    · -- What follows the line is the next line of the front part, or else the rest.
      have single := lone isReturn
      have both : join (front ++ rest) = join front ++ join rest := List.flatMap_append
      rw [both]
      cases behind : join front with
      | nil =>
        have last : line.chars.getLast? = some '\r' := by
          simp [chars, isReturn, Ending.chars]
        refine apart ?_
        rw [laid, behind, List.append_nil, last]
      | cons c after =>
        rw [behind] at single
        simpa using single
    · refine ih others othersEnded fun last => apart ?_
      rw [laid, List.getLast?_append, last]
      rfl

/-- All lines of a text have endings if the text ends with one. -/
theorem ending_ne_none {text : List Char} (ended : text.getLast? ∈ [none, some '\n', some '\r']) :
    ∀ line ∈ cut text, line.ending ≠ none := by
  intro line member unended
  obtain ⟨before, after, lines⟩ := List.append_of_mem member
  -- A line without an ending can only be the last one, and it has content.
  obtain ⟨rfl, filled⟩ := (cut_joinable text).unended before line after lines unended
  obtain ⟨feedFree, returnFree⟩ := (cut_joinable text).clean line member
  have last : text.getLast? = line.content.getLast? := by
    have laid : text = EndedLine.join before ++ line.content := by
      rw [← join_cut text, lines]
      simp [EndedLine.join, EndedLine.chars, unended]
    rw [laid, List.getLast?_append, List.getLast?_eq_some_getLast filled]
    rfl
  -- The last character of the text would be one of the content, which holds no endings.
  rw [last, List.getLast?_eq_some_getLast filled] at ended
  have inside := List.getLast_mem filled
  simp only [List.mem_cons, Option.some.injEq, List.not_mem_nil, or_false, reduceCtorEq,
    false_or] at ended
  rcases ended with isFeed | isReturn
  · exact feedFree (isFeed ▸ inside)
  · exact returnFree (isReturn ▸ inside)

/-- The lines of a text are those of its parts. -/
theorem physicalLines_append {front rest : String}
    (ended : front.toList.getLast? ∈ [none, some '\n', some '\r'])
    (apart : ¬ (front.toList.getLast? = some '\r' ∧ rest.toList.head? = some '\n')) :
    physicalLines (front ++ rest) = physicalLines front ++ physicalLines rest := by
  -- The cuts of the two parts are lines that make up the text and can be told apart.
  have cuts : cut (front.toList ++ rest.toList) = cut front.toList ++ cut rest.toList := by
    have laid : EndedLine.join (cut front.toList ++ cut rest.toList) =
        front.toList ++ rest.toList := by
      rw [EndedLine.join, List.flatMap_append, flatMap_chars_cut, flatMap_chars_cut]
    refine cut_eq_iff.mpr ⟨(cut_joinable _).append (cut_joinable _) (ending_ne_none ended) ?_, laid⟩
    rw [join_cut, join_cut]
    exact fun last first => apart ⟨last, first⟩
  rw [physicalLines_eq, String.toList_append, cuts, List.map_append, ← physicalLines_eq,
    ← physicalLines_eq]

/-! ### White space at the end of a line -/

/-- A line without the white space at its end. -/
def trimEnd (line : String) : String := String.ofList (line.toList.rdropWhile isBlank)

/-- A line ends with white space exactly when taking it away makes the line shorter. -/
theorem endsBlank_iff (line : String) :
    endsBlank line = true ↔ (trimEnd line).utf8ByteSize ≠ line.utf8ByteSize := by
  obtain ⟨chars, rfl⟩ : ∃ chars, line = String.ofList chars := ⟨_, String.ofList_toList.symm⟩
  rcases List.eq_nil_or_concat' chars with rfl | ⟨before, last, rfl⟩
  · simp [endsBlank, trimEnd]
  · have ends : endsBlank (String.ofList (before ++ [last])) = isBlank last := by
      simp [endsBlank]
    rw [ends, trimEnd, String.toList_ofList, List.rdropWhile_concat]
    by_cases blank : isBlank last = true
    · -- At least the last character is taken away, and it has a size.
      obtain ⟨dropped, laid⟩ := List.rdropWhile_prefix isBlank (l := before)
      have shorter : (String.ofList (before.rdropWhile isBlank)).utf8ByteSize <
          (String.ofList (before ++ [last])).utf8ByteSize := by
        conv_rhs => rw [← laid]
        have size := last.utf8Size_pos
        simp only [String.ofList_append, String.utf8ByteSize_append]
        simp [String.utf8ByteSize_ofList]
        omega
      rw [if_pos blank]
      exact iff_of_true blank shorter.ne
    · simp [blank]

end Text

/-! ### Scans of some lines and of others after them -/

theorem scanFrom_append (file : String) (limit first : Nat) (contents later : List String) :
    scanFrom file limit first (contents ++ later) =
      scanFrom file limit first contents ++
        scanFrom file limit (first + contents.length) later := by
  rw [scanFrom, List.zipIdx_append, List.flatMap_append]
  rfl

/-- Findings with higher line numbers are the same findings otherwise. -/
theorem scanFrom_add (file : String) (limit first above : Nat) (contents : List String) :
    scanFrom file limit (first + above) contents =
      (scanFrom file limit first contents).map fun finding =>
        { finding with line := finding.line + above } := by
  induction contents generalizing first with
  | nil => rfl
  | cons content rest ih =>
    -- Neither finding on a line depends on its number otherwise.
    have here : lineFindings file limit (first + above) content =
        (lineFindings file limit first content).map fun finding =>
          { finding with line := finding.line + above } := by
      rw [lineFindings, lineFindings, List.map_append]
      split <;> split <;> rfl
    rw [scanFrom_cons, scanFrom_cons, List.map_append, here, Nat.add_right_comm, ih]

theorem mem_lineFindings_iff {file : String} {limit line : Nat} {content : String}
    {finding : Diagnostic} :
    finding ∈ lineFindings file limit line content ↔
      limit < content.length ∧ finding = .lineTooLong file line limit ∨
      Text.endsBlank content = true ∧ finding = .trailingWhitespace file line := by
  rw [lineFindings, List.mem_append]
  split <;> split <;> simp_all

theorem mem_scanFrom_iff {file : String} {limit first : Nat} {contents : List String}
    {finding : Diagnostic} :
    finding ∈ scanFrom file limit first contents ↔ ∃ index content,
      contents[index]? = some content ∧ finding ∈ lineFindings file limit (first + index) content := by
  rw [scanFrom, List.mem_flatMap, Prod.exists]
  constructor
  · rintro ⟨content, line, member, here⟩
    obtain ⟨above, found⟩ := List.mem_zipIdx_iff_le_and_getElem?_sub.mp member
    exact ⟨line - first, content, found, by rwa [Nat.add_sub_cancel' above]⟩
  · rintro ⟨index, content, found, here⟩
    exact ⟨content, first + index, List.mk_add_mem_zipIdx_iff_getElem?.mpr found, here⟩

/-- On one line, an excess of length is found before white space. -/
theorem lineFindings_pairwise (file : String) (limit line : Nat) (content : String) :
    (lineFindings file limit line content).Pairwise fun earlier later =>
      earlier.rule = .lineTooLong ∧ later.rule = .trailingWhitespace := by
  rw [lineFindings]
  split <;> split <;> simp [Diagnostic.lineTooLong, Diagnostic.trailingWhitespace]

/-- Findings come line by line, at most one of each rule on a line. -/
theorem scanFrom_pairwise (file : String) (limit first : Nat) (contents : List String) :
    (scanFrom file limit first contents).Pairwise fun earlier later =>
      earlier.line < later.line ∨ earlier.line = later.line ∧
        earlier.rule = .lineTooLong ∧ later.rule = .trailingWhitespace := by
  induction contents generalizing first with
  | nil => exact .nil
  | cons content rest ih =>
    rw [scanFrom_cons]
    refine List.pairwise_append.mpr ⟨?_, ih (first + 1), fun earlier here later behind => ?_⟩
    · refine (lineFindings_pairwise file limit first content).imp_of_mem ?_
      intro earlier later here hereToo order
      exact .inr ⟨(line_of_mem_lineFindings here).trans (line_of_mem_lineFindings hereToo).symm, order⟩
    · left
      rw [line_of_mem_lineFindings here]
      exact (mem_scanFrom behind).1

/-- A scan finds a line too long exactly when it has more characters than the limit, and finds white
space exactly when its last character is white space, which is when the line is shorter without the
white space at its end. Each is found at most once on a line, the excess first, and lines come in
order. A text that is empty or ends with an ending can be scanned before what follows it, whose lines
are then counted on, unless a carriage return would be parted from its line feed. -/
theorem scanLines_verdicts (file : String) (limit : Nat) :
    (∀ text, (scanLines file text limit).Pairwise fun earlier later =>
      earlier.line < later.line ∨ earlier.line = later.line ∧
        earlier.rule = .lineTooLong ∧ later.rule = .trailingWhitespace) ∧
    (∀ text finding, finding ∈ scanLines file text limit ↔
      ∃ index content, (Text.physicalLines text)[index]? = some content ∧
        (limit < content.length ∧ finding = .lineTooLong file (index + 1) limit ∨
          (∃ last, content.toList.getLast? = some last ∧ Text.isBlank last = true) ∧
            finding = .trailingWhitespace file (index + 1))) ∧
    (∀ content : String, (∃ last, content.toList.getLast? = some last ∧ Text.isBlank last = true) ↔
      (Text.trimEnd content).utf8ByteSize ≠ content.utf8ByteSize) ∧
    ∀ front rest : String, front.toList.getLast? ∈ [none, some '\n', some '\r'] →
      ¬ (front.toList.getLast? = some '\r' ∧ rest.toList.head? = some '\n') →
      scanLines file (front ++ rest) limit = scanLines file front limit ++
        (scanLines file rest limit).map fun finding =>
          { finding with line := finding.line + (Text.physicalLines front).length } := by
  have blank_iff : ∀ content : String, Text.endsBlank content = true ↔
      ∃ last, content.toList.getLast? = some last ∧ Text.isBlank last = true := by
    intro content
    rw [Text.endsBlank, Option.any_eq_true]
  refine ⟨fun text => scanFrom_pairwise file limit 1 _, fun text finding => ?_, fun content => ?_,
    fun front rest ended apart => ?_⟩
  · simp only [← blank_iff, ← mem_lineFindings_iff, Nat.add_comm _ 1]
    exact mem_scanFrom_iff
  · rw [← blank_iff, Text.endsBlank_iff]
  · -- The lines of the second part are counted on from those of the first one.
    have lines := Text.physicalLines_append ended apart
    have split := scanFrom_append file limit 1 (Text.physicalLines front) (Text.physicalLines rest)
    rw [scanFrom_add, ← lines] at split
    exact split

/-- White space of two bytes, an empty line, and a line that is both too long and not trimmed; the
second part begins with a line feed, which ends a line of its own. -/
theorem scanLines_parts :
    scanLines "t" "é\u00a0\r\n\n\nab \r" 2 =
      [.trailingWhitespace "t" 1, .lineTooLong "t" 4 2, .trailingWhitespace "t" 4] := by
  obtain ⟨-, -, -, composed⟩ := scanLines_verdicts "t" 2
  have parts := composed "é\u00a0\r\n\n" "\nab \r" (by decide) (by decide)
  exact parts.trans (by decide +kernel)

end ScopeCheck
