import Mathlib.Data.List.Basic
import ScopeCheck.Text.Line

/-!
# Lines and line feeds

Where each lone carriage return is replaced, an ending holds one line feed, as its last byte, and no
content holds any. So the line feeds before an offset are those of the lines before its line.
-/

namespace ScopeCheck.Text

/-! ### The lines of a text -/

/-- A line with its ending, which only the last line of a text can lack. -/
structure EndedLine where
  content : List Char
  ending : Option Ending

namespace EndedLine

def chars (line : EndedLine) : List Char :=
  line.content ++ line.ending.elim [] Ending.chars

end EndedLine

/-- Puts characters that are no endings in front of some lines. -/
def prepend (before : List Char) : List EndedLine → List EndedLine
  | [] => if before.isEmpty then [] else [⟨before, none⟩]
  | line :: later => ⟨before ++ line.content, line.ending⟩ :: later

/-- The lines of a text with their endings. -/
def cut : List Char → List EndedLine
  | [] => []
  | '\r' :: '\n' :: rest => ⟨[], some .crlf⟩ :: cut rest
  | '\r' :: rest => ⟨[], some .cr⟩ :: cut rest
  | '\n' :: rest => ⟨[], some .lf⟩ :: cut rest
  | c :: rest => prepend [c] (cut rest)

theorem cut_cons {c : Char} (noReturn : c ≠ '\r') (noFeed : c ≠ '\n') (rest : List Char) :
    cut (c :: rest) = prepend [c] (cut rest) := by
  rw [cut]
  · exact fun _ same => absurd same noReturn
  · exact noReturn
  · exact noFeed

theorem prepend_nil (lines : List EndedLine) : prepend [] lines = lines := by
  cases lines <;> rfl

theorem prepend_prepend (first later : List Char) (lines : List EndedLine) :
    prepend first (prepend later lines) = prepend (first ++ later) lines := by
  cases lines with
  | cons line rest => simp [prepend]
  | nil => cases later <;> simp [prepend]

theorem flatMap_chars_prepend (before : List Char) (lines : List EndedLine) :
    (prepend before lines).flatMap EndedLine.chars = before ++ lines.flatMap EndedLine.chars := by
  cases lines with
  | cons line rest => simp [prepend, EndedLine.chars]
  | nil => cases before <;> simp [prepend, EndedLine.chars]

/-- The lines laid end to end are the text. -/
theorem flatMap_chars_cut (text : List Char) : (cut text).flatMap EndedLine.chars = text := by
  fun_induction cut text with
  | case1 => rfl
  | case2 rest ih => rw [List.flatMap_cons, ih]; rfl
  | case3 rest _ ih => rw [List.flatMap_cons, ih]; rfl
  | case4 rest ih => rw [List.flatMap_cons, ih]; rfl
  | case5 c rest _ _ _ ih => rw [flatMap_chars_prepend, ih]; rfl

theorem linesFrom_eq (line text : List Char) :
    linesFrom line text = (prepend line.reverse (cut text)).map EndedLine.content := by
  fun_induction linesFrom line text with
  | case1 line empty => simp_all [cut, prepend]
  | case2 line started => simp_all [cut, prepend]
  | case3 line rest ih =>
    rw [List.reverse_nil, prepend_nil] at ih
    simp [cut, prepend, ih]
  | case4 line rest single ih =>
    rw [List.reverse_nil, prepend_nil] at ih
    simp [cut, prepend, ih]
  | case5 line rest ih =>
    rw [List.reverse_nil, prepend_nil] at ih
    simp [cut, prepend, ih]
  -- Any other character is added to the line that was begun, and both ways it goes in front.
  | case6 line c rest _ noReturn noFeed ih =>
    rw [ih, cut_cons noReturn noFeed, prepend_prepend]
    simp

/-- The lines have the contents of the physical lines. -/
theorem physicalLines_eq (text : String) :
    physicalLines text = (cut text.toList).map fun line => String.ofList line.content := by
  rw [physicalLines, linesFrom_eq, List.reverse_nil, prepend_nil, List.map_map]
  rfl

/-- Only the last line of a text can lack an ending. -/
theorem cut_pairwise (text : List Char) :
    (cut text).Pairwise fun earlier _ => earlier.ending.isSome = true := by
  fun_induction cut text with
  | case1 => exact .nil
  | case2 rest ih => exact List.pairwise_cons.mpr ⟨fun _ _ => rfl, ih⟩
  | case3 rest _ ih => exact List.pairwise_cons.mpr ⟨fun _ _ => rfl, ih⟩
  | case4 rest ih => exact List.pairwise_cons.mpr ⟨fun _ _ => rfl, ih⟩
  | case5 c rest _ _ _ ih =>
    -- A character in front leaves the ending of the first line as it was.
    cases lines : cut rest with
    | nil => simp [prepend]
    | cons line later =>
      rw [lines] at ih
      exact List.pairwise_cons.mpr (List.pairwise_cons.mp ih)

/-- No content holds a line feed. -/
theorem feed_not_mem_content (text : List Char) : ∀ line ∈ cut text, '\n' ∉ line.content := by
  fun_induction cut text with
  | case1 => simp
  | case2 rest ih => simpa using ih
  | case3 rest _ ih => simpa using ih
  | case4 rest ih => simpa using ih
  | case5 c rest _ _ noFeed ih =>
    have other : '\n' ≠ c := fun same => noFeed same.symm
    cases lines : cut rest with
    | nil => simp [prepend, other]
    | cons line later =>
      rw [lines] at ih
      simpa [prepend, other] using ih

/-! ### The text with its endings unified -/

/-- The characters that stand for an ending once each lone carriage return is replaced. -/
def Ending.unified : Ending → List Char
  | .lf | .cr => ['\n']
  | .crlf => ['\r', '\n']

def EndedLine.unified (line : EndedLine) : List Char :=
  line.content ++ line.ending.elim [] Ending.unified

theorem flatMap_unified_prepend (before : List Char) (lines : List EndedLine) :
    (prepend before lines).flatMap EndedLine.unified =
      before ++ lines.flatMap EndedLine.unified := by
  cases lines with
  | cons line rest => simp [prepend, EndedLine.unified]
  | nil => cases before <;> simp [prepend, EndedLine.unified]

theorem unifyFrom_eq (done text : List Char) :
    unifyFrom done text = done.reverse ++ (cut text).flatMap EndedLine.unified := by
  fun_induction unifyFrom done text with
  | case1 done => simp [cut]
  | case2 done rest ih => simp [cut, ih, EndedLine.unified, Ending.unified]
  | case3 done rest single ih => simp [cut, ih, EndedLine.unified, Ending.unified]
  | case4 done c rest _ noReturn ih =>
    -- A line feed is copied like any other character, but in the lines it is an ending.
    by_cases feed : c = '\n'
    · subst feed
      simp [cut, ih, EndedLine.unified, Ending.unified]
    · rw [ih, cut_cons noReturn feed, flatMap_unified_prepend]
      simp

/-- The text with its endings unified has the lines of the text, each with a unified ending. -/
theorem unifyEndings_eq (text : List Char) :
    unifyEndings text = (cut text).flatMap EndedLine.unified :=
  unifyFrom_eq [] text

/-! ### Bytes -/

def bytes (text : List Char) : List UInt8 := text.flatMap String.utf8EncodeChar

/-- The line feeds among the bytes before an offset. -/
def lineFeedsBefore (text : List Char) (offset : Nat) : Nat :=
  ((bytes text).take offset).count 10

theorem bytes_append (left right : List Char) : bytes (left ++ right) = bytes left ++ bytes right :=
  List.flatMap_append

theorem length_bytes (text : String) : (bytes text.toList).length = text.utf8ByteSize := by
  have encoded : text.toByteArray = (bytes text.toList).toByteArray := by
    rw [← String.utf8Encode_toList]
    rfl
  rw [String.utf8ByteSize, encoded, List.size_toByteArray]

theorem ofNat_eq_iff {code value : Nat} (small : code < 256) (other : value < 256) :
    UInt8.ofNat code = UInt8.ofNat value ↔ code = value := by
  rw [← UInt8.toNat_inj, UInt8.toNat_ofNat_of_lt' small, UInt8.toNat_ofNat_of_lt' other]

/-- The byte of an ASCII character is part of no other character. -/
theorem count_utf8EncodeChar {mark : Char} (ascii : mark.toNat < 128) (c : Char) :
    (String.utf8EncodeChar c).count (UInt8.ofNat mark.toNat) = if c = mark then 1 else 0 := by
  have code : c = mark ↔ c.val.toNat = mark.toNat := by
    rw [Char.ext_iff, ← UInt32.toNat_inj]
    rfl
  simp only [code, String.utf8EncodeChar]
  generalize c.val.toNat = value
  generalize mark.toNat = sought at ascii
  -- Bytes of characters that take more than one lie at 128 or above.
  split
  · simp (disch := omega) only [List.count_singleton, beq_iff_eq, ofNat_eq_iff]
  · split
    · simp (disch := omega) only [List.count_cons, List.count_nil, beq_iff_eq, ofNat_eq_iff]
      split_ifs <;> omega
    · split
      · simp (disch := omega) only [List.count_cons, List.count_nil, beq_iff_eq, ofNat_eq_iff]
        split_ifs <;> omega
      · simp (disch := omega) only [List.count_cons, List.count_nil, beq_iff_eq, ofNat_eq_iff]
        split_ifs <;> omega

theorem count_ascii_bytes (text : List Char) {mark : Char} (ascii : mark.toNat < 128) :
    (bytes text).count (UInt8.ofNat mark.toNat) = text.count mark := by
  induction text with
  | nil => rfl
  | cons c rest ih =>
    have split : bytes (c :: rest) = String.utf8EncodeChar c ++ bytes rest := List.flatMap_cons
    rw [split, List.count_append, count_utf8EncodeChar ascii, ih, List.count_cons, Nat.add_comm]
    simp only [beq_iff_eq]

theorem mem_bytes_iff (text : List Char) {mark : Char} (ascii : mark.toNat < 128) :
    UInt8.ofNat mark.toNat ∈ bytes text ↔ mark ∈ text := by
  rw [← List.count_pos_iff, ← List.count_pos_iff, count_ascii_bytes text ascii]

theorem count_bytes (text : List Char) : (bytes text).count 10 = text.count '\n' :=
  count_ascii_bytes text (by decide : '\n'.toNat < 128)

theorem count_bytes_eq_zero {text : List Char} (clean : '\n' ∉ text) (offset : Nat) :
    ((bytes text).take offset).count 10 = 0 := by
  have none : (bytes text).count 10 = 0 := by
    rw [count_bytes, List.count_eq_zero]
    exact clean
  have fewer := (List.take_sublist offset (bytes text)).count_le 10
  omega

namespace EndedLine

/-- The bytes of some lines laid end to end. -/
def size (lines : List EndedLine) : Nat := (bytes (lines.flatMap chars)).length

theorem size_append (left right : List EndedLine) : size (left ++ right) = size left + size right := by
  simp [size, bytes_append]

/-- A unified ending is a line feed at the end, and all bytes stay where they are. -/
theorem exists_unified (line : EndedLine) (clean : '\n' ∉ line.content) :
    ∃ body, '\n' ∉ body ∧ line.unified = body ++ (if line.ending.isSome then ['\n'] else []) ∧
      (bytes line.unified).length = size [line] := by
  obtain ⟨content, ending⟩ := line
  cases ending with
  | none => exact ⟨content, clean, rfl, by simp [size, chars, unified]⟩
  | some ending =>
    have length : (bytes (unified ⟨content, some ending⟩)).length = size [⟨content, some ending⟩] := by
      -- A lone carriage return becomes one line feed, so no ending changes its length.
      have same : (bytes ending.unified).length = (bytes ending.chars).length := by
        cases ending <;> rfl
      simp [size, chars, unified, bytes_append, same]
    cases ending with
    | lf => exact ⟨content, clean, rfl, length⟩
    | cr => exact ⟨content, clean, rfl, length⟩
    | crlf =>
      refine ⟨content ++ ['\r'], ?_, ?_, length⟩
      · simpa using clean
      · simp [unified, Ending.unified]

theorem length_bytes_unified {lines : List EndedLine} (clean : ∀ line ∈ lines, '\n' ∉ line.content) :
    (bytes (lines.flatMap unified)).length = size lines := by
  induction lines with
  | nil => rfl
  | cons line rest ih =>
    obtain ⟨here, later⟩ := List.forall_mem_cons.mp clean
    obtain ⟨_, _, _, length⟩ := exists_unified line here
    have sizes : size (line :: rest) = size [line] + size rest := size_append [line] rest
    rw [List.flatMap_cons, bytes_append, List.length_append, length, ih later, sizes]

/-- Each line that has an ending holds one line feed. -/
theorem count_unified {lines : List EndedLine} (clean : ∀ line ∈ lines, '\n' ∉ line.content)
    (ended : ∀ line ∈ lines, line.ending.isSome = true) :
    (bytes (lines.flatMap unified)).count 10 = lines.length := by
  induction lines with
  | nil => rfl
  | cons line rest ih =>
    obtain ⟨here, later⟩ := List.forall_mem_cons.mp clean
    obtain ⟨hereEnded, laterEnded⟩ := List.forall_mem_cons.mp ended
    obtain ⟨body, free, shape, _⟩ := exists_unified line here
    -- The only line feed of the line is its ending.
    have none : body.count '\n' = 0 := List.count_eq_zero.mpr free
    have one : line.unified.count '\n' = 1 := by
      rw [shape, if_pos hereEnded, List.count_append, none]
      rfl
    rw [List.flatMap_cons, bytes_append, List.count_append, ih later laterEnded, count_bytes, one,
      List.length_cons, Nat.add_comm]

/-- The line feed of a line lies before none of its bytes. -/
theorem count_take_unified {line : EndedLine} (clean : '\n' ∉ line.content) {offset : Nat}
    (inside : offset < size [line]) : ((bytes line.unified).take offset).count 10 = 0 := by
  obtain ⟨body, free, shape, length⟩ := exists_unified line clean
  rw [← length, shape, bytes_append, List.length_append] at inside
  -- The line feed is the last byte, and the offset lies before it.
  have last : (bytes (if line.ending.isSome = true then ['\n'] else [])).length ≤ 1 := by
    split
    · exact Nat.le_refl 1
    · exact Nat.zero_le 1
  have short : offset ≤ (bytes body).length := by omega
  rw [shape, bytes_append, List.take_append_of_le_length short]
  exact count_bytes_eq_zero free offset

end EndedLine

/-! ### The line of an offset -/

/-- A byte offset lies on a line, counted from 0, when the lines are laid end to end. -/
def OnLine (text : String) (index offset : Nat) : Prop :=
  ∃ before line after, cut text.toList = before ++ line :: after ∧ before.length = index ∧
    EndedLine.size before ≤ offset ∧ offset < EndedLine.size before + EndedLine.size [line]

/-- The line feeds before an offset are as many as the lines before its line. -/
theorem lineFeedsBefore_eq {text : String} {index offset : Nat} (lies : OnLine text index offset) :
    lineFeedsBefore (unifyEndings text.toList) offset = index := by
  obtain ⟨before, line, after, lines, rfl, reached, inside⟩ := lies
  have clean := feed_not_mem_content text.toList
  have order := cut_pairwise text.toList
  rw [lines] at clean order
  simp only [List.forall_mem_append, List.forall_mem_cons] at clean
  obtain ⟨cleanBefore, cleanLine, -⟩ := clean
  -- All lines before this one have an ending, and so one line feed each.
  have ended : ∀ earlier ∈ before, earlier.ending.isSome = true := fun earlier member =>
    (List.pairwise_append.mp order).2.2 earlier member line List.mem_cons_self
  have length := EndedLine.length_bytes_unified cleanBefore
  have unified : (bytes line.unified).length = EndedLine.size [line] := by
    obtain ⟨_, _, _, same⟩ := EndedLine.exists_unified line cleanLine
    exact same
  -- The bytes before the offset are those of whole lines and a first part of this one.
  have within : offset - EndedLine.size before < EndedLine.size [line] := by omega
  rw [lineFeedsBefore, unifyEndings_eq, lines, List.flatMap_append, List.flatMap_cons, bytes_append,
    bytes_append, List.take_append, List.count_append, length,
    List.take_of_length_le (by omega), EndedLine.count_unified cleanBefore ended,
    List.take_append_of_le_length (by omega), EndedLine.count_take_unified cleanLine within]
  rfl

/-- Every offset inside some lines lies on one of them. -/
theorem exists_line {lines : List EndedLine} {offset : Nat} (inside : offset < EndedLine.size lines) :
    ∃ before line after, lines = before ++ line :: after ∧ EndedLine.size before ≤ offset ∧
      offset < EndedLine.size before + EndedLine.size [line] := by
  induction lines generalizing offset with
  | nil => exact absurd inside (Nat.not_lt_zero _)
  | cons line rest ih =>
    have sizes : ∀ later,
        EndedLine.size (line :: later) = EndedLine.size [line] + EndedLine.size later :=
      EndedLine.size_append [line]
    by_cases here : offset < EndedLine.size [line]
    · exact ⟨[], line, rest, rfl, Nat.zero_le _, by simpa [EndedLine.size, bytes] using here⟩
    · have later : offset - EndedLine.size [line] < EndedLine.size rest := by
        rw [sizes] at inside
        omega
      obtain ⟨before, found, after, rfl, reached, within⟩ := ih later
      refine ⟨line :: before, found, after, rfl, ?_, ?_⟩
      · rw [sizes]
        omega
      · rw [sizes]
        omega

theorem exists_onLine {text : String} {offset : Nat} (inside : offset < text.utf8ByteSize) :
    ∃ index, index < (physicalLines text).length ∧ OnLine text index offset := by
  have size : EndedLine.size (cut text.toList) = text.utf8ByteSize := by
    rw [EndedLine.size, flatMap_chars_cut, length_bytes]
  obtain ⟨before, line, after, lines, reached, within⟩ := exists_line (size ▸ inside)
  refine ⟨before.length, ?_, before, line, after, lines, rfl, reached, within⟩
  rw [physicalLines_eq, List.length_map, lines, List.length_append, List.length_cons]
  omega

/-- No byte moves when endings are unified. -/
theorem length_bytes_unifyEndings (text : String) :
    (bytes (unifyEndings text.toList)).length = text.utf8ByteSize := by
  rw [unifyEndings_eq, EndedLine.length_bytes_unified (feed_not_mem_content text.toList),
    EndedLine.size, flatMap_chars_cut, length_bytes]

end ScopeCheck.Text
