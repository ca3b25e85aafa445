import ScopeCheck.Proofs.Text.Slices

/-!
# Cutting a text is the inverse of joining lines

Lines can be joined in more than one way to the same text: a carriage return at the end of a line and a
line feed at the beginning of the next one are read as a single ending, and a last line without content
leaves no trace unless it has an ending. Lines that avoid both can be told apart.
-/

namespace ScopeCheck.Text

namespace EndedLine

/-- Some lines laid end to end. -/
def join (lines : List EndedLine) : List Char := lines.flatMap chars

/-- Lines that can be told apart when they are joined. -/
structure Joinable (lines : List EndedLine) : Prop where
  clean : ∀ line ∈ lines, '\n' ∉ line.content ∧ '\r' ∉ line.content
  unended : ∀ before line after, lines = before ++ line :: after → line.ending = none →
    after = [] ∧ line.content ≠ []
  lone : ∀ before line after, lines = before ++ line :: after → line.ending = some .cr →
    (join after).head? ≠ some '\n'

theorem joinable_nil : Joinable [] := by
  constructor <;> simp

theorem joinable_cons {line : EndedLine} {later : List EndedLine} :
    Joinable (line :: later) ↔ ('\n' ∉ line.content ∧ '\r' ∉ line.content) ∧
      (line.ending = none → later = [] ∧ line.content ≠ []) ∧
      (line.ending = some .cr → (join later).head? ≠ some '\n') ∧ Joinable later := by
  constructor
  · intro joinable
    refine ⟨joinable.clean line List.mem_cons_self, joinable.unended [] line later rfl,
      joinable.lone [] line later rfl, ?_⟩
    constructor
    · intro other member
      exact joinable.clean other (List.mem_cons_of_mem _ member)
    · rintro before other after rfl
      exact joinable.unended (line :: before) other after rfl
    · rintro before other after rfl
      exact joinable.lone (line :: before) other after rfl
  · rintro ⟨clean, unended, lone, joinable⟩
    constructor
    · exact List.forall_mem_cons.mpr ⟨clean, joinable.clean⟩
    · intro before other after lines
      cases before with
      | nil =>
        obtain ⟨rfl, rfl⟩ := List.cons.inj lines
        exact unended
      | cons first before => exact joinable.unended before other after (List.cons.inj lines).2
    · intro before other after lines
      cases before with
      | nil =>
        obtain ⟨rfl, rfl⟩ := List.cons.inj lines
        exact lone
      | cons first before => exact joinable.lone before other after (List.cons.inj lines).2

end EndedLine

open EndedLine

/-! ### Cutting and joining -/

theorem join_cut (text : List Char) : join (cut text) = text := flatMap_chars_cut text

theorem prepend_joinable {c : Char} (noFeed : c ≠ '\n') (noReturn : c ≠ '\r')
    {lines : List EndedLine} (joinable : Joinable lines) : Joinable (prepend [c] lines) := by
  cases lines with
  | nil =>
    refine joinable_cons.mpr ⟨?_, ?_, ?_, joinable_nil⟩
    · simp [noFeed.symm, noReturn.symm]
    · simp
    · simp
  | cons line later =>
    obtain ⟨⟨feedFree, returnFree⟩, unended, lone, rest⟩ := joinable_cons.mp joinable
    refine joinable_cons.mpr ⟨?_, ?_, lone, rest⟩
    · simp [noFeed.symm, noReturn.symm, feedFree, returnFree]
    · intro none
      exact ⟨(unended none).1, by simp⟩

/-- The lines of a text can be told apart in it. -/
theorem cut_joinable (text : List Char) : Joinable (cut text) := by
  fun_induction cut text with
  | case1 => exact joinable_nil
  | case2 rest ih => exact joinable_cons.mpr ⟨by simp, by simp, by simp, ih⟩
  | case3 rest single ih =>
    refine joinable_cons.mpr ⟨by simp, by simp, fun _ => ?_, ih⟩
    -- A line feed behind the carriage return would be part of the ending.
    rw [join_cut]
    intro feed
    obtain ⟨after, rfl⟩ := List.head?_eq_some_iff.mp feed
    exact single after rfl
  | case4 rest ih => exact joinable_cons.mpr ⟨by simp, by simp, by simp, ih⟩
  | case5 c rest _ noReturn noFeed ih => exact prepend_joinable noFeed noReturn ih

theorem cut_append {content : List Char} (clean : '\n' ∉ content ∧ '\r' ∉ content)
    (rest : List Char) : cut (content ++ rest) = prepend content (cut rest) := by
  -- None of these characters ends a line, so they all go in front of the first line.
  induction content with
  | nil => exact (prepend_nil _).symm
  | cons c content ih =>
    simp only [List.mem_cons, not_or] at clean
    obtain ⟨⟨noFeed, feedFree⟩, noReturn, returnFree⟩ := clean
    rw [List.cons_append, cut_cons (Ne.symm noReturn) (Ne.symm noFeed), ih ⟨feedFree, returnFree⟩,
      prepend_prepend]
    rfl

theorem cut_cr {rest : List Char} (lone : rest.head? ≠ some '\n') :
    cut ('\r' :: rest) = ⟨[], some .cr⟩ :: cut rest := by
  rw [cut]
  rintro after rfl
  exact lone rfl

/-- Lines that can be told apart are found again. -/
theorem cut_join {lines : List EndedLine} (joinable : Joinable lines) : cut (join lines) = lines := by
  induction lines with
  | nil => rfl
  | cons line later ih =>
    obtain ⟨clean, unended, lone, rest⟩ := joinable_cons.mp joinable
    have again := ih rest
    obtain ⟨content, ending⟩ := line
    have laid : join (⟨content, ending⟩ :: later) =
        content ++ (ending.elim [] Ending.chars ++ join later) := by
      simp [join, chars]
    rw [laid, cut_append clean]
    cases ending with
    | none =>
      obtain ⟨rfl, filled⟩ := unended rfl
      simp [join, cut, prepend, filled]
    | some ending =>
      -- Each ending cuts the text where the line ends.
      have ended : cut (ending.chars ++ join later) = ⟨[], some ending⟩ :: later := by
        cases ending with
        | lf => rw [Ending.chars, List.singleton_append, cut, again]
        | crlf => rw [Ending.chars, List.cons_append, List.singleton_append, cut, again]
        | cr => rw [Ending.chars, List.singleton_append, cut_cr (lone rfl), again]
      rw [Option.elim_some, ended, prepend, List.append_nil]

/-- Cutting a text is the inverse of joining lines. -/
theorem cut_eq_iff {text : List Char} {lines : List EndedLine} :
    cut text = lines ↔ Joinable lines ∧ join lines = text := by
  constructor
  · rintro rfl
    exact ⟨cut_joinable text, join_cut text⟩
  · rintro ⟨joinable, rfl⟩
    exact cut_join joinable

/-! ### Lines by slices -/

/-- The byte offset of the first line feed or carriage return. -/
def endingOffset? : List Char → Option Nat
  | [] => none
  | c :: rest => if c = '\n' ∨ c = '\r' then some 0 else (endingOffset? rest).map (c.utf8Size + ·)

/-- Cuts a text at its line endings by slices of what is left of it: the line up to the first ending,
what begins with that ending, and what follows it. There is no answer where one of them cannot be
taken. -/
def slicedLines? (text : String) : Option (List String) :=
  if text.isEmpty then some []
  else
    match endingOffset? text.toList with
    | none => some [text]
    | some offset =>
      match slice? text 0 offset, slice? text offset text.utf8ByteSize with
      | some line, some behind =>
        let width := if ['\r', '\n'].isPrefixOf behind.toList then 2 else 1
        match _later : slice? text (offset + width) text.utf8ByteSize with
        | some rest => (slicedLines? rest).map (line :: ·)
        | none => none
      | _, _ => none
termination_by text.utf8ByteSize
decreasing_by
  obtain ⟨before, after, _, begins, ends⟩ := slice?_eq_some_iff.mp _later
  have taken : 0 < width := by
    unfold width
    split <;> decide
  omega

theorem endingOffset?_append {content : List Char} (clean : '\n' ∉ content ∧ '\r' ∉ content)
    (rest : List Char) :
    endingOffset? (content ++ rest) =
      (endingOffset? rest).map ((String.ofList content).utf8ByteSize + ·) := by
  induction content with
  | nil => simp
  | cons c content ih =>
    simp only [List.mem_cons, not_or] at clean
    obtain ⟨⟨noFeed, feedFree⟩, noReturn, returnFree⟩ := clean
    -- No character of the content ends the search, so each adds its own bytes to the offset.
    rw [List.cons_append, endingOffset?, if_neg (by simp [Ne.symm noFeed, Ne.symm noReturn]),
      ih ⟨feedFree, returnFree⟩, Option.map_map]
    congr 1
    funext offset
    simp [String.utf8ByteSize_ofList, Nat.add_comm, Nat.add_left_comm]

theorem slicedLines?_last {content : List Char} (clean : '\n' ∉ content ∧ '\r' ∉ content)
    (filled : content ≠ []) :
    slicedLines? (String.ofList content) = some [String.ofList content] := by
  have none := endingOffset?_append clean []
  rw [List.append_nil, endingOffset?, Option.map_none] at none
  have notEmpty : (String.ofList content).isEmpty = false := by simpa using filled
  rw [slicedLines?, if_neg (by simp [notEmpty]), String.toList_ofList, none]

def Ending.width : Ending → Nat
  | .lf | .cr => 1
  | .crlf => 2

/-- Only a carriage return with a line feed behind it takes two bytes. -/
theorem width_of_prefix {ending : Ending} {rest : List Char}
    (lone : ending = .cr → rest.head? ≠ some '\n') :
    (if ['\r', '\n'].isPrefixOf (ending.chars ++ rest) then 2 else 1) = ending.width := by
  cases ending with
  | lf => rfl
  | crlf => rfl
  | cr =>
    cases rest with
    | nil => rfl
    | cons c after =>
      have other : c ≠ '\n' := by
        rintro rfl
        exact lone rfl rfl
      simp [Ending.chars, Ending.width, Ne.symm other]

/-- One round of cutting by slices: the slices up to an ending, from it and behind it can be taken. -/
theorem slicedLines?_ended {content : List Char} (clean : '\n' ∉ content ∧ '\r' ∉ content)
    {ending : Ending} {rest : String} (lone : ending = .cr → rest.toList.head? ≠ some '\n') :
    slicedLines? (String.ofList content ++ String.ofList ending.chars ++ rest) =
      (slicedLines? rest).map (String.ofList content :: ·) := by
  -- The text gets a name, so that its size is not taken apart where it is an offset.
  obtain ⟨text, isText⟩ : ∃ text, text = String.ofList content ++ String.ofList ending.chars ++ rest :=
    ⟨_, rfl⟩
  have width : (String.ofList ending.chars).utf8ByteSize = ending.width := by
    cases ending <;> rfl
  have chars : text.toList = content ++ (ending.chars ++ rest.toList) := by
    simp [isText]
  have offset : endingOffset? text.toList = some (String.ofList content).utf8ByteSize := by
    have here : endingOffset? (ending.chars ++ rest.toList) = some 0 := by
      cases ending <;> rfl
    rw [chars, endingOffset?_append clean, here, Option.map_some, Nat.add_zero]
  have notEmpty : ¬ text.isEmpty = true := by
    intro empty
    rw [String.isEmpty_iff.mp empty] at offset
    cases offset
  have size : text.utf8ByteSize =
      (String.ofList content).utf8ByteSize + ending.width + rest.utf8ByteSize := by
    rw [isText, String.utf8ByteSize_append, String.utf8ByteSize_append, width]
  -- The three slices of this round are parts of the text.
  have line : slice? text 0 (String.ofList content).utf8ByteSize = some (String.ofList content) :=
    slice?_eq_some_iff.mpr
      ⟨"", String.ofList ending.chars ++ rest, by simp [isText, String.append_assoc], rfl, by simp⟩
  have behind : slice? text (String.ofList content).utf8ByteSize text.utf8ByteSize =
      some (String.ofList ending.chars ++ rest) := by
    refine slice?_eq_some_iff.mpr ⟨String.ofList content, "", ?_, rfl, ?_⟩
    · simp [isText, String.append_assoc]
    · rw [size, String.utf8ByteSize_append, width, Nat.add_assoc]
  have later : slice? text ((String.ofList content).utf8ByteSize + ending.width)
      text.utf8ByteSize = some rest := by
    refine slice?_eq_some_iff.mpr
      ⟨String.ofList content ++ String.ofList ending.chars, "", ?_, ?_, ?_⟩
    · simp [isText]
    · rw [String.utf8ByteSize_append, width]
    · rw [size, String.utf8ByteSize_append, width]
  -- What begins with the ending tells how wide it is.
  have taken : (if ['\r', '\n'].isPrefixOf (String.ofList ending.chars ++ rest).toList
      then 2 else 1) = ending.width := by
    rw [String.toList_append, String.toList_ofList]
    exact width_of_prefix lone
  rw [← isText, slicedLines?, if_neg notEmpty]
  simp only [offset, line, behind]
  split
  next found isFound =>
    rw [taken, later] at isFound
    cases isFound
    rfl
  next nothing =>
    rw [taken, later] at nothing
    cases nothing

/-- Every slice can be taken, and the lines among the slices are the contents. -/
theorem slicedLines?_join {lines : List EndedLine} (joinable : Joinable lines) :
    slicedLines? (String.ofList (join lines)) =
      some (lines.map fun line => String.ofList line.content) := by
  induction lines with
  | nil =>
    rw [slicedLines?]
    rfl
  | cons line later ih =>
    obtain ⟨clean, unended, lone, rest⟩ := joinable_cons.mp joinable
    obtain ⟨content, ending⟩ := line
    cases ending with
    | none =>
      obtain ⟨rfl, filled⟩ := unended rfl
      have laid : join [⟨content, none⟩] = content := by simp [join, chars]
      rw [laid]
      exact slicedLines?_last clean filled
    | some ending =>
      -- One round takes the line with its ending off, and what is left is the other lines.
      have laid : String.ofList (join (⟨content, some ending⟩ :: later)) =
          String.ofList content ++ String.ofList ending.chars ++ String.ofList (join later) := by
        simp [join, chars, String.ofList_append, String.append_assoc]
      have single : ending = .cr → (String.ofList (join later)).toList.head? ≠ some '\n' := by
        rintro rfl
        rw [String.toList_ofList]
        exact lone rfl
      rw [laid, slicedLines?_ended clean single, ih rest]
      rfl

/-! ### Physical lines -/

/-- The physical lines of a text and joining are inverse to each other. Each text is its physical lines
joined, with some ending for each; lines that can be told apart are the physical lines of what they
are joined to; and cutting a text by slices comes to an end with its physical lines, as every slice
that it takes lies in the text and cuts through no character. -/
theorem physicalLines_inverse_of_joining :
    (∀ text : String, ∃ lines, Joinable lines ∧ String.ofList (join lines) = text ∧
      physicalLines text = lines.map fun line => String.ofList line.content) ∧
    (∀ lines, Joinable lines →
      physicalLines (String.ofList (join lines)) =
        lines.map fun line => String.ofList line.content) ∧
    ∀ text : String, slicedLines? text = some (physicalLines text) := by
  refine ⟨fun text => ?_, fun lines joinable => ?_, fun text => ?_⟩
  · refine ⟨cut text.toList, cut_joinable _, ?_, physicalLines_eq text⟩
    rw [join_cut, String.ofList_toList]
  · rw [physicalLines_eq, String.toList_ofList, cut_join joinable]
  · have sliced := slicedLines?_join (cut_joinable text.toList)
    rwa [join_cut, String.ofList_toList, ← physicalLines_eq] at sliced

/-- A line of two bytes and an empty one, with three endings in a row between them and the others. -/
def mixedLines : List EndedLine :=
  [⟨['é'], some .cr⟩, ⟨[], some .crlf⟩, ⟨[], some .lf⟩, ⟨['b'], some .cr⟩, ⟨['c', '!'], none⟩]

theorem mixedLines_found :
    Joinable mixedLines ∧ String.ofList (join mixedLines) = "é\r\r\n\nb\rc!" ∧
    physicalLines "é\r\r\n\nb\rc!" = ["é", "", "", "b", "c!"] ∧
    slicedLines? "é\r\r\n\nb\rc!" = some ["é", "", "", "b", "c!"] := by
  have joinable : Joinable mixedLines := by
    simp [mixedLines, joinable_cons, joinable_nil, join, chars, Ending.chars]
  obtain ⟨-, found, sliced⟩ := physicalLines_inverse_of_joining
  have lines : physicalLines "é\r\r\n\nb\rc!" = ["é", "", "", "b", "c!"] :=
    found mixedLines joinable
  exact ⟨joinable, rfl, lines, (sliced _).trans (congrArg some lines)⟩

end ScopeCheck.Text
