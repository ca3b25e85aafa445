import ScopeCheck.Proofs.Json.Scalar

/-!
# Values read back

Every value is read back from what is written for it, whatever follows, unless that could go on with a
number. The fuel that a value needs is at most the number of characters that are written for it.
-/

namespace ScopeCheck.Json

/-! ### Blanks -/

theorem isBlank_of_mem_lineBreak {level : Nat} {c : Char} (member : c ∈ lineBreak level) :
    isBlank c = true := by
  rw [lineBreak, List.mem_cons] at member
  rcases member with rfl | blank
  · decide
  · rw [List.eq_of_mem_replicate blank]
    decide

theorem skipBlanks_append {blanks : List Char} (all : ∀ c ∈ blanks, isBlank c = true)
    (text : List Char) : skipBlanks (blanks ++ text) = skipBlanks text :=
  List.dropWhile_append_of_pos all

theorem skipBlanks_lineBreak (level : Nat) (text : List Char) :
    skipBlanks (lineBreak level ++ text) = skipBlanks text :=
  skipBlanks_append (fun _ => isBlank_of_mem_lineBreak) text

theorem skipBlanks_cons {c : Char} (solid : isBlank c = false) (text : List Char) :
    skipBlanks (c :: text) = c :: text := by
  simp [skipBlanks, solid]

theorem readValue?_append {blanks : List Char} (all : ∀ c ∈ blanks, isBlank c = true)
    (fuel : Nat) (text : List Char) :
    readValue? fuel (blanks ++ text) = readValue? fuel text := by
  cases fuel with
  | zero => rw [readValue?, readValue?]
  | succ fuel => rw [readValue?, readValue?, skipBlanks_append all]

theorem readItems?_lineBreak (fuel level : Nat) (text : List Char) :
    readItems? fuel (lineBreak level ++ text) = readItems? fuel text := by
  cases fuel with
  | zero => rw [readItems?, readItems?]
  | succ fuel =>
    rw [readItems?, readItems?, readValue?_append fun _ => isBlank_of_mem_lineBreak]

theorem readMembers?_lineBreak (fuel level : Nat) (text : List Char) :
    readMembers? fuel (lineBreak level ++ text) = readMembers? fuel text := by
  cases fuel with
  | zero => rw [readMembers?, readMembers?]
  | succ fuel => rw [readMembers?, readMembers?, skipBlanks_lineBreak]

/-! ### What stands around a value -/

attribute [simp] lines laterItems laterMembers

theorem EndsNumber.cons {c : Char} (ends : c = ',' ∨ c = '\n') (later : List Char) :
    EndsNumber (c :: later) := by
  intro first rest same
  cases same
  rcases ends with rfl | rfl <;> decide

theorem EndsNumber.nil : EndsNumber [] := by
  intro c later same
  cases same

theorem endsNumber_laterItems (level outer : Nat) (items : List Json) (rest : List Char) :
    EndsNumber (laterItems level items ++ (lineBreak outer ++ rest)) := by
  cases items with
  | nil => exact .cons (.inr rfl) _
  | cons => exact .cons (.inl rfl) _

theorem endsNumber_laterMembers (level outer : Nat) (members : List (String × Json))
    (rest : List Char) : EndsNumber (laterMembers level members ++ (lineBreak outer ++ rest)) := by
  cases members with
  | nil => exact .cons (.inr rfl) _
  | cons => exact .cons (.inl rfl) _

theorem digit_solid {c : Char} (isDigit : c.isDigit = true) : isBlank c = false := by
  by_contra blank
  simp only [isBlank, Bool.not_eq_false, Bool.or_eq_true, beq_iff_eq] at blank
  rcases blank with ((rfl | rfl) | rfl) | rfl <;> cases isDigit

/-- A number is written with a digit at its beginning, or a sign and a digit. -/
theorem signed_eq_cons (value : Int) :
    ∃ first later, signed value = first :: later ∧ (first = '-' ∨ first.isDigit = true) := by
  obtain ⟨digit, later, shape, isDigit⟩ := digits_eq_cons value.natAbs
  unfold signed
  split
  · exact ⟨'-', digits value.natAbs, rfl, .inl rfl⟩
  · exact ⟨digit, later, shape, .inr isDigit⟩

/-- What is written for a value begins with no blank, and not as if a sequence ended. -/
theorem lines_eq_cons (level : Nat) (value : Json) :
    ∃ first later, lines level value = first :: later ∧ isBlank first = false ∧ first ≠ ']' := by
  have ofDigit : ∀ first : Char, first.isDigit = true → isBlank first = false ∧ first ≠ ']' := by
    -- A digit is neither a blank nor a closing bracket.
    intro first isDigit
    refine ⟨digit_solid isDigit, ?_⟩
    rintro rfl
    cases isDigit
  cases value with
  | null => exact ⟨'n', "ull".toList, by simp, by decide, by decide⟩
  | bool value =>
    cases value with
    | false => exact ⟨'f', "alse".toList, by simp, by decide, by decide⟩
    | true => exact ⟨'t', "rue".toList, by simp, by decide, by decide⟩
  | natural value =>
    obtain ⟨first, later, shape, isDigit⟩ := digits_eq_cons value
    exact ⟨first, later, by simp [shape], ofDigit first isDigit⟩
  | number factor exponent =>
    obtain ⟨first, later, shape, sort⟩ := signed_eq_cons factor
    refine ⟨first, later ++ 'e' :: signed exponent, by simp [shape], ?_⟩
    rcases sort with rfl | isDigit
    · decide
    · exact ofDigit first isDigit
  | string text => exact ⟨'\x22', _, by rw [lines, quoted]; rfl, by decide, by decide⟩
  | array items =>
    cases items with
    | nil => exact ⟨'[', _, by rw [lines], by decide, by decide⟩
    | cons item items => exact ⟨'[', _, by rw [lines]; rfl, by decide, by decide⟩
  | object members =>
    cases members with
    | nil => exact ⟨'\x7b', _, by rw [lines], by decide, by decide⟩
    | cons member members => exact ⟨'\x7b', _, by rw [lines]; rfl, by decide, by decide⟩

/-! ### Single values -/

/-- A value is read back wherever it stands, with fuel for each character that is written for it. -/
def Readable (value : Json) : Prop :=
  ∀ level fuel rest, EndsNumber rest → (lines level value).length ≤ fuel →
    readValue? fuel (lines level value ++ rest) = some (value, rest)

theorem exists_fuel {level fuel : Nat} {value : Json} (enough : (lines level value).length ≤ fuel) :
    ∃ left, fuel = left + 1 := by
  obtain ⟨first, later, shape, _⟩ := lines_eq_cons level value
  rw [shape, List.length_cons] at enough
  exact ⟨fuel - 1, by omega⟩

theorem readable_null : Readable .null := by
  intro level fuel rest _ enough
  obtain ⟨fuel, rfl⟩ := exists_fuel enough
  rw [lines, readValue?]
  rfl

theorem readable_bool (value : Bool) : Readable (.bool value) := by
  intro level fuel rest _ enough
  obtain ⟨fuel, rfl⟩ := exists_fuel enough
  cases value <;> rw [lines, readValue?] <;> rfl

theorem readable_string (text : String) : Readable (.string text) := by
  intro level fuel rest _ enough
  obtain ⟨fuel, rfl⟩ := exists_fuel enough
  have read := readCharacters?_quoted text rest
  have shape : lines level (.string text) ++ rest = '\x22' :: (quoted text ++ rest).tail := by
    rw [lines, quoted]
    rfl
  rw [shape, readValue?, skipBlanks_cons (by decide)]
  simp [read]

theorem readValue?_digit {first : Char} (isDigit : first.isDigit = true) (fuel : Nat)
    (later : List Char) :
    readValue? (fuel + 1) (first :: later) = readNumber? false (first :: later) := by
  -- Every other sign with which a value could begin is no digit.
  have other : ∀ c : Char, c.isDigit = false → first ≠ c := by
    rintro c noDigit rfl
    rw [isDigit] at noDigit
    cases noDigit
  rw [readValue?, skipBlanks_cons (digit_solid isDigit)]
  simp [other]

theorem readable_natural (value : Nat) : Readable (.natural value) := by
  intro level fuel rest ended enough
  obtain ⟨fuel, rfl⟩ := exists_fuel enough
  obtain ⟨first, later, shape, isDigit⟩ := digits_eq_cons value
  have read := readNumber?_digits value ended
  rw [lines]
  -- The first digit tells the reader what follows.
  rw [shape] at read ⊢
  rw [List.cons_append, readValue?_digit isDigit]
  exact read

theorem readable_number (factor exponent : Int) : Readable (.number factor exponent) := by
  intro level fuel rest ended enough
  obtain ⟨fuel, rfl⟩ := exists_fuel enough
  rw [lines, List.append_assoc, List.cons_append]
  by_cases negative : factor < 0
  · -- The sign is read first, and the number changes it back.
    have read := readNumber?_signed true factor.natAbs exponent ended
    have back : -(factor.natAbs : Int) = factor := by omega
    rw [if_pos rfl, back] at read
    rw [signed, if_pos negative, List.cons_append, readValue?, skipBlanks_cons (by decide)]
    exact read
  · have read := readNumber?_signed false factor.natAbs exponent ended
    have back : (factor.natAbs : Int) = factor := by omega
    obtain ⟨first, later, shape, isDigit⟩ := digits_eq_cons factor.natAbs
    rw [if_neg Bool.false_ne_true, back] at read
    rw [signed, if_neg negative]
    rw [shape] at read ⊢
    rw [List.cons_append, readValue?_digit isDigit]
    exact read

/-! ### Sequences -/

theorem readItems?_last {item : Json} (readable : Readable item) {level fuel : Nat}
    {rest later : List Char} (ended : EndsNumber rest)
    (enough : (lines level item).length ≤ fuel) (closed : skipBlanks rest = ']' :: later) :
    readItems? (fuel + 1) (lines level item ++ rest) = some ([item], later) := by
  rw [readItems?, readable level fuel rest ended enough]
  simp [closed]

theorem readItems?_more {item : Json} (readable : Readable item) {level fuel : Nat}
    {rest later after : List Char} {items : List Json} (ended : EndsNumber rest)
    (enough : (lines level item).length ≤ fuel) (goesOn : skipBlanks rest = ',' :: later)
    (read : readItems? fuel later = some (items, after)) :
    readItems? (fuel + 1) (lines level item ++ rest) = some (item :: items, after) := by
  rw [readItems?, readable level fuel rest ended enough]
  simp [goesOn, read]

/-- Items that read back are read up to the end of the sequence that holds them. -/
theorem readItems?_lines {item : Json} {items : List Json}
    (readable : ∀ part ∈ item :: items, Readable part) (level outer fuel : Nat) (rest : List Char)
    (enough : (lines level item).length + (laterItems level items).length < fuel) :
    readItems? fuel (lines level item ++ (laterItems level items ++
      (lineBreak outer ++ ']' :: rest))) = some (item :: items, rest) := by
  induction items generalizing item fuel with
  | nil =>
    obtain ⟨fuel, rfl⟩ : ∃ left, fuel = left + 1 := ⟨fuel - 1, by omega⟩
    have first := readable item List.mem_cons_self
    apply readItems?_last first (endsNumber_laterItems level outer [] _) (by omega)
    rw [laterItems, List.nil_append, skipBlanks_lineBreak, skipBlanks_cons (by decide)]
  | cons next items ih =>
    obtain ⟨fuel, rfl⟩ : ∃ left, fuel = left + 1 := ⟨fuel - 1, by omega⟩
    obtain ⟨first, later⟩ := List.forall_mem_cons.mp readable
    apply readItems?_more first (endsNumber_laterItems level outer (next :: items) _) (by omega)
    · rw [laterItems, List.cons_append, List.cons_append, List.cons_append]
      exact skipBlanks_cons (by decide) _
    · -- The comma and the line end pay for the call that reads the later items.
      simp only [laterItems, List.length_cons, List.length_append] at enough
      simp only [List.append_assoc]
      rw [readItems?_lineBreak]
      exact ih later fuel (by omega)

theorem readable_array {items : List Json} (readable : ∀ item ∈ items, Readable item) :
    Readable (.array items) := by
  intro level fuel rest _ enough
  obtain ⟨fuel, rfl⟩ := exists_fuel enough
  cases items with
  | nil =>
    rw [lines, readValue?]
    rfl
  | cons item items =>
    obtain ⟨first, later, shape, solid, goesOn⟩ := lines_eq_cons (level + 1) item
    rw [lines] at enough ⊢
    simp only [List.length_cons, List.length_append] at enough
    have read := readItems?_lines readable (level + 1) level fuel rest (by omega)
    -- Behind the bracket the reader skips the line break and meets the first item.
    have inside : skipBlanks (lineBreak (level + 1) ++ (lines (level + 1) item ++
        (laterItems (level + 1) items ++ (lineBreak level ++ ']' :: rest)))) =
          lines (level + 1) item ++ (laterItems (level + 1) items ++
            (lineBreak level ++ ']' :: rest)) := by
      rw [skipBlanks_lineBreak, shape, List.cons_append, skipBlanks_cons solid]
    simp only [List.cons_append, List.append_assoc, List.nil_append]
    rw [readValue?, skipBlanks_cons (by decide)]
    simp only [Char.reduceEq, if_false, if_true, inside]
    -- An item begins with no bracket, so that the array is not read as an empty one.
    rw [shape, List.cons_append] at read ⊢
    split
    next same => exact absurd (List.cons.inj same).1 goesOn
    next => rw [read]; rfl

/-! ### Objects -/

theorem skipBlanks_quoted (text : String) (rest : List Char) :
    skipBlanks (quoted text ++ rest) = '\x22' :: (quoted text ++ rest).tail :=
  skipBlanks_cons (by decide) _

theorem skipBlanks_colon (rest : List Char) :
    skipBlanks (": ".toList ++ rest) = ':' :: ([' '] ++ rest) :=
  skipBlanks_cons (by decide) _

theorem Readable.behindBlank {value : Json} (readable : Readable value) {level fuel : Nat}
    {rest : List Char} (ended : EndsNumber rest) (enough : (lines level value).length ≤ fuel) :
    readValue? fuel ([' '] ++ (lines level value ++ rest)) = some (value, rest) := by
  rw [readValue?_append (List.forall_mem_singleton.mpr (by decide))]
  exact readable level fuel rest ended enough

theorem readMembers?_last (key : String) {value : Json} (readable : Readable value)
    {level fuel : Nat} {rest later : List Char} (ended : EndsNumber rest)
    (enough : (lines level value).length ≤ fuel) (closed : skipBlanks rest = '\x7d' :: later) :
    readMembers? (fuel + 1) (quoted key ++ (": ".toList ++ (lines level value ++ rest))) =
      some ([(key, value)], later) := by
  have read := readable.behindBlank ended enough
  rw [readMembers?, skipBlanks_quoted]
  simp only [readCharacters?_quoted, skipBlanks_colon, read, closed, Option.bind_eq_bind,
    Option.bind_some]
  rfl

theorem readMembers?_more (key : String) {value : Json} (readable : Readable value)
    {level fuel : Nat} {rest later after : List Char} {members : List (String × Json)}
    (ended : EndsNumber rest) (enough : (lines level value).length ≤ fuel)
    (goesOn : skipBlanks rest = ',' :: later) (more : readMembers? fuel later = some (members, after)) :
    readMembers? (fuel + 1) (quoted key ++ (": ".toList ++ (lines level value ++ rest))) =
      some ((key, value) :: members, after) := by
  have read := readable.behindBlank ended enough
  rw [readMembers?, skipBlanks_quoted]
  simp only [readCharacters?_quoted, skipBlanks_colon, read, goesOn, more, Option.bind_eq_bind,
    Option.bind_some]
  rfl

/-- Members whose values read back are read up to the end of the object that holds them. -/
theorem readMembers?_lines {key : String} {value : Json} {members : List (String × Json)}
    (readable : ∀ member ∈ (key, value) :: members, Readable member.2) (level outer fuel : Nat)
    (rest : List Char)
    (enough : (lines level value).length + (laterMembers level members).length < fuel) :
    readMembers? fuel (quoted key ++ (": ".toList ++ (lines level value ++
      (laterMembers level members ++ (lineBreak outer ++ '\x7d' :: rest))))) =
        some ((key, value) :: members, rest) := by
  induction members generalizing key value fuel with
  | nil =>
    obtain ⟨fuel, rfl⟩ : ∃ left, fuel = left + 1 := ⟨fuel - 1, by omega⟩
    have first : Readable value := readable (key, value) List.mem_cons_self
    apply readMembers?_last key first (endsNumber_laterMembers level outer [] _) (by omega)
    rw [laterMembers, List.nil_append, skipBlanks_lineBreak, skipBlanks_cons (by decide)]
  | cons next members ih =>
    obtain ⟨fuel, rfl⟩ : ∃ left, fuel = left + 1 := ⟨fuel - 1, by omega⟩
    have first : Readable value := readable (key, value) List.mem_cons_self
    obtain ⟨_, later⟩ := List.forall_mem_cons.mp readable
    have ended := endsNumber_laterMembers level outer (next :: members) ('\x7d' :: rest)
    apply readMembers?_more key first ended (by omega)
    · rw [laterMembers, List.cons_append, List.cons_append, List.cons_append, List.cons_append,
        List.cons_append]
      exact skipBlanks_cons (by decide) _
    · simp only [laterMembers, List.length_cons, List.length_append] at enough
      simp only [List.append_assoc]
      rw [readMembers?_lineBreak]
      exact ih later fuel (by omega)

theorem readable_object {members : List (String × Json)}
    (readable : ∀ member ∈ members, Readable member.2) : Readable (.object members) := by
  intro level fuel rest _ enough
  obtain ⟨fuel, rfl⟩ := exists_fuel enough
  cases members with
  | nil =>
    rw [lines, readValue?]
    rfl
  | cons member members =>
    obtain ⟨key, value⟩ := member
    rw [lines] at enough ⊢
    simp only [List.length_cons, List.length_append] at enough
    have read := readMembers?_lines readable (level + 1) level fuel rest (by omega)
    simp only [List.cons_append, List.append_assoc, List.nil_append]
    rw [readValue?, skipBlanks_cons (by decide)]
    simp only [Char.reduceEq, if_false, if_true, skipBlanks_lineBreak]
    have inside : ∀ text, skipBlanks (quoted key ++ text) = quoted key ++ text :=
      fun text => skipBlanks_cons (by decide) _
    rw [inside]
    -- A member begins with a quotation mark, so that the object is not read as an empty one.
    split
    next same => cases same
    next => rw [read]; rfl

/-! ### All values -/

/-- Every value reads back wherever it stands. -/
theorem readable (value : Json) : Readable value := by
  match value with
  | .null => exact readable_null
  | .bool value => exact readable_bool value
  | .natural value => exact readable_natural value
  | .number factor exponent => exact readable_number factor exponent
  | .string text => exact readable_string text
  | .array items => exact readable_array fun item _ => readable item
  | .object members =>
    -- The value of a member is smaller than the list that holds it under its key.
    refine readable_object fun member inside => ?_
    have smaller : sizeOf member.2 < sizeOf members := by
      have whole := List.sizeOf_lt_of_mem inside
      cases member
      simp only [Prod.mk.sizeOf_spec] at whole ⊢
      omega
    exact readable member.2

/-- The document of a value reads back as the value, also with a line end behind it. -/
theorem read?_pretty (value : Json) :
    read? value.pretty = some value ∧ read? (value.pretty ++ "\n") = some value := by
  have read : ∀ rest, EndsNumber rest →
      readValue? ((lines 0 value ++ rest).length + 1) (lines 0 value ++ rest) =
        some (value, rest) := by
    intro rest ended
    apply readable value 0 _ rest ended
    rw [List.length_append]
    omega
  have alone := read [] .nil
  -- A line end cannot belong to a number either.
  have ended := read ['\n'] (.cons (.inr rfl) [])
  rw [List.append_nil] at alone
  constructor
  · simp only [read?, pretty, String.toList_ofList]
    rw [alone]
    rfl
  · simp only [read?, pretty, String.toList_append, String.toList_ofList]
    have feed : "\n".toList = ['\n'] := rfl
    rw [feed, ended]
    rfl

end ScopeCheck.Json
