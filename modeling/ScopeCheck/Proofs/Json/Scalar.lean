import Mathlib.Data.List.Basic
import ScopeCheck.Json.Printer
import ScopeCheck.Json.Reader

/-!
# Texts and numbers read back

The reader takes the written form of one character for that character, whatever follows. Only where an
escape by number follows another one does it look further, since the two could be the halves of one
character.
-/

namespace ScopeCheck.Json

/-! ### One character -/

theorem readCharacters?_plainEscape {c letter : Char} (escaped : plainEscape? letter = some c)
    (done rest : List Char) :
    readCharacters? done ('\\' :: letter :: rest) = readCharacters? (c :: done) rest := by
  -- The letter `u` is no plain escape.
  have other : letter ≠ 'u' := by
    rintro rfl
    simp [plainEscape?] at escaped
  rw [readCharacters?.eq_5]
  · rw [escaped]
  · exact fun _ _ _ _ _ _ _ _ _ same => absurd same other
  · exact fun _ _ _ _ _ same => absurd same other

theorem readCharacters?_self {c : Char} (noQuote : c ≠ '\x22') (noEscape : c ≠ '\\')
    (printable : ¬ c < ' ') (done rest : List Char) :
    readCharacters? done (c :: rest) = readCharacters? (c :: done) rest := by
  rw [readCharacters?.eq_6]
  · simp [printable, noEscape]
  · -- Neither the end of the text nor an escape begins here.
    exact noQuote
  · exact fun _ _ _ _ _ _ _ _ _ same => absurd same noEscape
  · exact fun _ _ _ _ _ same => absurd same noEscape
  · exact fun _ _ same => absurd same noEscape

/-- An escape by number at the beginning of a text is a number indeed. -/
def UnitsInside (rest : List Char) : Prop :=
  ∀ a b c d later, rest = '\\' :: 'u' :: a :: b :: c :: d :: later → (unit? a b c d).isSome

/-- An escape by number stands for a character, unless it could be half of one. -/
theorem readCharacters?_unit {a b c d : Char} {unit : Nat} (number : unit? a b c d = some unit)
    (small : unit < 0xD800) {rest : List Char} (inside : UnitsInside rest) (done : List Char) :
    readCharacters? done ('\\' :: 'u' :: a :: b :: c :: d :: rest) =
      readCharacters? (Char.ofNat unit :: done) rest := by
  -- Both halves of a pair are greater than this number.
  have noHigh : isHighHalf unit = false := by
    simp [isHighHalf]
    omega
  have noLow : isLowHalf unit = false := by
    simp [isLowHalf]
    omega
  by_cases paired : ∃ e f g h later, rest = '\\' :: 'u' :: e :: f :: g :: h :: later
  · -- Another escape by number follows, and is not joined to this one.
    obtain ⟨e, f, g, h, later, rfl⟩ := paired
    obtain ⟨next, isUnit⟩ := Option.isSome_iff_exists.mp (inside e f g h later rfl)
    rw [readCharacters?.eq_3, number, isUnit]
    simp [noHigh, noLow]
  · -- No such escape follows, and the number stands alone.
    rw [readCharacters?.eq_4]
    · rw [number]
      simp [noHigh, noLow]
    · exact fun e f g h later same => paired ⟨e, f, g, h, later, same⟩

/-! ### A text -/

theorem hexValue?_hexDigit : ∀ value < 16, hexValue? (hexDigit value) = some value := by
  decide

theorem unit?_escape {c : Char} (control : c < ' ') :
    unit? '0' '0' (hexDigit (c.toNat / 16)) (hexDigit (c.toNat % 16)) = some c.toNat := by
  have small : c.toNat < 32 := control
  have zero : hexValue? '0' = some 0 := by decide
  have digits : c.toNat / 16 * 16 + c.toNat % 16 = c.toNat := Nat.div_add_mod' _ 16
  rw [unit?, zero, hexValue?_hexDigit _ (by omega), hexValue?_hexDigit _ (by omega)]
  simpa using digits

/-- The three ways in which a character is written. -/
theorem escape_cases (c : Char) :
    (∃ letter, plainEscape? letter = some c ∧ escape c = ['\\', letter]) ∨
    (c < ' ' ∧ escape c =
      ['\\', 'u', '0', '0', hexDigit (c.toNat / 16), hexDigit (c.toNat % 16)]) ∨
    (c ≠ '\x22' ∧ c ≠ '\\' ∧ ¬ c < ' ' ∧ escape c = [c]) := by
  -- A character that has a letter of its own is known, so that both sides compute.
  by_cases quote : c = '\x22'
  · subst quote
    exact .inl ⟨'\x22', rfl, rfl⟩
  by_cases backslash : c = '\\'
  · subst backslash
    exact .inl ⟨'\\', rfl, rfl⟩
  by_cases backspace : c = '\x08'
  · subst backspace
    exact .inl ⟨'b', rfl, rfl⟩
  by_cases tab : c = '\t'
  · subst tab
    exact .inl ⟨'t', rfl, rfl⟩
  by_cases feed : c = '\n'
  · subst feed
    exact .inl ⟨'n', rfl, rfl⟩
  by_cases page : c = '\x0c'
  · subst page
    exact .inl ⟨'f', rfl, rfl⟩
  by_cases carriage : c = '\r'
  · subst carriage
    exact .inl ⟨'r', rfl, rfl⟩
  right
  unfold escape
  by_cases control : c < ' '
  · left
    simp [*]
  · right
    simp [*]

/-- What is written for a text begins with no escape by number but those of control characters. -/
theorem unitsInside_escaped (text rest : List Char) :
    UnitsInside (text.flatMap escape ++ '\x22' :: rest) := by
  intro a b c d later same
  cases text with
  | nil => cases same
  | cons first text =>
    rw [List.flatMap_cons, List.append_assoc] at same
    obtain ⟨letter, escaped, shape⟩ | ⟨control, shape⟩ | ⟨_, noEscape, _, shape⟩ :=
      escape_cases first
    · simp only [shape, List.cons_append, List.nil_append, List.cons.injEq, true_and] at same
      obtain ⟨rfl, _⟩ := same
      simp [plainEscape?] at escaped
    · simp only [shape, List.cons_append, List.nil_append, List.cons.injEq, true_and] at same
      obtain ⟨rfl, rfl, rfl, rfl, _⟩ := same
      rw [unit?_escape control]
      rfl
    · -- A character that is written as itself is no backslash.
      simp only [shape, List.cons_append, List.cons.injEq] at same
      exact absurd same.1 noEscape

theorem readCharacters?_escape (c : Char) {rest : List Char} (inside : UnitsInside rest)
    (done : List Char) :
    readCharacters? done (escape c ++ rest) = readCharacters? (c :: done) rest := by
  obtain ⟨letter, escaped, shape⟩ | ⟨control, shape⟩ | ⟨noQuote, noEscape, printable, shape⟩ :=
    escape_cases c
  · rw [shape]
    exact readCharacters?_plainEscape escaped done rest
  · have small : c.toNat < 32 := control
    have read := readCharacters?_unit (unit?_escape control) (by omega) inside done
    rw [Char.ofNat_toNat] at read
    rw [shape]
    exact read
  · rw [shape]
    exact readCharacters?_self noQuote noEscape printable done rest

theorem readCharacters?_escaped (text done rest : List Char) :
    readCharacters? done (text.flatMap escape ++ '\x22' :: rest) =
      some (String.ofList (done.reverse ++ text), rest) := by
  induction text generalizing done with
  | nil => simp [readCharacters?]
  | cons c text ih =>
    rw [List.flatMap_cons, List.append_assoc,
      readCharacters?_escape c (unitsInside_escaped text rest), ih, List.reverse_cons,
      List.append_assoc]
    rfl

/-- A text reads back from behind its first quotation mark. -/
theorem readCharacters?_quoted (text : String) (rest : List Char) :
    readCharacters? [] ((quoted text ++ rest).tail) = some (text, rest) := by
  have read := readCharacters?_escaped text.toList [] rest
  rw [List.reverse_nil, List.nil_append, String.ofList_toList] at read
  simpa [quoted] using read

/-! ### Numbers -/

theorem isDigit_of_mem_digits {value : Nat} {c : Char} (member : c ∈ digits value) :
    c.isDigit = true :=
  Nat.isDigit_of_mem_toDigits (by decide) (by decide) member

theorem valueOfDigits_digits (value : Nat) : valueOfDigits (digits value) = value := by
  -- The library builds the number from its digits in the same way.
  have back : Nat.ofDigitChars 10 (digits value) 0 = value :=
    Nat.ofDigitChars_toDigits (by decide) (by decide)
  rw [Nat.ofDigitChars] at back
  simp only [valueOfDigits, Nat.mul_comm _ 10]
  exact back

/-- Of all numbers only zero begins with the digit zero. -/
theorem eq_zero_of_head?_digits {value : Nat} (zero : (digits value).head? = some '0') :
    value = 0 := by
  induction value using Nat.strongRecOn with
  | ind value ih =>
    rw [digits, Nat.toDigits_eq_if (by decide)] at zero
    split at zero
    next small =>
      -- With one digit, the ten digits are tried.
      have digit : ∀ value < 10, [Nat.digitChar value].head? = some '0' → value = 0 := by decide
      exact digit value small zero
    next large =>
      rw [List.head?_append_of_ne_nil _ Nat.toDigits_ne_nil] at zero
      have short := ih (value / 10) (by omega) zero
      omega

/-- A text that cannot go on with the digits, the point or the exponent of a number. -/
def EndsNumber (rest : List Char) : Prop :=
  ∀ c later, rest = c :: later → c.isDigit = false ∧ c ≠ '.' ∧ c ≠ 'e' ∧ c ≠ 'E'

theorem spanDigits_digits (value : Nat) {rest : List Char}
    (ended : ∀ c later, rest = c :: later → c.isDigit = false) :
    spanDigits (digits value ++ rest) = (digits value, rest) := by
  have all : ∀ c ∈ digits value, c.isDigit = true := fun c => isDigit_of_mem_digits
  -- The reader stops at the first character behind the digits.
  have noMore : rest.takeWhile Char.isDigit = [] ∧ rest.dropWhile Char.isDigit = rest := by
    cases rest with
    | nil => exact ⟨rfl, rfl⟩
    | cons c later => simp [ended c later rfl]
  rw [spanDigits, List.takeWhile_append_of_pos all, List.dropWhile_append_of_pos all, noMore.1,
    noMore.2, List.append_nil]

/-- What a number reads as, from its digits before the point on. -/
theorem readNumber?_whole (negative : Bool) (value : Nat) {rest : List Char}
    (ended : ∀ c later, rest = c :: later → c.isDigit = false) :
    readNumber? negative (digits value ++ rest) = (do
      let (places, rest) ← fraction? rest
      let (exponent, rest) ← exponent? rest
      if !negative && places.isEmpty && exponent.isNone then
        return (.natural (valueOfDigits (digits value)), rest)
      else
        let factor : Int := valueOfDigits (digits value ++ places)
        return (.number (if negative then -factor else factor)
          (exponent.getD 0 - places.length), rest)) := by
  have nonempty : digits value ≠ [] := Nat.toDigits_ne_nil
  -- A number of several digits does not begin with zero.
  have leading : ∀ second later, digits value ≠ '0' :: second :: later := by
    intro second later same
    have zero : value = 0 := eq_zero_of_head?_digits (by rw [same]; rfl)
    subst zero
    cases same
  rw [readNumber?, spanDigits_digits value ended]
  split
  next same => exact absurd (congrArg Prod.fst same) nonempty
  next same => exact absurd (congrArg Prod.fst same) (leading _ _)
  next same =>
    cases same
    rfl

/-- The digits of a number read back, up to a character that ends it. -/
theorem readNumber?_digits (value : Nat) {rest : List Char} (ended : EndsNumber rest) :
    readNumber? false (digits value ++ rest) = some (.natural value, rest) := by
  rw [readNumber?_whole false value fun c later same => (ended c later same).1]
  -- Neither a point nor an exponent follows.
  have noPlaces : fraction? rest = some ([], rest) := by
    unfold fraction?
    split
    next later => exact absurd rfl (ended '.' later rfl).2.1
    next => rfl
  have noExponent : exponent? rest = some (none, rest) := by
    cases rest with
    | nil => rfl
    | cons c later => simp [exponent?, (ended c later rfl).2.2]
  simp [noPlaces, noExponent, valueOfDigits_digits]

theorem digits_eq_cons (value : Nat) :
    ∃ digit later, digits value = digit :: later ∧ digit.isDigit = true := by
  have nonempty : digits value ≠ [] := Nat.toDigits_ne_nil
  obtain ⟨digit, later, shape⟩ := List.exists_cons_of_ne_nil nonempty
  have member : digit ∈ digits value := shape ▸ List.mem_cons_self
  exact ⟨digit, later, shape, isDigit_of_mem_digits member⟩

theorem exponentDigits?_signed (value : Int) {rest : List Char} (ended : EndsNumber rest) :
    exponentDigits? (signed value ++ rest) = some (value, rest) := by
  have nonempty : digits value.natAbs ≠ [] := Nat.toDigits_ne_nil
  have spanned := spanDigits_digits value.natAbs fun c later same => (ended c later same).1
  unfold signed
  split
  next below =>
    rw [List.cons_append, exponentDigits?, spanned]
    simp only [valueOfDigits_digits]
    have same : -(value.natAbs : Int) = value := by omega
    rw [same]
  next above =>
    -- A digit is neither of the two signs.
    obtain ⟨digit, later, shape, isDigit⟩ := digits_eq_cons value.natAbs
    rw [exponentDigits?.eq_3, spanned]
    · simp only [valueOfDigits_digits]
      have same : (value.natAbs : Int) = value := by omega
      rw [same]
    · intro _ minus
      rw [shape] at minus
      cases minus
      cases isDigit
    · intro _ plus
      rw [shape] at plus
      cases plus
      cases isDigit

/-- The digits of a number and its exponent read back, up to a character that ends them. -/
theorem readNumber?_signed (negative : Bool) (value : Nat) (exponent : Int) {rest : List Char}
    (ended : EndsNumber rest) :
    readNumber? negative (digits value ++ 'e' :: (signed exponent ++ rest)) =
      some (.number (if negative then -(value : Int) else value) exponent, rest) := by
  -- The letter before the exponent ends the digits.
  have letter : ∀ c later, 'e' :: (signed exponent ++ rest) = c :: later → c.isDigit = false := by
    intro c later same
    cases same
    decide
  rw [readNumber?_whole negative value letter]
  simp [fraction?, exponent?, exponentDigits?_signed exponent ended, valueOfDigits_digits]

end ScopeCheck.Json
