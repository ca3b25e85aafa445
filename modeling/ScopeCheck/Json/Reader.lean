import ScopeCheck.Json.Basic

/-!
# ScopeCheck.Json.Reader

Reading JSON. Two escapes for the halves of a pair stand for one character.
-/

namespace ScopeCheck.Json

/-! ### Blanks and signs -/

/-- Whether a character may stand around values. -/
def isBlank (c : Char) : Bool := c == ' ' || c == '\t' || c == '\n' || c == '\r'

def skipBlanks (text : List Char) : List Char := text.dropWhile isBlank

def after? : List Char → List Char → Option (List Char)
  | [], text => some text
  | c :: word, d :: text => if c = d then after? word text else none
  | _ :: _, [] => none

/-! ### Texts -/

def hexValue? (c : Char) : Option Nat :=
  if c.isDigit then some (c.toNat - 48)
  else if 'a' ≤ c ∧ c ≤ 'f' then some (c.toNat - 87)
  else if 'A' ≤ c ∧ c ≤ 'F' then some (c.toNat - 55)
  else none

/-- The number of four digits to the base 16. -/
def unit? (a b c d : Char) : Option Nat := do
  return (((← hexValue? a) * 16 + (← hexValue? b)) * 16 + (← hexValue? c)) * 16 + (← hexValue? d)

/-- Whether a number is the first half of a pair. -/
def isHighHalf (unit : Nat) : Bool := 0xD800 ≤ unit && unit < 0xDC00

/-- Whether a number is the second half of a pair. -/
def isLowHalf (unit : Nat) : Bool := 0xDC00 ≤ unit && unit < 0xE000

/-- The character for an escape of one letter. -/
def plainEscape? (c : Char) : Option Char :=
  if c = '\x22' then some '\x22'
  else if c = '\\' then some '\\'
  else if c = '/' then some '/'
  else if c = 'b' then some '\x08'
  else if c = 'f' then some '\x0c'
  else if c = 'n' then some '\n'
  else if c = 'r' then some '\r'
  else if c = 't' then some '\t'
  else none

/-- The rest of a text from behind its first quotation mark, and what follows the last one. `done`
holds the characters so far, the last first. -/
def readCharacters? (done : List Char) : List Char → Option (String × List Char)
  | [] => none
  | '\x22' :: rest => some (String.ofList done.reverse, rest)
  | '\\' :: 'u' :: a :: b :: c :: d :: '\\' :: 'u' :: e :: f :: g :: h :: rest =>
    match unit? a b c d, unit? e f g h with
    | some high, some low =>
      -- The first half of a pair needs the second one behind it.
      if isHighHalf high then
        if isLowHalf low then
          readCharacters?
            (Char.ofNat (0x10000 + (high - 0xD800) * 0x400 + (low - 0xDC00)) :: done) rest
        else none
      else if isLowHalf high then none
      else readCharacters? (Char.ofNat high :: done) ('\\' :: 'u' :: e :: f :: g :: h :: rest)
    | _, _ => none
  | '\\' :: 'u' :: a :: b :: c :: d :: rest =>
    match unit? a b c d with
    | some unit =>
      if isHighHalf unit || isLowHalf unit then none
      else readCharacters? (Char.ofNat unit :: done) rest
    | none => none
  | '\\' :: c :: rest =>
    match plainEscape? c with
    | some c => readCharacters? (c :: done) rest
    | none => none
  | c :: rest => if c < ' ' || c = '\\' then none else readCharacters? (c :: done) rest

/-! ### Numbers -/

/-- The digits at the beginning of a text, and the text behind them. -/
def spanDigits (text : List Char) : List Char × List Char :=
  (text.takeWhile Char.isDigit, text.dropWhile Char.isDigit)

/-- The number that some digits stand for. -/
def valueOfDigits (digits : List Char) : Nat :=
  digits.foldl (fun value c => value * 10 + (c.toNat - 48)) 0

/-- The digits behind a point, and the text behind them; there are none without a point. -/
def fraction? : List Char → Option (List Char × List Char)
  | '.' :: rest =>
    match spanDigits rest with
    | ([], _) => none
    | found => some found
  | text => some ([], text)

/-- The digits of an exponent, with a sign or without. -/
def exponentDigits? : List Char → Option (Int × List Char)
  | '-' :: rest =>
    match spanDigits rest with
    | ([], _) => none
    | (digits, rest) => some (-(valueOfDigits digits : Int), rest)
  | '+' :: rest =>
    match spanDigits rest with
    | ([], _) => none
    | (digits, rest) => some ((valueOfDigits digits : Int), rest)
  | rest =>
    match spanDigits rest with
    | ([], _) => none
    | (digits, rest) => some ((valueOfDigits digits : Int), rest)

/-- An exponent, if the text goes on with one. -/
def exponent? : List Char → Option (Option Int × List Char)
  | c :: rest =>
    if c = 'e' || c = 'E' then (exponentDigits? rest).map fun (value, rest) => (some value, rest)
    else some (none, c :: rest)
  | [] => some (none, [])

/-- The number at the beginning of a text. Apart from the number zero no number begins with the
digit zero. -/
def readNumber? (negative : Bool) (text : List Char) : Option (Json × List Char) :=
  match spanDigits text with
  | ([], _) => none
  | ('0' :: _ :: _, _) => none
  | (whole, rest) => do
    let (places, rest) ← fraction? rest
    let (exponent, rest) ← exponent? rest
    if !negative && places.isEmpty && exponent.isNone then
      return (.natural (valueOfDigits whole), rest)
    else
      let factor : Int := valueOfDigits (whole ++ places)
      return (.number (if negative then -factor else factor)
        (exponent.getD 0 - places.length), rest)

/-! ### Values -/

mutual

/-- The value at the beginning of a text, and the text behind it. `fuel` bounds the depth and the
number of values. -/
def readValue? : (fuel : Nat) → List Char → Option (Json × List Char)
  | 0, _ => none
  | fuel + 1, text =>
    match skipBlanks text with
    | [] => none
    | c :: rest =>
      if c = '\x22' then (readCharacters? [] rest).map fun (text, rest) => (.string text, rest)
      else if c = '[' then
        match skipBlanks rest with
        | ']' :: rest => some (.array [], rest)
        | rest => (readItems? fuel rest).map fun (items, rest) => (.array items, rest)
      else if c = '\x7b' then
        match skipBlanks rest with
        | '\x7d' :: rest => some (.object [], rest)
        | rest => (readMembers? fuel rest).map fun (members, rest) => (.object members, rest)
      else if c = 'n' then (after? "ull".toList rest).map fun rest => (.null, rest)
      else if c = 't' then (after? "rue".toList rest).map fun rest => (.bool true, rest)
      else if c = 'f' then (after? "alse".toList rest).map fun rest => (.bool false, rest)
      else if c = '-' then readNumber? true rest
      else readNumber? false (c :: rest)

/-- The items of a sequence up to its end, of which there is at least one. -/
def readItems? : (fuel : Nat) → List Char → Option (List Json × List Char)
  | 0, _ => none
  | fuel + 1, text => do
    let (item, rest) ← readValue? fuel text
    match skipBlanks rest with
    | ',' :: rest =>
      let (items, rest) ← readItems? fuel rest
      return (item :: items, rest)
    | ']' :: rest => return ([item], rest)
    | _ => none

/-- The members of an object up to its end, of which there is at least one. -/
def readMembers? : (fuel : Nat) → List Char → Option (List (String × Json) × List Char)
  | 0, _ => none
  | fuel + 1, text =>
    match skipBlanks text with
    | '\x22' :: rest => do
      let (key, rest) ← readCharacters? [] rest
      match skipBlanks rest with
      | ':' :: rest =>
        let (value, rest) ← readValue? fuel rest
        match skipBlanks rest with
        | ',' :: rest =>
          let (members, rest) ← readMembers? fuel rest
          return ((key, value) :: members, rest)
        | '\x7d' :: rest => return ([(key, value)], rest)
        | _ => none
      | _ => none
    | _ => none

end

def read? (text : String) : Option Json :=
  let text := text.toList
  match readValue? (text.length + 1) text with
  | some (value, rest) => if (skipBlanks rest).isEmpty then some value else none
  | none => none

end ScopeCheck.Json
