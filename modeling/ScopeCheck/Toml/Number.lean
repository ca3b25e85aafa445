import ScopeCheck.Toml.Basic

/-!
# ScopeCheck.Toml.Number

Numbers, dates and times in a TOML document. Each reader takes as much as it can from the beginning
of a text; what is left over makes the document invalid if it cannot follow a value.
-/

namespace ScopeCheck.Toml

/-! ### Digits -/

/-- The digits at the beginning of a text, underscores between them left out, and the text behind
them. -/
def digits (isDigit : Char → Bool) : List Char → List Char × List Char
  | [] => ([], [])
  | [c] => if isDigit c then ([c], []) else ([], [c])
  -- An underscore stands between two digits, or the number ends before it.
  | c :: '_' :: d :: rest =>
    if isDigit c then
      if isDigit d then
        let (found, rest) := digits isDigit (d :: rest)
        (c :: found, rest)
      else ([c], '_' :: d :: rest)
    else ([], c :: '_' :: d :: rest)
  | c :: d :: rest =>
    if isDigit c then
      let (found, rest) := digits isDigit (d :: rest)
      (c :: found, rest)
    else ([], c :: d :: rest)

/-- The value of a digit, in any base up to 16. -/
def digitValue (c : Char) : Nat :=
  if c.isDigit then c.toNat - 48
  else if 'a' ≤ c ∧ c ≤ 'f' then c.toNat - 87
  else c.toNat - 55

/-- The number that some digits stand for. -/
def ofDigits (base : Nat) (digits : List Char) : Nat :=
  digits.foldl (fun value c => value * base + digitValue c) 0

def isHex (c : Char) : Bool := c.isDigit || 'a' ≤ c && c ≤ 'f' || 'A' ≤ c && c ≤ 'F'

/-! ### Whole numbers -/

/-- Whether a whole number has 64 bits. -/
def fits (value : Int) : Bool :=
  -9223372036854775808 ≤ value && value < 9223372036854775808

/-- A sign at the beginning of a text, as whether the number is negative, and the text behind it. -/
def sign : List Char → Bool × List Char
  | '-' :: rest => (true, rest)
  | '+' :: rest => (false, rest)
  | text => (false, text)

/-- The digits of a number to the base 10, which do not begin with a zero that is followed by
another one, and the text behind them. -/
def wholeDigits? : List Char → Option (List Char × List Char)
  | '0' :: rest => some (['0'], rest)
  | text =>
    match digits Char.isDigit text with
    | ([], _) => none
    | found => some found

def based? (base : Nat) (isDigit : Char → Bool) (text : List Char) :
    Option (Int × List Char) :=
  match digits isDigit text with
  | ([], _) => none
  | (found, rest) =>
    let value : Int := ofDigits base found
    if fits value then some (value, rest) else none

/-- The whole number at the beginning of a text. -/
def integer? (text : List Char) : Option (Int × List Char) :=
  match text with
  | '0' :: 'x' :: rest => based? 16 isHex rest
  | '0' :: 'o' :: rest => based? 8 (fun c => '0' ≤ c && c ≤ '7') rest
  | '0' :: 'b' :: rest => based? 2 (fun c => c == '0' || c == '1') rest
  | _ => do
    let (negative, rest) := sign text
    let (found, rest) ← wholeDigits? rest
    let value : Int := ofDigits 10 found
    -- The sign comes before the bounds, of which the lower one is one further away.
    let value := if negative then -value else value
    if fits value then return (value, rest) else none

/-! ### Other numbers -/

/-- Whether digits with a power of ten behind them are at least halfway from the greatest double to
the next number that a double with more exponents could hold. -/
def overflows (digits : List Char) (exponent : Int) : Bool :=
  let digits := digits.dropWhile (· == '0')
  -- The number of digits before the point settles all but a few cases.
  let size := digits.length + exponent
  if digits.isEmpty || size < 300 then false
  else if 320 < size then true
  else
    let value := ofDigits 10 digits
    -- The rest is compared without fractions.
    let limit := Nat.pow 2 1024 - Nat.pow 2 970
    if 0 ≤ exponent then limit ≤ value * Nat.pow 10 exponent.toNat
    else limit * Nat.pow 10 (-exponent).toNat ≤ value

/-- The exponent at the beginning of a text, and the text behind it. -/
def exponent? : List Char → Option (Int × List Char)
  | c :: rest =>
    if c == 'e' || c == 'E' then
      let (negative, rest) := sign rest
      match digits Char.isDigit rest with
      | ([], _) => none
      | (found, rest) =>
        let value : Int := ofDigits 10 found
        some (if negative then -value else value, rest)
    else none
  | [] => none

/-- The digits behind a point at the beginning of a text, and the text behind them. -/
def fraction? : List Char → Option (List Char × List Char)
  | '.' :: rest =>
    match digits Char.isDigit rest with
    | ([], _) => none
    | found => some found
  | _ => none

/-- The part of a text that ends where another text, at its end, begins. -/
def writtenUpTo (text rest : List Char) : String :=
  String.ofList (text.take (text.length - rest.length))

/-- The number with a point or an exponent at the beginning of a text, or one of the words for
infinity and for no number. -/
def float? (text : List Char) : Option (Toml × List Char) :=
  let (negative, unsigned) := sign text
  match unsigned with
  | 'i' :: 'n' :: 'f' :: rest | 'n' :: 'a' :: 'n' :: rest =>
    some (.float (writtenUpTo text rest), rest)
  | _ => do
    let (whole, rest) ← wholeDigits? unsigned
    let (places, exponent, rest) ←
      match fraction? rest, exponent? rest with
      | some (places, rest), _ =>
        match exponent? rest with
        | some (exponent, rest) => some (places, exponent, rest)
        | none => some (places, 0, rest)
      | none, some (exponent, rest) => some ([], exponent, rest)
      | none, none => none
    if !negative && overflows (whole ++ places) (exponent - places.length) then none
    else return (.float (writtenUpTo text rest), rest)

/-! ### Dates and times -/

/-- The number of exactly `count` digits at the beginning of a text, if it lies between two bounds,
and the text behind them. -/
def field? (count low high : Nat) (text : List Char) : Option (Nat × List Char) :=
  let found := text.take count
  let value := ofDigits 10 found
  if found.length = count && found.all Char.isDigit && low ≤ value && value ≤ high then
    some (value, text.drop count)
  else none

def behind? (c : Char) : List Char → Option (List Char)
  | d :: rest => if c = d then some rest else none
  | [] => none

def daysOf (year month : Nat) : Nat :=
  if month = 2 then
    if year % 4 = 0 ∧ (year % 100 ≠ 0 ∨ year % 400 = 0) then 29 else 28
  else if month = 4 ∨ month = 6 ∨ month = 9 ∨ month = 11 then 30
  else 31

def afterDate? (text : List Char) : Option (List Char) := do
  let (year, rest) ← field? 4 0 9999 text
  let (month, rest) ← field? 2 1 12 (← behind? '-' rest)
  let (_, rest) ← field? 2 1 (daysOf year month) (← behind? '-' rest)
  return rest

def afterTime? (text : List Char) : Option (List Char) := do
  let (_, rest) ← field? 2 0 23 text
  let (_, rest) ← field? 2 0 59 (← behind? ':' rest)
  -- There may be a leap second.
  let (_, rest) ← field? 2 0 60 (← behind? ':' rest)
  match rest with
  | '.' :: places =>
    if (places.takeWhile Char.isDigit).isEmpty then return rest
    else return places.dropWhile Char.isDigit
  | _ => return rest

/-- The text behind the distance from the time of Greenwich. -/
def afterOffset? : List Char → Option (List Char)
  | c :: rest =>
    if c == 'Z' || c == 'z' then some rest
    else if c == '+' || c == '-' then do
      let (_, rest) ← field? 2 0 23 rest
      let (_, rest) ← field? 2 0 59 (← behind? ':' rest)
      return rest
    else none
  | [] => none

/-- The text behind a time of the day that follows a date, with the sign between them. -/
def afterDelimitedTime? : List Char → Option (List Char)
  | c :: rest =>
    if c == 'T' || c == 't' || c == ' ' then do
      let rest ← afterTime? rest
      return (afterOffset? rest).getD rest
    else none
  | [] => none

/-- The date, the time or both at the beginning of a text. -/
def moment? (text : List Char) : Option (Toml × List Char) :=
  let rest? :=
    match afterDate? text with
    -- What follows a date need not be a time.
    | some rest => some ((afterDelimitedTime? rest).getD rest)
    | none => afterTime? text
  rest?.map fun rest => (.moment (writtenUpTo text rest), rest)

end ScopeCheck.Toml
