/-!
# ScopeCheck.Python.Number

The longest number at the beginning of a text, as a count of characters. Digits come in runs with
single underscores between them and perhaps one behind them.
-/

namespace ScopeCheck.Python.Number

def isHex (c : Char) : Bool :=
  c.isDigit || 'a' ≤ c && c ≤ 'f' || 'A' ≤ c && c ≤ 'F'

/-- The length of the runs of digits at the beginning of a text, with the underscores in and behind
them. `afterDigit` tells whether a digit stands before the text. -/
def digits (afterDigit : Bool) : List Char → Nat
  | [] => 0
  | c :: rest =>
    if c.isDigit then digits true rest + 1
    else if c == '_' && afterDigit then digits false rest + 1
    else 0

/-- The length of the digits of another base, each of which may have an underscore before it. -/
def basedDigits (isDigit : Char → Bool) : List Char → Nat
  | [] => 0
  | [c] => if isDigit c then 1 else 0
  | c :: d :: rest =>
    if isDigit c then basedDigits isDigit (d :: rest) + 1
    else if c == '_' && isDigit d then basedDigits isDigit rest + 2
    else 0

/-- One if a text goes on with a letter of a list. -/
def letter (letters : List Char) (text : List Char) : Nat :=
  match text with
  | c :: _ => if letters.contains c then 1 else 0
  | [] => 0

/-- The length of a number to another base, of which the first two characters are given. -/
def based (letters : List Char) (isDigit : Char → Bool) : List Char → Nat
  | '0' :: c :: rest =>
    if letters.contains c then
      match basedDigits isDigit rest with
      | 0 => 0
      | count => 2 + count + letter ['l', 'L'] (rest.drop count)
    else 0
  | _ => 0

/-- The length of the longest whole number at the beginning of a text. -/
def integerLength (text : List Char) : Nat :=
  let decimal :=
    match digits false text with
    | 0 => 0
    | count => count + letter ['l', 'L', 'j', 'J'] (text.drop count)
  let hexadecimal := based ['x', 'X'] isHex text
  let octal := based ['o', 'O'] (fun c => '0' ≤ c && c ≤ '7') text
  let binary := based ['b', 'B'] (fun c => c == '0' || c == '1') text
  max (max decimal hexadecimal) (max octal binary)

/-- The length of an exponent at the beginning of a text. -/
def exponent : List Char → Nat
  | c :: rest =>
    if c == 'e' || c == 'E' then
      let sign := letter ['+', '-'] rest
      match digits false (rest.drop sign) with
      | 0 => 0
      | count => 1 + sign + count
    else 0
  | [] => 0

/-- The length of the longest number with a point or an exponent at the beginning of a text. -/
def floatLength (text : List Char) : Nat :=
  let whole := digits false text
  let afterWhole := text.drop whole
  let mantissa :=
    match afterWhole with
    | '.' :: rest =>
      let fraction := digits false rest
      if whole + fraction = 0 then 0 else whole + 1 + fraction
    | _ => 0
  let withExponent (count : Nat) : Nat :=
    let power := exponent (text.drop count)
    count + power + letter ['j', 'J'] (text.drop (count + power))
  if 0 < mantissa then withExponent mantissa
  else if 0 < whole && 0 < exponent afterWhole then withExponent whole
  else 0

end ScopeCheck.Python.Number
