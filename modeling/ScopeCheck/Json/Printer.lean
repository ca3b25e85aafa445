import ScopeCheck.Json.Basic

/-!
# ScopeCheck.Json.Printer

Writing JSON over several lines: each item and each member stands on a line of its own, two blanks
further in than the value that holds it.
-/

namespace ScopeCheck.Json

/-- A digit to the base 16, in lower case. -/
def hexDigit (value : Nat) : Char :=
  if value < 10 then Char.ofNat (value + 48) else Char.ofNat (value + 87)

/-- How a character is written in a text. -/
def escape (c : Char) : List Char :=
  if c = '\x22' then ['\\', '\x22']
  else if c = '\\' then ['\\', '\\']
  else if c = '\x08' then ['\\', 'b']
  else if c = '\t' then ['\\', 't']
  else if c = '\n' then ['\\', 'n']
  else if c = '\x0c' then ['\\', 'f']
  else if c = '\r' then ['\\', 'r']
  else if c < ' ' then
    ['\\', 'u', '0', '0', hexDigit (c.toNat / 16), hexDigit (c.toNat % 16)]
  else [c]

def quoted (text : String) : List Char :=
  '\x22' :: text.toList.flatMap escape ++ ['\x22']

def digits (value : Nat) : List Char := Nat.toDigits 10 value

def signed (value : Int) : List Char :=
  if value < 0 then '-' :: digits value.natAbs else digits value.natAbs

/-- The end of a line, and the blanks before a value at a given level. -/
def lineBreak (level : Nat) : List Char := '\n' :: List.replicate (2 * level) ' '

mutual

/-- A value that stands at a given level. -/
def lines (level : Nat) : Json → List Char
  | .null => "null".toList
  | .bool value => if value then "true".toList else "false".toList
  | .natural value => digits value
  | .number factor exponent => signed factor ++ 'e' :: signed exponent
  | .string text => quoted text
  | .array [] => ['[', ']']
  | .array (item :: items) =>
    '[' :: lineBreak (level + 1) ++ lines (level + 1) item ++ laterItems (level + 1) items ++
      lineBreak level ++ [']']
  | .object [] => ['\x7b', '\x7d']
  | .object ((key, value) :: members) =>
    '\x7b' :: lineBreak (level + 1) ++ quoted key ++ ": ".toList ++ lines (level + 1) value ++
      laterMembers (level + 1) members ++ lineBreak level ++ ['\x7d']

/-- The items of a sequence behind its first one. -/
def laterItems (level : Nat) : List Json → List Char
  | [] => []
  | item :: items => ',' :: lineBreak level ++ lines level item ++ laterItems level items

/-- The members of an object behind its first one. -/
def laterMembers (level : Nat) : List (String × Json) → List Char
  | [] => []
  | (key, value) :: members =>
    ',' :: lineBreak level ++ quoted key ++ ": ".toList ++ lines level value ++
      laterMembers level members

end

def pretty (value : Json) : String := String.ofList (lines 0 value)

end ScopeCheck.Json
