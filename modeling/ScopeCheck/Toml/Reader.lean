import ScopeCheck.Toml.Document
import ScopeCheck.Toml.Number
import ScopeCheck.Toml.Text

/-!
# ScopeCheck.Toml.Reader

Reading a TOML document. Sequences in brackets may go over several lines, tables in braces may not.
-/

namespace ScopeCheck.Toml

/-- One more than the greatest depth to which values are nested, and than the greatest number of
parts of a key. -/
def depthLimit : Nat := 80

/-! ### Blanks and comments -/

def skipBlanks (text : List Char) : List Char := text.dropWhile isBlank

def skipComment : List Char → List Char
  | '#' :: rest => rest.dropWhile isPlain
  | text => text

/-- The text behind all blanks, comments and line ends. A comment goes to the end of its line. -/
def skipGap : (fuel : Nat) → List Char → List Char
  | 0, text => text
  | fuel + 1, text =>
    let text := skipComment (skipBlanks text)
    match afterLineEnd? text with
    | some rest => skipGap fuel rest
    | none => text

/-- The text behind the end of a line, of which only blanks and a comment may be left. -/
def afterLine? (text : List Char) : Option (List Char) :=
  match skipComment (skipBlanks text) with
  | [] => some []
  | text => afterLineEnd? text

/-! ### Keys -/

/-- Whether a character may stand in a key without quotation marks. -/
def isKeyChar (c : Char) : Bool := c.isAlphanum || c == '-' || c == '_'

/-- One part of a key, with blanks around it. -/
def keyPart? (text : List Char) : Option (String × List Char) :=
  let text := skipBlanks text
  let found? :=
    match text with
    | c :: _ =>
      if isMark c then lineText? text
      else if isKeyChar c then
        some (String.ofList (text.takeWhile isKeyChar), text.dropWhile isKeyChar)
      else none
    | [] => none
  found?.map fun (part, rest) => (part, skipBlanks rest)

/-- The parts of a key, with dots between them. -/
def keyParts? : (fuel : Nat) → List Char → Option (List String × List Char)
  | 0, _ => none
  | fuel + 1, text => do
    let (part, rest) ← keyPart? text
    match rest with
    | '.' :: rest =>
      let (parts, rest) ← keyParts? fuel rest
      return (part :: parts, rest)
    | _ => return ([part], rest)

/-- A key, as its last part and the parts before it. -/
def key? (text : List Char) : Option ((List String × String) × List Char) := do
  let (parts, rest) ← keyParts? (text.length + 1) text
  -- The parts of a key are nested tables, for which there is the same limit as for values.
  if depthLimit ≤ parts.length then none
  else return ((parts.dropLast, ← parts.getLast?), rest)

/-! ### Values -/

def afterWord? (word text : List Char) : Option (List Char) :=
  if word.isPrefixOf text then some (text.drop word.length) else none

def simple? (text : List Char) : Option (Toml × List Char) :=
  match text with
  | [] => none
  | c :: _ =>
    if isMark c then (text? text).map fun (found, rest) => (.string found, rest)
    else if c == 't' then (afterWord? "true".toList text).map fun rest => (.boolean true, rest)
    else if c == 'f' then (afterWord? "false".toList text).map fun rest => (.boolean false, rest)
    else
      -- A date begins like a whole number, and so does a number with a point.
      match moment? text, float? text, integer? text with
      | some found, _, _ => some found
      | none, some found, _ => some found
      | none, none, found? => found?.map fun (value, rest) => (.integer value, rest)

mutual

/-- The value at the beginning of a text. `depth` is the number of brackets and braces around it,
and `fuel` bounds the number of values. -/
def value? (depth : Nat) : (fuel : Nat) → List Char → Option (Toml × List Char)
  | 0, _ => none
  | fuel + 1, text =>
    match text with
    | '[' :: rest =>
      if depthLimit ≤ depth + 1 then none
      else (items? (depth + 1) fuel rest).map fun (items, rest) => (.array items, rest)
    | '\x7b' :: rest =>
      if depthLimit ≤ depth + 1 then none
      else
        match skipBlanks rest with
        -- Without a pair there is no comma either, so this case is apart.
        | '\x7d' :: rest => some (.table .braces [], rest)
        | _ => do
          let (pairs, rest) ← pairs? (depth + 1) fuel rest
          return (← ofPairs? pairs, rest)
    | text => simple? text

/-- The items of a sequence up to its end. A comma may stand behind the last one. -/
def items? (depth : Nat) : (fuel : Nat) → List Char → Option (List Toml × List Char)
  | 0, _ => none
  | fuel + 1, text =>
    match skipGap (text.length + 1) text with
    | ']' :: rest => some ([], rest)
    | text => do
      let (item, rest) ← value? depth fuel text
      match skipGap (rest.length + 1) rest with
      | ',' :: rest =>
        let (items, rest) ← items? depth fuel rest
        return (item :: items, rest)
      | ']' :: rest => return ([item], rest)
      | _ => none

/-- The pairs of a table in braces up to its end, of which there is at least one. -/
def pairs? (depth : Nat) :
    (fuel : Nat) → List Char → Option (List (List String × String × Toml) × List Char)
  | 0, _ => none
  | fuel + 1, text => do
    let ((path, key), rest) ← key? text
    match rest with
    | '=' :: rest =>
      let (value, rest) ← value? depth fuel (skipBlanks rest)
      match skipBlanks rest with
      | ',' :: rest =>
        let (pairs, rest) ← pairs? depth fuel rest
        return ((path, key, value) :: pairs, rest)
      | '\x7d' :: rest => return ([(path, key, value)], rest)
      | _ => none
    | _ => none

end

/-! ### Documents -/

/-- The statement at the beginning of a line, and the text behind the line. -/
def statement? (text : List Char) : Option (Statement × List Char) :=
  match text with
  | '[' :: '[' :: rest => do
    let ((path, key), rest) ← key? rest
    match rest with
    | ']' :: ']' :: rest => return (.rowHeader path key, ← afterLine? rest)
    | _ => none
  | '[' :: rest => do
    let ((path, key), rest) ← key? rest
    match rest with
    | ']' :: rest => return (.header path key, ← afterLine? rest)
    | _ => none
  | _ => do
    let ((path, key), rest) ← key? text
    match rest with
    | '=' :: rest =>
      let (value, rest) ← value? 0 (rest.length + 1) (skipBlanks rest)
      return (.pair path key value, ← afterLine? rest)
    | _ => none

def statements? : (fuel : Nat) → List Char → Option (List Statement)
  | 0, _ => none
  | fuel + 1, text =>
    match skipGap (text.length + 1) text with
    | [] => some []
    | text => do
      let (statement, rest) ← statement? text
      return statement :: (← statements? fuel rest)

/-- The table that a document stands for. A mark of the byte order in front of it is left out. -/
def read? (document : String) : Option Toml := do
  let text := document.toList
  let text := match text with
    | '\ufeff' :: rest => rest
    | text => text
  ofStatements? (← statements? (text.length + 1) text)

end ScopeCheck.Toml
