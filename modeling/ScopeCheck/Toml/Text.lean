/-!
# ScopeCheck.Toml.Text

Texts in a TOML document. They stand in quotation marks, where backslashes begin escapes, or in
apostrophes; three marks in place of one let a text go over several lines.
-/

namespace ScopeCheck.Toml

/-! ### Characters -/

/-- Whether a character may stand in a text or in a comment: tabs are the only control characters
that may. -/
def isPlain (c : Char) : Bool := c == '\t' || ' ' ≤ c && c != '\x7f'

/-- Whether a character is a blank inside of a line. -/
def isBlank (c : Char) : Bool := c == ' ' || c == '\t'

def afterLineEnd? : List Char → Option (List Char)
  | '\n' :: rest | '\r' :: '\n' :: rest => some rest
  | _ => none

/-- The text behind all blanks and line ends. -/
def skipLines : List Char → List Char
  | ' ' :: rest | '\t' :: rest | '\n' :: rest | '\r' :: '\n' :: rest => skipLines rest
  | text => text

/-! ### Escapes -/

def hexValue? (c : Char) : Option Nat :=
  if c.isDigit then some (c.toNat - 48)
  else if 'a' ≤ c ∧ c ≤ 'f' then some (c.toNat - 87)
  else if 'A' ≤ c ∧ c ≤ 'F' then some (c.toNat - 55)
  else none

/-- The character whose number is given by exactly `count` digits, and the text behind them. -/
def charByNumber? (count : Nat) (text : List Char) : Option (Char × List Char) := do
  let values ← (text.take count).mapM hexValue?
  let number := values.foldl (fun number value => number * 16 + value) 0
  if values.length = count && number.isValidChar then
    return (Char.ofNat number, text.drop count)
  else none

/-- The character for the escape behind a backslash, and the text behind it. -/
def escape? : List Char → Option (Char × List Char)
  | [] => none
  | c :: rest =>
    if c == '\x22' || c == '\\' then some (c, rest)
    else if c == 'b' then some ('\x08', rest)
    else if c == 't' then some ('\t', rest)
    else if c == 'n' then some ('\n', rest)
    else if c == 'f' then some ('\x0c', rest)
    else if c == 'r' then some ('\r', rest)
    else if c == 'u' then charByNumber? 4 rest
    else if c == 'U' then charByNumber? 8 rest
    else none

/-! ### Texts on one line -/

/-- The text up to a mark, from behind the first one, and what follows the mark. `escapes` tells
whether backslashes begin escapes, `done` holds the characters so far, the last first, and `fuel` is
more than the number of characters that are left. -/
def lineFrom? (mark : Char) (escapes : Bool) :
    (fuel : Nat) → (done : List Char) → List Char → Option (String × List Char)
  | 0, _, _ => none
  | _, _, [] => none
  | fuel + 1, done, c :: rest =>
    if c == mark then some (String.ofList done.reverse, rest)
    else if c == '\\' && escapes then
      match escape? rest with
      | some (c, rest) => lineFrom? mark escapes fuel (c :: done) rest
      | none => none
    else if isPlain c then lineFrom? mark escapes fuel (c :: done) rest
    else none

/-- Whether backslashes begin escapes behind an opening mark. -/
def hasEscapes (mark : Char) : Bool := mark == '\x22'

def isMark (c : Char) : Bool := c == '\x22' || c == '\x27'

/-- The text of one line at the beginning of a text, and what follows it. -/
def lineText? : List Char → Option (String × List Char)
  | [] => none
  | mark :: rest =>
    if isMark mark then lineFrom? mark (hasEscapes mark) (rest.length + 1) [] rest else none

/-! ### Texts on several lines -/

/-- What follows a backslash at the end of a line: the text behind all blanks and line ends. -/
def afterBrokenLine? (text : List Char) : Option (List Char) :=
  (afterLineEnd? (text.dropWhile isBlank)).map skipLines

/-- The text up to three marks, from behind the first ones, and what follows it. -/
def linesFrom? (mark : Char) (escapes : Bool) :
    (fuel : Nat) → (done : List Char) → List Char → Option (String × List Char)
  | 0, _, _ => none
  | _, _, [] => none
  | fuel + 1, done, c :: rest =>
    let go := linesFrom? mark escapes fuel
    if c == mark then
      match ((c :: rest).takeWhile (· == mark)).length with
      | 0 | 1 | 2 => go (c :: done) rest
      | count + 3 =>
        -- Up to two marks directly before the closing ones belong to the text.
        let inner := min count 2
        some (String.ofList (done.reverse ++ List.replicate inner mark),
          (c :: rest).drop (inner + 3))
    else if c == '\\' && escapes then
      match afterBrokenLine? rest, escape? rest with
      | some rest, _ => go done rest
      | none, some (c, rest) => go (c :: done) rest
      | none, none => none
    else
      match afterLineEnd? (c :: rest) with
      | some rest => go ('\n' :: done) rest
      | none => if isPlain c then go (c :: done) rest else none

/-- The text at the beginning of a text, and what follows it. -/
def text? (text : List Char) : Option (String × List Char) :=
  match text with
  | a :: b :: c :: rest =>
    if isMark a && a == b && b == c then
      linesFrom? a (hasEscapes a) (rest.length + 1) [] ((afterLineEnd? rest).getD rest)
    else lineText? text
  | _ => lineText? text

end ScopeCheck.Toml
