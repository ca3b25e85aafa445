import ScopeCheck.Python.Layout
import ScopeCheck.Python.Number
import ScopeCheck.Text.Identifier

/-!
# ScopeCheck.Python.Lexer

The tokens that do not depend on the layout. Of the tokens that are expected the longest wins, so a
word is a keyword only where that keyword can stand.
-/

namespace ScopeCheck.Python

open Grammar

/-- Whether a character is a blank between tokens. -/
def isSpace (c : Char) : Bool :=
  c == ' ' || c == '\t' || c == '\r' || c == '\n' || c == '\x0c' ||
    c == '\ufeff' || c == '\u2060' || c == '\u200b'

/-- Whether a character can be part of the text of a format. -/
def isFormatText (c : Char) : Bool := c != '\x7b' && c != '\x7d' && c != '\n'

/-- The number of characters at the beginning of a text that satisfy a condition, up to a bound. -/
def countWhile (condition : Char → Bool) : Nat → List Char → Nat
  | bound + 1, c :: rest => if condition c then countWhile condition bound rest + 1 else 0
  | _, _ => 0

/-- The length of an escape sequence at the beginning of a text; 0 where there is none. -/
def escapeLength : List Char → Nat
  | '\\' :: '\r' :: '\n' :: _ => 3
  | '\\' :: c :: rest =>
    let hex (count : Nat) : Nat :=
      if countWhile Number.isHex count rest = count then count + 2 else 0
    if c == 'u' then hex 4
    else if c == 'U' then hex 8
    else if c == 'x' then hex 2
    else if c.isDigit then 2 + countWhile Char.isDigit 2 rest
    else if c == 'N' then
      match rest with
      | brace :: rest =>
        let count := countWhile (· != '\x7d') rest.length rest
        if brace == '\x7b' && 0 < count && (rest.drop count).head? == some '\x7d' then count + 4
        else 0
      | [] => 0
    else if "\n\x27\x22abfrntv\\".toList.contains c then 2
    else 0
  | _ => 0

section

variable (lexicon : Lexicon) (layout : Layout) (expected : TokenSet)

/-- The token of a word, from its beginning to its end. -/
def wordLexeme? (start : Spot) : Option Lexeme :=
  let stop := start.skipWhile Text.isNamePart
  let text := String.ofList (start.rest.takeWhile Text.isNamePart)
  -- This is the one token that a word and a sign make together.
  if text == "except" && stop.peek == '*' && expected.contains lexicon.groupHandler then
    some { token := some lexicon.groupHandler, start, stop := stop.next, layout }
  else
    let keyword? := lexicon.keywords[text]?
    let name : Lexeme :=
      { token := some lexicon.identifier, start, stop, layout, isKeyword := keyword?.isSome }
    -- A keyword that cannot stand here is a name.
    match keyword?.filter expected.contains with
    | some keyword => some { name with token := some keyword }
    | none =>
      if expected.contains lexicon.identifier || expected.meets lexicon.keywordSet then some name
      else none

/-- The longest number, operator or conversion at a place. -/
def signLexeme? (start : Spot) : Option Lexeme :=
  let text := start.rest
  let numbers : List (Nat × Nat) :=
    match text with
    | c :: _ =>
      if c.isDigit || c == '.' then
        [(if expected.contains lexicon.integer then Number.integerLength text else 0,
            lexicon.integer),
          (if expected.contains lexicon.float then Number.floatLength text else 0, lexicon.float)]
      else []
    | [] => []
  let operators : List (Nat × Nat) :=
    match lexicon.operators.find? fun (operator, token) =>
        expected.contains token && operator.isPrefixOf text with
    | some (operator, token) => [(operator.length, token)]
    | none => []
  let conversions : List (Nat × Nat) :=
    match text with
    | '!' :: c :: _ =>
      if expected.contains lexicon.conversion && 'a' ≤ c && c ≤ 'z' then
        [(2, lexicon.conversion)]
      else []
    | _ => []
  -- Of equally long ones the first in the list stays.
  let best := (numbers ++ operators ++ conversions).foldl
    (fun (best : Nat × Nat) candidate => if best.1 < candidate.1 then candidate else best) (0, 0)
  if best.1 = 0 then none
  else some { token := some best.2, start, stop := start.advance best.1, layout }

/-- The token at a place where no blank stands. -/
def unspacedLexeme? (start : Spot) : Option Lexeme :=
  let lexeme (token : Nat) (stop : Spot) : Lexeme :=
    { token := some token, start, stop, layout }
  match start.rest with
  | [] => if expected.contains 0 then some (lexeme 0 start) else none
  | c :: rest =>
    if c == '\\' then
      if expected.contains lexicon.continuation then
        match rest with
        | [] => some (lexeme lexicon.continuation start.next)
        | '\r' :: '\n' :: _ => some (lexeme lexicon.continuation (start.advance 3))
        | d :: _ =>
          if d == '\n' || d == '\x00' then some (lexeme lexicon.continuation (start.advance 2))
          else none
      else none
    else if c == '#' && expected.contains lexicon.comment then
      some (lexeme lexicon.comment (start.skipWhile (· != '\n')))
    else if Text.isNameStart c then wordLexeme? lexicon layout expected start
    else signLexeme? lexicon layout expected start

/-- The token at a place, after the blanks before it. Parts of strings and the text of a format
begin at the place itself, or at the first blank that they can hold. -/
def plainLexeme? (spot : Spot) : Option Lexeme :=
  let escapes := expected.contains lexicon.escapeSequence
  let backslashes := expected.contains lexicon.loneBackslash
  let lexeme (token : Nat) (start stop : Spot) : Lexeme :=
    { token := some token, start, stop, layout }
  -- An escape begins at the place itself: blanks inside of a string belong to its contents.
  let escape := if escapes then escapeLength spot.rest else 0
  if 0 < escape then some (lexeme lexicon.escapeSequence spot (spot.advance escape))
  else if backslashes && spot.peek == '\\' then
    some (lexeme lexicon.loneBackslash spot spot.next)
  else if expected.contains lexicon.formatText then
    let start := spot.skipWhile fun c => isSpace c && !isFormatText c
    if !start.atEnd && isFormatText start.peek then
      some (lexeme lexicon.formatText start (start.skipWhile isFormatText))
    else unspacedLexeme? lexicon layout expected start
  else unspacedLexeme? lexicon layout expected (spot.skipWhile isSpace)

end

end ScopeCheck.Python
