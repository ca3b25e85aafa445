import ScopeCheck.Grammar.Production
import ScopeCheck.Text.Place
import Std.Data.HashMap

/-!
# ScopeCheck.Python.Lexicon

The tokens of the grammar under the names by which a reader of texts knows them.
-/

namespace ScopeCheck.Python

open Grammar

/-! ### Strings and layout -/

/-- How a string was opened. -/
structure Quote where
  /-- The character that opens and closes the string. -/
  mark : Char
  /-- Whether three of them do. -/
  triple : Bool := false
  /-- Whether the string holds replacements in braces. -/
  format : Bool := false
  raw : Bool := false
  bytes : Bool := false
  deriving DecidableEq, Repr

/-- What the text before a token says about the tokens after it. -/
structure Layout where
  /-- The indentations of the open blocks, innermost first. -/
  indents : List Nat := [0]
  /-- The open strings, innermost first. -/
  quotes : List Quote := []
  /-- Whether the string that was opened last, and not closed since, holds replacements. -/
  inFormat : Bool := false
  deriving DecidableEq, Repr, Inhabited

/-- A token that was found in a text. -/
structure Lexeme where
  /-- The number of the token; there is none for text that belongs to no token. -/
  token : Option Nat
  start : Spot
  stop : Spot
  layout : Layout
  /-- Whether the layout decided about the token. -/
  byLayout : Bool := false
  /-- Whether the token is a keyword, which can also be read as a name. -/
  isKeyword : Bool := false
  deriving Inhabited

/-! ### Tokens by name -/

/-- The tokens of the grammar by name. -/
structure Lexicon where
  newline : Nat
  indent : Nat
  dedent : Nat
  stringStart : Nat
  stringContent : Nat
  escapedBrace : Nat
  stringEnd : Nat
  comment : Nat
  closeBracket : Nat
  closeParenthesis : Nat
  closeBrace : Nat
  handler : Nat
  groupHandler : Nat
  identifier : Nat
  integer : Nat
  float : Nat
  escapeSequence : Nat
  loneBackslash : Nat
  formatText : Nat
  conversion : Nat
  continuation : Nat
  /-- The tokens that may stand between any two others. -/
  extras : TokenSet
  keywords : Std.HashMap String Nat
  keywordSet : TokenSet
  /-- The operators and brackets, longer ones first. -/
  operators : List (List Char × Nat)
  /-- All tokens but those whose text could be anything. -/
  recognizable : TokenSet
  all : TokenSet

namespace Lexicon

/-- Keywords that leave a named node, with the kinds of their nodes. -/
def constants : List (String × String) := [("True", "true"), ("False", "false"), ("None", "none")]

def isWord (text : String) : Bool := text.all fun c => c.isAlpha || c == '_'

def of (grammar : Productions) : Lexicon :=
  let named (kind : String) : Nat := (grammar.token? true kind).getD 0
  let written (text : String) : Nat := (grammar.token? false text).getD 0
  let tokens := grammar.tokens.toList.zipIdx
  let keywords : List (String × Nat) :=
    tokens.filterMap (fun (token, number) =>
      if !token.named && isWord token.kind then some (token.kind, number) else none) ++
    constants.map fun (text, kind) => (text, named kind)
  let operators : List (List Char × Nat) :=
    tokens.filterMap (fun (token, number) =>
      if !token.named && !isWord token.kind then some (token.kind.toList, number) else none) ++
    [("...".toList, named "ellipsis")]
  let all := TokenSet.ofList (List.range grammar.tokenCount)
  let formatText := named "_format_text"
  { newline := named "_newline"
    indent := named "_indent"
    dedent := named "_dedent"
    stringStart := named "string_start"
    stringContent := named "_string_content"
    escapedBrace := named "escape_interpolation"
    stringEnd := named "string_end"
    comment := named "comment"
    closeBracket := written "]"
    closeParenthesis := written ")"
    closeBrace := written "\x7d"
    handler := written "except"
    groupHandler := written "except*"
    identifier := named "identifier"
    integer := named "integer"
    float := named "float"
    escapeSequence := named "escape_sequence"
    loneBackslash := named "_not_escape_sequence"
    formatText
    conversion := named "type_conversion"
    continuation := named "line_continuation"
    extras := TokenSet.ofList [named "comment", named "line_continuation"]
    keywords := Std.HashMap.ofList keywords
    keywordSet := TokenSet.ofList (keywords.map Prod.snd)
    operators := operators.mergeSort fun a b => b.1.length ≤ a.1.length
    recognizable := all.without (TokenSet.single formatText)
    all }

end Lexicon

end ScopeCheck.Python
