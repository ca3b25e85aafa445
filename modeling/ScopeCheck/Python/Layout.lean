import ScopeCheck.Python.Lexicon

/-!
# ScopeCheck.Python.Layout

Tokens that depend on the layout of a text: the ends of lines, the beginnings and ends of blocks,
and the parts of strings. They are looked for before all others, and only among the tokens that are
expected, so that no line ends inside of brackets.
-/

namespace ScopeCheck.Python

open Grammar

namespace Quote

/-! ### The contents of strings -/

/-- What is found inside of a string. -/
inductive Found where
  /-- Contents of the string that end at a place. -/
  | content (stop : Spot)
  /-- The end of the string. -/
  | close (stop : Spot)
  /-- Neither; what follows belongs to other tokens, or to none. -/
  | other
  /-- The text ends inside of the string. -/
  | endOfText (stop : Spot)

/-- What stands at a place where a string either has contents before it or has none. -/
def contentIf (hasContent : Bool) (stop : Spot) : Found :=
  if hasContent then .content stop else .other

/-- The place after a backslash in a raw string: a quote or backslash after it, and a line feed,
belong to it. -/
def skipRaw (quote : Quote) (spot : Spot) : Spot :=
  let spot := spot.next
  let spot := if spot.peek == quote.mark || spot.peek == '\\' then spot.next else spot
  if spot.peek == '\r' then
    let spot := spot.next
    if spot.peek == '\n' then spot.next else spot
  else if spot.peek == '\n' then spot.next
  else spot

/-- What stands at a quote that closes a string, or that could. -/
def atMark (quote : Quote) (hasContent : Bool) (spot : Spot) : Found :=
  if quote.triple then
    let second := spot.next
    if second.peek == quote.mark then
      let third := second.next
      if third.peek == quote.mark then
        if hasContent then .content spot else .close third.next
      else .content third
    else .content second
  else if hasContent then .content spot
  else .close spot.next

/-- A raw string is gone on with behind its backslash. -/
theorem skipRaw_length_lt (quote : Quote) {spot : Spot} (h : spot.rest ≠ []) :
    (quote.skipRaw spot).rest.length < spot.rest.length := by
  have first := Spot.next_length_lt h
  have second := Spot.next_length_le spot.next
  have third := Spot.next_length_le spot.next.next
  have fourth := Spot.next_length_le spot.next.next.next
  simp only [skipRaw]
  repeat' split
  all_goals omega

/-- Looks for the end of the contents of a string. `hasContent` tells whether there are any so
far. -/
def find (quote : Quote) (hasContent : Bool) (spot : Spot) : Found :=
  if _h : spot.rest = [] then .endOfText spot
  else
    let c := spot.peek
    if c == '\x00' then .endOfText spot
    else if quote.format && (c == '\x7b' || c == '\x7d') then contentIf hasContent spot
    else if c == '\\' then
      if quote.raw then find quote hasContent (quote.skipRaw spot)
      else if quote.bytes then
        let second := spot.next
        -- Among bytes these escapes mean nothing, so they are contents like any others.
        if second.peek == 'N' || second.peek == 'u' || second.peek == 'U' then
          find quote true second.next.next
        else contentIf hasContent spot
      else contentIf hasContent spot
    else if c == quote.mark then quote.atMark hasContent spot
    -- A short string cannot go over the end of its line.
    else if c == '\n' && hasContent && !quote.triple then .other
    else find quote true spot.next
termination_by spot.rest.length
decreasing_by
  · exact skipRaw_length_lt quote _h
  · exact Nat.lt_of_le_of_lt (Spot.next_length_le _)
      (Nat.lt_of_le_of_lt (Spot.next_length_le _) (Spot.next_length_lt _h))
  · exact Spot.next_length_lt _h

/-! ### The beginnings of strings -/

/-- The flags in front of a string, and where they end. -/
def flags (quote : Quote) (place : Place) : List Char → Quote × Spot
  | [] => (quote, ⟨place, []⟩)
  | c :: rest =>
    match c with
    | 'f' | 'F' => flags { quote with format := true } (place.after c) rest
    | 'r' | 'R' => flags { quote with raw := true } (place.after c) rest
    | 'b' | 'B' => flags { quote with bytes := true } (place.after c) rest
    | 'u' | 'U' => flags quote (place.after c) rest
    | _ => (quote, ⟨place, c :: rest⟩)

/-- The string that is opened at a place, and where its contents begin. -/
def open? (spot : Spot) : Option (Quote × Spot) :=
  let (quote, spot) := flags { mark := '\x60' } spot.place spot.rest
  let c := spot.peek
  let first := spot.next
  if c == '\x60' then some (quote, first)
  else if c == '\x27' || c == '\x22' then
    let quote := { quote with mark := c }
    let second := first.next
    if first.peek == c && second.peek == c then some ({ quote with triple := true }, second.next)
    else some (quote, first)
  else none

end Quote

namespace Layout

/-! ### The blanks before a token -/

/-- What the blanks, line ends and comments before a token amount to. -/
structure Gap where
  /-- Where they end. -/
  stop : Spot
  /-- Whether a line ended among them. -/
  lineEnded : Bool := false
  indent : Nat := 0
  /-- The indentation of the first comment on a line of its own. -/
  commentIndent : Option Nat := none

/-- Goes over blanks, line ends and comments. Comments count only where `comments` says so; a
comment behind other text on its line, and a backslash that continues no line, are no gap. -/
def gap? (comments : Bool) (gap : Gap) : Option Gap :=
  let spot := gap.stop
  if _h : spot.rest = [] then some { gap with lineEnded := true, indent := 0 }
  else
    let c := spot.peek
    let next := spot.next
    if c == '\n' then gap? comments { gap with stop := next, lineEnded := true, indent := 0 }
    else if c == ' ' then gap? comments { gap with stop := next, indent := gap.indent + 1 }
    else if c == '\r' || c == '\x0c' then gap? comments { gap with stop := next, indent := 0 }
    else if c == '\t' then gap? comments { gap with stop := next, indent := gap.indent + 8 }
    else if c == '#' && comments then
      -- A comment that follows other text on its line is a token of its own.
      if !gap.lineEnded then none
      else
        gap? comments { gap with
          stop := (next.skipWhile fun c => c != '\n' && c != '\x00').next
          indent := 0
          commentIndent := gap.commentIndent.or (some gap.indent) }
    else if c == '\\' then
      -- A backslash at the end of a line joins the next line to it.
      let next := if next.peek == '\r' then next.next else next
      if next.peek == '\n' || next.atEnd then gap? comments { gap with stop := next.next }
      else none
    else some gap
termination_by gap.stop.rest.length
decreasing_by
  all_goals have first := Spot.next_length_lt _h
  · exact first
  · exact first
  · exact first
  · exact first
  · exact Nat.lt_of_le_of_lt (Spot.next_length_le _)
      (Nat.lt_of_le_of_lt (Spot.skipFrom_length_le _ _ _) first)
  · refine Nat.lt_of_le_of_lt (Spot.next_length_le _) ?_
    split
    · exact Nat.lt_of_le_of_lt (Spot.next_length_le _) first
    · exact first

/-! ### The token at a place -/

/-- Whether an indentation of the first comment keeps a block of a given indentation open. -/
def keepsOpen (gap : Gap) (indent : Nat) : Bool := gap.commentIndent.any (indent ≤ ·)

/-- The token for a gap in which a line ended. -/
def atLineEnd? (lexicon : Lexicon) (layout : Layout) (expected : TokenSet) (recovering : Bool)
    (spot : Spot) (gap : Gap) : Option Lexeme :=
  let expects (token : Nat) : Bool := expected.contains token
  let c := gap.stop.peek
  let quoteFollows := c == '\x22' || c == '\x27' || c == '\x60'
  let inBrackets := expects lexicon.closeBrace || expects lexicon.closeParenthesis ||
    expects lexicon.closeBracket
  let token (number : Nat) (layout : Layout) : Lexeme :=
    { token := some number, start := spot, stop := spot, layout, byLayout := true }
  let line? :=
    if expects lexicon.newline && !recovering then some (token lexicon.newline layout) else none
  match layout.indents with
  -- Without an open block nothing but the line itself can end.
  | [] => line?
  | current :: outer =>
    if expects lexicon.indent && current < gap.indent then
      some (token lexicon.indent { layout with indents := gap.indent :: layout.indents })
    -- Where a line cannot end either, a block ends all the same, but not inside of brackets.
    else if (expects lexicon.dedent ||
          !expects lexicon.newline && !(expects lexicon.stringStart && quoteFollows) &&
            !inBrackets) &&
        gap.indent < current && !layout.inFormat && !keepsOpen gap current then
      some (token lexicon.dedent { layout with indents := outer })
    else line?

/-- The token for a gap, or for what follows it. -/
def afterGap? (lexicon : Lexicon) (layout : Layout) (expected : TokenSet) (recovering : Bool)
    (spot : Spot) : Option Lexeme :=
  let expects (token : Nat) : Bool := expected.contains token
  let comments := expects lexicon.indent || expects lexicon.dedent || expects lexicon.newline ||
    expects lexicon.handler
  match gap? comments { stop := spot } with
  | none => none
  | some gap =>
    let line? :=
      if gap.lineEnded then atLineEnd? lexicon layout expected recovering spot gap else none
    match line? with
    | some lexeme => some lexeme
    | none =>
      -- A comment before the string would be lost, since comments are tokens of their own.
      if gap.commentIndent.isNone && expects lexicon.stringStart then
        (Quote.open? gap.stop).map fun (quote, stop) =>
          { token := some lexicon.stringStart, start := gap.stop, stop
            layout := { layout with quotes := quote :: layout.quotes, inFormat := quote.format }
            byLayout := true }
      else none

/-- The token that the layout gives at a place, among those that are expected. Where all tokens are
expected, because the text before was not understood, no string is gone on with. -/
def lexeme? (lexicon : Lexicon) (layout : Layout) (expected : TokenSet) (spot : Spot) :
    Option Lexeme :=
  let expects (token : Nat) : Bool := expected.contains token
  let recovering := expects lexicon.stringContent && expects lexicon.indent
  match layout.quotes with
  | [] => afterGap? lexicon layout expected recovering spot
  | quote :: quotes =>
    let c := spot.peek
    let token (number : Nat) (stop : Spot) (layout : Layout) : Lexeme :=
      { token := some number, start := spot, stop, layout, byLayout := true }
    -- While text is skipped, an open string is not gone on with.
    if recovering then afterGap? lexicon layout expected recovering spot
    else if expects lexicon.escapedBrace && quote.format && (c == '\x7b' || c == '\x7d') then
      let next := spot.next
      if next.peek == c then some (token lexicon.escapedBrace next.next layout) else none
    else if expects lexicon.stringContent then
      match quote.find false spot with
      | .content stop => some (token lexicon.stringContent stop layout)
      | .close stop =>
        some (token lexicon.stringEnd stop { layout with quotes, inFormat := false })
      | .other => none
      | .endOfText stop => afterGap? lexicon layout expected recovering stop
    else afterGap? lexicon layout expected recovering spot

end Layout

end ScopeCheck.Python
