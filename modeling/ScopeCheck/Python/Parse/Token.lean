import ScopeCheck.Python.Lexer
import ScopeCheck.Python.Parse.Stack

/-!
# ScopeCheck.Python.Parse.Token

The next token of a branch: an expected one, else any token, else unknown text up to the next token.
-/

namespace ScopeCheck.Python.Parse

open Grammar

/-! ### The automaton -/

namespace Tables

/-- Whether a token may stand between any two others. -/
@[inline] def isExtra (tables : Tables) (token : Nat) : Bool :=
  tables.lexicon.extras.contains token

def action (tables : Tables) (state : Option Nat) (token : Nat) : Action :=
  match state with
  | none => {}
  | some state => tables.automaton.action state token

def hasAction (tables : Tables) (state : Option Nat) (token : Nat) : Bool :=
  !(tables.action state token).isEmpty || tables.isExtra token

def nextState? (tables : Tables) (state : Option Nat) (symbol : Nat) : Option Nat :=
  match state with
  | none => none
  | some state =>
    if symbol < tables.tokenCount then
      match (tables.automaton.action state symbol).shift with
      | some next => some next
      | none => if tables.isExtra symbol then some state else none
    else tables.automaton.after state symbol

end Tables

/-! ### Tokens in the text -/

/-- The expected token at a spot, after the blanks before it. Of the tokens that the layout gives,
one that changes nothing is taken only if `takesEmpty` allows it. -/
def expectedLexeme? (tables : Tables) (layout : Layout) (takesEmpty : Nat → Bool)
    (byLayout plain : TokenSet) (spot : Spot) : Option Lexeme :=
  let counts (lexeme : Lexeme) : Bool :=
    spot.place.byte < lexeme.stop.place.byte || lexeme.layout != layout ||
      (lexeme.token.map takesEmpty).getD false
  match (layout.lexeme? tables.lexicon byLayout spot).filter counts with
  | some lexeme => some lexeme
  | none => plainLexeme? tables.lexicon layout plain spot

def anyLexeme? (tables : Tables) (layout : Layout) (spot : Spot) : Option Lexeme :=
  expectedLexeme? tables layout (fun _ => false) tables.lexicon.all tables.lexicon.recognizable spot

/-- The spot after a first part of a text that is no token: blanks, or one character. An exclamation
mark or a backslash, with which tokens begin, is passed together with the blanks before it. -/
def passUnknown (c : Char) (spot : Spot) : Spot :=
  if isSpace c then
    let spot := spot.next.skipWhile isSpace
    if spot.peek == '!' || spot.peek == '\\' then spot.next else spot
  else spot.next

theorem passUnknown_length_lt (c : Char) {spot : Spot} (h : spot.rest ≠ []) :
    (passUnknown c spot).rest.length < spot.rest.length := by
  have first := Spot.next_length_lt h
  have skipped : (spot.next.skipWhile isSpace).rest.length ≤ spot.next.rest.length :=
    Spot.skipFrom_length_le _ _ _
  simp only [passUnknown]
  repeat' split
  · exact Nat.lt_of_le_of_lt (Spot.next_length_le _) (Nat.lt_of_le_of_lt skipped first)
  · exact Nat.lt_of_le_of_lt skipped first
  · exact first

/-- Where the text that is no token ends. The text up to `spot` is passed in any case. -/
def unknownEnd (tables : Tables) (layout : Layout) (spot : Spot) : Spot :=
  if (anyLexeme? tables layout spot).isSome then spot
  else
    match _h : spot.rest with
    | [] => spot
    | c :: _ => unknownEnd tables layout (passUnknown c spot)
termination_by spot.rest.length
decreasing_by exact passUnknown_length_lt c (by simp [_h])

/-- Text that is no token, from the first character that is no blank. -/
def unknownLexeme (tables : Tables) (layout : Layout) (spot : Spot) : Lexeme :=
  let start := spot.skipWhile isSpace
  let stop :=
    match start.rest with
    | [] => start
    | c :: _ => unknownEnd tables layout (passUnknown c start)
  { token := none, start, stop, layout }

/-! ### The next token of a branch -/

namespace Stack

/-- Whether text was read along a branch since a fault: from some vertex on, over parts that cost
nothing and were read after the last fault. `fuel` bounds the length of the branch. -/
def advancedFrom (stack : Stack) (mark : Nat) : (fuel : Nat) → Vertex → Bool
  | 0, _ => false
  | fuel + 1, vertex =>
    match vertex.links[0]? with
    | some (source, some part) =>
      let origin := stack.vertex source
      if origin.spot.place.byte < vertex.spot.place.byte then true
      else if mark < vertex.count && part.shape.cost == 0 then stack.advancedFrom mark fuel origin
      else false
    | _ => false

/-- Whether text was read along a branch since the last fault. -/
def hasAdvanced (stack : Stack) (index : Nat) : Bool :=
  let vertex := stack.top index
  vertex.cost == 0 ||
    stack.advancedFrom (stack.branch index).mark stack.vertices.size vertex

def nextLexeme (tables : Tables) (stack : Stack) (index : Nat) : Lexeme :=
  let { state, spot, .. } := stack.top index
  let layout := (stack.branch index).layout
  let expected? :=
    match state with
    | none => none
    | some number =>
      let expected := (tables.automaton.state number).expected.union tables.lexicon.extras
      let takesEmpty (token : Nat) : Bool :=
        stack.hasAdvanced index && tables.nextState? state token != state
      expectedLexeme? tables layout takesEmpty expected expected spot
  match expected? with
  | some lexeme => lexeme
  | none =>
    match anyLexeme? tables layout spot with
    | none => unknownLexeme tables layout spot
    | some lexeme =>
      match state, lexeme.token with
      | some _, some token =>
        if tables.lexicon.keywordSet.contains token && !tables.hasAction state token then
          { lexeme with token := some tables.lexicon.identifier }
        else lexeme
      | _, _ => lexeme

end Stack

end ScopeCheck.Python.Parse
