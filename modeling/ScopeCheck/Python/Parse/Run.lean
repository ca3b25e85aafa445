import ScopeCheck.Python.Parse.Repair

/-!
# ScopeCheck.Python.Parse.Run

The run of the parser. In rounds, every branch reads on, branches that agree are joined, and those
that do much worse than others are given up.
-/

namespace ScopeCheck.Python.Parse

open Grammar

/-! ### Reading a token -/

/-- Ends constructs before the token ahead, one after the other. The answer is the position of the
first new branch for the last construct that gave one. -/
def reduceInTurn (tables : Tables) (index : Nat) : List Nat → Option Nat → ParseM (Option Nat)
  | [], last => return last
  | number :: rest, last => do
    let added ← reduce tables index number
    reduceInTurn tables index rest (added.or last)

def shift (tables : Tables) (index : Nat) (lexeme : Lexeme) (extra : Bool) (state : Option Nat) :
    ParseM Unit := do
  push tables index (some (tables.leafOf lexeme extra)) state
  updateBranch index fun branch => { branch with layout := lexeme.layout }

/-- Reads a token on a branch: ends the constructs that end before it, and takes it. A keyword that
does not fit is tried as a name; any other token that does not fit makes the branch pause. `fuel`
bounds the number of constructs that end. -/
def read (tables : Tables) (index : Nat) : (fuel : Nat) → Lexeme → ParseM Unit
  | 0, _ => halt index
  | fuel + 1, lexeme => do
    let { state, .. } ← top index
    let extra := (lexeme.token.map tables.isExtra).getD false
    -- While text is skipped there is no state, and only extra tokens are taken.
    if state.isNone then
      if extra then shift tables index lexeme true none
      else recover tables index lexeme
    else
      let action : Action := (lexeme.token.map (tables.action state)).getD {}
      let name := tables.lexicon.identifier
      if action.accept then accept tables index
      else if action.isEmpty && extra then shift tables index lexeme true state
      else
        let last? ← reduceInTurn tables index action.reduce none
        match action.shift, last? with
        | some next, _ => shift tables index lexeme false (some next)
        -- The token is tried again on what the branch has become.
        | none, some last =>
          replaceBranch last index
          read tables index fuel lexeme
        | none, none =>
          -- Constructs ended here, and all of them joined other branches.
          if !action.reduce.isEmpty then halt index
          -- Words such as `match` are names where no statement of theirs can begin.
          else if lexeme.isKeyword && lexeme.token != some name && tables.hasAction state name then
            read tables index fuel { lexeme with token := some name }
          else updateBranch index fun branch => { branch with status := .paused lexeme }

def advance (tables : Tables) (index : Nat) : ParseM Unit := do
  let stack ← get
  let lexeme := stack.nextLexeme tables index
  read tables index (stack.vertices.size * (tables.symbols.size + 1)) lexeme

/-- Reads on with a branch until it stops, or is ahead of the byte `last`; a branch that is not the
first one may also be at that byte. The answer is the byte to which the branches are now. -/
def advanceUntil (tables : Tables) (index : Nat) : (fuel last : Nat) → ParseM Nat
  | 0, last => return last
  | fuel + 1, last => do
    if ((← get).branch index).status.isActive && index < (← branchCount) then
      advance tables index
      let place := (← top index).spot.place.byte
      if index < (← branchCount) && (last < place || 0 < index && place == last) then return place
      else advanceUntil tables index fuel last
    else return last

/-- Reads on with all branches from a position on. -/
def advanceAll (tables : Tables) (steps : Nat) : (fuel index last : Nat) → ParseM Nat
  | 0, _, last => return last
  | fuel + 1, index, last => do
    if index < (← branchCount) then
      advanceAll tables steps fuel (index + 1) (← advanceUntil tables index steps last)
    else return last

/-! ### Comparing the branches -/

/-- Puts a branch in its place among those before it, from position `other` on. It is joined with
one that agrees, moved before a worse one, or given up for a much better one, and lets much worse
ones be given up. The answer is the position of the branch to go on with. -/
def settle (tables : Tables) (own : Standing) : (fuel index other : Nat) → ParseM Nat
  | 0, index, _ => return index + 1
  | fuel + 1, index, other => do
    if index ≤ other then return index + 1
    else
      match (← standing other).compare own with
      | .takeLeft =>
        removeBranch index
        return index
      | .takeRight =>
        -- With one branch less before it, this one moves up.
        removeBranch other
        settle tables own fuel (index - 1) other
      | .preferRight =>
        if ← join tables other index then return index
        else
          modify fun stack =>
            { stack with branches := stack.branches.swapIfInBounds index other }
          settle tables own fuel index (other + 1)
      | _ =>
        if ← join tables other index then return index
        else settle tables own fuel index (other + 1)

/-- Puts all branches from a position on in their places, and removes those that are given up. The
answer is the least cost of a branch that is at no fault. -/
def settleAll (tables : Tables) : (fuel index : Nat) → Option Nat → ParseM (Option Nat)
  | 0, _, least => return least
  | fuel + 1, index, least => do
    let count ← branchCount
    if count ≤ index then return least
    else if ((← get).branch index).status.isHalted then
      removeBranch index
      settleAll tables fuel index least
    else
      let own ← standing index
      let least := if own.atFault then least else some (least.elim own.cost (min own.cost))
      let next ← settle tables own (count + 1) index 0
      settleAll tables fuel next least

/-- Begins to repair the first of the paused branches, if there is no other branch before it, and
removes the other ones. `left` is the number of branches still to look at, `follows` tells whether a
branch is followed, and the answer is the least cost of the branches. -/
def resume (tables : Tables) : (left index : Nat) → (follows : Bool) → Option Nat →
    ParseM (Option Nat)
  | 0, _, _, least => return least
  | left + 1, index, follows, least => do
    let stack ← get
    match (stack.branch index).status with
    | .paused lexeme =>
      if !follows && stack.accepted < maxBranches then
        let cost := stack.cost index
        updateBranch index fun branch => { branch with status := .active }
        repair tables index lexeme
        resume tables left (index + 1) true (some cost)
      else
        removeBranch index
        resume tables left index follows least
    | _ => resume tables left (index + 1) true least

/-- Compares the branches, keeps the best ones, and tells their least cost. -/
def condense (tables : Tables) : ParseM (Option Nat) := do
  let count ← branchCount
  -- Only the best branches stay, and a paused one among them is repaired if it comes first.
  let least ← settleAll tables (count + 1) 0 none
  modify fun stack =>
    { stack with branches := (stack.branches.toList.take maxBranches).toArray }
  resume tables (← branchCount) 0 false least

/-! ### The whole run -/

/-- Reads on in rounds until the best reading of the whole text is found. `last` is the byte to
which the branches are. -/
def rounds (tables : Tables) (steps : Nat) : (fuel last : Nat) → ParseM Unit
  | 0, _ => return
  | fuel + 1, last => do
    let last ← advanceAll tables steps steps 0 last
    let least ← condense tables
    let stack ← get
    -- Nothing that is still read can become cheaper than what was finished.
    let done :=
      match stack.finished, least with
      | some best, some least => best.shape.cost < least
      | some _, none => true
      | none, _ => false
    if done || stack.branches.isEmpty then return
    else rounds tables steps fuel last

/-- More than the number of tokens on the longest way through a text. -/
def stepBound (text : List Char) : Nat := 64 * (text.length + 64)

def Tables.read? (tables : Tables) (text : List Char) : Option Part :=
  let steps := stepBound text
  ((rounds tables steps steps 0).run (.start text)).2.finished

end ScopeCheck.Python.Parse
