import ScopeCheck.Python.Parse.Reduce

/-!
# ScopeCheck.Python.Parse.Repair

What is done where a token fits nothing. A token is supplied, or the branch goes back to a state in
which the token ahead fits, or the token ahead is skipped; the cheapest repair that leads on wins.
-/

namespace ScopeCheck.Python.Parse

open Grammar

/-! ### The better branch -/

/-- How well a branch does. -/
structure Standing where
  /-- What was spent on faults. -/
  cost : Nat
  /-- The number of nodes since the last fault. -/
  count : Nat
  weight : Int
  atFault : Bool

inductive Verdict where
  /-- The right branch is given up. -/
  | takeLeft
  /-- The left branch is the better one. -/
  | preferLeft
  /-- Neither is better. -/
  | even
  /-- The right branch is the better one. -/
  | preferRight
  /-- The left branch is given up. -/
  | takeRight
  deriving DecidableEq

/-- The most that a branch may cost more than another one, divided by one more than the nodes that
the other one has read since its last fault. -/
def maxCostDifference : Nat := 18 * skippedNodeCost

/-- Which of two branches is better: one that is at no fault, then the cheaper, then the heavier
one. A cheaper branch lets the other one be given up if it is much cheaper, or cheaper and at no
fault. -/
def Standing.compare (left right : Standing) : Verdict :=
  match left.atFault, right.atFault with
  | false, true => if left.cost < right.cost then .takeLeft else .preferLeft
  | true, false => if right.cost < left.cost then .takeRight else .preferRight
  | _, _ =>
    if left.cost < right.cost then
      -- The more was read since the fault, the smaller a difference decides.
      if maxCostDifference < (right.cost - left.cost) * (1 + left.count) then .takeLeft
      else .preferLeft
    else if right.cost < left.cost then
      if maxCostDifference < (left.cost - right.cost) * (1 + right.count) then .takeRight
      else .preferRight
    else if right.weight < left.weight then .preferLeft
    else if left.weight < right.weight then .preferRight
    else .even

/-- What was spent on faults along a branch. -/
def Stack.cost (stack : Stack) (index : Nat) : Nat :=
  let vertex := stack.top index
  -- A branch that has just begun to skip text has nothing but the fault behind it.
  let skipping :=
    match vertex.state, vertex.links[0]? with
    | none, some (_, none) => true
    | _, _ => false
  if (stack.branch index).status.isPaused || skipping then vertex.cost + recoveryCost
  else vertex.cost

/-- The number of nodes that were read along a branch since its last fault. The mark of the fault
never lies ahead of the branch. -/
def countSinceFault (index : Nat) : ParseM Nat := do
  let { count, .. } ← top index
  updateBranch index fun branch => { branch with mark := min branch.mark count }
  return count - ((← get).branch index).mark

def standing (index : Nat) : ParseM Standing := do
  let count ← countSinceFault index
  let stack ← get
  let { state, weight, .. } := stack.top index
  let paused := (stack.branch index).status.isPaused
  let cost := stack.cost index + (if paused then skippedNodeCost else 0)
  return { cost, count, weight, atFault := paused || state.isNone }

/-- Whether one of some branches makes it pointless to follow another one that stands at `spot`. -/
def anyBetter (index : Nat) (own : Standing) (spot : Spot) : List Nat → ParseM Bool
  | [] => return false
  | other :: rest => do
    let stack ← get
    if other == index || !(stack.branch other).status.isActive ||
        (stack.top other).spot.place.byte < spot.place.byte then
      anyBetter index own spot rest
    else
      match own.compare (← standing other) with
      | .takeRight => return true
      | .preferRight =>
        if (← get).canJoin other index then return true else anyBetter index own spot rest
      | _ => anyBetter index own spot rest

/-- Whether there is a better reading than one that goes on along a branch at a given cost. -/
def betterExists (index cost : Nat) : ParseM Bool := do
  if (← get).finished.any fun part => part.shape.cost ≤ cost then return true
  else
    let { spot, weight, .. } ← top index
    let count ← countSinceFault index
    anyBetter index { cost, count, weight, atFault := false } spot (List.range (← branchCount))

/-! ### Ending all constructs -/

/-- The constructs of some parts that can end before one of some tokens, each once by its symbol and
number of parts, and whether one of the tokens can be taken. -/
def endings (tables : Tables) (state : Option Nat) (tokens : List Nat) : List Nat × Bool :=
  let grammar := tables.automaton.grammar
  let same (a b : Nat) : Bool :=
    match grammar.all[a]?, grammar.all[b]? with
    | some a, some b => a.symbol == b.symbol && a.steps.size == b.steps.size
    | _, _ => false
  let hasParts (number : Nat) : Bool := (grammar.all[number]?).any fun p => 0 < p.steps.size
  let (found, taken) := tokens.foldl
    (fun (found, taken) token =>
      let action := tables.action state token
      (action.reduce.foldl
        (fun (found : List Nat) number =>
          if hasParts number && !found.any (same number) then number :: found else found) found,
        taken || action.shift.isSome))
    (([] : List Nat), false)
  (found.reverse, taken)

/-- Ends constructs one after the other. The answer is that for the last of them. -/
def reduceAll (tables : Tables) (index : Nat) : List Nat → Option Nat → ParseM (Option Nat)
  | [], last => return last
  | number :: rest, _ => do reduceAll tables index rest (← reduce tables index number)

/-- Ends constructs in all possible ways, on branch `first` and on the branches that come up by it,
which begin at `initial`. `index` is the branch to go on with and `round` counts the branches. Where
`ahead` gives a token, only branches that lead to it stay, and the answer tells whether there are
any. -/
def reduceFreelyFrom (tables : Tables) (ahead : Option Nat) (first initial : Nat) :
    (fuel round index : Nat) → (found : Bool) → ParseM Bool
  | 0, _, _, found => return found
  | fuel + 1, round, index, found => do
    let count ← branchCount
    if count ≤ index then return found
    else if ← joinAny tables index ((List.range index).filter (initial ≤ ·)) then
      reduceFreelyFrom tables ahead first initial fuel (round + 1) index found
    else
      let { state, .. } ← top index
      let tokens :=
        match ahead with
        | some token => [token]
        | none => (List.range tables.tokenCount).drop 1
      let (constructs, taken) := endings tables state tokens
      let taken := taken || ahead.isSome && state.isNone
      let last? ← reduceAll tables index constructs none
      let next := if index == first then count else index + 1
      let found := found || taken
      -- A branch on which the token fits stays; any other one makes room for what it became.
      match taken, last? with
      | false, some last =>
        if round < maxBranches then
          replaceBranch last index
          reduceFreelyFrom tables ahead first initial fuel (round + 1) index found
        else
          if ahead.isSome then removeBranch index
          reduceFreelyFrom tables ahead first initial fuel (round + 1) next found
      | taken, _ =>
        if !taken && ahead.isSome then removeBranch index
        reduceFreelyFrom tables ahead first initial fuel (round + 1) next found

/-- Ends constructs on a branch in all possible ways, or in all that lead to a token. -/
def reduceFreely (tables : Tables) (index : Nat) (ahead : Option Nat) : ParseM Bool := do
  let count ← branchCount
  reduceFreelyFrom tables ahead index count 4096 0 index false

/-! ### Going back -/

/-- The most parts that a branch goes back over. -/
def maxDepth : Nat := 16

/-- Notes the places of a branch to which it can go back, each state once for each depth. -/
def noteLandmarks (index : Nat) : ParseM Unit := do
  let stack ← get
  let tooLong (path : Path) : Bool := maxDepth < path.count
  let visited := (stack.paths index tooLong).filter (!tooLong ·)
  let landmarks := visited.foldl
    (fun (landmarks : List Landmark) path =>
      let { state, spot, .. } := stack.vertex path.vertex
      let sameDepth := landmarks.takeWhile (path.count ≤ ·.depth)
      if sameDepth.any fun known => known.depth == path.count && known.state == state then
        landmarks
      else { place := spot.place, depth := path.count, state } :: landmarks)
    []
  updateBranch index fun branch => { branch with landmarks := some landmarks.reverse }

/-- Takes a part of skipped text off the end of a branch, and tells the parts in it. -/
def takeSkipped (tables : Tables) (index : Nat) : ParseM (List Part) := do
  -- The first link is looked at last.
  let links := ((← top index).links).toList
  let skipped? := (links.drop 1 ++ links.take 1).find? fun link =>
    link.2.any fun part => part.shape.symbol == tables.error
  match skipped? with
  | some (source, some part) =>
    updateBranch index fun branch => { branch with vertex := source }
    return part.children
  | _ => return []

/-- Goes back on a branch over a number of parts to a state, and skips these parts. The answer tells
whether that is possible; each way to do so is a new branch. -/
def skipBackTo (tables : Tables) (index depth : Nat) (goal : Option Nat) : ParseM Bool := do
  let initial ← branchCount
  let found ← pop index depth
  let mut possible := false
  let mut next := initial
  for readings in found do
    let vertex ← top next
    if vertex.state == goal then
      -- Of several readings of the same text, the first one is skipped.
      for parts in readings.take 1 do
        let skipped ← takeSkipped tables next
        let (parts, extras) := splitExtras (skipped ++ parts)
        if !parts.isEmpty then
          push tables next (some (tables.node tables.error #[] vertex.spot true parts)) goal
        for extra in extras do
          push tables next (some extra) goal
      possible := true
    else halt next
    next := next + 1
  return possible

/-- Goes back to the first of some landmarks from which the token ahead can be read, unless there is
a better reading. No use is made of a landmark where one of the first `initial` branches stands. -/
def goBack (tables : Tables) (index initial token : Nat) : List Landmark → ParseM Bool
  | [] => return false
  | landmark :: rest => do
    let since ← countSinceFault index
    let stack ← get
    let { spot, .. } := stack.top index
    -- The skipped text that follows a fault is one more part to go back over.
    let depth := if 0 < since then landmark.depth + 1 else landmark.depth
    let known := (List.range initial).any fun other =>
      let vertex := stack.top other
      vertex.state == landmark.state && vertex.spot.place.byte == spot.place.byte
    if landmark.state.isNone || landmark.place.byte == spot.place.byte || known then
      goBack tables index initial token rest
    else
      let cost := stack.cost index + depth * skippedNodeCost +
        skippedTextCost landmark.place spot.place
      -- Landmarks further back cost more, so that the search ends with the first hopeless one.
      if ← betterExists index cost then return false
      else if !tables.hasAction landmark.state token then goBack tables index initial token rest
      else if ← skipBackTo tables index depth landmark.state then return true
      else goBack tables index initial token rest

/-! ### Skipping the token ahead -/

/-- Removes the branches from a position on that do not go on. -/
def removeStopped (first : Nat) : ParseM Unit :=
  modify fun stack =>
    let branches := stack.branches.toList
    { stack with
      branches :=
        (branches.take first ++ (branches.drop first).filter (·.status.isActive)).toArray }

/-- Skips the token ahead. It joins the text that was skipped just before. -/
def skipLexeme (tables : Tables) (index : Nat) (lexeme : Lexeme) : ParseM Unit := do
  let { spot, .. } ← top index
  let extra := (lexeme.token.map tables.isExtra).getD false
  let skipped := tables.node tables.errorRun #[] spot false [tables.leafOf lexeme extra]
  if 0 < (← countSinceFault index) then
    match (← get).pathsOver index 1 with
    | (vertex, parts :: _) :: _ =>
      updateBranch index fun branch => { branch with vertex, status := .active }
      let run := tables.node tables.errorRun #[] spot false (parts ++ [skipped])
      push tables index (some run) none
    | _ => push tables index (some skipped) none
  else push tables index (some skipped) none
  updateBranch index fun branch => { branch with layout := lexeme.layout }

/-- Goes on with a branch that skips text: goes back, or skips the token ahead, or both on branches
of their own. The end of the text ends the branch. -/
def recover (tables : Tables) (index : Nat) (lexeme : Lexeme) : ParseM Unit := do
  let initial ← branchCount
  let branch := (← get).branch index
  let { spot, .. } ← top index
  let cost := (← get).cost index
  let wentBack ←
    match lexeme.token, branch.landmarks with
    | some token, some landmarks => goBack tables index initial token landmarks
    | _, _ => pure false
  removeStopped initial
  -- At the end of the text nothing is left to be skipped.
  if lexeme.token == some 0 then
    push tables index (some (tables.node tables.error #[] spot false [])) (some 0)
    accept tables index
  else if wentBack && maxBranches < (← branchCount) then halt index
  -- A token that changes the layout is not skipped where another branch can take it.
  else if wentBack && lexeme.byLayout && lexeme.layout != branch.layout then halt index
  else
    let skipCost := cost + skippedNodeCost + skippedTextCost spot.place lexeme.stop.place
    if ← betterExists index skipCost then halt index
    else skipLexeme tables index lexeme

/-! ### Supplying a token -/

/-- Supplies the first token after which the token ahead fits, on a new branch. The answer tells
whether there is one. -/
def supplyToken (tables : Tables) (index : Nat) (spot : Spot) (ahead : Nat) :
    List Nat → ParseM Bool
  | [] => return false
  | missing :: rest => do
    let { state, .. } ← top index
    match (tables.action state missing).shift with
    | none => supplyToken tables index spot ahead rest
    | some next =>
      -- Supplying a token helps only if a construct ends behind it.
      if (tables.action (some next) ahead).reduce.isEmpty then
        supplyToken tables index spot ahead rest
      else
        let branch := (← get).branch index
        let added ← branchCount
        addBranch { branch with status := .active, landmarks := none }
        push tables added (some (tables.leaf missing spot.place spot false true none)) (some next)
        if ← reduceFreely tables added (if ahead = 0 then none else some ahead) then return true
        else supplyToken tables index spot ahead rest

/-- Supplies a token on the first of some branches where that helps, and lets all of them skip
text. -/
def beginSkipping (tables : Tables) (spot : Spot) (ahead : Option Nat) :
    List Nat → (supplied : Bool) → ParseM Unit
  | [], _ => return
  | index :: rest, supplied => do
    let supplied ←
      match supplied, ahead with
      | false, some token =>
        supplyToken tables index spot token ((List.range tables.tokenCount).drop 1)
      | supplied, _ => pure supplied
    push tables index none none
    beginSkipping tables spot ahead rest supplied

/-- Begins to repair a branch at a token that fits nothing. All constructs that can end are ended;
the branches that come up by it all skip text, and so are joined again. -/
def repair (tables : Tables) (index : Nat) (lexeme : Lexeme) : ParseM Unit := do
  let initial ← branchCount
  let { spot, .. } ← top index
  -- Any token may turn up later, so all constructs that could end here are ended.
  let _ ← reduceFreely tables index none
  let count ← branchCount
  let added := (List.range (count - initial)).map (initial + ·)
  beginSkipping tables spot lexeme.token (index :: added) false
  -- Joining takes a branch away, so the next one is in the same position.
  for _ in added do
    if !(← join tables index initial) then removeBranch initial
  noteLandmarks index
  recover tables index lexeme

end ScopeCheck.Python.Parse
