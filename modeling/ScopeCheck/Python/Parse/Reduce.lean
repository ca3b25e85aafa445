import ScopeCheck.Python.Parse.Token

/-!
# ScopeCheck.Python.Parse.Reduce

Constructs that end before the next token. Ways back that lead to the same vertex are readings of the
same text, and one of them is chosen; the others become branches of their own.
-/

namespace ScopeCheck.Python.Parse

open Grammar

/-- The most branches that are kept in the long run. -/
def maxBranches : Nat := 6

/-- The additional branches that may come up in between. -/
def branchReserve : Nat := 4

/-- Chooses between several readings of a construct: one reading as a part, with the extra parts
behind it. -/
def chooseReading (build : List Part → Part) : List (List Part) → Option (Part × List Part)
  | [] => none
  | first :: others =>
    let read (parts : List Part) : Part × List Part :=
      let (parts, extras) := splitExtras parts
      (build parts, extras)
    some (others.foldl
      (fun best parts =>
        let other := read parts
        if best.1.prefers other.1 then other else best)
      (read first))

/-- Ends a construct on a branch. Each way back gives a new branch behind all others, if the
automaton can go on; the branch itself stays. The answer is the position of the first new branch, if
there is any. -/
def reduce (tables : Tables) (index number : Nat) : ParseM (Option Nat) := do
  match tables.automaton.grammar.all[number]? with
  | none => return none
  | some production =>
    let initial ← branchCount
    let found ← pop index production.steps.size
    let halted := ((← get).branches.filter (·.status.isHalted)).size
    let mut next := initial
    for readings in found do
      -- Readings beyond the bound are given up before anything is built for them.
      if maxBranches + branchReserve + halted < next then removeBranch next
      else
        let vertex ← top next
        let build (parts : List Part) : Part :=
          tables.node production.symbol production.steps vertex.spot false parts
        match chooseReading build readings, tables.nextState? vertex.state production.symbol with
        | some (part, extras), some state =>
          push tables next (some (part.addWeight production.weight)) (some state)
          for extra in extras do
            push tables next (some extra) (some state)
          -- The branch that is reduced itself is about to be replaced and is not joined with.
          let others := (List.range next).filter (· != index)
          if !(← joinAny tables next others) then next := next + 1
        | _, _ =>
          halt next
          next := next + 1
    return if initial < (← branchCount) then some initial else none

/-- The whole text as one part: the last construct takes in the extra parts around it. -/
def wholeText? (tables : Tables) (spot : Spot) (parts : List Part) : Option Part :=
  let (before, after) := splitExtras parts
  match before.reverse with
  | [] => none
  | last :: earlier =>
    some (tables.node last.shape.symbol #[] spot false
      (earlier.reverse ++ last.children ++ after))

/-- Ends the text on a branch, and keeps the better of this reading and the best one so far. -/
def accept (tables : Tables) (index : Nat) : ParseM Unit := do
  let stack ← get
  let spot := (stack.top index).spot
  let whole := (stack.paths index fun _ => false).filter fun path =>
    (stack.vertex path.vertex).links.isEmpty
  for path in whole do
    match wholeText? tables spot path.parts with
    | none => pure ()
    | some part =>
      modify fun stack =>
        { stack with
          accepted := stack.accepted + 1
          finished :=
            match stack.finished with
            | none => some part
            | some best => if best.prefers part then some part else some best }
  halt index

end ScopeCheck.Python.Parse
