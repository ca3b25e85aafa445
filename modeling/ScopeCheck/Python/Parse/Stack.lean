import ScopeCheck.Python.Parse.Part

/-!
# ScopeCheck.Python.Parse.Stack

Several readings of a text side by side. Each is a *branch*, the way from the beginning of the text
to a *vertex*; where two branches come to the same state at the same place they join into one, so
that a vertex can have several links back.
-/

namespace ScopeCheck.Python.Parse

/-! ### The stack -/

/-- A place in the text together with the state that the automaton has there. -/
structure Vertex where
  /-- The state; there is none while text is skipped. -/
  state : Option Nat
  spot : Spot
  /-- The ways back, each with the part that was read on it. -/
  links : Array (Nat × Option Part) := #[]
  /-- What was spent on faults up to here. -/
  cost : Nat := 0
  /-- The number of nodes up to here. -/
  count : Nat := 0
  /-- The weight of the reading up to here. -/
  weight : Int := 0
  deriving Inhabited

/-- An earlier place of a branch to which it can go back. -/
structure Landmark where
  place : Place
  /-- The number of parts since then. -/
  depth : Nat
  state : Option Nat

/-- Whether a branch goes on. -/
inductive Status where
  | active
  /-- The token ahead fits nothing. -/
  | paused (ahead : Lexeme)
  /-- It is given up. -/
  | halted
  deriving Inhabited

namespace Status

def isActive : Status → Bool
  | .active => true
  | _ => false

/-- Whether a branch waits at a token that fits nothing. -/
def isPaused : Status → Bool
  | .paused _ => true
  | _ => false

def isHalted : Status → Bool
  | .halted => true
  | _ => false

end Status

/-- A reading of the text up to a place. -/
structure Branch where
  vertex : Nat
  status : Status := .active
  layout : Layout := {}
  /-- The number of nodes at the last fault. -/
  mark : Nat := 0
  /-- The places to which the branch can go back after a fault. -/
  landmarks : Option (List Landmark) := none
  deriving Inhabited

/-- All readings that are followed. -/
structure Stack where
  vertices : Array Vertex
  /-- The branches, the best first. -/
  branches : Array Branch
  /-- The best reading of the whole text so far. -/
  finished : Option Part := none
  /-- The number of readings of the whole text so far. -/
  accepted : Nat := 0

abbrev ParseM := StateM Stack

namespace Stack

def start (text : List Char) : Stack :=
  { vertices := #[{ state := some 0, spot := .start text }]
    branches := #[{ vertex := 0 }] }

@[inline] def vertex (stack : Stack) (number : Nat) : Vertex := stack.vertices.getD number default

@[inline] def branch (stack : Stack) (index : Nat) : Branch := stack.branches.getD index default

@[inline] def top (stack : Stack) (index : Nat) : Vertex :=
  stack.vertex (stack.branch index).vertex

end Stack

def top (index : Nat) : ParseM Vertex := return (← get).top index

def branchCount : ParseM Nat := return (← get).branches.size

def updateBranch (index : Nat) (change : Branch → Branch) : ParseM Unit :=
  modify fun stack => { stack with branches := stack.branches.modify index change }

def removeBranch (index : Nat) : ParseM Unit :=
  modify fun stack => { stack with branches := stack.branches.eraseIdxIfInBounds index }

def halt (index : Nat) : ParseM Unit :=
  updateBranch index fun branch => { branch with status := .halted }

def addBranch (branch : Branch) : ParseM Unit :=
  modify fun stack => { stack with branches := stack.branches.push branch }

/-- Moves a branch into the position of another one, whose landmarks it takes over if it has none of
its own. -/
def replaceBranch (source target : Nat) : ParseM Unit := do
  if source ≠ target then
    let landmarks := ((← get).branch target).landmarks
    let branch := (← get).branch source
    let branch := { branch with landmarks := branch.landmarks.or landmarks }
    updateBranch target fun _ => branch
    removeBranch source

/-! ### Going on -/

/-- Goes on along a branch to a new vertex, over a part or over nothing. Going over nothing marks
the place of a fault. -/
def Stack.push (tables : Tables) (index : Nat) (part : Option Part) (state : Option Nat)
    (stack : Stack) : Stack :=
  let source := (stack.branch index).vertex
  let vertex := stack.vertex source
  let next : Vertex :=
    match part with
    -- Over nothing, the place stays and nothing is counted.
    | none => { vertex with state, links := #[(source, none)] }
    | some part =>
      { state, links := #[(source, some part)]
        spot := part.shape.stop
        cost := vertex.cost + part.shape.cost
        count := vertex.count + tables.nodeCount part
        weight := vertex.weight + part.shape.weight }
  let number := stack.vertices.size
  let update (branch : Branch) : Branch :=
    { branch with
      vertex := number
      mark := if part.isNone then next.count else branch.mark }
  { stack with
    vertices := stack.vertices.push next
    branches := stack.branches.modify index update }

def push (tables : Tables) (index : Nat) (part : Option Part) (state : Option Nat) :
    ParseM Unit :=
  modify (Stack.push tables index part state)

/-! ### Joining branches -/

/-- The most ways back that a vertex has. -/
def maxLinks : Nat := 8

/-- Whether two vertices have the same state at the same place at the same cost. -/
def Vertex.agrees (a b : Vertex) : Bool :=
  a.state == b.state && a.spot.place.byte == b.spot.place.byte && a.cost == b.cost

def Stack.updateVertex (number : Nat) (change : Vertex → Vertex) (stack : Stack) : Stack :=
  { stack with vertices := stack.vertices.modify number change }

/-- Adds a way back to a vertex. A way over an interchangeable part makes no new one: from the same
vertex the heavier part stays, and from a vertex that agrees the ways back from there are added to
those that are known. `fuel` bounds the length of the ways. -/
def addLink (tables : Tables) : (fuel : Nat) → (target : Nat) → Nat × Option Part → Stack → Stack
  | 0, _, _, stack => stack
  | fuel + 1, target, (source, part), stack =>
    let vertex := stack.vertex target
    let origin := stack.vertex source
    let weight := origin.weight + Part.weightOf part
    let known? := vertex.links.findIdx? fun (known, knownPart) =>
      Part.interchangeable knownPart part &&
        (known == source || (stack.vertex known).agrees origin)
    -- A vertex does not lead back to itself.
    if source == target then stack
    else
      match known? with
      | some index =>
        let (known, knownPart) := vertex.links.getD index default
        -- The same way with another reading of the text: the heavier one stays.
        if known == source then
          if Part.weightOf knownPart < Part.weightOf part then
            stack.updateVertex target fun vertex =>
              { vertex with links := vertex.links.setIfInBounds index (known, part), weight }
          else stack
        else
          -- Two vertices that agree are one, so the ways back from them are put together.
          let stack := origin.links.foldl
            (fun stack link => addLink tables fuel known link stack) stack
          stack.updateVertex target fun vertex =>
            { vertex with weight := max vertex.weight weight }
      | none =>
        if maxLinks ≤ vertex.links.size then stack
        else
          let count := origin.count + (part.map tables.nodeCount).getD 0
          stack.updateVertex target fun vertex =>
            { vertex with
              links := vertex.links.push (source, part)
              count := max vertex.count count
              weight := max vertex.weight weight }

def Stack.canJoin (stack : Stack) (left right : Nat) : Bool :=
  let a := stack.branch left
  let b := stack.branch right
  a.status.isActive && b.status.isActive && (stack.top left).agrees (stack.top right) &&
    a.layout == b.layout

/-- Joins the second of two branches into the first. -/
def Stack.join (tables : Tables) (left right : Nat) (stack : Stack) : Stack :=
  let target := (stack.branch left).vertex
  -- No way back is longer than there are vertices.
  let fuel := stack.vertices.size
  let stack := (stack.top right).links.foldl
    (fun stack link => addLink tables fuel target link stack) stack
  let { state, count, .. } := stack.vertex target
  let update (branch : Branch) : Branch :=
    if state.isNone then { branch with mark := count } else branch
  { stack with
    branches := (stack.branches.modify left update).eraseIdxIfInBounds right }

/-- Joins the second of two branches into the first, if they agree. -/
def join (tables : Tables) (left right : Nat) : ParseM Bool := do
  if (← get).canJoin left right then
    modify (Stack.join tables left right)
    return true
  else return false

/-- Joins a branch into the first one of some others with which it agrees. -/
def joinAny (tables : Tables) (index : Nat) : List Nat → ParseM Bool
  | [] => return false
  | other :: rest => do
    if ← join tables other index then return true
    else joinAny tables index rest

/-! ### Going back -/

/-- A way back from the last vertex of a branch. -/
structure Path where
  vertex : Nat
  /-- The parts on the way, in the order of the text. -/
  parts : List Part := []
  /-- The number of parts on the way, but for extra ones. -/
  count : Nat := 0

/-- The most ways back that are followed at a time. -/
def maxPaths : Nat := 64

namespace Path

def along (path : Path) (link : Nat × Option Part) : Path :=
  match link with
  | (vertex, none) => { path with vertex, count := path.count + 1 }
  | (vertex, some part) =>
    { vertex, parts := part :: path.parts
      count := if part.shape.extra then path.count else path.count + 1 }

end Path

/-- Ways back that are being made longer. -/
structure Paths where
  /-- The ways over the first links, the last first. -/
  kept : List Path := []
  /-- The ways over other links, the last first. -/
  forks : List Path := []
  /-- The number of all ways. -/
  size : Nat

namespace Stack

/-- Makes a way longer by one link, or ends it. -/
def extend (stack : Stack) (ends : Path → Bool) (paths : Paths) (path : Path) : Paths :=
  match ends path, (stack.vertex path.vertex).links.toList with
  | false, first :: others =>
    -- The way itself goes over the first link, and each other link begins a new one.
    let paths := others.foldl
      (fun paths link =>
        if maxPaths ≤ paths.size then paths
        else { paths with forks := path.along link :: paths.forks, size := paths.size + 1 })
      paths
    { paths with kept := path.along first :: paths.kept }
  | _, _ => { paths with size := paths.size - 1 }

/-- All ways that begin with given ones, shorter ones first; a way that `ends` tells of is not made
longer. `done` holds the ways so far, the last first, and `fuel` bounds the length of the ways. -/
def pathsFrom (stack : Stack) (ends : Path → Bool) :
    (fuel : Nat) → (done paths : List Path) → List Path
  | 0, done, paths => done.reverse ++ paths
  | _, done, [] => done.reverse
  | fuel + 1, done, paths =>
    let next := paths.foldl (stack.extend ends) { size := paths.length }
    stack.pathsFrom ends fuel (paths.reverse ++ done) (next.kept.reverse ++ next.forks.reverse)

/-- All ways back from the last vertex of a branch. -/
def paths (stack : Stack) (index : Nat) (ends : Path → Bool) : List Path :=
  stack.pathsFrom ends (stack.vertices.size + 1) [] [{ vertex := (stack.branch index).vertex }]

/-- The ways back over a number of parts, by the vertices to which they lead. -/
def pathsOver (stack : Stack) (index count : Nat) : List (Nat × List (List Part)) :=
  let ends (path : Path) : Bool := path.count == count
  let found := (stack.paths index ends).filter ends
  -- Vertices stand in the order in which the ways first lead to them.
  let vertices := found.foldl
    (fun seen path => if seen.contains path.vertex then seen else path.vertex :: seen) []
  vertices.reverse.map fun vertex =>
    (vertex, (found.filter (·.vertex == vertex)).map Path.parts)

end Stack

/-- Adds a branch for each vertex to which a number of parts leads back, and tells the parts on each
way. The branch itself stays. -/
def pop (index count : Nat) : ParseM (List (List (List Part))) := do
  let stack ← get
  let { layout, mark, .. } := stack.branch index
  let found := stack.pathsOver index count
  for (vertex, _) in found do
    addBranch { vertex, layout, mark }
  return found.map Prod.snd

/-- The parts without the extra ones at their end, and these. -/
def splitExtras (parts : List Part) : List Part × List Part :=
  let reversed := parts.reverse
  ((reversed.dropWhile fun part => part.shape.extra).reverse,
    (reversed.takeWhile fun part => part.shape.extra).reverse)

end ScopeCheck.Python.Parse
