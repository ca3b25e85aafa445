import ScopeCheck.Grammar.Production
import Std.Data.HashMap

/-!
# ScopeCheck.Grammar.Automaton

The automaton that reads texts of a grammar from left to right, with one token of lookahead
(canonical LR(1)). A choice that levels and sides leave open stays in the automaton: then a state
has several actions for one token.
-/

namespace ScopeCheck.Grammar

/-! ### States -/

/-- What a state does on a token. -/
structure Action where
  /-- The productions that may end here. -/
  reduce : List Nat := []
  /-- The state that follows when the token is taken. -/
  shift : Option Nat := none
  accept : Bool := false
  deriving Inhabited, DecidableEq

namespace Action

@[inline] def isEmpty (action : Action) : Bool :=
  action.reduce.isEmpty && action.shift.isNone && !action.accept

end Action

structure State where
  /-- The tokens on which the state does something. -/
  expected : TokenSet := {}
  actions : Array Action := #[]
  /-- The states that follow after a construct, one above their number, by construct; 0 where there
  is none. -/
  next : Array Nat := #[]
  deriving Inhabited

/-- The automaton of a grammar; state 0 is the first. -/
structure Automaton where
  grammar : Productions
  states : Array State
  deriving Inhabited

namespace Automaton

@[inline] def state (automaton : Automaton) (number : Nat) : State :=
  automaton.states.getD number {}

@[inline] def action (automaton : Automaton) (number token : Nat) : Action :=
  (automaton.state number).actions.getD token {}

@[inline] def after (automaton : Automaton) (number construct : Nat) : Option Nat :=
  match (automaton.state number).next.getD (construct - automaton.grammar.tokenCount) 0 with
  | 0 => none
  | next + 1 => some next

end Automaton

/-! ### Items -/

/-- A production of which a part was read, and the tokens that may follow its end. -/
structure Item where
  production : Nat
  /-- The number of its steps that were read. -/
  dot : Nat
  follow : TokenSet
  deriving DecidableEq, Inhabited, Hashable

/-- The number that stands for the start of the whole text in place of a production. -/
def startProduction (grammar : Productions) : Nat := grammar.all.size

/-- The steps of a production; the start of the whole text has one, the first construct. -/
@[inline] def stepsOf (grammar : Productions) (production : Nat) : Array Step :=
  match grammar.all[production]? with
  | some production => production.steps
  | none => #[{ symbol := grammar.tokenCount }]

namespace Item

/-- The symbol that an item reads next. -/
@[inline] def nextSymbol? (grammar : Productions) (item : Item) : Option Nat :=
  ((stepsOf grammar item.production)[item.dot]?).map (·.symbol)

@[inline] def level (grammar : Productions) (item : Item) : Int :=
  match item.dot with
  | 0 => 0
  | dot + 1 => (((stepsOf grammar item.production)[dot]?).bind (·.level)).getD 0

@[inline] def side (grammar : Productions) (item : Item) : Option Side :=
  match item.dot with
  | 0 => none
  | dot + 1 => ((stepsOf grammar item.production)[dot]?).bind (·.side)

end Item

/-! ### What a construct can begin with -/

/-- The tokens with which each symbol can begin. -/
abbrev Firsts := Array TokenSet

/-- Goes over all productions once, to find more of the tokens with which symbols can begin. -/
def growFirsts (grammar : Productions) (firsts : Firsts) : Firsts :=
  grammar.all.foldl
    (fun firsts production =>
      match production.steps[0]? with
      | none => firsts
      | some step =>
        let found := (firsts.getD production.symbol {}).union (firsts.getD step.symbol {})
        firsts.setIfInBounds production.symbol found)
    firsts

/-- The tokens with which each symbol can begin. No chain of first symbols is longer than there are
symbols, so that many rounds find all. -/
def Productions.firsts (grammar : Productions) : Firsts :=
  let start := (Array.range grammar.symbolCount).map fun symbol =>
    if symbol < grammar.tokenCount then TokenSet.single symbol else {}
  Nat.repeat (growFirsts grammar) grammar.constructs.size start

/-- What stands at the beginning of a construct: another construct, the tokens that may follow it
there, and whether it may also be followed by what follows the first one. -/
structure Opening where
  /-- The number of the other construct among the constructs. -/
  construct : Nat
  /-- The tokens that may follow it in any case. -/
  follow : TokenSet
  /-- Whether it may end where the first construct ends. -/
  atEnd : Bool
  deriving Inhabited

/-- For each construct, what is known of its place at the beginning of another. -/
abbrev Reach := Array (Option (TokenSet × Bool))

/-- Finds the constructs at the beginning of others. `queue` holds those of which the productions
are still to be looked at; `fuel` bounds the number of looks. -/
def reachFrom (grammar : Productions) (firsts : Firsts) : Nat → List Nat → Reach → Reach
  | 0, _, reach => reach
  | _, [], reach => reach
  | fuel + 1, construct :: queue, reach =>
    let (follow, atEnd) := ((reach.getD construct none).getD ({}, false))
    let productions := grammar.ofConstruct.getD construct #[]
    let (queue, reach) := productions.foldl
      (fun (queue, reach) number =>
        let steps := stepsOf grammar number
        match steps[0]? with
        | none => (queue, reach)
        | some first =>
          if first.symbol < grammar.tokenCount then (queue, reach)
          else
            let inner := first.symbol - grammar.tokenCount
            -- Behind a construct that stands alone comes what follows the outer one.
            let (follow', atEnd') :=
              match steps[1]? with
              | none => (follow, atEnd)
              | some second => (firsts.getD second.symbol {}, false)
            match reach.getD inner none with
            | none => (inner :: queue, reach.setIfInBounds inner (some (follow', atEnd')))
            | some (known, knownAtEnd) =>
              let found := known.union follow'
              -- A construct is looked at again only where something new is known of it.
              if found == known && (knownAtEnd || !atEnd') then (queue, reach)
              else
                (inner :: queue,
                  reach.setIfInBounds inner (some (found, knownAtEnd || atEnd'))))
      (queue, reach)
    reachFrom grammar firsts fuel queue reach

/-- The constructs at the beginning of each construct, itself included. -/
def Productions.openings (grammar : Productions) (firsts : Firsts) : Array (Array Opening) :=
  let count := grammar.constructs.size
  (Array.range count).map fun construct =>
    let start : Reach := (Array.replicate count none).setIfInBounds construct (some ({}, true))
    let reach := reachFrom grammar firsts (count * count * 128) [construct] start
    (Array.range count).filterMap fun inner =>
      (reach.getD inner none).map fun (follow, atEnd) => ⟨inner, follow, atEnd⟩

/-! ### Building states -/

/-- What is computed once of a grammar. -/
structure Analysis where
  grammar : Productions
  firsts : Firsts
  openings : Array (Array Opening)

namespace Analysis

/-- The tokens that may follow the symbol that an item reads next. -/
def followOfNext (analysis : Analysis) (item : Item) : TokenSet :=
  match (stepsOf analysis.grammar item.production)[item.dot + 1]? with
  | some step => analysis.firsts.getD step.symbol {}
  | none => item.follow

/-- All items of a state, from those that were read into it: these, and the unread productions of
all constructs that can begin here. -/
def closure (analysis : Analysis) (kernel : Array Item) : Array Item :=
  let grammar := analysis.grammar
  let count := grammar.constructs.size
  -- First the constructs that are read next, and what follows them.
  let direct : Array (Option TokenSet) := kernel.foldl
    (fun direct item =>
      match item.nextSymbol? grammar with
      | none => direct
      | some symbol =>
        if symbol < grammar.tokenCount then direct
        else
          let construct := symbol - grammar.tokenCount
          let follow := analysis.followOfNext item
          direct.setIfInBounds construct
            (some (((direct.getD construct none).getD {}).union follow)))
    (Array.replicate count none)
  -- Then the constructs at the beginning of these.
  let follows : Array (Option TokenSet) := (Array.range count).foldl
    (fun follows construct =>
      match direct.getD construct none with
      | none => follows
      | some follow =>
        (analysis.openings.getD construct #[]).foldl
          (fun follows opening =>
            let more := if opening.atEnd then opening.follow.union follow else opening.follow
            follows.setIfInBounds opening.construct
              (some (((follows.getD opening.construct none).getD {}).union more)))
          follows)
    (Array.replicate count none)
  (Array.range count).foldl
    (fun items construct =>
      match follows.getD construct none with
      | none => items
      | some follow =>
        (grammar.ofConstruct.getD construct #[]).foldl
          (fun items production => items.push ⟨production, 0, follow⟩) items)
    kernel

/-- Productions that may end before one token: the highest level wins, and those of equal level all
stay. -/
structure Ending where
  level : Int
  sides : List (Option Side)
  productions : List Nat

/-- Adds a production to those that may end before a token. -/
def Ending.add (production : Nat) (level : Int) (side : Option Side) : Option Ending → Ending
  | none => ⟨level, [side], [production]⟩
  | some ending =>
    if ending.level < level then ⟨level, [side], [production]⟩
    else if ending.level = level then
      ⟨level, side :: ending.sides, ending.productions ++ [production]⟩
    else ending

/-- The items of a state that are read to their end, in the order in which their constructs are
tried: shorter ones first, then by symbol and weight. -/
def finished (analysis : Analysis) (items : Array Item) : List Item :=
  let grammar := analysis.grammar
  let ends := (items.filter fun item => (item.nextSymbol? grammar).isNone).toList
  ends.mergeSort fun a b =>
    match grammar.all[a.production]?, grammar.all[b.production]? with
    | some p, some q =>
      a.dot < b.dot || a.dot == b.dot &&
        (p.symbol < q.symbol || p.symbol == q.symbol && p.weight ≤ q.weight)
    | _, none => true
    | none, some _ => false

/-- Decides between taking a token and ending constructs before it. Only items that have read a part
of their production take part. -/
def resolve (analysis : Analysis) (items : Array Item) (token : Nat) (ending : Ending)
    (shift : Nat) : Action :=
  let grammar := analysis.grammar
  -- Those that go on with the token, and those that stop before it.
  let going := items.filter fun item =>
    0 < item.dot && match item.nextSymbol? grammar with
      | some symbol => (analysis.firsts.getD symbol {}).contains token
      | none => false
  let symbolOf (item : Item) := (grammar.all[item.production]?).map (·.symbol)
  let stopping := items.filter fun item =>
    (item.nextSymbol? grammar).isNone && item.follow.contains token
  let symbols := ((going ++ stopping).filterMap symbolOf).toList
  let both : Action := { reduce := ending.productions, shift := some shift }
  let onlyReduce : Action := { reduce := ending.productions }
  let onlyShift : Action := { shift := some shift }
  match symbols with
  | symbol :: rest =>
    -- Where a repetition is cut makes no difference, so its first part is ended at once.
    if grammar.isRepetition symbol && rest.all (· == symbol) then onlyReduce
    else
      let higher := going.any fun item => ending.level < item.level grammar
      let lower := going.any fun item => item.level grammar < ending.level
      -- Equal levels are decided by the side, unequal ones by the level if they all point one way.
      match higher, lower with
      | true, false => onlyShift
      | false, true => onlyReduce
      | true, true => both
      | false, false =>
        if ending.sides.all (· == some .left) then onlyReduce
        else if ending.sides.all (· == some .right) then onlyShift
        else both
  | [] => both

end Analysis

structure Builder where
  /-- The items that were read into each state. -/
  kernels : Array (Array Item)
  /-- The number of each state by these items. -/
  numbers : Std.HashMap (Array Item) Nat
  states : Array State

namespace Builder

/-- The number of the state with the given items; it is a new one if there is none yet. -/
def number (builder : Builder) (kernel : Array Item) : Nat × Builder :=
  match builder.numbers[kernel]? with
  | some number => (number, builder)
  | none =>
    let number := builder.kernels.size
    (number, { builder with
      kernels := builder.kernels.push kernel
      numbers := builder.numbers.insert kernel number })

def finishState (analysis : Analysis) (builder : Builder) : Builder :=
  let grammar := analysis.grammar
  let kernel := builder.kernels.getD builder.states.size #[]
  let items := analysis.closure kernel
  -- The items that a symbol leads to, by symbol; each list is the kernel of a state.
  let successors : Array (Array Item) := items.foldl
    (fun successors item =>
      match item.nextSymbol? grammar with
      | none => successors
      | some symbol =>
        successors.modify symbol (·.push { item with dot := item.dot + 1 }))
    (Array.replicate grammar.symbolCount #[])
  -- The constructs that may end before each token.
  let endings : Array (Option Analysis.Ending) :=
    (analysis.finished items).foldl
      (fun endings item =>
        if item.production == startProduction grammar then endings
        else
          (item.follow.toList grammar.tokenCount).foldl
            (fun endings token =>
              endings.modify token fun ending =>
                some (Analysis.Ending.add item.production (item.level grammar)
                  (item.side grammar) ending))
            endings)
      (Array.replicate grammar.tokenCount none)
  let accepting := items.any fun item =>
    item.production == startProduction grammar && item.dot == 1
  -- New states get their numbers in the order of the tokens, and then of the constructs.
  let (actions, expected, builder) := (Array.range grammar.tokenCount).foldl
    (fun ((actions : Array Action), (expected : TokenSet), (builder : Builder)) token =>
      let successor := successors.getD token #[]
      let (shift, builder) :=
        if successor.isEmpty then (none, builder)
        else
          let (number, builder) := builder.number successor
          (some number, builder)
      let action : Action :=
        match endings.getD token none, shift with
        | none, shift => { shift, accept := accepting && token == 0 }
        | some ending, none => { reduce := ending.productions }
        | some ending, some shift => analysis.resolve items token ending shift
      (actions.push action,
        if action.isEmpty then expected else expected.insert token, builder))
    (Array.emptyWithCapacity grammar.tokenCount, {}, builder)
  let (next, builder) := (Array.range grammar.constructs.size).foldl
    (fun ((next : Array Nat), (builder : Builder)) construct =>
      let successor := successors.getD (grammar.tokenCount + construct) #[]
      if successor.isEmpty then (next.push 0, builder)
      else
        let (number, builder) := builder.number successor
        (next.push (number + 1), builder))
    (Array.emptyWithCapacity grammar.constructs.size, builder)
  { builder with states := builder.states.push ⟨expected, actions, next⟩ }

/-- Finishes states until all are finished, or `fuel` of them are. -/
def finishAll (analysis : Analysis) : Nat → Builder → Builder
  | 0, builder => builder
  | fuel + 1, builder =>
    if builder.kernels.size ≤ builder.states.size then builder
    else finishAll analysis fuel (builder.finishState analysis)

end Builder

def maxStates : Nat := 65536

def Productions.automaton (grammar : Productions) : Automaton :=
  let firsts := grammar.firsts
  let analysis : Analysis := ⟨grammar, firsts, grammar.openings firsts⟩
  let start : Array Item := #[⟨startProduction grammar, 0, TokenSet.single 0⟩]
  let builder : Builder := ⟨#[start], ({} : Std.HashMap (Array Item) Nat).insert start 0, #[]⟩
  ⟨grammar, (builder.finishAll analysis maxStates).states⟩

end ScopeCheck.Grammar
