import ScopeCheck.Grammar.Rule
import ScopeCheck.Grammar.TokenSet

/-!
# ScopeCheck.Grammar.Production

A grammar with every choice written out, and with numbers for symbols. A repetition `x` once or more
often becomes a symbol `r` with the productions `r r` and `x`.
-/

namespace ScopeCheck.Grammar

/-! ### The form -/

structure Step where
  symbol : Nat
  /-- The level of the construct up to here. -/
  level : Option Int := none
  /-- The side of the construct up to here. -/
  side : Option Side := none
  /-- The kind under which the symbol stands. -/
  name : Option Alias := none
  /-- The field in which the symbol stands. -/
  field : Option String := none
  deriving DecidableEq, Repr, Inhabited

/-- A sequence of symbols that stands for a symbol. -/
structure Production where
  /-- The number of the symbol that the sequence stands for. -/
  symbol : Nat
  steps : Array Step
  weight : Int := 0
  deriving DecidableEq, Repr, Inhabited

structure Token where
  kind : String
  named : Bool
  deriving DecidableEq, Repr, Inhabited

/-- A grammar in the form of productions. Tokens have the lowest numbers; token 0 is the end of the
text. -/
structure Productions where
  tokens : Array Token
  /-- The names of the other symbols, with whether each leaves a node in a tree. -/
  constructs : Array (String × Bool)
  repetitions : Array Bool
  /-- The productions, those of one symbol together. -/
  all : Array Production
  /-- For each symbol that is no token, the numbers of its productions. -/
  ofConstruct : Array (Array Nat)
  deriving Inhabited

namespace Productions

@[inline] def tokenCount (grammar : Productions) : Nat := grammar.tokens.size

@[inline] def symbolCount (grammar : Productions) : Nat :=
  grammar.tokens.size + grammar.constructs.size

def isRepetition (grammar : Productions) (symbol : Nat) : Bool :=
  grammar.tokenCount ≤ symbol && grammar.repetitions.getD (symbol - grammar.tokenCount) false

def token? (grammar : Productions) (named : Bool) (kind : String) : Option Nat :=
  grammar.tokens.findIdx? fun token => token.kind == kind && token.named == named

end Productions

/-! ### Repetitions -/

/-- The repetitions that have a symbol so far, and how many the present rule has. -/
structure Repetitions where
  /-- The symbols with the rules that they repeat, the last first. -/
  known : List (String × Rule) := []
  /-- The number of repetitions of the present rule. -/
  count : Nat := 0

mutual

/-- Replaces the repetitions in a rule of the symbol `owner` by symbols of their own. -/
def hoist (owner : String) (state : Repetitions) : Rule → Rule × Repetitions
  | .token text => (.token text, state)
  | .symbol name => (.symbol name, state)
  | .blank => (.blank, state)
  | .seq parts =>
    let (parts, state) := hoistAll owner state parts
    (.seq parts, state)
  | .choice options =>
    let (options, state) := hoistAll owner state options
    (.choice options, state)
  | .level height side rule =>
    let (rule, state) := hoist owner state rule
    (.level height side rule, state)
  | .weight amount rule =>
    let (rule, state) := hoist owner state rule
    (.weight amount rule, state)
  | .field name rule =>
    let (rule, state) := hoist owner state rule
    (.field name rule, state)
  | .renamed name rule =>
    let (rule, state) := hoist owner state rule
    (.renamed name rule, state)
  | .many1 rule =>
    let (rule, state) := hoist owner state rule
    match state.known.find? fun known => known.2 == rule with
    | some known => (.symbol known.1, state)
    | none =>
      let count := state.count + 1
      let name := owner ++ " (" ++ toString count ++ ")"
      (.symbol name, { known := (name, rule) :: state.known, count })

def hoistAll (owner : String) (state : Repetitions) : List Rule → List Rule × Repetitions
  | [] => ([], state)
  | rule :: rest =>
    let (rule, state) := hoist owner state rule
    let (rest, state) := hoistAll owner state rest
    (rule :: rest, state)

end

/-- Replaces the repetitions in all rules, and lists the symbols for them. -/
def hoistRules (rules : List (String × Rule)) : List (String × Rule) × List (String × Rule) :=
  let (done, state) := rules.foldl
    (fun (done, state) (name, rule) =>
      let (rule, state) := hoist name { state with count := 0 } rule
      ((name, rule) :: done, state))
    (([], {}) : List (String × Rule) × Repetitions)
  (done.reverse, state.known.reverse)

/-! ### Choices -/

/-- The marks that hold at a place of a rule. -/
structure Marks where
  /-- The level of the innermost rule that has one. -/
  level : Option Int := none
  /-- The side of the innermost rule that has one. -/
  side : Option Side := none
  name : Option Alias := none
  field : Option String := none

/-- One way through a rule. -/
structure Way where
  steps : List Step := []
  /-- The heaviest weight on the way, the first of equals. -/
  weight : Int := 0
  deriving DecidableEq

/-- The heavier of two weights, the first of equals. -/
def heavier (a b : Int) : Int := if a.natAbs < b.natAbs then b else a

def Way.append (a b : Way) : Way := ⟨a.steps ++ b.steps, heavier a.weight b.weight⟩

def updateLast (change : Step → Step) : List Step → List Step
  | [] => []
  | [step] => [change step]
  | step :: rest => step :: updateLast change rest

section Ways

variable (number : Bool → String → Nat)

mutual

/-- The ways through a rule. A level and a side reach to the end of a construct, so the last symbol
of a marked rule keeps them only if it is the last of the whole production, which `atEnd` tells. -/
def ways (marks : Marks) (atEnd : Bool) : Rule → List Way
  | .token text =>
    [⟨[⟨number true text, marks.level, marks.side, marks.name, marks.field⟩], 0⟩]
  | .symbol name =>
    [⟨[⟨number false name, marks.level, marks.side, marks.name, marks.field⟩], 0⟩]
  | .blank => [{}]
  | .seq parts => waysOfSeq marks atEnd parts
  | .choice options => waysOfChoice marks atEnd options
  | .many1 rule => ways marks atEnd rule
  | .level height side rule =>
    let inner := ways { marks with level := some height, side := side.or marks.side } atEnd rule
    -- Inside of a sequence the marks of the rule around it hold again behind its last symbol.
    if atEnd then inner
    else inner.map fun way =>
      { way with
        steps := updateLast (fun step =>
          { step with
            level := marks.level
            side := if side.isSome then marks.side else step.side }) way.steps }
  | .weight amount rule =>
    (ways marks atEnd rule).map fun way => { way with weight := heavier amount way.weight }
  | .field name rule => ways { marks with field := some name } atEnd rule
  | .renamed name rule => ways { marks with name := some name } atEnd rule

def waysOfSeq (marks : Marks) (atEnd : Bool) : List Rule → List Way
  | [] => [{}]
  | rule :: rest =>
    let first := ways marks (rest.isEmpty && atEnd) rule
    let later := waysOfSeq marks atEnd rest
    first.flatMap fun way => later.map way.append

def waysOfChoice (marks : Marks) (atEnd : Bool) : List Rule → List Way
  | [] => []
  | rule :: rest => ways marks atEnd rule ++ waysOfChoice marks atEnd rest

end

end Ways

/-- The members of a list without those that occur earlier. -/
def distinct {α : Type} [BEq α] (members : List α) : List α :=
  (members.foldl (fun seen member => if seen.contains member then seen else member :: seen)
    []).reverse

/-! ### Inlined symbols -/

/-- Puts a way in the place of a step, which hands on its marks. -/
def inlineStep (step : Step) (way : Way) : Way :=
  let steps := way.steps.map fun inner =>
    { inner with name := step.name.or inner.name, field := step.field.or inner.field }
  { way with
    steps := updateLast (fun last =>
      { last with level := last.level.or step.level, side := last.side.or step.side }) steps }

/-- Replaces the inlined symbols of a way, from left to right. `ways` gives the ways of an inlined
symbol; these hold inlined symbols to a depth of at most `depth`. -/
def inlineWay (waysOf : Nat → Option (List Way)) : (depth : Nat) → Way → List Way
  | 0, way => [way]
  | depth + 1, way =>
    let parts := way.steps.map fun step =>
      match waysOf step.symbol with
      | none => [({ steps := [step] } : Way)]
      | some inner => (inner.map (inlineStep step)).flatMap (inlineWay waysOf depth)
    let joined := parts.foldl
      (fun done part => done.flatMap fun way => part.map way.append)
      [({ weight := way.weight } : Way)]
    distinct joined

/-! ### The whole grammar -/

/-- The tokens of a grammar in the order of their numbers: the end of the text, the word, what the
rules mention, the extras, and the tokens of the layout. -/
def tokens (grammar : Grammar) : List (Bool × String) :=
  let names := grammar.rules.map Prod.fst
  let mentioned := Rule.leavesAll (grammar.rules.map Prod.snd)
  let plain := mentioned.filter fun leaf =>
    (leaf.1 || !names.contains leaf.2) && !grammar.layoutTokens.contains leaf
  distinct ([(false, "end"), (false, grammar.word)] ++ plain ++
    grammar.extras.filterMap (fun name =>
      if grammar.layoutTokens.contains (false, name) then none else some (false, name)) ++
    grammar.layoutTokens)

def productions (grammar : Grammar) : Productions :=
  let tokens := grammar.tokens
  let (rules, repetitions) := hoistRules grammar.rules
  -- Each repetition has two productions: two of it in a row, and one member.
  let rules := rules ++ repetitions.map fun (name, rule) =>
    (name, .choice [.seq [.symbol name, .symbol name], rule])
  let names := rules.map Prod.fst
  let number (isToken : Bool) (name : String) : Nat :=
    if !isToken && names.contains name then tokens.length + names.idxOf name
    else tokens.idxOf (isToken, name)
  let waysOfRules := rules.map fun (_, rule) => distinct (ways number {} true rule)
  let waysTable := waysOfRules.toArray
  let waysOf (symbol : Nat) : Option (List Way) :=
    match names[symbol - tokens.length]? with
    | some name =>
      if tokens.length ≤ symbol && grammar.inlined.contains name then
        waysTable[symbol - tokens.length]?
      else none
    | none => none
  let (all, ofConstruct) := (rules.zip waysOfRules).zipIdx.foldl
    (fun (all, ofConstruct) ((rule, ways), index) =>
      if grammar.inlined.contains rule.1 then (all, ofConstruct.push #[])
      else
        let inlinedWays := distinct (ways.flatMap (inlineWay waysOf rules.length))
        let all' := inlinedWays.foldl
          (fun (all : Array Production) way =>
            all.push ⟨tokens.length + index, way.steps.toArray, way.weight⟩) all
        (all', ofConstruct.push ((Array.range (all'.size - all.size)).map (· + all.size))))
    ((#[], #[]) : Array Production × Array (Array Nat))
  { tokens := (tokens.map fun (isToken, name) => ⟨name, !isToken⟩).toArray
    constructs := (names.zipIdx.map fun (name, index) =>
      (name, index < grammar.rules.length && !name.startsWith "_" &&
        !grammar.hidden.contains name)).toArray
    repetitions := (names.zipIdx.map fun (_, index) =>
      decide (grammar.rules.length ≤ index)).toArray
    all, ofConstruct }

end ScopeCheck.Grammar
