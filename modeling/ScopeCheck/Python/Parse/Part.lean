import ScopeCheck.Cst.Basic
import ScopeCheck.Grammar.Automaton
import ScopeCheck.Python.Lexicon

/-!
# ScopeCheck.Python.Parse.Part

A parser puts tokens together to constructs, and these to larger ones. A construct that leaves no
node hands on the trees inside of it.
-/

namespace ScopeCheck.Python.Parse

open Grammar

/-! ### What a parser knows -/

/-- How a symbol stands in a tree. -/
structure Symbol where
  kind : String
  named : Bool := true
  visible : Bool := true
  deriving Inhabited

/-- What a parser knows of its grammar. Two symbols are added to those of the grammar: `error`, for
text that is skipped, and `errorRun`, for such text as long as more may join it. -/
structure Tables where
  automaton : Automaton
  lexicon : Lexicon
  symbols : Array Symbol

namespace Tables

def of (grammar : Grammar) : Tables :=
  let productions := grammar.productions
  let tokens := productions.tokens.mapIdx fun number token =>
    { kind := token.kind, named := token.named
      visible := number ≠ 0 && !(token.named && token.kind.startsWith "_") : Symbol }
  let constructs := productions.constructs.map fun (kind, visible) =>
    { kind, visible : Symbol }
  { automaton := productions.automaton
    lexicon := Lexicon.of productions
    symbols := tokens ++ constructs ++
      #[{ kind := "ERROR" }, { kind := "ERROR", visible := false }] }

@[inline] def symbol (tables : Tables) (number : Nat) : Symbol := tables.symbols.getD number default

@[inline] def tokenCount (tables : Tables) : Nat := tables.automaton.grammar.tokenCount

@[inline] def error (tables : Tables) : Nat := tables.automaton.grammar.symbolCount

/-- The symbol of skipped text that more may join. -/
@[inline] def errorRun (tables : Tables) : Nat := tables.automaton.grammar.symbolCount + 1

end Tables

/-! ### Trees side by side -/

/-- Trees side by side. -/
inductive Forest where
  | empty
  /-- One tree. An extra one stands in no field. -/
  | tree (tree : Cst) (extra : Bool)
  /-- Some trees before others. -/
  | join (left right : Forest)
  /-- Trees in a field, but for those that are in a field of their own. -/
  | inField (field : String) (forest : Forest)
  deriving Inhabited

namespace Forest

/-- Puts the trees of a forest, of which those without a field of their own stand in `field`, in
front of other trees. -/
def collect : Forest → Option String → List Cst → List Cst
  | .empty, _, later => later
  | .tree node true, _, later => node :: later
  | .tree node false, field, later => .node { node.label with field } node.children :: later
  | .join left right, field, later => collect left field (collect right field later)
  | .inField field forest, _, later => collect forest (some field) later

def trees (forest : Forest) : List Cst := forest.collect none []

/-- A forest in a field, if there is one. -/
def within (field : Option String) (forest : Forest) : Forest :=
  match field with
  | some field => .inField field forest
  | none => forest

end Forest

/-! ### Parts -/

/-- What a part says of itself. -/
structure Shape where
  symbol : Nat
  start : Place
  stop : Spot
  weight : Int := 0
  /-- Whether the part stands between others without being asked for. -/
  extra : Bool := false
  /-- Whether nothing in the text stands for the part. -/
  missing : Bool := false
  /-- What was spent on faults of the text. -/
  cost : Nat := 0
  /-- The number of nodes below the part. -/
  below : Nat := 0
  /-- The number of nodes next below the part. -/
  nextBelow : Nat := 0
  /-- The layout after the last token of the part that depends on it. -/
  layout : Option Layout := none
  faulty : Bool := false
  inside : Forest := .empty
  deriving Inhabited

/-- A token or construct that was read. -/
inductive Part where
  /-- A part with the parts of which it consists. -/
  | mk (shape : Shape) (children : List Part)
  deriving Inhabited

namespace Part

@[inline] def shape : Part → Shape
  | .mk shape _ => shape

@[inline] def children : Part → List Part
  | .mk _ children => children

def addWeight (amount : Int) : Part → Part
  | .mk shape children => .mk { shape with weight := shape.weight + amount } children

end Part

/-! ### What faults cost -/

/-- The cost of skipping any text. -/
def recoveryCost : Nat := 500

/-- The additional cost of a token that has to be supplied. -/
def missingCost : Nat := 110

def skippedNodeCost : Nat := 100

def skippedByteCost : Nat := 1

def skippedLineCost : Nat := 30

/-- The cost of the text between two places when it is skipped. -/
def skippedTextCost (start stop : Place) : Nat :=
  skippedByteCost * (stop.byte - start.byte) + skippedLineCost * (stop.row - start.row)

/-! ### Building parts -/

namespace Tables

def leaf (tables : Tables) (symbol : Nat) (start : Place) (stop : Spot) (extra missing : Bool)
    (layout : Option Layout) : Part :=
  .mk
    { symbol, start, stop, extra, missing, layout
      cost := if missing then missingCost + recoveryCost else 0
      faulty := missing || symbol == tables.error }
    []

/-- The part of a token that was found in the text. -/
def leafOf (tables : Tables) (lexeme : Lexeme) (extra : Bool) : Part :=
  tables.leaf (lexeme.token.getD tables.error) lexeme.start.place lexeme.stop extra false
    (if lexeme.byLayout then some lexeme.layout else none)

/-- The trees that a part adds to the tree of the part around it, where it stands under a name and
in a field that a production gives it. -/
def forestOf (tables : Tables) (part : Part) (name : Option Alias) (field : Option String) :
    Forest :=
  let shape := part.shape
  let symbol := tables.symbol shape.symbol
  let tree (kind : String) (named : Bool) : Forest :=
    let soundness : Cst.Soundness :=
      if shape.symbol == tables.error then .error
      else if shape.missing then .missing
      else .sound
    let label : Cst.Label :=
      { kind, named, soundness, start := shape.start, stop := shape.stop.place.byte
        hasError := shape.faulty }
    .tree (.node label shape.inside.trees) shape.extra
  match name with
  | some name => (tree name.kind name.named).within field
  | none =>
    if symbol.visible then (tree symbol.kind symbol.named).within field
    else shape.inside.within field

/-- Adds what a part of a construct says to what is known of the construct. The list holds the steps
of the production that are still to come. -/
def gather (tables : Tables) (skipped : Bool) :
    Shape × List Step → Part → Shape × List Step
  | (sum, steps), part =>
    let shape := part.shape
    -- Extra parts use up no step of the production.
    let (step, later) :=
      match shape.extra, steps with
      | false, step :: later => (some step, later)
      | _, _ => (none, steps)
    let name := step.bind Step.name
    let visible := (tables.symbol shape.symbol).visible
    let shown := visible || name.isSome
    let skippedNodes :=
      if !skipped || shape.extra || shape.symbol == tables.error && part.children.isEmpty then 0
      else if visible then 1
      else shape.nextBelow
    -- What a run of skipped text cost is counted once, by the part that ends the run.
    let ownCost := if shape.symbol == tables.errorRun then 0 else shape.cost
    ({ sum with
        weight := sum.weight + shape.weight
        cost := sum.cost + skippedNodeCost * skippedNodes + ownCost
        below := sum.below + shape.below + (if shown then 1 else 0)
        nextBelow := sum.nextBelow + (if shown then 1 else shape.nextBelow)
        layout := shape.layout.or sum.layout
        faulty := sum.faulty || shape.faulty
        stop := shape.stop
        inside := .join sum.inside (tables.forestOf part name (step.bind Step.field)) },
      later)

/-- The part of a construct that consists of other parts. Of a construct without parts, `spot` tells
where it stands. -/
def node (tables : Tables) (symbol : Nat) (steps : Array Step) (spot : Spot) (extra : Bool)
    (children : List Part) : Part :=
  let skipped := symbol == tables.error || symbol == tables.errorRun
  let start := (children.head?.map fun part => part.shape.start).getD spot.place
  let empty : Shape :=
    { symbol, start, stop := spot, extra, faulty := symbol == tables.error }
  let (sum, _) := children.foldl (tables.gather skipped) (empty, steps.toList)
  -- Text that is skipped costs by its length too, what lies between its parts included.
  let cost :=
    if skipped then sum.cost + recoveryCost + skippedTextCost start sum.stop.place else sum.cost
  .mk { sum with cost } children

/-- The number of nodes of a part, its own included. -/
def nodeCount (tables : Tables) (part : Part) : Nat :=
  let shape := part.shape
  shape.below + (if (tables.symbol shape.symbol).visible then 1 else 0) +
    (if shape.symbol == tables.errorRun then 1 else 0)

end Tables

/-! ### Comparing parts -/

namespace Part

mutual

def size : Part → Nat
  | .mk _ children => sizeAll children + 1

def sizeAll : List Part → Nat
  | [] => 0
  | part :: rest => size part + sizeAll rest

end

theorem sizeAll_append (left right : List Part) :
    sizeAll (left ++ right) = sizeAll left + sizeAll right := by
  induction left with
  | nil => simp [sizeAll]
  | cons part rest ih => simp [sizeAll, ih]; omega

/-- Whether the first difference between two lists of parts, in document order, lets the second list
come first: it has the lower symbol there, or fewer parts. -/
def laterThan : List Part → List Part → Bool
  | .mk left below :: rest, .mk right below' :: rest' =>
    if left.symbol ≠ right.symbol then right.symbol < left.symbol
    else if below.length ≠ below'.length then below'.length < below.length
    -- What is below the first two comes before what follows them.
    else laterThan (below ++ rest) (below' ++ rest')
  | _, _ => false
termination_by left => sizeAll left
decreasing_by
  simp only [sizeAll_append, sizeAll, size]
  omega

/-- Whether the second of two readings is to be taken: it costs less, or at equal cost weighs more.
Of faulty readings that are equal in both the second is taken, of sound ones the one whose symbols
come first in the grammar. -/
def prefers (left right : Part) : Bool :=
  if right.shape.cost < left.shape.cost then true
  else if left.shape.cost < right.shape.cost then false
  else if left.shape.weight < right.shape.weight then true
  else if right.shape.weight < left.shape.weight then false
  else if 0 < left.shape.cost then true
  else laterThan [left] [right]

def weightOf (part : Option Part) : Int := (part.map fun part => part.shape.weight).getD 0

/-- Whether two parts between the same places of a stack count as one. -/
def interchangeable (left right : Option Part) : Bool :=
  match left, right with
  | none, none => true
  | some left, some right =>
    let a := left.shape
    let b := right.shape
    a.symbol == b.symbol &&
      -- Two faulty parts of one symbol count as one, whatever they hold.
      (0 < a.cost && 0 < b.cost ||
        a.start.byte == b.start.byte && a.stop.place.byte == b.stop.place.byte &&
          left.children.length == right.children.length && a.extra == b.extra &&
          a.layout == b.layout)
  | _, _ => false

end Part

end ScopeCheck.Python.Parse
