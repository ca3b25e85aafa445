/-!
# ScopeCheck.Grammar.Rule

Grammars as data. A rule says which texts a symbol stands for.

* A *level* and a *side* decide between going on with a construct and ending it: the higher level
  wins, and at equal levels the side does.
* A *weight* decides between two readings that were both followed to their end: the heavier wins.
* A *field* names the part that a child plays in its parent, an *alias* gives a child another kind.
-/

namespace ScopeCheck

namespace Grammar

/-- The side to which operators of one level group. -/
inductive Side where
  /-- `a + b + c` is `(a + b) + c`. -/
  | left
  /-- `a + b + c` is `a + (b + c)`. -/
  | right
  deriving DecidableEq, Repr

/-- The kind under which a child stands in a tree in place of its own. -/
structure Alias where
  kind : String
  /-- Whether the child is a named node. -/
  named : Bool := true
  deriving DecidableEq, Repr

inductive Rule where
  /-- A token that is written as it stands. -/
  | token (text : String)
  | symbol (name : String)
  | blank
  /-- One rule after the other. -/
  | seq (parts : List Rule)
  /-- One of several rules. -/
  | choice (options : List Rule)
  /-- A rule, once or more often. -/
  | many1 (part : Rule)
  /-- A rule at a level, perhaps with a side. -/
  | level (height : Int) (side : Option Side) (rule : Rule)
  /-- A rule with a weight. -/
  | weight (amount : Int) (rule : Rule)
  | field (name : String) (rule : Rule)
  /-- A rule whose symbols stand under another kind. -/
  | renamed (name : Alias) (rule : Rule)

namespace Rule

instance : Inhabited Rule := ⟨.blank⟩

instance : Coe String Rule := ⟨.symbol⟩

def optional (rule : Rule) : Rule := .choice [rule, .blank]

/-- A rule, any number of times. -/
def many (rule : Rule) : Rule := .choice [.many1 rule, .blank]

/-- A rule once or more often, with a token between each two. -/
def separated (separator : String) (rule : Rule) : Rule :=
  .seq [rule, many (.seq [.token separator, rule])]

/-- A rule once or more often, with commas between. -/
def commas (rule : Rule) : Rule := separated "," rule

/-- A list with commas between, and perhaps one at its end. -/
def trailingCommas (rule : Rule) : Rule := .seq [commas rule, optional (.token ",")]

def atLevel (height : Int) (rule : Rule) : Rule := .level height none rule

def leftward (height : Int) (rule : Rule) : Rule := .level height (some .left) rule

def rightward (height : Int) (rule : Rule) : Rule := .level height (some .right) rule

/-- A rule under the kind of a named node. -/
def named (kind : String) (rule : Rule) : Rule := .renamed { kind } rule

/-- A rule under the kind of a token. -/
def asToken (kind : String) (rule : Rule) : Rule := .renamed { kind, named := false } rule

mutual

def same : Rule → Rule → Bool
  | .token a, .token b => a == b
  | .symbol a, .symbol b => a == b
  | .blank, .blank => true
  | .seq as, .seq bs => sameAll as bs
  | .choice as, .choice bs => sameAll as bs
  | .many1 a, .many1 b => same a b
  | .level h s a, .level k t b => h == k && s == t && same a b
  | .weight v a, .weight w b => v == w && same a b
  | .field f a, .field g b => f == g && same a b
  | .renamed f a, .renamed g b => f == g && same a b
  | _, _ => false

def sameAll : List Rule → List Rule → Bool
  | [], [] => true
  | a :: as, b :: bs => same a b && sameAll as bs
  | _, _ => false

end

instance : BEq Rule := ⟨same⟩

mutual

/-- The symbols and tokens of a rule in order, each told by whether it is a token. -/
def leaves : Rule → List (Bool × String)
  | .token text => [(true, text)]
  | .symbol name => [(false, name)]
  | .blank => []
  | .seq parts => leavesAll parts
  | .choice options => leavesAll options
  | .many1 rule | .level _ _ rule | .weight _ rule | .field _ rule | .renamed _ rule => leaves rule

def leavesAll : List Rule → List (Bool × String)
  | [] => []
  | rule :: rest => leaves rule ++ leavesAll rest

end

end Rule

end Grammar

/-- A grammar. The first rule is that of a whole text. -/
structure Grammar where
  /-- The rules under the names of the symbols that they define. -/
  rules : List (String × Grammar.Rule)
  /-- Symbols that are replaced by their rules wherever they occur. -/
  inlined : List String
  /-- Symbols that leave no node in a tree; so do those whose name begins with an underscore. -/
  hidden : List String
  /-- The name of the token that a word is when it is no keyword. -/
  word : String
  /-- Named tokens that may stand between any two others. -/
  extras : List String
  /-- The tokens that the layout of the text decides about, some of them words or brackets. -/
  layoutTokens : List (Bool × String)

end ScopeCheck
