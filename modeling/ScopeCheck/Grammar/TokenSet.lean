/-!
# ScopeCheck.Grammar.TokenSet

Sets of tokens, for grammars of at most 128 tokens. A set is two machine words, one bit a token.
-/

namespace ScopeCheck.Grammar

/-- A set of tokens with numbers below 128. -/
structure TokenSet where
  /-- The tokens below 64. -/
  low : UInt64 := 0
  /-- The tokens from 64 on. -/
  high : UInt64 := 0
  deriving DecidableEq, Repr, Inhabited, Hashable

namespace TokenSet

/-- The set of one token; a token that is too large gives the empty set. -/
def single (token : Nat) : TokenSet :=
  if token < 64 then { low := (1 : UInt64) <<< token.toUInt64 }
  else if token < 128 then { high := (1 : UInt64) <<< (token - 64).toUInt64 }
  else {}

@[inline] def contains (set : TokenSet) (token : Nat) : Bool :=
  if token < 64 then (set.low >>> token.toUInt64) &&& 1 == 1
  else if token < 128 then (set.high >>> (token - 64).toUInt64) &&& 1 == 1
  else false

@[inline] def union (a b : TokenSet) : TokenSet := ⟨a.low ||| b.low, a.high ||| b.high⟩

/-- The tokens that are in the first set and not in the second. -/
@[inline] def without (a b : TokenSet) : TokenSet :=
  ⟨a.low &&& (a.low ^^^ b.low), a.high &&& (a.high ^^^ b.high)⟩

@[inline] def isEmpty (set : TokenSet) : Bool := set.low == 0 && set.high == 0

@[inline] def meets (a b : TokenSet) : Bool := a.low &&& b.low != 0 || a.high &&& b.high != 0

@[inline] def insert (set : TokenSet) (token : Nat) : TokenSet := set.union (single token)

def ofList (tokens : List Nat) : TokenSet := tokens.foldl insert {}

/-- The tokens below `count` that are in a set, in ascending order. -/
def toList (set : TokenSet) (count : Nat) : List Nat := (List.range count).filter set.contains

end TokenSet

end ScopeCheck.Grammar
