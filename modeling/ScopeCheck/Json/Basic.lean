/-!
# ScopeCheck.Json.Basic

JSON values. The members of an object keep their order, and of several members with one key the last
one counts.
-/

namespace ScopeCheck

inductive Json where
  | null
  | bool (value : Bool)
  | natural (value : Nat)
  /-- Any other number: `factor` times ten to the power of `exponent`. -/
  | number (factor exponent : Int)
  | string (value : String)
  | array (items : List Json)
  | object (members : List (String × Json))
  deriving Inhabited

namespace Json

/-- The last of some members that has a given key. -/
def lastWithKey? (key : String) (members : List (String × Json)) : Option Json :=
  (members.reverse.find? fun member => member.1 == key).map Prod.snd

def member? (key : String) : Json → Option Json
  | .object members => lastWithKey? key members
  | _ => none

def string? : Json → Option String
  | .string text => some text
  | _ => none

def natural? : Json → Option Nat
  | .natural value => some value
  | _ => none

def items? : Json → Option (List Json)
  | .array items => some items
  | _ => none

end Json

end ScopeCheck
