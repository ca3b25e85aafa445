/-!
# ScopeCheck.Toml.Basic

TOML values. A table remembers how it came to be, since that decides whether later lines of a
document may add to it.
-/

namespace ScopeCheck

namespace Toml

/-- How a table came to be. -/
inductive Origin where
  /-- By a header of its own, or as the whole document. -/
  | header
  /-- By a header for a table inside of it. -/
  | implied
  /-- By a key with dots. -/
  | dotted
  /-- In braces. -/
  | braces
  deriving DecidableEq, Repr

end Toml

inductive Toml where
  | string (text : String)
  | integer (value : Int)
  /-- A number with a point or an exponent, infinity, or no number, as it is written. -/
  | float (written : String)
  | boolean (value : Bool)
  /-- A date, a time, or both, as it is written. -/
  | moment (written : String)
  | array (items : List Toml)
  /-- A sequence of tables, each by a header of its own; the last one comes first. -/
  | rows (tables : List Toml)
  | table (origin : Toml.Origin) (entries : List (String × Toml))
  deriving Inhabited

namespace Toml

/-- The value under a key, out of some entries. -/
def find? (key : String) (entries : List (String × Toml)) : Option Toml :=
  (entries.find? fun entry => entry.1 == key).map Prod.snd

/-- Some entries with the value under a key replaced, or with a new entry at their end. -/
def put (key : String) (value : Toml) : List (String × Toml) → List (String × Toml)
  | [] => [(key, value)]
  | entry :: entries =>
    if entry.1 == key then (key, value) :: entries else entry :: put key value entries

def get? (key : String) : Toml → Option Toml
  | .table _ entries => find? key entries
  | _ => none

end Toml

end ScopeCheck
