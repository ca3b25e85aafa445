import ScopeCheck.Failure
import ScopeCheck.Settings
import ScopeCheck.Toml.Reader

/-!
# ScopeCheck.Configuration

Settings files. The settings stand in the table `scopelint` of a TOML document, under a key each;
what is not given keeps its default, and other keys do not matter. In place of the table there may
be a sequence, which gives the settings in their order.
-/

namespace ScopeCheck

/-! ### Single settings -/

namespace Toml

/-- The number that a value is, if it is not negative. -/
def natural? : Toml → Option Nat
  | .integer value => if 0 ≤ value then some value.toNat else none
  | _ => none

def string? : Toml → Option String
  | .string text => some text
  | _ => none

def strings? : Toml → Option (List String)
  | .array items => items.mapM string?
  | _ => none

end Toml

/-! ### All settings -/

namespace Settings

/-- The settings with given values, each of which may be left out. -/
def ofValues? (maxLineLength select ignore : Option Toml) : Option Settings := do
  let maxLineLength ← maxLineLength.elim (some defaultMaxLineLength) Toml.natural?
  let select ← select.elim (some []) Toml.strings?
  let ignore ← ignore.elim (some []) Toml.strings?
  return { maxLineLength, select, ignore }

def ofItems? (items : List Toml) : Option Settings :=
  ofValues? items[0]? items[1]? items[2]?

/-- The settings that a value stands for. A date or time has none of the keys, as a table could. -/
def ofToml? (value : Toml) : Option Settings :=
  match value with
  | .table _ entries =>
    ofValues? (Toml.find? "max_line_length" entries) (Toml.find? "select" entries)
      (Toml.find? "ignore" entries)
  | .array items => ofItems? items
  | .rows tables => ofItems? tables.reverse
  | .moment _ => some {}
  | _ => none

end Settings

namespace Configuration

def tableName : String := "scopelint"

/-- The settings of a document, if it is valid. -/
def settings? (document : String) : Option Settings := do
  (← Toml.read? document).get? tableName |>.elim (some {}) Settings.ofToml?

/-- What the reader of TOML says of each document that it refuses. -/
abbrev Refusal := String → String

def read (refusal : Refusal) (document : String) : Except Failure Settings :=
  match settings? document with
  | some settings => .ok settings
  | none => .error (.invalidConfiguration (refusal document))

end Configuration

end ScopeCheck
