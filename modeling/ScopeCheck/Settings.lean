import ScopeCheck.Rule

/-!
# ScopeCheck.Settings

What a user can choose: the longest line that is accepted, and which rules are in force.
-/

namespace ScopeCheck

/-- The length of the longest line that is accepted when nothing else is chosen. -/
def defaultMaxLineLength : Nat := 80

/-- The choices of a user. -/
structure Settings where
  /-- Lines of more characters than this are reported. -/
  maxLineLength : Nat := defaultMaxLineLength
  /-- Rule codes, or beginnings of them, that are in force; an empty list stands for all. -/
  select : List String := []
  /-- Whole rule codes that are out of force, whatever `select` says. -/
  ignore : List String := []
  deriving DecidableEq, Repr, Inhabited

namespace Settings

/-- A code is selected by each of its beginnings, the empty one included. -/
def selects (selector code : String) : Bool :=
  selector.toList.isPrefixOf code.toList

/-- A rule is in force when its code is not ignored and some selector is a beginning of it, or no
selector is given. -/
def enables (settings : Settings) (rule : Rule) : Bool :=
  !settings.ignore.contains rule.code &&
    (settings.select.isEmpty || settings.select.any (selects · rule.code))

end Settings

end ScopeCheck
