/-!
# ScopeCheck.Rule

The rules that the linter can report, each with its code and a sentence that describes it.
-/

namespace ScopeCheck

inductive Rule where
  /-- A name is bound in a scope and never read in that scope. -/
  | unusedVariable
  | lineTooLong
  | trailingWhitespace
  deriving DecidableEq, Repr

namespace Rule

/-- All rules, in listing order. -/
def all : List Rule := [.unusedVariable, .lineTooLong, .trailingWhitespace]

/-- The short code that settings and reports use for a rule. -/
def code : Rule → String
  | .unusedVariable => "F841"
  | .lineTooLong => "E501"
  | .trailingWhitespace => "W291"

/-- One sentence on what a rule reports. -/
def description : Rule → String
  | .unusedVariable => "Name bound in a scope but never read in that scope"
  | .lineTooLong => "Line longer than the configured maximum"
  | .trailingWhitespace => "Whitespace before the line ending"

/-- The rule that has the code `code`, if there is one. -/
def ofCode? (code : String) : Option Rule :=
  all.find? fun rule => rule.code == code

/-- A rule is found again under its own code. -/
@[simp] theorem ofCode?_code (rule : Rule) : ofCode? rule.code = some rule := by
  cases rule <;> decide

end Rule

end ScopeCheck
