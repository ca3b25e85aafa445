import ScopeCheck.Rule

/-!
# ScopeCheck.Diagnostic

The findings of the linter. Lines count from 1; findings on the scope of a whole module stand at
line 0.
-/

namespace ScopeCheck

structure Diagnostic where
  file : String
  /-- The line of the finding, counted from 1; 0 stands for the module as a whole. -/
  line : Nat
  rule : Rule
  message : String
  deriving DecidableEq, Repr

namespace Diagnostic

/-- A name that is bound in the scope opened at `line` and never read there. -/
def unusedVariable (file : String) (line : Nat) (name : String) : Diagnostic :=
  ⟨file, line, .unusedVariable, "Unused variable '" ++ name ++ "'"⟩

/-- A line of more than `limit` characters. -/
def lineTooLong (file : String) (line : Nat) (limit : Nat) : Diagnostic :=
  ⟨file, line, .lineTooLong, "Line exceeds " ++ toString limit ++ " characters"⟩

def trailingWhitespace (file : String) (line : Nat) : Diagnostic :=
  ⟨file, line, .trailingWhitespace, "Trailing whitespace detected"⟩

/-- The form in which a finding is shown to a user. -/
def text (d : Diagnostic) : String :=
  d.file ++ ":" ++ toString d.line ++ " | " ++ d.message

end Diagnostic

end ScopeCheck
