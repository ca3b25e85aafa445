import ScopeCheck.LineScan
import ScopeCheck.Outline.Reading
import ScopeCheck.Python.Parser
import ScopeCheck.Settings
import ScopeCheck.SourceFile.Validity

/-!
# ScopeCheck.Linter

The linter lets each checker look at a source text. Findings of rules that are not in force are left
out, and the others are put in the order of lines.
-/

namespace ScopeCheck

/-- One analysis of a source file. -/
structure Checker where
  name : String
  rules : List Rule
  /-- The findings on a file, of all these rules. -/
  check : SourceFile → Settings → Except Failure (List Diagnostic)

namespace Checker

/-- The analysis that finds names that are bound and never read in their scope. -/
def unusedVariable : Checker where
  name := "unused-variable"
  rules := [.unusedVariable]
  check file _ := do unusedNames file.name (← file.outline)

/-- The analysis that looks at the lines of the text. -/
def lineFormat : Checker where
  name := "line-format"
  rules := [.lineTooLong, .trailingWhitespace]
  check file settings := .ok (scanLines file.name file.text settings.maxLineLength)

/-- All analyses, in the order in which they are made. -/
def all : List Checker := [unusedVariable, lineFormat]

/-- The findings of an analysis on a file whose rules are in force. An analysis without such rules
is not made. -/
def enabledFindings (settings : Settings) (file : SourceFile) (checker : Checker) :
    Except Failure (List Diagnostic) :=
  if checker.rules.any settings.enables then do
    return (← checker.check file settings).filter fun finding => settings.enables finding.rule
  else .ok []

end Checker

/-- Puts findings in the order of their lines; those on one line keep their order. -/
def sortByLine (findings : List Diagnostic) : List Diagnostic :=
  findings.mergeSort fun a b => a.line ≤ b.line

/-- The findings on a file. A file that cannot be analysed fails before any analysis is made. -/
def SourceFile.findings (file : SourceFile) (settings : Settings) :
    Except Failure (List Diagnostic) := do
  file.validate
  let found ← Checker.all.mapM (Checker.enabledFindings settings file)
  return sortByLine found.flatten

def lint (name text : String) (settings : Settings) : Except Failure (List Diagnostic) :=
  (SourceFile.read name text).findings settings

/-- A file name and settings that are kept for several texts. -/
structure Linter where
  file : String
  settings : Settings := {}

namespace Linter

def run (linter : Linter) (text : String) : Except Failure (List Diagnostic) :=
  lint linter.file text linter.settings

/-- The rules that a linter can report, checker by checker. -/
def availableRules : List Rule := Checker.all.flatMap Checker.rules

end Linter

end ScopeCheck
