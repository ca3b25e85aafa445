import ScopeCheck.Json.Printer
import ScopeCheck.Report.Exchange

/-!
# ScopeCheck.Report.Basic

What a user is shown about a file: a list for reading, or a JSON document for other programs.
-/

namespace ScopeCheck

structure Report where
  path : String
  /-- The findings, in the order in which they are shown. -/
  findings : List Diagnostic

namespace Report

inductive Format where
  | json
  | console
  deriving DecidableEq, Repr

/-- The form with a given name, in capital letters or small ones. No letter outside of ASCII has one
of the letters of these names as its small form. -/
def Format.ofName? (name : String) : Option Format :=
  let name := name.map Char.toLower
  if name == "json" then some .json
  else if name == "console" || name == "text" then some .console
  else none

def isClean (report : Report) : Bool := report.findings.isEmpty

def count (report : Report) (rule : Rule) : Nat :=
  report.findings.countP fun finding => finding.rule == rule

def toJson (report : Report) : Json :=
  .object
    [("file", .string report.path),
      ("diagnostics", .array (report.findings.map Diagnostic.toJson)),
      ("summary", .object [("total", .natural report.findings.length)])]

def consoleText (report : Report) : String :=
  if report.isClean then "No issues found! Great job!\n"
  else
    "Linter found the following issues:\n" ++
      String.join (report.findings.map fun finding => finding.text ++ "\n")

def text (report : Report) : Format → String
  | .json => report.toJson.pretty ++ "\n"
  | .console => report.consoleText

end Report

end ScopeCheck
