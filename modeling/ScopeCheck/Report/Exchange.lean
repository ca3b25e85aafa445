import ScopeCheck.Diagnostic
import ScopeCheck.Json.Basic

/-!
# ScopeCheck.Report.Exchange

Diagnostics as JSON values. A diagnostic is read from an object, whatever other members that has, and
from its four fields in a sequence. A rule is read from its code, and from an object with `null`
under the code.
-/

namespace ScopeCheck

/-- One more than the greatest line that a diagnostic can be read with. -/
def lineBound : Nat := 4294967296

namespace Rule

def toJson (rule : Rule) : Json := .string rule.code

def ofJson? : Json → Option Rule
  | .string code => ofCode? code
  | .object [(code, .null)] => ofCode? code
  | _ => none

/-- A rule is read back from what is written for it. -/
@[simp] theorem ofJson?_toJson (rule : Rule) : ofJson? rule.toJson = some rule :=
  ofCode?_code rule

end Rule

namespace Diagnostic

def toJson (d : Diagnostic) : Json :=
  .object
    [("file", .string d.file), ("line", .natural d.line), ("rule", d.rule.toJson),
      ("message", .string d.message)]

/-- The diagnostic with given fields, if each of them is of its sort. -/
def ofFields? (file line rule message : Json) : Option Diagnostic := do
  let file ← file.string?
  let line ← line.natural?
  let rule ← Rule.ofJson? rule
  let message ← message.string?
  if line < lineBound then return ⟨file, line, rule, message⟩ else none

def ofJson? : Json → Option Diagnostic
  | .array [file, line, rule, message] => ofFields? file line rule message
  | value => do
    ofFields? (← value.member? "file") (← value.member? "line") (← value.member? "rule")
      (← value.member? "message")

def listOfJson? (value : Json) : Option (List Diagnostic) := do
  (← value.items?).mapM ofJson?

end Diagnostic

end ScopeCheck
