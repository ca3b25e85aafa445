import ScopeCheck.Diagnostic
import ScopeCheck.Text.Blank
import ScopeCheck.Text.Line

/-!
# ScopeCheck.LineScan

The checks that look at the text of a line alone: its length in characters, and white space at its
end. A line can break both rules; its length is reported first.
-/

namespace ScopeCheck

def lineFindings (file : String) (limit : Nat) (line : Nat) (content : String) :
    List Diagnostic :=
  (if limit < content.length then [Diagnostic.lineTooLong file line limit] else []) ++
    (if Text.endsBlank content then [Diagnostic.trailingWhitespace file line] else [])

/-- The findings on a text, line by line; the first line has number 1. -/
def scanLines (file : String) (text : String) (limit : Nat) : List Diagnostic :=
  ((Text.physicalLines text).zipIdx 1).flatMap fun (content, line) =>
    lineFindings file limit line content

end ScopeCheck
