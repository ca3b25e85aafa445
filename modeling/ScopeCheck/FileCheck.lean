import ScopeCheck.Configuration
import ScopeCheck.Linter
import ScopeCheck.Report.Basic

/-!
# ScopeCheck.FileCheck

Checking a file by its path, and loading settings from one. What a path leads to is given as a
function, so that the same definitions serve a disk and a folder in memory.
-/

namespace ScopeCheck

/-- What can be read under each path. -/
abbrev Files := String → Except ReadFailure ByteArray

/-- The text of a file, which is to be UTF-8. -/
def Files.readText (files : Files) (path : String) : Except Failure String :=
  match files path with
  | .error cause => .error (.ofRead path cause)
  | .ok bytes =>
    match String.fromUTF8? bytes with
    | some text => .ok text
    | none => .error (.ofRead path .notText)

/-- The report on a file. Its findings name the file by its path. -/
def checkFile (files : Files) (path : String) (settings : Settings) : Except Failure Report := do
  let text ← files.readText path
  return { path, findings := ← lint path text settings }

def Configuration.load (refusal : Refusal) (files : Files) (path : String) :
    Except Failure Settings := do
  read refusal (← files.readText path)

end ScopeCheck
