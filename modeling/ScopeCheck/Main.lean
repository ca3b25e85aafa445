import ScopeCheck.CommandLine.Run

/-!
# ScopeCheck.Main

The program. It reads the files that its arguments name, and prints what the pure part of it says
about them.
-/

namespace ScopeCheck

/-- The cause that a refusal of the disk stands for. -/
def ReadFailure.ofDisk : IO.Error → ReadFailure
  | .noFileOrDirectory .. => .notFound
  | .permissionDenied .. => .denied
  | _ => .unreadable

/-- The contents of a file on the disk. -/
def readFromDisk (path : String) : IO (Except ReadFailure ByteArray) := do
  try return .ok (← IO.FS.readBinFile path)
  catch failure => return .error (.ofDisk failure)

def Invocation.paths : Invocation → List String
  | .version => []
  | .run arguments => arguments.config.toList ++ arguments.file.toList

/-- What can be read under some paths on the disk. -/
def filesOnDisk (paths : List String) : IO Files := do
  let found ← paths.mapM fun path => return (path, ← readFromDisk path)
  return fun path => (found.lookup path).getD (.error .notFound)

/-- What is said of a settings file that is refused. -/
def refusalText : Configuration.Refusal := fun _ => "no TOML, or a value of the wrong type\n"

end ScopeCheck

open ScopeCheck in
def main (arguments : List String) : IO UInt32 := do
  let paths := ((Arguments.read? arguments).map Invocation.paths).getD []
  let outcome := CommandLine.run refusalText (← filesOnDisk paths) arguments
  IO.print outcome.output
  if outcome.status = 2 then IO.eprintln "wrong arguments"
  return outcome.status.toUInt32
