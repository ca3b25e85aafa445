import ScopeCheck.CommandLine.Arguments
import ScopeCheck.FileCheck

/-!
# ScopeCheck.CommandLine.Run

What the program prints, and the status with which it ends. The status is 1 only where there is
nothing to do; neither findings nor failures change it.
-/

namespace ScopeCheck

/-- What a run of the program amounts to. -/
structure Outcome where
  status : Nat := 0
  output : String := ""
  deriving DecidableEq, Repr

namespace CommandLine

def versionText : String := "scopelint 0.1.0\n"

/-- What is printed where no file is given. -/
def usageText : String := "Usage: scopelint <file_to_lint.py>\n"

def rulesText : String :=
  "Rules:\n" ++ String.ofList (List.replicate 40 '-') ++ "\n" ++
    String.join (Linter.availableRules.map fun rule =>
      "  " ++ rule.code ++ "  " ++ rule.description ++ "\n")

/-- What is printed for a failure that is not about the file to check. -/
def generalFailureText (failure : Failure) : String :=
  "An error occurred: " ++ failure.message ++ "\n"

/-- What is printed for a failure to check a file. -/
def failureText (failure : Failure) : String :=
  match failure.kind with
  | .fileNotAccessible => "Error: " ++ failure.message ++ "\n"
  | .syntaxError | .internalFailure => generalFailureText failure

def settingsFor (refusal : Configuration.Refusal) (files : Files) (arguments : Arguments) :
    Except Failure Settings := do
  let settings ← arguments.config.elim (.ok {}) (Configuration.load refusal files)
  return { settings with
    maxLineLength := arguments.maxLineLength.getD settings.maxLineLength }

/-- The form of report that is asked for; it is the list for reading unless another one is named. -/
def formatFor (arguments : Arguments) : Report.Format :=
  (arguments.format.bind Report.Format.ofName?).getD .console

def checkText (refusal : Configuration.Refusal) (files : Files) (arguments : Arguments)
    (path : String) : String :=
  match settingsFor refusal files arguments with
  | .error failure => generalFailureText failure
  | .ok settings =>
    match checkFile files path settings with
    | .error failure => failureText failure
    | .ok report => report.text (formatFor arguments)

def perform (refusal : Configuration.Refusal) (files : Files) (arguments : Arguments) : Outcome :=
  if arguments.listRules then { output := rulesText }
  else
    match arguments.file with
    | none => { status := 1, output := usageText }
    | some path => { output := checkText refusal files arguments path }

/-- The outcome for a list of arguments. Wrong arguments end the program with status 2. -/
def run (refusal : Configuration.Refusal) (files : Files) (arguments : List String) : Outcome :=
  match Arguments.read? arguments with
  | none => { status := 2 }
  | some .version => { output := versionText }
  | some (.run arguments) => perform refusal files arguments

end CommandLine

end ScopeCheck
