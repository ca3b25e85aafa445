import ScopeCheck.CommandLine.Run
import ScopeCheck.Proofs.FileCheck

/-!
# What the program answers

What is printed on a file is said by cases, told apart by what the two paths lead to, by what the text
of the settings file gives, and by the validation of the text to check.
-/

namespace ScopeCheck.CommandLine

/-- The settings of the settings file, or the defaults where none is named. -/
inductive Chosen (files : Files) (arguments : Arguments) : Settings → Prop
  | defaults : arguments.config = none → Chosen files arguments {}
  | loaded {config : String} {settings : Settings} : arguments.config = some config →
    Loads files config settings → Chosen files arguments settings

/-- The form of report: the list for reading, unless the name of another one is given. -/
inductive Form (arguments : Arguments) : Report.Format → Prop
  | named {name : String} {format : Report.Format} : arguments.format = some name →
    Report.Format.ofName? name = some format → Form arguments format
  | unknown {name : String} : arguments.format = some name →
    Report.Format.ofName? name = none → Form arguments .console
  | unnamed : arguments.format = none → Form arguments .console

/-- Settings with the length of the longest line that the arguments give, if they give one. -/
def withLimit (arguments : Arguments) (settings : Settings) : Settings :=
  { settings with maxLineLength := arguments.maxLineLength.getD settings.maxLineLength }

/-- What is printed on a file. -/
inductive Answer (refusal : Configuration.Refusal) (files : Files) (arguments : Arguments)
    (path : String) : String → Prop
  /-- The settings file fails. The file itself is not looked at. -/
  | noSettings {config : String} {failure : Failure} : arguments.config = some config →
    Unloadable refusal files config failure →
    Answer refusal files arguments path ("An error occurred: " ++ failure.message ++ "\n")
  | unreadable {settings : Settings} {cause : ReadFailure} : Chosen files arguments settings →
    files.Unreadable path cause →
    Answer refusal files arguments path
      ("Error: " ++ (Failure.fileNotAccessible path cause).message ++ "\n")
  | notText {settings : Settings} : Chosen files arguments settings → files.NotText path →
    Answer refusal files arguments path
      ("An error occurred: " ++ (Failure.invalidEncoding path).message ++ "\n")
  | refused {settings : Settings} {text : String} {failure : Failure} :
    Chosen files arguments settings → files.Holds path text →
    (SourceFile.read path text).validate = .error failure →
    Answer refusal files arguments path ("An error occurred: " ++ failure.message ++ "\n")
  | checked {settings : Settings} {text : String} {report : Report} {format : Report.Format} :
    Chosen files arguments settings → files.Holds path text →
    (SourceFile.read path text).validate = .ok () →
    checkFile files path (withLimit arguments settings) = .ok report → Form arguments format →
    Answer refusal files arguments path (report.text format)

/-! ### Settings and form -/

variable {refusal : Configuration.Refusal} {files : Files} {arguments : Arguments}

end ScopeCheck.CommandLine
