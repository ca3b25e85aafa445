import ScopeCheck.Settings

/-!
# ScopeCheck.CommandLine.Arguments

The arguments of the program, read from left to right up to the first one that is wrong or asks for
the version. No option and no file may be given twice. Behind two hyphens every argument is a file.
-/

namespace ScopeCheck

inductive ValueOption where
  | format
  | config
  /-- The length of the longest line that is accepted. -/
  | maxLineLength
  | logLevel
  deriving DecidableEq, Repr

inductive CommandOption where
  | valued (option : ValueOption)
  | listRules
  | version
  deriving DecidableEq, Repr

namespace CommandOption

/-- The option with a given name, which stands behind two hyphens. -/
def ofName? (name : String) : Option CommandOption :=
  match name with
  | "format" => some (.valued .format)
  | "config" => some (.valued .config)
  | "max-line-length" => some (.valued .maxLineLength)
  | "log-level" => some (.valued .logLevel)
  | "list-rules" => some .listRules
  | "version" => some .version
  | _ => none

/-- The option with a given letter, which stands behind one hyphen. -/
def ofLetter? (letter : Char) : Option CommandOption :=
  match letter with
  | 'f' => some (.valued .format)
  | 'c' => some (.valued .config)
  | 'V' => some .version
  | _ => none

end CommandOption

/-- What was asked for. -/
structure Arguments where
  file : Option String := none
  format : Option String := none
  config : Option String := none
  /-- The length of the longest line that is accepted, in place of that in the settings file. -/
  maxLineLength : Option Nat := none
  logLevel : Option String := none
  listRules : Bool := false
  deriving DecidableEq, Repr

/-- What a list of arguments amounts to. -/
inductive Invocation where
  | version
  /-- Something else is asked for. -/
  | run (arguments : Arguments)
  deriving DecidableEq, Repr

namespace Arguments

/-- One more than the greatest number that an argument can give. -/
def numberBound : Nat := 18446744073709551616

/-- The number that an argument gives: digits, perhaps with a plus sign before them. -/
def number? (text : String) : Option Nat :=
  let digits :=
    match text.toList with
    | '+' :: digits => digits
    | digits => digits
  let value := digits.foldl (fun value c => value * 10 + (c.toNat - 48)) 0
  if !digits.isEmpty && digits.all Char.isDigit && value < numberBound then some value else none

/-- A value where none was given before. -/
def once {α : Type} (before : Option α) (value : α) : Option (Option α) :=
  if before.isSome then none else some (some value)

/-- A path where none was given before; it must not be empty. -/
def oncePath (before : Option String) (path : String) : Option (Option String) :=
  if path.isEmpty then none else once before path

def give (arguments : Arguments) (option : ValueOption) (value : String) : Option Arguments :=
  match option with
  | .format => return { arguments with format := ← once arguments.format value }
  | .config => return { arguments with config := ← oncePath arguments.config value }
  | .maxLineLength => do
    let value ← number? value
    return { arguments with maxLineLength := ← once arguments.maxLineLength value }
  | .logLevel => return { arguments with logLevel := ← once arguments.logLevel value }

def giveFile (arguments : Arguments) (path : String) : Option Arguments :=
  return { arguments with file := ← oncePath arguments.file path }

def giveFiles (arguments : Arguments) : List String → Option Arguments
  | [] => some arguments
  | path :: rest => do giveFiles (← arguments.giveFile path) rest

/-- What an argument is by its form. -/
inductive Form where
  /-- Two hyphens alone. -/
  | separator
  /-- An option by its name, perhaps with a value behind an equals sign. -/
  | name (name : String) (value : Option String)
  /-- An option by its letter, perhaps with a value directly behind it. -/
  | letter (letter : Char) (value : Option String)
  | plain
  deriving DecidableEq, Repr

/-- The value behind an equals sign at the beginning of a text. -/
def afterEquals? : List Char → Option String
  | '=' :: value => some (String.ofList value)
  | _ => none

def Form.of (argument : String) : Form :=
  match argument.toList with
  | ['-', '-'] => .separator
  | '-' :: '-' :: text =>
    .name (String.ofList (text.takeWhile (· != '='))) (afterEquals? (text.dropWhile (· != '=')))
  | ['-', c] => .letter c none
  | '-' :: c :: value => .letter c (some ((afterEquals? value).getD (String.ofList value)))
  | _ => .plain

/-- Reads the value of an option from the next argument. -/
def giveNext (arguments : Arguments) (option : ValueOption) (next : String) : Option Arguments :=
  match Form.of next with
  | .plain => arguments.give option next
  | _ => none

mutual

def readFrom (arguments : Arguments) : List String → Option Invocation
  | [] => some (.run arguments)
  | argument :: rest =>
    match Form.of argument with
    -- What follows is taken as it stands, also where it begins with a hyphen.
    | .separator => (arguments.giveFiles rest).map .run
    | .plain =>
      match arguments.giveFile argument with
      | some arguments => readFrom arguments rest
      | none => none
    | .name name value =>
      match CommandOption.ofName? name, value with
      | some (.valued option), some value =>
        match arguments.give option value with
        | some arguments => readFrom arguments rest
        | none => none
      -- The value is the next argument.
      | some (.valued option), none => readValue arguments option rest
      | some .listRules, none =>
        if arguments.listRules then none else readFrom { arguments with listRules := true } rest
      -- No argument behind this one is looked at.
      | some .version, none => some .version
      | _, _ => none
    | .letter letter value =>
      match CommandOption.ofLetter? letter, value with
      | some (.valued option), some value =>
        match arguments.give option value with
        | some arguments => readFrom arguments rest
        | none => none
      | some (.valued option), none => readValue arguments option rest
      | some .version, _ => some .version
      | _, _ => none

def readValue (arguments : Arguments) (option : ValueOption) : List String → Option Invocation
  | [] => none
  | next :: rest =>
    match arguments.giveNext option next with
    | some arguments => readFrom arguments rest
    | none => none

end

/-- What a list of arguments amounts to, unless one of them is wrong. -/
def read? (arguments : List String) : Option Invocation := readFrom {} arguments

end Arguments

end ScopeCheck
