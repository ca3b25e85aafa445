/-!
# ScopeCheck.Failure

The ways in which a run of the linter can fail. A user sees a failure as one of three kinds and as a
message.
-/

namespace ScopeCheck

/-- Why the contents of a file could not be had. -/
inductive ReadFailure where
  | notFound
  | denied
  /-- The file was read and does not hold UTF-8 text. -/
  | notText
  /-- Any other refusal, such as a path that names a directory. -/
  | unreadable
  deriving DecidableEq, Repr

/-- What is wrong with a source text. -/
inductive SyntaxFault where
  | invalid
  /-- The program is nested too deeply to be analysed. -/
  | tooDeep
  | other (words : String)
  deriving DecidableEq, Repr

/-- Which promise between the parts of the linter was broken. -/
inductive InternalFault where
  /-- A scope was to be closed and none was open. -/
  | scopeUnderflow
  /-- A name was to be recorded and no scope was open. -/
  | noOpenScope
  /-- After a whole tree, `count` scopes were open in place of one. -/
  | unbalancedScopes (count : Nat)
  /-- A tree reached below the deepest level that is tracked. -/
  | treeTooDeep (limit : Nat)
  | other (words : String)
  deriving DecidableEq, Repr

/-- The class of a failure, as a user sees it. -/
inductive FailureKind where
  /-- The file is missing or cannot be read. -/
  | fileNotAccessible
  /-- The source is not a program that can be analysed. -/
  | syntaxError
  | internalFailure
  deriving DecidableEq, Repr

inductive Failure where
  /-- The file at `path` could not be opened or read. -/
  | fileNotAccessible (path : String) (cause : ReadFailure)
  /-- The file at `path` is not UTF-8 text. -/
  | invalidEncoding (path : String)
  /-- The source of `file` has a fault at a place counted from 1. -/
  | badSource (fault : SyntaxFault) (file : String) (line column : Nat)
  /-- The parser could not be made ready. -/
  | parserUnavailable (words : String)
  /-- The settings file is not TOML, or has values of the wrong type, as the reader of TOML says in
  its own words. -/
  | invalidConfiguration (words : String)
  /-- A promise between the parts of the linter was broken. -/
  | internal (fault : InternalFault)
  deriving DecidableEq, Repr

namespace SyntaxFault

def words : SyntaxFault → String
  | .invalid => "invalid syntax"
  | .tooDeep => "too deeply nested"
  | .other words => words

end SyntaxFault

namespace InternalFault

def words : InternalFault → String
  | .scopeUnderflow => "scope stack underflow"
  | .noOpenScope => "no open scope"
  | .unbalancedScopes count =>
    "scope stack unbalanced after traversal: " ++ toString count ++ " scopes open"
  | .treeTooDeep limit => "syntax tree nested deeper than " ++ toString limit ++ " levels"
  | .other words => words

end InternalFault

namespace Failure

/-- The failure for a file at `path` that could not be read: text that is not UTF-8 is told apart
from all other causes. -/
def ofRead (path : String) : ReadFailure → Failure
  | .notText => .invalidEncoding path
  | cause => .fileNotAccessible path cause

def kind : Failure → FailureKind
  | .fileNotAccessible .. => .fileNotAccessible
  | .badSource .. => .syntaxError
  | .invalidEncoding _ | .parserUnavailable _ | .invalidConfiguration _ | .internal _ =>
    .internalFailure

def message : Failure → String
  | .fileNotAccessible path _ => "File not found at '" ++ path ++ "'"
  | .invalidEncoding path => "'" ++ path ++ "' is not valid UTF-8 text"
  | .badSource fault file line _ =>
    fault.words ++ " (" ++ file ++ ", line " ++ toString line ++ ")"
  | .parserUnavailable words => "Parser error: " ++ words
  | .invalidConfiguration words => "Invalid configuration: " ++ words
  | .internal fault => fault.words

end Failure

end ScopeCheck
