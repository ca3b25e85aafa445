/-!
# ScopeCheck.Text.Line

A text is cut into physical lines at each line feed, carriage return, and carriage return that is
followed by a line feed. An ending belongs to the line before it.
-/

namespace ScopeCheck.Text

/-- What can end a line. -/
inductive Ending where
  | lf
  | crlf
  /-- A carriage return that no line feed follows. -/
  | cr
  deriving DecidableEq, Repr

def Ending.chars : Ending → List Char
  | .lf => ['\n']
  | .crlf => ['\r', '\n']
  | .cr => ['\r']

/-- Cuts a text at its line endings. `line` holds the current line so far, last character first; it
is a line of its own at the end of the text only if it is not empty. -/
def linesFrom (line : List Char) : List Char → List (List Char)
  | [] => if line.isEmpty then [] else [line.reverse]
  | '\r' :: '\n' :: rest => line.reverse :: linesFrom [] rest
  | '\r' :: rest => line.reverse :: linesFrom [] rest
  | '\n' :: rest => line.reverse :: linesFrom [] rest
  | c :: rest => linesFrom (c :: line) rest

/-- The physical lines of a text, without their endings. -/
def physicalLines (text : String) : List String :=
  (linesFrom [] text.toList).map String.ofList

/-- Replaces the lone carriage returns of a text. `done` holds the text so far, last character
first. -/
def unifyFrom (done : List Char) : List Char → List Char
  | [] => done.reverse
  | '\r' :: '\n' :: rest => unifyFrom ('\n' :: '\r' :: done) rest
  | '\r' :: rest => unifyFrom ('\n' :: done) rest
  | c :: rest => unifyFrom (c :: done) rest

/-- The text with each carriage return that no line feed follows turned into a line feed. -/
def unifyEndings (text : List Char) : List Char :=
  unifyFrom [] text

end ScopeCheck.Text
