import ScopeCheck.Python.Grammar
import ScopeCheck.Python.Parse.Run
import ScopeCheck.SourceFile.Basic
import ScopeCheck.Text.Line

/-!
# ScopeCheck.Python.Parser

Reading a program. Every text has a tree. The text is read with its line endings unified, and a
source file keeps it as it was.
-/

namespace ScopeCheck

namespace Python

open Parse

def tables : Tables := Tables.of grammar

/-- The tree of a text whose line endings are unified. -/
def tree (text : List Char) : Cst :=
  let kind := (tables.symbol tables.error).kind
  match (tables.read? text).map (tables.forestOf · none none) with
  | some (.tree tree _) => tree
  | _ => .node { kind, soundness := .error, hasError := true } []

end Python

namespace SourceFile

/-- The source file with a given name and text. -/
def read (name text : String) : SourceFile :=
  { name, text, tree := Python.tree (Text.unifyEndings text.toList) }

end SourceFile

end ScopeCheck
