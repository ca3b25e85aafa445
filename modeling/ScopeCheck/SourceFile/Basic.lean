import ScopeCheck.Cst.Basic

/-!
# ScopeCheck.SourceFile.Basic

A source file is a text under a name, together with the tree that was read from it.
-/

namespace ScopeCheck

/-- A text under a name, with its tree. -/
structure SourceFile where
  name : String
  /-- The text, with its line endings as they were. -/
  text : String
  tree : Cst

namespace SourceFile

/-- Whether the tree holds an error node or a missing node. -/
def hasErrors (file : SourceFile) : Bool := file.tree.label.hasError

/-- The text for which a node stands: its bytes of the file, or nothing where they are no text. -/
def textOf (file : SourceFile) (label : Cst.Label) : String :=
  (String.fromUTF8? (file.text.toUTF8.extract label.start.byte label.stop)).getD ""

end SourceFile

end ScopeCheck
