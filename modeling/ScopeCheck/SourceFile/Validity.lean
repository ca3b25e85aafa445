import ScopeCheck.Cst.Walk
import ScopeCheck.Failure
import ScopeCheck.Scope.Tracker
import ScopeCheck.SourceFile.Basic

/-!
# ScopeCheck.SourceFile.Validity

A source file can be analysed when its tree has no errors, is not nested too deeply, and has none of
the constructs that the tree can express and the language refuses. The three faults are looked for
in this order, each at its first place in document order.
-/

namespace ScopeCheck

/-- A place in a text, as line and column counted from 1. -/
abbrev Position := Nat × Nat

/-- An error node or a missing node. -/
structure TreeFault where
  position : Position
  kind : String
  deriving DecidableEq, Repr

/-- The constructs that hold several targets of a deletion. -/
def deletionContainers : List String :=
  ["expression_list", "tuple", "list", "parenthesized_expression"]

/-- The constructs that can be deleted; a comment may stand between them. -/
def deletable : List String :=
  ["identifier", "attribute", "subscript", "comment"]

/-- The statements that the language no longer has. -/
def refusedStatements : List String :=
  ["print_statement", "exec_statement"]

namespace Cst

mutual

/-- The first part of a target of a deletion that cannot be deleted. -/
def undeletable? : Cst → Option Cst
  | .node label children =>
    if deletable.contains label.kind then none
    else if deletionContainers.contains label.kind then undeletableAmong? children
    else some (.node label children)

/-- The first part that cannot be deleted of the named ones among some nodes. -/
def undeletableAmong? : List Cst → Option Cst
  | [] => none
  | tree :: rest =>
    if tree.named then
      match undeletable? tree with
      | some found => some found
      | none => undeletableAmong? rest
    else undeletableAmong? rest

end

end Cst

namespace SourceFile

/-- The error nodes and missing nodes that lie below no other one, in document order. -/
def faults (file : SourceFile) : List TreeFault :=
  if file.hasErrors then
    Cst.walk
      (fun found node _ =>
        if node.isFaulty then (found ++ [⟨node.label.position, node.kind⟩], false)
        else (found, node.label.hasError))
      [] file.tree
  else []

/-- The first node that lies too deep. -/
def tooDeep? (file : SourceFile) : Option Position :=
  Cst.walk
    (fun found node depth =>
      if found.isSome then (found, false)
      else if maxNesting < depth then (some node.label.position, false)
      else (none, true))
    none file.tree

/-- The first construct that the language refuses: a refused statement stands for itself, a deletion
for the first part that cannot be deleted. -/
def refused? (file : SourceFile) : Option Position :=
  Cst.walk
    (fun found node _ =>
      if found.isSome then (found, false)
      else if refusedStatements.contains node.kind then (some node.label.position, false)
      else if node.kind == "delete_statement" then
        match Cst.undeletableAmong? node.children with
        | some target => (some target.label.position, false)
        | none => (none, true)
      else (none, true))
    none file.tree

/-- Succeeds on a file that can be analysed, and otherwise names its first fault. -/
def validate (file : SourceFile) : Except Failure Unit :=
  if file.hasErrors then
    -- A fault without a node of its own is placed at the beginning of the text.
    let (line, column) := (file.faults.head?.map TreeFault.position).getD (1, 1)
    .error (.badSource .invalid file.name line column)
  else
    match file.tooDeep? with
    | some (line, column) => .error (.badSource .tooDeep file.name line column)
    | none =>
      match file.refused? with
      | some (line, column) => .error (.badSource .invalid file.name line column)
      | none => .ok ()

end SourceFile

end ScopeCheck
