import ScopeCheck.Text.Place

/-!
# ScopeCheck.Cst.Basic

Concrete syntax trees. A node has a kind, may be named or a mere token, and may stand in a field of
its parent. Error nodes and missing nodes mark what could not be read as a program.
-/

namespace ScopeCheck

namespace Cst

/-- Whether a node stands for text of the program. -/
inductive Soundness where
  /-- The node was read from the text as it stands. -/
  | sound
  /-- The node wraps text that had to be skipped. -/
  | error
  /-- The node was supplied, and nothing in the text stands for it. -/
  | missing
  deriving DecidableEq, Repr

/-- All that a node says of itself. -/
structure Label where
  kind : String
  /-- Whether the node is named; the others are tokens such as brackets and keywords. -/
  named : Bool := true
  /-- The field of the parent in which the node stands. -/
  field : Option String := none
  start : Place := {}
  /-- The byte at which the node ends. -/
  stop : Nat := 0
  soundness : Soundness := .sound
  /-- Whether the node, or a node below it, is an error node or a missing node. -/
  hasError : Bool := false
  deriving Repr

end Cst

inductive Cst where
  /-- A node with its children, from left to right. -/
  | node (label : Cst.Label) (children : List Cst)

namespace Cst

instance : Inhabited Cst := ⟨.node { kind := "" } []⟩

def label : Cst → Label
  | .node label _ => label

def children : Cst → List Cst
  | .node _ children => children

def kind (tree : Cst) : String := tree.label.kind

def named (tree : Cst) : Bool := tree.label.named

/-- Whether a node itself is an error node or a missing node. -/
def isFaulty (tree : Cst) : Bool := tree.label.soundness ≠ .sound

/-- The line of a node, counted from 1. -/
def Label.line (label : Label) : Nat := label.start.row + 1

/-- The line and column of a node, each counted from 1. -/
def Label.position (label : Label) : Nat × Nat := (label.start.row + 1, label.start.column + 1)

def firstInField? (field : String) (nodes : List Cst) : Option Cst :=
  nodes.find? fun node => node.label.field == some field

def childInField? (tree : Cst) (field : String) : Option Cst :=
  firstInField? field tree.children

mutual

def size : Cst → Nat
  | .node _ children => sizeAll children + 1

def sizeAll : List Cst → Nat
  | [] => 0
  | tree :: rest => size tree + sizeAll rest

end

theorem size_pos (tree : Cst) : 0 < tree.size := by
  cases tree; simp [size]

end Cst

end ScopeCheck
