/-!
# ScopeCheck.Outline.Basic

The outline of a program: what is left of its tree when only the definitions, the names that are
bound and the names that are read are kept. Everything between them is a group.
-/

namespace ScopeCheck

inductive Outline where
  | module (children : List Outline)
  /-- A function definition; it opens a scope in which its parameters are bound. -/
  | function (name : String) (line : Nat) (params : List String) (children : List Outline)
  /-- A class definition; it opens a scope. -/
  | classDef (name : String) (line : Nat) (children : List Outline)
  | binding (name : String) (line : Nat)
  | reference (name : String) (line : Nat)
  /-- Any other construct, with its kind. -/
  | group (kind : String) (children : List Outline)
  deriving Inhabited

namespace Outline

def children : Outline → List Outline
  | .module children | .function _ _ _ children | .classDef _ _ children | .group _ children =>
    children
  | .binding .. | .reference .. => []

/-- The group of some parts, or nothing where there are none. -/
def groupUnlessEmpty (kind : String) (children : List Outline) : List Outline :=
  if children.isEmpty then [] else [.group kind children]

end Outline

end ScopeCheck
