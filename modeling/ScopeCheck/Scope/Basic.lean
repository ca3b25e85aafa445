import ScopeCheck.Scope.NameSet

/-!
# ScopeCheck.Scope.Basic

A scope collects the names that are bound and the names that are read directly inside one
definition, or in a module outside of all definitions.
-/

namespace ScopeCheck

inductive ScopeKind where
  | module
  | function
  | classDef
  deriving DecidableEq, Repr

/-- The names bound and read directly inside one definition. -/
structure Scope where
  kind : ScopeKind
  line : Nat
  bound : NameSet := .empty
  read : NameSet := .empty

namespace Scope

def bind (scope : Scope) (name : String) : Scope :=
  { scope with bound := scope.bound.insert name }

def markRead (scope : Scope) (name : String) : Scope :=
  { scope with read := scope.read.insert name }

/-- The names that are bound and never read, in ascending order. -/
def unused (scope : Scope) : List String :=
  scope.bound.without scope.read

end Scope

end ScopeCheck
