import Mathlib.Data.Finset.Sort
import Mathlib.Data.String.Basic
import ScopeCheck.Diagnostic
import ScopeCheck.Outline.Basic
import ScopeCheck.Scope.Basic

/-!
# Which scope owns a name

The scopes of an outline with what they own, by recursion on the outline alone: no stack is kept, and no
scope is opened or closed.
-/

namespace ScopeCheck

/-- What an occurrence does to its name. -/
inductive Usage where
  | binding
  | reference
  deriving DecidableEq, Repr

/-- A name where it is bound or read. -/
structure Occurrence where
  usage : Usage
  name : String
  line : Nat
  deriving DecidableEq, Repr

/-- A scope with its parameters and the occurrences that it owns. -/
structure ScopeContents where
  kind : ScopeKind
  line : Nat
  params : List String := []
  occurrences : List Occurrence
  deriving DecidableEq, Repr

namespace ScopeContents

def namesUsed (usage : Usage) (occurrences : List Occurrence) : List String :=
  (occurrences.filter fun occurrence => occurrence.usage = usage).map Occurrence.name

/-- The names that are bound, as a parameter or by a binding, and never read: each once, in
ascending order of code points. -/
def unused (contents : ScopeContents) : List String :=
  ((contents.params ++ namesUsed .binding contents.occurrences).toFinset \
    (namesUsed .reference contents.occurrences).toFinset).sort

def findings (file : String) (contents : ScopeContents) : List Diagnostic :=
  contents.unused.map (Diagnostic.unusedVariable file contents.line)

end ScopeContents

namespace Outline

mutual

/-- The occurrences in a part that lie below no definition of it, from left to right. -/
def owned : Outline → List Occurrence
  | .binding name line => [⟨.binding, name, line⟩]
  | .reference name line => [⟨.reference, name, line⟩]
  | .module children | .group _ children => ownedAll children
  | .function .. | .classDef .. => []

def ownedAll : List Outline → List Occurrence
  | [] => []
  | part :: rest => owned part ++ ownedAll rest

end

mutual

/-- The definitions in a part, inner ones before the one that holds them and siblings from left to
right, each with what it owns. -/
def definitions : Outline → List ScopeContents
  | .function _ line params children =>
    definitionsAll children ++
      [{ kind := .function, line, params, occurrences := ownedAll children }]
  | .classDef _ line children =>
    definitionsAll children ++ [{ kind := .classDef, line, occurrences := ownedAll children }]
  | .module children | .group _ children => definitionsAll children
  | .binding .. | .reference .. => []

def definitionsAll : List Outline → List ScopeContents
  | [] => []
  | part :: rest => definitions part ++ definitionsAll rest

end

/-- What the module owns: all that lies below no definition. It stands at line 0. -/
def moduleScope (outline : Outline) : ScopeContents :=
  { kind := .module, line := 0, occurrences := outline.owned }

/-- All scopes of an outline: its definitions, and the module last of all. -/
def scopes (outline : Outline) : List ScopeContents :=
  outline.definitions ++ [outline.moduleScope]

mutual

/-- The level of the deepest part, where the outline itself is at level 0. -/
def height : Outline → Nat
  | .module children | .function _ _ _ children | .classDef _ _ children | .group _ children =>
    levels children
  | .binding .. | .reference .. => 0

def levels : List Outline → Nat
  | [] => 0
  | part :: rest => max (height part + 1) (levels rest)

end

theorem ownedAll_append (left right : List Outline) :
    ownedAll (left ++ right) = ownedAll left ++ ownedAll right := by
  induction left with
  | nil => rfl
  | cons part rest ih => simp only [List.cons_append, ownedAll, ih, List.append_assoc]

theorem definitionsAll_append (left right : List Outline) :
    definitionsAll (left ++ right) = definitionsAll left ++ definitionsAll right := by
  induction left with
  | nil => rfl
  | cons part rest ih => simp only [List.cons_append, definitionsAll, ih, List.append_assoc]

theorem levels_le_iff {parts : List Outline} {bound : Nat} :
    levels parts ≤ bound ↔ ∀ part ∈ parts, part.height + 1 ≤ bound := by
  induction parts with
  | nil => simp [levels]
  | cons part rest ih => simp only [levels, Nat.max_le, ih, List.forall_mem_cons]

end Outline

end ScopeCheck
