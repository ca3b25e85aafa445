import ScopeCheck.Diagnostic
import ScopeCheck.Failure
import ScopeCheck.Outline.Basic
import ScopeCheck.Scope.Basic

/-!
# ScopeCheck.Scope.Tracker

The tracker walks an outline with a stack of open scopes. Each name goes to the innermost open scope
alone. When a scope is closed, the names that were bound there and never read become findings.
-/

namespace ScopeCheck

/-- The deepest level of a tree that is analysed; the root is at level 0. -/
def maxNesting : Nat := 500

/-- The state of a walk over an outline. -/
structure Tracker where
  file : String
  /-- The open scopes, innermost first. -/
  scopes : List Scope
  /-- The findings so far, in order. -/
  findings : List Diagnostic

namespace Tracker

/-- The start of a walk: the scope of the module is open, at line 0. -/
def start (file : String) : Tracker :=
  { file, scopes := [{ kind := .module, line := 0 }], findings := [] }

def openScope (tracker : Tracker) (scope : Scope) : Tracker :=
  { tracker with scopes := scope :: tracker.scopes }

/-- Closes the innermost scope and reports its unused names. -/
def closeScope (tracker : Tracker) : Except Failure Tracker :=
  match tracker.scopes with
  | [] => .error (.internal .scopeUnderflow)
  | scope :: outer =>
    .ok { tracker with
      scopes := outer
      findings := tracker.findings ++
        scope.unused.map (Diagnostic.unusedVariable tracker.file scope.line) }

def updateScope (tracker : Tracker) (change : Scope → Scope) : Except Failure Tracker :=
  match tracker.scopes with
  | [] => .error (.internal .noOpenScope)
  | scope :: outer => .ok { tracker with scopes := change scope :: outer }

mutual

/-- Walks over one part of an outline, which lies at level `depth`. -/
def visit (tracker : Tracker) (depth : Nat) (part : Outline) : Except Failure Tracker :=
  if maxNesting < depth then
    .error (.internal (.treeTooDeep maxNesting))
  else
    match part with
    | .function _ line params children => do
      -- Parameters are bound in the scope of the function itself.
      let tracker ← (tracker.openScope { kind := .function, line }).updateScope
        fun scope => params.foldl Scope.bind scope
      (← visitAll tracker (depth + 1) children).closeScope
    | .classDef _ line children => do
      (← visitAll (tracker.openScope { kind := .classDef, line }) (depth + 1) children).closeScope
    | .binding name _ => tracker.updateScope (·.bind name)
    | .reference name _ => tracker.updateScope (·.markRead name)
    | .module children => visitAll tracker (depth + 1) children
    | .group _ children => visitAll tracker (depth + 1) children

def visitAll (tracker : Tracker) (depth : Nat) : List Outline → Except Failure Tracker
  | [] => .ok tracker
  | part :: rest => do visitAll (← visit tracker depth part) depth rest

end

end Tracker

/-- The findings on the scopes of an outline: a definition's come when it ends, those of the module
come last. -/
def unusedNames (file : String) (outline : Outline) : Except Failure (List Diagnostic) := do
  let tracker ← (Tracker.start file).visit 0 outline
  if tracker.scopes.length ≠ 1 then
    throw (.internal (.unbalancedScopes tracker.scopes.length))
  return (← tracker.closeScope).findings

end ScopeCheck
