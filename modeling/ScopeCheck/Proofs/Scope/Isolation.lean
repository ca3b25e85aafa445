import ScopeCheck.Proofs.Scope.Tracking

/-!
# Scopes do not see into each other

A definition can be taken out of an outline, and another one put into the hole. It leaves no occurrence
to the scopes around it, so that what these own is determined by what surrounds the hole.
-/

namespace ScopeCheck

/-- A part of an outline without the parts directly below it. -/
inductive Shell where
  | module
  | function (name : String) (line : Nat) (params : List String)
  | classDef (name : String) (line : Nat)
  | group (kind : String)

namespace Shell

def around : Shell → List Outline → Outline
  | .module, parts => .module parts
  | .function name line params, parts => .function name line params parts
  | .classDef name line, parts => .classDef name line parts
  | .group kind, parts => .group kind parts

/-- What is left to the scope around a part of the occurrences that the parts below it leave. -/
def leaves : Shell → List Occurrence → List Occurrence
  | .module, occurrences | .group _, occurrences => occurrences
  | .function .., _ | .classDef .., _ => []

/-- The scope that ends with a part, if the part is a definition. -/
def ends : Shell → List Occurrence → List ScopeContents
  | .module, _ | .group _, _ => []
  | .function _ line params, occurrences => [{ kind := .function, line, params, occurrences }]
  | .classDef _ line, occurrences => [{ kind := .classDef, line, occurrences }]

theorem owned_around (shell : Shell) (parts : List Outline) :
    (shell.around parts).owned = shell.leaves (Outline.ownedAll parts) := by
  cases shell <;> simp only [around, leaves, Outline.owned]

theorem definitions_around (shell : Shell) (parts : List Outline) :
    (shell.around parts).definitions =
      Outline.definitionsAll parts ++ shell.ends (Outline.ownedAll parts) := by
  cases shell <;> simp only [around, ends, Outline.definitions, List.append_nil]

theorem height_around (shell : Shell) (parts : List Outline) :
    (shell.around parts).height = Outline.levels parts := by
  cases shell <;> simp only [around, Outline.height]

end Shell

/-- Whether a part opens a scope. -/
def Outline.isDefinition : Outline → Bool
  | .function .. | .classDef .. => true
  | .module _ | .binding .. | .reference .. | .group .. => false

theorem Outline.owned_of_isDefinition {part : Outline} (definition : part.isDefinition = true) :
    part.owned = [] := by
  cases part with
  | function | classDef => simp only [owned]
  | module | binding | reference | group => cases definition

/-- An outline with a hole: the hole is all of it, or lies inside of a part, between others. -/
inductive Surrounding where
  | hole
  | inside (shell : Shell) (before : List Outline) (inner : Surrounding) (after : List Outline)

namespace Surrounding

def fill : Surrounding → Outline → Outline
  | .hole, part => part
  | .inside shell before inner after, part => shell.around (before ++ inner.fill part :: after)

/-- The occurrences around the hole that lie below no definition. -/
def owned : Surrounding → List Occurrence
  | .hole => []
  | .inside shell before inner after =>
    shell.leaves (Outline.ownedAll before ++ inner.owned ++ Outline.ownedAll after)

/-- The definitions that end before the hole. -/
def earlier : Surrounding → List ScopeContents
  | .hole => []
  | .inside _ before inner _ => Outline.definitionsAll before ++ inner.earlier

/-- The definitions that end behind the hole, among them those that hold it. -/
def later : Surrounding → List ScopeContents
  | .hole => []
  | .inside shell before inner after =>
    inner.later ++ Outline.definitionsAll after ++
      shell.ends (Outline.ownedAll before ++ inner.owned ++ Outline.ownedAll after)

/-- The module around the hole. It stands at line 0. -/
def moduleScope (surrounding : Surrounding) : ScopeContents :=
  { kind := .module, line := 0, occurrences := surrounding.owned }

/-- The findings that come before those on what fills the hole. -/
def findingsBefore (surrounding : Surrounding) (file : String) : List Diagnostic :=
  surrounding.earlier.flatMap fun scope => scope.findings file

/-- The findings that come after those on what fills the hole. -/
def findingsAfter (surrounding : Surrounding) (file : String) : List Diagnostic :=
  (surrounding.later ++ [surrounding.moduleScope]).flatMap fun scope => scope.findings file

theorem height_le_fill (surrounding : Surrounding) (part : Outline) :
    part.height ≤ (surrounding.fill part).height := by
  induction surrounding with
  | hole => exact Nat.le_refl _
  | inside shell before inner after ih =>
    -- The part in the hole lies one level below the one that holds it.
    have below : (inner.fill part).height + 1 ≤
        Outline.levels (before ++ inner.fill part :: after) := by
      apply Outline.levels_le_iff.mp (Nat.le_refl _)
      simp
    rw [fill, Shell.height_around]
    omega

/-- A definition adds nothing to what its surrounding owns. -/
theorem owned_fill (surrounding : Surrounding) {part : Outline}
    (definition : part.isDefinition = true) : (surrounding.fill part).owned = surrounding.owned := by
  induction surrounding with
  | hole => exact Outline.owned_of_isDefinition definition
  | inside shell before inner after ih =>
    -- What is in the hole leaves nothing, whatever the levels around it are.
    rw [fill, Shell.owned_around, owned]
    simp only [Outline.ownedAll_append, Outline.ownedAll, ih, List.append_assoc]

/-- The scopes of a definition stand together, between the definitions of its surrounding. -/
theorem definitions_fill (surrounding : Surrounding) {part : Outline}
    (definition : part.isDefinition = true) :
    (surrounding.fill part).definitions =
      surrounding.earlier ++ part.definitions ++ surrounding.later := by
  induction surrounding with
  | hole => simp [fill, earlier, later]
  | inside shell before inner after ih =>
    -- A definition around the hole ends with what it owned before, so `owned_fill` is needed here.
    have owned : Outline.ownedAll (before ++ inner.fill part :: after) =
        Outline.ownedAll before ++ inner.owned ++ Outline.ownedAll after := by
      simp only [Outline.ownedAll_append, Outline.ownedAll, inner.owned_fill definition,
        List.append_assoc]
    rw [fill, Shell.definitions_around, owned, earlier, later]
    simp only [Outline.definitionsAll_append, Outline.definitionsAll, ih, List.append_assoc]

theorem scopes_fill (surrounding : Surrounding) {part : Outline}
    (definition : part.isDefinition = true) :
    (surrounding.fill part).scopes =
      surrounding.earlier ++ part.definitions ++ (surrounding.later ++ [surrounding.moduleScope]) := by
  rw [Outline.scopes, surrounding.definitions_fill definition, Outline.moduleScope,
    surrounding.owned_fill definition, List.append_assoc]
  rfl

end Surrounding

theorem unusedNames_eq_ok {outline : Outline} (shallow : outline.height ≤ maxNesting)
    (file : String) :
    unusedNames file outline = .ok (outline.scopes.flatMap fun scope => scope.findings file) :=
  (unusedNames_eq file outline).trans (if_pos shallow)

/-- Of a definition alone, the module owns nothing. -/
theorem findings_scopes_of_isDefinition {part : Outline} (definition : part.isDefinition = true)
    (file : String) :
    (part.scopes.flatMap fun scope => scope.findings file) =
      part.definitions.flatMap fun scope => scope.findings file := by
  -- The module around it has no occurrences, and hence no names at all.
  have nothing : part.moduleScope.findings file = [] := by
    rw [Outline.moduleScope, Outline.owned_of_isDefinition definition]
    simp [ScopeContents.findings, ScopeContents.unused, ScopeContents.namesUsed]
  rw [Outline.scopes, List.flatMap_append, List.flatMap_singleton, nothing, List.append_nil]

/-- Where a definition fills the hole of an outline, the findings on it alone stand between findings
that its surrounding determines. All scopes outside of the definition are those of the surrounding, in
their order: no definition that is put there in its place changes one of them. -/
theorem definitions_isolated (surrounding : Surrounding) (file : String) (part : Outline)
    (definition : part.isDefinition = true) (shallow : (surrounding.fill part).height ≤ 500) :
    (∃ own, unusedNames file part = .ok own ∧
      unusedNames file (surrounding.fill part) =
        .ok (surrounding.findingsBefore file ++ own ++ surrounding.findingsAfter file)) ∧
    (surrounding.fill part).scopes =
      surrounding.earlier ++ part.definitions ++ (surrounding.later ++ [surrounding.moduleScope]) := by
  have shallowPart : part.height ≤ 500 := Nat.le_trans (surrounding.height_le_fill part) shallow
  have scopes := surrounding.scopes_fill definition
  refine ⟨⟨part.definitions.flatMap fun scope => scope.findings file, ?_, ?_⟩, scopes⟩
  · rw [unusedNames_eq_ok shallowPart, findings_scopes_of_isDefinition definition]
  · -- In the hole its scopes are the same, between those of the surrounding.
    rw [unusedNames_eq_ok shallow, scopes, List.flatMap_append, List.flatMap_append]
    rfl

/-- A function in a class, with a hole between a name that is read and one that is bound. -/
def methodBody : Surrounding :=
  .inside .module [.binding "x" 1]
    (.inside (.classDef "K" 2) [.function "e" 2 ["b"] []]
      (.inside (.function "f" 3 ["a"]) [.reference "b" 4] .hole [.binding "c" 9])
      [.reference "x" 10])
    [.function "g" 11 ["y"] []]

/-- A definition that reads and binds the names of the scopes around it. -/
def methodHelper : Outline :=
  .function "h" 5 ["b"] [.reference "c" 6, .binding "x" 7, .reference "a" 8]

theorem methodBody_isolates :
    ((∃ own, unusedNames "m.py" methodHelper = .ok own ∧
      unusedNames "m.py" (methodBody.fill methodHelper) =
        .ok (methodBody.findingsBefore "m.py" ++ own ++ methodBody.findingsAfter "m.py")) ∧
    (methodBody.fill methodHelper).scopes =
      methodBody.earlier ++ methodHelper.definitions ++
        (methodBody.later ++ [methodBody.moduleScope])) ∧
    unusedNames "m.py" methodHelper =
      .ok [.unusedVariable "m.py" 5 "b", .unusedVariable "m.py" 5 "x"] ∧
    unusedNames "m.py" (methodBody.fill methodHelper) =
      .ok [.unusedVariable "m.py" 2 "b", .unusedVariable "m.py" 5 "b", .unusedVariable "m.py" 5 "x",
        .unusedVariable "m.py" 3 "a", .unusedVariable "m.py" 3 "c", .unusedVariable "m.py" 11 "y",
        .unusedVariable "m.py" 0 "x"] :=
  ⟨definitions_isolated methodBody "m.py" methodHelper rfl (by decide), by rfl, by cbv⟩

end ScopeCheck
