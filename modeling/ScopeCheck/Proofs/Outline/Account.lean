import Mathlib.Data.List.Perm.Basic
import ScopeCheck.Proofs.Outline.NameContext

/-!
# The entries of an outline

An outline does not say at which node a definition of it stands. Given such a node for each definition,
it has one entry for each name, with the definition that owns it, and one for each definition.
-/

namespace ScopeCheck.Outline

open Cst (Path)

/-- A definition, with the names that it owns, at the node to which a path leads. -/
abbrev Sited := ScopeContents × Path

def entriesAt (sited : Sited) : List Entry :=
  .definition sited.1.kind sited.1.line sited.2 ::
    sited.1.occurrences.map fun occurrence => .name occurrence (some sited.2)

/-- The entries of some parts that lie below a definition or below none, when their own definitions
stand at given nodes. -/
def entriesOf (owner : Option Path) (parts : List Outline) (sited : List Sited) : List Entry :=
  (ownedAll parts).map (fun occurrence => .name occurrence owner) ++ sited.flatMap entriesAt

def entries (outline : Outline) (sited : List Sited) : List Entry :=
  outline.owned.map (fun occurrence => .name occurrence none) ++ sited.flatMap entriesAt

/-- Some parts have given entries, in any order, when their definitions stand at suitable nodes. -/
def Accounted (owner : Option Path) (parts : List Outline) (found : List Entry) : Prop :=
  ∃ sited : List Sited, sited.map Prod.fst = definitionsAll parts ∧
    (entriesOf owner parts sited).Perm found

namespace Accounted

variable {owner : Option Path} {parts rest : List Outline} {found more : List Entry}

theorem nil : Accounted owner [] [] := ⟨[], rfl, .nil⟩

theorem perm (accounted : Accounted owner parts found) (same : found.Perm more) :
    Accounted owner parts more := by
  obtain ⟨sited, sites, entries⟩ := accounted
  exact ⟨sited, sites, entries.trans same⟩

theorem append (first : Accounted owner parts found) (later : Accounted owner rest more) :
    Accounted owner (parts ++ rest) (found ++ more) := by
  obtain ⟨sited, sites, entries⟩ := first
  obtain ⟨sitedLater, sitesLater, entriesLater⟩ := later
  refine ⟨sited ++ sitedLater, ?_, ?_⟩
  · rw [List.map_append, sites, sitesLater, definitionsAll_append]
  · refine List.Perm.trans ?_ (entries.append entriesLater)
    simp only [entriesOf, ownedAll_append, List.map_append, List.flatMap_append, List.append_assoc]
    -- The names of the later parts and the definitions of the first ones change places.
    refine List.Perm.append_left _ ?_
    rw [← List.append_assoc, ← List.append_assoc]
    exact List.perm_append_comm.append_right _

theorem binding (name : String) (line : Nat) :
    Accounted owner [.binding name line] [.name ⟨.binding, name, line⟩ owner] :=
  ⟨[], rfl, .refl _⟩

theorem reference (name : String) (line : Nat) :
    Accounted owner [.reference name line] [.name ⟨.reference, name, line⟩ owner] :=
  ⟨[], rfl, .refl _⟩

theorem group (kind : String) (accounted : Accounted owner parts found) :
    Accounted owner [.group kind parts] found := by
  obtain ⟨sited, sites, entries⟩ := accounted
  refine ⟨sited, ?_, ?_⟩
  · rw [sites]
    simp [definitionsAll, definitions]
  · simpa [entriesOf, ownedAll, owned] using entries

theorem groupUnlessEmpty (kind : String) (accounted : Accounted owner parts found) :
    Accounted owner (groupUnlessEmpty kind parts) found := by
  cases parts with
  | nil => exact accounted
  | cons part rest => exact accounted.group kind

/-- A definition owns the names of its parts, and has an entry itself. -/
theorem definition (scope : ScopeContents) {part : Outline} {path : Path}
    (owned : part.owned = []) (definitions : part.definitions = definitionsAll parts ++ [scope])
    (occurrences : scope.occurrences = ownedAll parts)
    (accounted : Accounted (some path) parts found) :
    Accounted owner [part] (.definition scope.kind scope.line path :: found) := by
  obtain ⟨sited, sites, entries⟩ := accounted
  refine ⟨sited ++ [(scope, path)], ?_, ?_⟩
  · rw [List.map_append, sites, definitionsAll, definitionsAll, definitions, List.append_nil]
    rfl
  · refine List.Perm.trans ?_ (entries.cons _)
    -- The names of the parts are those of the new definition, which comes after the inner ones.
    have own : entriesOf owner [part] (sited ++ [(scope, path)]) =
        sited.flatMap entriesAt ++ .definition scope.kind scope.line path ::
          (ownedAll parts).map fun occurrence => Entry.name occurrence (some path) := by
      simp [entriesOf, ownedAll, owned, entriesAt, occurrences]
    rw [own, entriesOf]
    exact List.perm_middle.trans (List.perm_append_comm.cons _)

theorem function {name : String} {line : Nat} {params : List String} {path : Path}
    (accounted : Accounted (some path) parts found) :
    Accounted owner [.function name line params parts] (.definition .function line path :: found) :=
  definition { kind := .function, line, params, occurrences := ownedAll parts }
    rfl rfl rfl accounted

theorem classDef {name : String} {line : Nat} {path : Path}
    (accounted : Accounted (some path) parts found) :
    Accounted owner [.classDef name line parts] (.definition .classDef line path :: found) :=
  definition { kind := .classDef, line, occurrences := ownedAll parts } rfl rfl rfl accounted

/-- What is accounted for one by one is accounted for together. -/
theorem flatMap {α : Type} {items : List α} {give : α → List Outline} {enter : α → List Entry}
    (each : ∀ item ∈ items, Accounted owner (give item) (enter item)) :
    Accounted owner (items.flatMap give) (items.flatMap enter) := by
  induction items with
  | nil => exact nil
  | cons item rest ih =>
    rw [List.flatMap_cons, List.flatMap_cons]
    exact (each item List.mem_cons_self).append
      (ih fun later member => each later (List.mem_cons_of_mem _ member))

end Accounted

end ScopeCheck.Outline
