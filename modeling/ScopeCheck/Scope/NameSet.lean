/-!
# ScopeCheck.Scope.NameSet

A finite set of names, kept as the strictly ascending list of its members. Names are ordered by
code point, so that two sets with the same members are the same value and are listed in one way.
-/

namespace ScopeCheck

/-- Puts a name at its place in an ascending list, unless it is there. -/
def insertAscending (name : String) : List String → List String
  | [] => [name]
  | first :: rest =>
    if name < first then name :: first :: rest
    else if name = first then first :: rest
    else first :: insertAscending name rest

/-- An insertion adds the name and keeps all others. -/
theorem mem_insertAscending {name other : String} {names : List String} :
    other ∈ insertAscending name names ↔ other = name ∨ other ∈ names := by
  induction names with
  | nil => simp [insertAscending]
  | cons first rest ih =>
    unfold insertAscending
    split
    · simp
    · split
      · next h => subst h; simp
      · simp only [List.mem_cons, ih]
        constructor
        · rintro (h | h | h)
          · exact .inr (.inl h)
          · exact .inl h
          · exact .inr (.inr h)
        · rintro (h | h | h)
          · exact .inr (.inl h)
          · exact .inl h
          · exact .inr (.inr h)

/-- An insertion keeps a list strictly ascending. -/
theorem pairwise_insertAscending {name : String} {names : List String}
    (h : names.Pairwise (· < ·)) : (insertAscending name names).Pairwise (· < ·) := by
  induction names with
  | nil => simp [insertAscending]
  | cons first rest ih =>
    rw [List.pairwise_cons] at h
    unfold insertAscending
    split
    · next hlt =>
      refine List.pairwise_cons.2 ⟨fun other hother => ?_, List.pairwise_cons.2 h⟩
      rcases List.mem_cons.1 hother with rfl | hmem
      · exact hlt
      · exact String.lt_trans hlt (h.1 other hmem)
    · next hlt =>
      split
      · exact List.pairwise_cons.2 h
      · next hne =>
        refine List.pairwise_cons.2 ⟨fun other hother => ?_, ih h.2⟩
        rcases mem_insertAscending.1 hother with rfl | hmem
        · rcases String.le_total other first with hle | hle
          · exact absurd (String.le_antisymm hle (String.not_lt.1 hlt)) hne
          · exact Decidable.byContradiction fun hnot =>
              hne (String.le_antisymm (String.not_lt.1 hnot) hle)
        · exact h.1 other hmem

/-- A finite set of names. -/
structure NameSet where
  /-- The members, in strictly ascending order. -/
  names : List String
  ascending : names.Pairwise (· < ·)

namespace NameSet

def empty : NameSet := ⟨[], .nil⟩

instance : Inhabited NameSet := ⟨empty⟩

instance : Membership String NameSet := ⟨fun set name => name ∈ set.names⟩

@[ext] theorem ext {s t : NameSet} (h : s.names = t.names) : s = t := by
  cases s; cases t; cases h; rfl

def contains (set : NameSet) (name : String) : Bool :=
  set.names.contains name

def insert (set : NameSet) (name : String) : NameSet :=
  ⟨insertAscending name set.names, pairwise_insertAscending set.ascending⟩

/-- The members that `other` does not have, in ascending order. -/
def without (set other : NameSet) : List String :=
  set.names.filter fun name => !other.contains name

theorem mem_iff {set : NameSet} {name : String} : name ∈ set ↔ name ∈ set.names := Iff.rfl

/-- An insertion adds the name and keeps all others. -/
@[simp] theorem mem_insert {set : NameSet} {name other : String} :
    other ∈ set.insert name ↔ other = name ∨ other ∈ set :=
  mem_insertAscending

end NameSet

end ScopeCheck
