import Mathlib.Logic.Relation
import ScopeCheck.Proofs.Scope.Isolation
import ScopeCheck.Proofs.Scope.Refusal

/-!
# What the findings do not depend on

Two lists of parts that own the same names and define scopes with the same verdicts, in the same order,
can take each other's place. This is a congruence: it passes from some parts to a list that holds them,
to the part above it and so to the whole outline.
-/

namespace ScopeCheck

/-- No part of an outline is a definition. -/
def Outline.FreeOfDefinitions (outline : Outline) : Prop :=
  ∀ level part, outline.LiesAt level part → part.isDefinition = false

/-- A change to some parts that stand next to each other. -/
inductive Rearranges : List Outline → List Outline → Prop
  /-- Two neighbours change places, unless there are definitions in both. -/
  | exchange {first second : Outline} :
    first.FreeOfDefinitions ∨ second.FreeOfDefinitions → Rearranges [first, second] [second, first]
  | dissolveGroup (kind : String) (parts : List Outline) : Rearranges [.group kind parts] parts
  | dissolveModule (parts : List Outline) : Rearranges [.module parts] parts
  | wrap (kind : String) (parts : List Outline) : Rearranges parts [.group kind parts]
  | repeatBinding (name : String) (line : Nat) :
    Rearranges [.binding name line] [.binding name line, .binding name line]
  | repeatReference (name : String) (line : Nat) :
    Rearranges [.reference name line] [.reference name line, .reference name line]
  | orderParams (name : String) (line : Nat) {params reordered : List String}
    (parts : List Outline) : params.Perm reordered →
    Rearranges [.function name line params parts] [.function name line reordered parts]
  | repeatParam (name : String) (line : Nat) {param : String} {params : List String}
    (parts : List Outline) : param ∈ params →
    Rearranges [.function name line params parts] [.function name line (param :: params) parts]
  | moveBinding (name : String) (line other : Nat) :
    Rearranges [.binding name line] [.binding name other]
  | moveReference (name : String) (line other : Nat) :
    Rearranges [.reference name line] [.reference name other]
  | relabelGroup (kind other : String) (parts : List Outline) :
    Rearranges [.group kind parts] [.group other parts]
  | renameFunction (name other : String) (line : Nat) (params : List String)
    (parts : List Outline) :
    Rearranges [.function name line params parts] [.function other line params parts]
  | renameClass (name other : String) (line : Nat) (parts : List Outline) :
    Rearranges [.classDef name line parts] [.classDef other line parts]

/-- Somewhere in an outline, some of the parts directly below one part are changed. -/
inductive Outline.Rearranged : Outline → Outline → Prop
  | below (surrounding : Surrounding) (shell : Shell) (before after : List Outline)
    {parts changed : List Outline} : Rearranges parts changed →
    Rearranged (surrounding.fill (shell.around (before ++ parts ++ after)))
      (surrounding.fill (shell.around (before ++ changed ++ after)))

/-! ### Names and verdicts -/

theorem ScopeContents.mem_namesUsed {usage : Usage} {occurrences : List Occurrence}
    {name : String} : name ∈ namesUsed usage occurrences ↔
      ∃ occurrence ∈ occurrences, occurrence.usage = usage ∧ occurrence.name = name := by
  simp only [namesUsed, List.mem_map, List.mem_filter, decide_eq_true_eq, and_assoc]

/-- The same names are bound and the same names are read, however often and in whatever order. -/
def SameNames (occurrences others : List Occurrence) : Prop :=
  ∀ usage name, name ∈ ScopeContents.namesUsed usage occurrences ↔
    name ∈ ScopeContents.namesUsed usage others

theorem SameNames.append {occurrences others later laterOthers : List Occurrence}
    (same : SameNames occurrences others) (sameLater : SameNames later laterOthers) :
    SameNames (occurrences ++ later) (others ++ laterOthers) := by
  intro usage name
  have first := same usage name
  have second := sameLater usage name
  simp only [ScopeContents.namesUsed, List.filter_append, List.map_append, List.mem_append]
    at first second ⊢
  rw [first, second]

theorem SameNames.swap (occurrences others : List Occurrence) :
    SameNames (occurrences ++ others) (others ++ occurrences) := by
  intro usage name
  simp only [ScopeContents.namesUsed, List.filter_append, List.map_append, List.mem_append]
  exact or_comm

namespace ScopeContents

/-- What is found in a scope: the line at which it stands, and its unused names. -/
def verdict (contents : ScopeContents) : Nat × List String :=
  (contents.line, contents.unused)

theorem findings_eq (file : String) (contents : ScopeContents) :
    contents.findings file =
      contents.verdict.2.map (Diagnostic.unusedVariable file contents.verdict.1) := rfl

/-- The verdict on a scope depends on the parameters and on the names in it as sets alone. -/
theorem verdict_congr {contents other : ScopeContents} (line : contents.line = other.line)
    (params : ∀ name, name ∈ contents.params ↔ name ∈ other.params)
    (names : SameNames contents.occurrences other.occurrences) :
    contents.verdict = other.verdict := by
  have bound : (contents.params ++ namesUsed .binding contents.occurrences).toFinset =
      (other.params ++ namesUsed .binding other.occurrences).toFinset := by
    ext name
    simp only [List.mem_toFinset, List.mem_append, params name, names .binding name]
  have read : (namesUsed .reference contents.occurrences).toFinset =
      (namesUsed .reference other.occurrences).toFinset := by
    ext name
    simp only [List.mem_toFinset, names .reference name]
  rw [verdict, verdict, line, unused, unused, bound, read]

end ScopeContents

/-- Two lists of parts that own the same names, and whose definitions have the same verdicts. -/
structure Agree (parts others : List Outline) : Prop where
  names : SameNames (Outline.ownedAll parts) (Outline.ownedAll others)
  verdicts : (Outline.definitionsAll parts).map ScopeContents.verdict =
    (Outline.definitionsAll others).map ScopeContents.verdict

namespace Agree

theorem refl (parts : List Outline) : Agree parts parts :=
  ⟨fun _ _ => Iff.rfl, rfl⟩

theorem trans {parts others last : List Outline} (first : Agree parts others)
    (second : Agree others last) : Agree parts last :=
  ⟨fun usage name => (first.names usage name).trans (second.names usage name),
    first.verdicts.trans second.verdicts⟩

theorem append {parts others later laterOthers : List Outline} (agree : Agree parts others)
    (agreeLater : Agree later laterOthers) : Agree (parts ++ later) (others ++ laterOthers) := by
  constructor
  · rw [Outline.ownedAll_append, Outline.ownedAll_append]
    exact agree.names.append agreeLater.names
  · rw [Outline.definitionsAll_append, Outline.definitionsAll_append, List.map_append,
      List.map_append, agree.verdicts, agreeLater.verdicts]

/-- Parts that own and define the same agree, whatever they look like. -/
theorem of_eq {parts others : List Outline}
    (owned : Outline.ownedAll parts = Outline.ownedAll others)
    (definitions : Outline.definitionsAll parts = Outline.definitionsAll others) :
    Agree parts others := by
  constructor
  · rw [owned]
    exact fun _ _ => Iff.rfl
  · rw [definitions]

end Agree

theorem Outline.ownedAll_singleton (part : Outline) : ownedAll [part] = part.owned := by
  rw [ownedAll, ownedAll, List.append_nil]

theorem Outline.definitionsAll_singleton (part : Outline) :
    definitionsAll [part] = part.definitions := by
  rw [definitionsAll, definitionsAll, List.append_nil]

/-- Parts that agree can take each other's place below a part. -/
theorem Agree.around {parts others : List Outline} (agree : Agree parts others) (shell : Shell) :
    Agree [shell.around parts] [shell.around others] := by
  -- A definition around the parts ends with a scope that owns the same names.
  have verdicts : (shell.ends (Outline.ownedAll parts)).map ScopeContents.verdict =
      (shell.ends (Outline.ownedAll others)).map ScopeContents.verdict := by
    cases shell with
    | module | group => rfl
    | function | classDef =>
      apply congrArg (· :: [])
      exact ScopeContents.verdict_congr rfl (fun _ => Iff.rfl) agree.names
  constructor
  · -- It keeps these names from the scope around it, and a group hands them on.
    rw [Outline.ownedAll_singleton, Outline.ownedAll_singleton, Shell.owned_around,
      Shell.owned_around]
    cases shell with
    | module | group => exact agree.names
    | function | classDef => exact fun _ _ => Iff.rfl
  · rw [Outline.definitionsAll_singleton, Outline.definitionsAll_singleton,
      Shell.definitions_around, Shell.definitions_around, List.map_append, List.map_append,
      agree.verdicts, verdicts]

/-- Parts that agree can take each other's place anywhere in an outline. -/
theorem Agree.fill {part other : Outline} (agree : Agree [part] [other])
    (surrounding : Surrounding) :
    Agree [surrounding.fill part] [surrounding.fill other] := by
  induction surrounding with
  | hole => exact agree
  | inside shell before inner after ih =>
    apply Agree.around
    exact (Agree.refl before).append (ih.append (Agree.refl after))

/-! ### Every change keeps them -/

namespace Outline

theorem FreeOfDefinitions.child {outline child : Outline} (free : outline.FreeOfDefinitions)
    (isChild : child ∈ outline.children) : child.FreeOfDefinitions := by
  intro level part lies
  exact free (level + 1) part (.inside isChild lies)

mutual

theorem definitions_of_free (outline : Outline) (free : outline.FreeOfDefinitions) :
    outline.definitions = [] := by
  cases outline with
  | binding | reference => rw [definitions]
  | module parts | group _ parts =>
    -- What lies in a part that is free of definitions is free of them.
    rw [definitions]
    exact definitionsAll_of_free parts fun part member => free.child member
  | function | classDef => cases free 0 _ (.root _)

theorem definitionsAll_of_free (parts : List Outline)
    (free : ∀ part ∈ parts, part.FreeOfDefinitions) : definitionsAll parts = [] := by
  cases parts with
  | nil => rw [definitionsAll]
  | cons part rest =>
    obtain ⟨first, later⟩ := List.forall_mem_cons.mp free
    rw [definitionsAll, definitions_of_free part first, definitionsAll_of_free rest later,
      List.append_nil]

end

end Outline

/-- Two neighbours agree with themselves in the other order, where only one of them has definitions. -/
theorem Agree.exchange {first second : Outline}
    (free : first.FreeOfDefinitions ∨ second.FreeOfDefinitions) :
    Agree [first, second] [second, first] := by
  have owned : ∀ part other : Outline,
      Outline.ownedAll [part, other] = part.owned ++ other.owned := by
    intro part other
    rw [Outline.ownedAll, Outline.ownedAll_singleton]
  have definitions : ∀ part other : Outline,
      Outline.definitionsAll [part, other] = part.definitions ++ other.definitions := by
    intro part other
    rw [Outline.definitionsAll, Outline.definitionsAll_singleton]
  constructor
  · rw [owned, owned]
    exact SameNames.swap _ _
  · rw [definitions, definitions]
    -- One of the two has no definitions, so that the order of the others stays.
    rcases free with free | free
    · rw [Outline.definitions_of_free first free, List.nil_append, List.append_nil]
    · rw [Outline.definitions_of_free second free, List.nil_append, List.append_nil]

/-- Two functions that differ in their names and in how their parameters are listed agree. -/
theorem Agree.function {name other : String} {line : Nat} {params listed : List String}
    {parts : List Outline} (same : ∀ param, param ∈ params ↔ param ∈ listed) :
    Agree [.function name line params parts] [.function other line listed parts] := by
  constructor
  · -- Neither name is in the scope around the functions.
    simp only [Outline.ownedAll_singleton, Outline.owned]
    exact fun _ _ => Iff.rfl
  · simp only [Outline.definitionsAll_singleton, Outline.definitions, List.map_append]
    apply congrArg (_ ++ [·])
    exact ScopeContents.verdict_congr rfl same fun _ _ => Iff.rfl

/-- A change to some parts keeps their names, and the verdicts on their definitions. -/
theorem Rearranges.agree {parts changed : List Outline} (change : Rearranges parts changed) :
    Agree parts changed := by
  cases change with
  | exchange free => exact Agree.exchange free
  | orderParams name line parts reordered =>
    exact Agree.function fun param => reordered.mem_iff
  | repeatParam name line parts member =>
    apply Agree.function
    -- The parameter that is repeated was there before.
    intro param
    rw [List.mem_cons, or_iff_right_of_imp]
    rintro rfl
    exact member
  | renameFunction => exact Agree.function fun _ => Iff.rfl
  -- Groups and nested modules leave all that is below them to the scope around them, and the name of
  -- a class is in none of its scopes.
  | dissolveGroup | dissolveModule | wrap | relabelGroup | renameClass =>
    apply Agree.of_eq
    · simp only [Outline.ownedAll_singleton, Outline.owned]
    · simp only [Outline.definitionsAll_singleton, Outline.definitions]
  -- Only the set of the names counts, neither how often one stands there nor at which line.
  | repeatBinding | repeatReference | moveBinding | moveReference =>
    constructor
    · intro usage name
      simp [Outline.ownedAll, Outline.owned, ScopeContents.mem_namesUsed]
    · rfl

theorem Outline.Rearranged.agree {outline changed : Outline}
    (rearranged : outline.Rearranged changed) : Agree [outline] [changed] := by
  obtain ⟨surrounding, shell, before, after, change⟩ := rearranged
  -- From the run of siblings to their parent, and from there to the root.
  apply Agree.fill
  apply Agree.around
  exact ((Agree.refl before).append change.agree).append (Agree.refl after)

/-- A sequence of changes keeps what the first of them keeps. -/
theorem agree_of_changes {first last : Outline}
    (changes : Relation.ReflTransGen Outline.Rearranged first last) : Agree [first] [last] := by
  induction changes with
  | refl => exact Agree.refl _
  | tail _ change ih => exact ih.trans change.agree

/-- Outlines that agree have the same findings, those on their modules included. -/
theorem Agree.findings {outline other : Outline} (agree : Agree [outline] [other])
    (file : String) :
    (outline.scopes.flatMap fun scope => scope.findings file) =
      other.scopes.flatMap fun scope => scope.findings file := by
  have definitions := agree.verdicts
  have names := agree.names
  rw [Outline.definitionsAll_singleton, Outline.definitionsAll_singleton] at definitions
  rw [Outline.ownedAll_singleton, Outline.ownedAll_singleton] at names
  -- Names that lie below no definition belong to the module.
  have modules : outline.moduleScope.verdict = other.moduleScope.verdict :=
    ScopeContents.verdict_congr rfl (fun _ => Iff.rfl) names
  have verdicts : outline.scopes.map ScopeContents.verdict =
      other.scopes.map ScopeContents.verdict := by
    simp only [Outline.scopes, List.map_append, List.map_cons, List.map_nil, definitions, modules]
  -- The findings on a scope are a function of its verdict.
  have byVerdict (scopes : List ScopeContents) :
      (scopes.flatMap fun scope => scope.findings file) =
        (scopes.map ScopeContents.verdict).flatMap fun verdict =>
          verdict.2.map (Diagnostic.unusedVariable file verdict.1) := by
    rw [List.flatMap_map]
    simp only [ScopeContents.findings_eq]
  rw [byVerdict, byVerdict, verdicts]

/-- Where one outline is made from another by any number of changes below its root, the tracker reports
the same findings on both, in the same order. Of the outlines in between nothing is asked, not even
that they are shallow. -/
theorem findings_of_rearranged (file : String) {first last : Outline}
    (changes : Relation.ReflTransGen Outline.Rearranged first last)
    (shallow : first.height ≤ 500) (shallowLast : last.height ≤ 500) :
    ∃ found, unusedNames file first = .ok found ∧ unusedNames file last = .ok found := by
  refine ⟨_, unusedNames_eq_ok shallow file, ?_⟩
  rw [unusedNames_eq_ok shallowLast, (agree_of_changes changes).findings]

/-- A name that is bound before a function, in which another name is read inside of a group. -/
def loopFirst : Outline :=
  .module [.binding "x" 1, .function "f" 2 ["a", "b"]
    [.binding "c" 3, .group "block" [.reference "a" 4]]]

/-- The same without the group, with the parameters in another order and the name at the end. -/
def loopLast : Outline :=
  .module [.function "f" 2 ["b", "a"] [.binding "c" 3, .reference "a" 4], .binding "x" 1]

theorem binding_free (name : String) (line : Nat) :
    (Outline.binding name line).FreeOfDefinitions := by
  intro level part lies
  cases lies with
  | root => rfl
  | inside isChild => cases isChild

theorem loopFirst_changes : Relation.ReflTransGen Outline.Rearranged loopFirst loopLast := by
  have dissolved : loopFirst.Rearranged (.module [.binding "x" 1,
      .function "f" 2 ["a", "b"] [.binding "c" 3, .reference "a" 4]]) :=
    .below (.inside .module [.binding "x" 1] .hole []) (.function "f" 2 ["a", "b"])
      [.binding "c" 3] [] (.dissolveGroup "block" [.reference "a" 4])
  have reordered : Outline.Rearranged (.module [.binding "x" 1,
      .function "f" 2 ["a", "b"] [.binding "c" 3, .reference "a" 4]]) (.module [.binding "x" 1,
      .function "f" 2 ["b", "a"] [.binding "c" 3, .reference "a" 4]]) :=
    .below .hole .module [.binding "x" 1] [] (.orderParams "f" 2 _ (.swap "b" "a" []))
  have exchanged : Outline.Rearranged (.module [.binding "x" 1,
      .function "f" 2 ["b", "a"] [.binding "c" 3, .reference "a" 4]]) loopLast :=
    .below .hole .module [] [] (.exchange (.inl (binding_free "x" 1)))
  exact ((Relation.ReflTransGen.single dissolved).tail reordered).tail exchanged

theorem loopFirst_findings :
    Relation.ReflTransGen Outline.Rearranged loopFirst loopLast ∧
      loopFirst.height ≤ 500 ∧ loopLast.height ≤ 500 ∧
      (∃ found, unusedNames "m.py" loopFirst = .ok found ∧
        unusedNames "m.py" loopLast = .ok found) ∧
      unusedNames "m.py" loopLast = .ok [.unusedVariable "m.py" 2 "b",
        .unusedVariable "m.py" 2 "c", .unusedVariable "m.py" 0 "x"] :=
  ⟨loopFirst_changes, by decide, by decide,
    findings_of_rearranged "m.py" loopFirst_changes (by decide) (by decide), by rfl⟩

end ScopeCheck
