import ScopeCheck.Proofs.Cst.Search
import ScopeCheck.Proofs.Outline.Classification
import ScopeCheck.Proofs.Outline.Depth

/-!
# Where the lines of an outline come from

A name and a definition have the line of their own node. The one exception is the name of a type, which
has the line of the node in which it stands on the left side.
-/

namespace ScopeCheck

open Cst (Label Path Step)

/-! ### The lines of entries -/

def Entry.line : Entry → Nat
  | .name occurrence _ => occurrence.line
  | .definition _ line _ => line

def ScopeContents.lines (scope : ScopeContents) : List Nat :=
  scope.line :: scope.occurrences.map Occurrence.line

namespace Outline

/-- The lines of the names that some parts own, and of their definitions with the names in these. -/
def linesOf (owned : List Occurrence) (definitions : List ScopeContents) : List Nat :=
  owned.map Occurrence.line ++ definitions.flatMap ScopeContents.lines

theorem linesOf_append (owned more : List Occurrence) (definitions later : List ScopeContents) :
    (linesOf (owned ++ more) (definitions ++ later)).Perm
      (linesOf owned definitions ++ linesOf more later) := by
  simp only [linesOf, List.map_append, List.flatMap_append, List.append_assoc]
  -- The lines of the first definitions and those of the later names change places.
  refine List.Perm.append_left _ ?_
  rw [← List.append_assoc, ← List.append_assoc]
  exact List.perm_append_comm.append_right _

/-- What a definition owns moves into the definition, and its own line is added. -/
theorem linesOf_definition (scope : ScopeContents) (definitions : List ScopeContents) :
    (linesOf [] (definitions ++ [scope])).Perm
      (scope.line :: linesOf scope.occurrences definitions) := by
  simp only [linesOf, List.map_nil, List.nil_append, List.flatMap_append, List.flatMap_singleton]
  exact List.perm_middle.trans (List.perm_append_comm.cons _)

mutual

theorem lines_perm (part : Outline) : part.lines.Perm (linesOf part.owned part.definitions) := by
  cases part with
  | module children => exact linesAll_perm children
  | group kind children => exact linesAll_perm children
  | binding name line => exact .refl _
  | reference name line => exact .refl _
  | function name line params children =>
    exact ((linesAll_perm children).cons line).trans
      (linesOf_definition { kind := .function, line, params, occurrences := ownedAll children } _).symm
  | classDef name line children =>
    exact ((linesAll_perm children).cons line).trans
      (linesOf_definition { kind := .classDef, line, occurrences := ownedAll children } _).symm

theorem linesAll_perm (parts : List Outline) :
    (linesAll parts).Perm (linesOf (ownedAll parts) (definitionsAll parts)) := by
  cases parts with
  | nil => exact .refl _
  | cons part rest =>
    exact ((lines_perm part).append (linesAll_perm rest)).trans (linesOf_append _ _ _ _).symm

end

theorem map_line_entriesOf (owner : Option Path) (parts : List Outline) (sited : List Sited) :
    (entriesOf owner parts sited).map Entry.line = linesOf (ownedAll parts) (sited.map Prod.fst) := by
  have each : ∀ one : Sited, (entriesAt one).map Entry.line = one.1.lines := by
    intro one
    simp [entriesAt, ScopeContents.lines, Entry.line]
  simp [entriesOf, linesOf, List.map_flatMap, List.flatMap_map, each, Entry.line]

/-- The lines of some parts are the lines of their entries. -/
theorem Accounted.lines_perm {owner : Option Path} {parts : List Outline} {found : List Entry}
    (accounted : Accounted owner parts found) : (linesAll parts).Perm (found.map Entry.line) := by
  obtain ⟨sited, sites, entries⟩ := accounted
  have lines := entries.map Entry.line
  rw [map_line_entriesOf, sites] at lines
  exact (linesAll_perm parts).trans lines

end Outline

/-! ### The nodes of entries -/

/-- Whether a node is a name or a definition. What follows `as` is a name by itself where it has no
named children. -/
def Cst.entersOutline (node : Cst) : Bool :=
  ["identifier", "function_definition", "class_definition"].contains node.kind ||
    node.kind == "as_pattern_target" && !node.children.any Cst.named

theorem NameContext.eq_of_forKind_typeName {context : NameContext} {kind : String} {line : Nat}
    (named : context.forKind kind = .typeName line) : context = .typeName line := by
  cases context with
  -- These two contexts may give way to that of expressions, but never to this one.
  | store | deleted =>
    rw [forKind] at named
    split at named <;> cases named
  | _ => exact named

/-- What stands for something is a name or a definition. It is at its own line, but for the name on the
left side of a name for a type. -/
theorem Standing.line_of_standsFor {text : Label → String} {standing : Standing} {node : Cst}
    {entry : Entry} (stands : standing.standsFor? text node = some entry) :
    node.entersOutline = true ∧ (entry.line = node.label.line ∨
      standing.context = .typeName entry.line ∧ entry.path? = none) := by
  rw [standsFor?] at stands
  split at stands
  -- A target after `as` stands for something only if it is bare.
  case h_5 target =>
    split at stands
    · cases stands
    next bare =>
      cases stands
      exact ⟨by simp [Cst.entersOutline, target, bare], .inl rfl⟩
  -- Only here the line is not that of the node.
  case h_6 line named isName =>
    cases stands
    exact ⟨by simp [Cst.entersOutline, isName],
      .inr ⟨NameContext.eq_of_forKind_typeName named, rfl⟩⟩
  case h_7 => cases stands
  all_goals
    cases stands
    exact ⟨by simp [Cst.entersOutline, *], .inl rfl⟩

theorem Cst.Step.eq_of_ifNamed {step : Step} {context : NameContext} {line : Nat}
    (named : step.ifNamed context = .typeName line) : context = .typeName line := by
  rw [ifNamed] at named
  split at named
  · exact named
  · cases named

/-- Below a construct that is read, the left side of a name for a type has the line of the child. -/
theorem Construct.line_of_below {step : Step} {construct : Construct} {line : Nat}
    (named : construct.below step = .typeName line) : step.child.label.line = line := by
  cases construct <;> simp only [below] at named
  all_goals grind [Step.ifNamed, Step.withField]

/-- The left side of a name for a type is entered at its own line. -/
theorem NameContext.typeName_of_below {context : NameContext} {step : Step} {line : Nat}
    (named : context.below step = .typeName line) :
    context = .typeName line ∨ step.child.label.line = line := by
  rw [below] at named
  cases here : context.forKind step.parent.kind with
  -- The left side of a name for a type hands its own line on.
  | typeName outer =>
    simp only [here] at named
    split at named
    · cases named
    · cases Step.eq_of_ifNamed named
      exact .inl (eq_of_forKind_typeName here)
  -- The construct with two sides enters the context; all others have another one.
  | load =>
    simp only [here, Construct.belowLoad_eq] at named
    exact .inr (Construct.line_of_below named)
  | matched =>
    simp only [here, Pattern.belowMatched_eq] at named
    cases pattern : Pattern.ofKind step.parent.kind <;> grind [Pattern.below, Step.ifNamed]
  | _ => grind [Step.ifNamed, Step.withField]

/-- Below the root, the left side of a name for a type holds all nodes that stand on it. -/
theorem Standing.exists_typeName {tree : Cst} {standing : Standing} {line : Nat} {found : Cst.Way × Cst}
    (member : found ∈ tree.nodes)
    (named : (found.1.foldl below standing).context = .typeName line) :
    standing.context = .typeName line ∨
      ∃ outer ∈ tree.nodes, outer.2.label.line = line ∧ ∃ inner ∈ outer.2.nodes, inner.2 = found.2 := by
  induction tree using Cst.induction generalizing standing found with
  | node label children ih =>
    rcases Cst.mem_nodes_iff.mp member with rfl | ⟨step, isStep, inner, isInner, rfl⟩
    · exact .inl named
    · rw [List.foldl_cons] at named
      have isChild := (Cst.of_mem_steps isStep).2.2
      -- The context was entered below the child, or else by this step or above it.
      rcases ih step.child isChild isInner named with entered | ⟨outer, isOuter, line, holds⟩
      · rcases NameContext.typeName_of_below entered with above | here
        · exact .inl above
        · have entry := Cst.mem_nodes_of_step isStep step.child.root_mem_nodes
          exact .inr ⟨_, entry, here, inner, isInner, rfl⟩
      · exact .inr ⟨_, Cst.mem_nodes_of_step isStep isOuter, line, holds⟩

namespace SourceFile

variable {file : SourceFile} {outline : Outline}

theorem accounted_of_outline (read : file.outline = .ok outline) :
    ∃ parts, outline = .module parts ∧ Outline.Accounted none parts (file.tree.nodes.filterMap
      fun found => (Standing.along found.1).standsFor? file.textOf found.2) := by
  rw [SourceFile.outline] at read
  split at read
  · cases read
  · cases read
    exact ⟨_, rfl, root_accounted file.textOf file.tree⟩

/-- Each line of an outline is the line of a node that is a name or a definition or holds one. -/
theorem outline_line_origin (read : file.outline = .ok outline) {line : Nat}
    (member : line ∈ outline.lines) :
    ∃ outer ∈ file.tree.nodes, outer.2.label.line = line ∧
      ∃ inner ∈ outer.2.nodes, inner.2.entersOutline = true := by
  obtain ⟨parts, rfl, accounted⟩ := accounted_of_outline read
  -- The line is that of an entry, and so that of a node, or of the left side above the node.
  rw [Outline.lines, accounted.lines_perm.mem_iff] at member
  obtain ⟨entry, isEntry, rfl⟩ := List.mem_map.mp member
  obtain ⟨found, isNode, stands⟩ := List.mem_filterMap.mp isEntry
  obtain ⟨enters, own | ⟨named, -⟩⟩ := Standing.line_of_standsFor stands
  · exact ⟨found, isNode, own.symm, _, found.2.root_mem_nodes, enters⟩
  · rcases Standing.exists_typeName isNode named with
      root | ⟨outer, isOuter, line, inner, isInner, same⟩
    · cases root
    · exact ⟨outer, isOuter, line, inner, isInner, same ▸ enters⟩

/-- The line of a definition is that of its node. -/
theorem definition_line_origin (read : file.outline = .ok outline) {scope : ScopeContents}
    (member : scope ∈ outline.definitions) :
    ∃ found ∈ file.tree.nodes, found.2.label.line = scope.line ∧
      found.2.entersOutline = true := by
  obtain ⟨parts, rfl, sited, sites, entries⟩ := accounted_of_outline read
  rw [Outline.definitions, ← sites] at member
  obtain ⟨⟨scope, path⟩, isSited, rfl⟩ := List.mem_map.mp member
  have isEntry := entries.subset (List.mem_append_right _
    (List.mem_flatMap.mpr ⟨(scope, path), isSited, List.mem_cons_self⟩))
  obtain ⟨found, isNode, stands⟩ := List.mem_filterMap.mp isEntry
  -- A definition has a path, unlike a name on the left side of a name for a type.
  obtain ⟨enters, own | ⟨-, unsited⟩⟩ := Standing.line_of_standsFor stands
  · exact ⟨found, isNode, own.symm, enters⟩
  · cases unsited

end SourceFile

end ScopeCheck
