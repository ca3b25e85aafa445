import ScopeCheck.Proofs.Outline.Annotations

/-!
# Targets of `with` statements

An item `e as t` of a `with` statement reads `e` and binds the names of `t`, in the scope around the
statement. The items of a statement may be put in brackets together. But a single item in brackets, or
one before a comma in brackets, is an expression for the grammar; there nothing is bound.
-/

namespace ScopeCheck

open Cst (Label Path Step Way)

namespace Cst

/-! ### Items and their targets -/

/-- The expressions in which an item can be enclosed. -/
def enclosureKinds : List String := ["parenthesized_expression", "tuple"]

/-- A step from an item, or from an enclosure in it, to what it holds. -/
structure Step.WithinItem (step : Step) : Prop where
  named : step.named = true
  parent : step.parent.kind ∈ "with_item" :: enclosureKinds
  outside : step.parent.kind = "with_item" → step.inField "alias" = false

instance (step : Step) : Decidable step.WithinItem :=
  decidable_of_iff
    (step.named = true ∧ step.parent.kind ∈ "with_item" :: enclosureKinds ∧
      (step.parent.kind = "with_item" → step.inField "alias" = false))
    ⟨fun ⟨named, parent, outside⟩ => ⟨named, parent, outside⟩,
      fun within => ⟨within.named, within.parent, within.outside⟩⟩

/-- A construct `e as t` in an item of a `with` statement. -/
structure WithItem (tree : Cst) where
  /-- The way to the statement. -/
  way : Way
  statement : Cst
  clause : Step
  item : Step
  /-- The way from the item to the construct. -/
  inner : Way
  construct : Cst
  isStatement : tree.Statement way statement
  isWith : statement.kind = "with_statement"
  isClause : clause ∈ statement.steps
  clauseNamed : clause.named = true
  clauseKind : clause.child.kind = "with_clause"
  isItem : item ∈ clause.child.steps
  itemNamed : item.named = true
  itemKind : item.child.kind = "with_item"
  reached : (inner, construct) ∈ item.child.nodes
  within : ∀ step ∈ inner, step.WithinItem
  /-- An item that has the alias itself is the construct. -/
  isConstruct : construct.kind = "as_pattern" ∨ inner = []

namespace WithItem

variable {tree : Cst}

/-- The way to the construct from the root. -/
def wayTo (found : tree.WithItem) : Way := found.way ++ found.clause :: found.item :: found.inner

/-- Whether the construct stands in an enclosure, and not directly in its item. -/
def isEnclosed (found : tree.WithItem) : Bool :=
  found.inner.getLast?.any fun step => enclosureKinds.contains step.parent.kind

end WithItem

/-- A step from a construct `e as t` to `e`. Where an item is the construct, a construct of its own below
it is not meant. -/
structure Step.ToValue (step : Step) : Prop where
  named : step.named = true
  outside : step.inField "alias" = false
  single : step.parent.kind = "with_item" → step.child.kind ≠ "as_pattern"

/-- The kinds of targets that are unpacked. -/
def unpackedKinds : List String :=
  ["as_pattern_target", "pattern_list", "tuple_pattern", "list_pattern", "tuple", "list",
    "expression_list", "parenthesized_expression", "list_splat_pattern", "list_splat"]

def Step.unpacks (step : Step) : Bool := step.named && unpackedKinds.contains step.parent.kind

/-- Whether a way leads from a construct `e as t` to `t`, and on through what is unpacked. -/
def Way.unpacksAlias : Way → Bool
  | [] => false
  | step :: way => step.named && step.inField "alias" && way.all Step.unpacks

/-- Whether a target is a name. What follows `as` is one by itself when it has no named parts. -/
def isTargetName (tree : Cst) : Bool :=
  tree.kind == "identifier" || tree.kind == "as_pattern_target" && !tree.children.any named

/-- The names of `t` that unpacking reaches in a construct `e as t`, each with the way to it. -/
def aliasNames (construct : Cst) : List (Way × Cst) :=
  construct.nodes.filter fun found => found.1.unpacksAlias && found.2.isTargetName

theorem mem_aliasNames_iff {construct name : Cst} {way : Way} :
    (way, name) ∈ construct.aliasNames ↔
      (way, name) ∈ construct.nodes ∧ way.unpacksAlias = true ∧ name.isTargetName = true := by
  rw [aliasNames, List.mem_filter, Bool.and_eq_true]

end Cst

/-- An item of a file does what it should, when the definitions of the outline have paths. -/
structure BindsTarget (file : SourceFile) (outline : Outline) (sited : List Outline.Sited)
    (found : file.tree.WithItem) : Prop where
  /-- What stands before `as` is read, in the scope around the statement. -/
  value : ∀ step ∈ found.construct.steps, step.ToValue →
    (Standing.along (found.wayTo ++ [step])).context = .load ∧
      (Standing.along (found.wayTo ++ [step])).owner = found.way.definition?
  /-- A name of the target stands for one binding in the same scope. -/
  names : ∀ inner name, (inner, name) ∈ found.construct.aliasNames →
    (Standing.along (found.wayTo ++ inner)).standsFor? file.textOf name =
      some (.name ⟨.binding, file.textOf name.label, name.label.line⟩ found.way.definition?)
  bound : ∀ inner name, (inner, name) ∈ found.construct.aliasNames →
    ∃ scope, outline.ScopeAt sited found.way.definition? scope ∧
      ⟨.binding, file.textOf name.label, name.label.line⟩ ∈ scope.occurrences

/-! ### The way to a construct -/

namespace Cst

theorem ofKind_enclosure {kind : String} (enclosure : kind ∈ enclosureKinds) :
    Construct.ofKind kind = .plain ∧ kind ≠ "with_item" := by
  revert kind
  decide

theorem forKind_unpacked {kind : String} (unpacked : kind ∈ unpackedKinds) :
    NameContext.store.forKind kind = .store ∧ kind ≠ "identifier" := by
  revert kind
  decide

/-- Whether a way ends at a construct that stands directly in an item. -/
def Way.endsInItem (way : Way) : Bool :=
  way.getLast?.any fun step => step.parent.kind == "with_item" && step.child.kind == "as_pattern"

/-- A construct stands directly in an item, is an item, or is enclosed. -/
theorem WithItem.cases {tree : Cst} (found : tree.WithItem) :
    found.inner.endsInItem = true ∧ found.isEnclosed = false ∨
      found.inner.endsInItem = false ∧ found.construct.kind = "with_item" ∧
        found.isEnclosed = false ∨
      found.inner.endsInItem = false ∧ found.construct.kind = "as_pattern" ∧
        found.isEnclosed = true := by
  have reached := found.reached
  rw [Way.endsInItem, isEnclosed]
  cases last : found.inner.getLast? with
  | none =>
    -- There is no way inside of the item, so that the item is the construct.
    rw [List.getLast?_eq_none_iff.mp last] at reached
    rw [mem_nodes_nil_iff.mp reached]
    exact .inr (.inl ⟨rfl, found.itemKind, rfl⟩)
  | some step =>
    have isConstruct : found.construct.kind = "as_pattern" := by
      refine found.isConstruct.resolve_right fun empty => ?_
      rw [empty] at last
      cases last
    have parent := (found.within step (List.mem_of_getLast? last)).parent
    rw [Option.any_some, Option.any_some, getLast?_child reached last, isConstruct]
    rcases List.mem_cons.mp parent with isItem | isEnclosure
    · rw [isItem]
      exact .inl ⟨rfl, rfl⟩
    · refine .inr (.inr ⟨?_, rfl, List.contains_iff_mem.mpr isEnclosure⟩)
      simp [(ofKind_enclosure isEnclosure).2]

end Cst

namespace Standing

variable {standing : Standing}

theorem below_plain {step : Step} (reads : standing.context.forKind step.parent.kind = .load)
    (plain : Construct.ofKind step.parent.kind = .plain) (named : step.named = true) :
    (standing.below step).context = .load ∧ (standing.below step).owner = standing.owner := by
  obtain ⟨context, owned⟩ := below_ordinary reads plain (by decide)
  exact ⟨context.trans (if_pos named), owned⟩

theorem below_item {step : Step} (reads : standing.context.forKind step.parent.kind = .load)
    (isItem : step.parent.kind = "with_item") (named : step.named = true) :
    (standing.below step).context =
        (if step.inField "alias" then .store
        else if step.child.kind = "as_pattern" then .withAlias else .load) ∧
      (standing.below step).owner = standing.owner := by
  have construct : Construct.ofKind step.parent.kind = .withItem := by
    rw [isItem]
    rfl
  obtain ⟨context, owned⟩ := below_ordinary reads construct (by decide)
  refine ⟨context.trans ?_, owned⟩
  rw [Construct.below, Step.ifNamed, if_pos named]
  simp only [beq_iff_eq]

/-- One step inside an item that is read. The construct to which it leads waits for its alias if it stands
directly in the item; anything else is read. -/
theorem below_withinItem {step : Step} (within : step.WithinItem) (reads : standing.context = .load) :
    (standing.below step).context =
        (if step.parent.kind = "with_item" ∧ step.child.kind = "as_pattern" then .withAlias
        else .load) ∧
      (standing.below step).owner = standing.owner := by
  have load : standing.context.forKind step.parent.kind = .load := by
    rw [reads]
    rfl
  rcases List.mem_cons.mp within.parent with isItem | isEnclosure
  · obtain ⟨context, owned⟩ := below_item load isItem within.named
    refine ⟨context.trans ?_, owned⟩
    simp [within.outside isItem, isItem]
  · obtain ⟨plain, other⟩ := Cst.ofKind_enclosure isEnclosure
    obtain ⟨context, owned⟩ := below_plain load plain within.named
    refine ⟨context.trans (if_neg ?_).symm, owned⟩
    rintro ⟨isItem, -⟩
    exact other isItem

theorem along_item {item construct : Cst} {inner : Way} (member : (inner, construct) ∈ item.nodes)
    (within : ∀ step ∈ inner, step.WithinItem) (reads : standing.context = .load) :
    (inner.foldl below standing).context = (if inner.endsInItem then .withAlias else .load) ∧
      (inner.foldl below standing).owner = standing.owner := by
  induction inner generalizing item standing with
  | nil => exact ⟨reads, rfl⟩
  | cons step inner ih =>
    obtain ⟨-, inside⟩ := Cst.mem_nodes_cons_iff.mp member
    obtain ⟨here, later⟩ := List.forall_mem_cons.mp within
    obtain ⟨context, owned⟩ := below_withinItem here reads
    cases inner with
    | nil =>
      rw [List.foldl_cons, List.foldl_nil, context, owned]
      simp [Cst.Way.endsInItem]
    | cons next inner =>
      -- What has parts inside of an item is an item or an enclosure, and no construct.
      have other : step.child.kind ≠ "as_pattern" := by
        have parent := (later next List.mem_cons_self).parent
        rw [Cst.parent_kind (Cst.mem_nodes_cons_iff.mp inside).1] at parent
        intro isConstruct
        rw [isConstruct] at parent
        exact absurd parent (by decide)
      rw [if_neg fun both => other both.2] at context
      obtain ⟨contextLater, ownedLater⟩ := ih inside later context
      rw [List.foldl_cons]
      exact ⟨contextLater, ownedLater.trans owned⟩

theorem below_unpacked {step : Step} (unpacks : step.unpacks = true)
    (stores : standing.context = .store) :
    (standing.below step).context = .store ∧ (standing.below step).owner = standing.owner := by
  rw [Step.unpacks, Bool.and_eq_true] at unpacks
  obtain ⟨stored, other⟩ := Cst.forKind_unpacked (List.contains_iff_mem.mp unpacks.2)
  -- What is unpacked hands the context on and is no name itself.
  constructor
  · change standing.context.below step = _
    rw [stores, NameContext.below, stored]
    simp only [if_neg other]
    exact if_pos unpacks.1
  · exact ownerBelow_of_not_load (by simp [stores, stored])

/-- What is unpacked in a target that is bound is bound. -/
theorem along_unpacked {way : Way} (unpacks : way.all Step.unpacks = true)
    (stores : standing.context = .store) :
    (way.foldl below standing).context = .store ∧
      (way.foldl below standing).owner = standing.owner := by
  induction way generalizing standing with
  | nil => exact ⟨stores, rfl⟩
  | cons step way ih =>
    rw [List.all_cons, Bool.and_eq_true] at unpacks
    obtain ⟨context, owned⟩ := below_unpacked unpacks.1 stores
    rw [List.foldl_cons, ← owned]
    exact ih unpacks.2 context

/-- A target that is a name stands for a binding where it is bound. -/
theorem standsFor_target {text : Label → String} {name : Cst} (isName : name.isTargetName = true)
    (stores : standing.context = .store) :
    standing.standsFor? text name =
      some (.name ⟨.binding, text name.label, name.label.line⟩ standing.owner) := by
  rw [Cst.isTargetName, Bool.or_eq_true, Bool.and_eq_true, beq_iff_eq, beq_iff_eq] at isName
  rw [standsFor?, stores]
  rcases isName with isIdentifier | ⟨isTarget, bare⟩
  · rw [isIdentifier]
    rfl
  · rw [isTarget]
    exact if_neg (by simpa using bare)

theorem standsFor_hidden {text : Label → String} {node : Cst} (hidden : standing.context = .hidden) :
    standing.standsFor? text node = none := by
  rw [standsFor?, hidden]
  rfl

/-- The construct of an item is read where it is an item itself or is enclosed. Where it stands directly
in its item, it is known to have an alias. -/
theorem along_construct {tree : Cst} (isModule : tree.kind = "module") (found : tree.WithItem) :
    (along found.wayTo).owner = found.way.definition? ∧
      (along found.wayTo).context = if found.inner.endsInItem then .withAlias else .load := by
  obtain ⟨reads, outer⟩ := along_statements isModule found.isStatement.reached
    (by simp [found.isWith]) found.isStatement.within
  have owned : (along found.way).owner = found.way.definition? :=
    outer.resolve_left (by simp [found.isWith, Cst.definitionKinds])
  -- From the statement the way leads through its clause to the item, and both are plain.
  have clauseParent : found.clause.parent.kind = found.statement.kind :=
    Cst.parent_kind found.isClause
  have clausePlain : Construct.ofKind found.clause.parent.kind = .plain := by
    rw [clauseParent, found.isWith]
    rfl
  rw [← clauseParent] at reads
  obtain ⟨clauseContext, clauseOwner⟩ := below_plain reads clausePlain found.clauseNamed
  have itemPlain : Construct.ofKind found.item.parent.kind = .plain := by
    rw [Cst.parent_kind found.isItem, found.clauseKind]
    rfl
  have itemReads : ((along found.way).below found.clause).context.forKind found.item.parent.kind =
      .load := by
    rw [clauseContext]
    rfl
  obtain ⟨itemContext, itemOwner⟩ := below_plain itemReads itemPlain found.itemNamed
  obtain ⟨context, same⟩ := along_item found.reached found.within itemContext
  have path : along found.wayTo =
      found.inner.foldl below (((along found.way).below found.clause).below found.item) :=
    along_append _ _
  rw [path]
  exact ⟨same.trans (itemOwner.trans (clauseOwner.trans owned)), context⟩

/-- In a construct `e as t`, what follows `as` is bound unless the construct is enclosed, and the other
parts are read. -/
theorem below_construct {tree : Cst} (isModule : tree.kind = "module") (found : tree.WithItem)
    {step : Step} (isStep : step ∈ found.construct.steps) (named : step.named = true) :
    ((along found.wayTo).below step).owner = found.way.definition? ∧
      (step.inField "alias" = true → ((along found.wayTo).below step).context =
        if found.isEnclosed then .hidden else .store) ∧
      (step.ToValue → ((along found.wayTo).below step).context = .load) := by
  obtain ⟨owned, stands⟩ := along_construct isModule found
  have parent : step.parent.kind = found.construct.kind := Cst.parent_kind isStep
  rcases found.cases with ⟨ends, bare⟩ | ⟨ends, kind, bare⟩ | ⟨ends, kind, enclosed⟩
  · rw [ends] at stands
    have owner : ((along found.wayTo).below step).owner = _ :=
      ownerBelow_of_not_load (by simp [stands, NameContext.forKind])
    have context : ((along found.wayTo).below step).context = step.withField "alias" .store := by
      change (along found.wayTo).context.below step = _
      rw [stands, NameContext.below]
      rfl
    rw [owner, context, bare, Step.withField, Step.ifNamed, if_pos named]
    exact ⟨owned, fun inside => if_pos inside, fun value => if_neg (by simp [value.outside])⟩
  · rw [ends] at stands
    have load : (along found.wayTo).context.forKind step.parent.kind = .load := by
      rw [stands]
      rfl
    obtain ⟨context, owner⟩ := below_item load (parent.trans kind) named
    rw [owner, context, bare]
    refine ⟨owned, fun inside => if_pos inside, fun value => ?_⟩
    rw [if_neg (by simp [value.outside]), if_neg (value.single (parent.trans kind))]
  · rw [ends] at stands
    have load : (along found.wayTo).context.forKind step.parent.kind = .load := by
      rw [stands]
      rfl
    have construct : Construct.ofKind step.parent.kind = .skips "alias" := by
      rw [parent, kind]
      rfl
    obtain ⟨context, owner⟩ := below_ordinary load construct (by decide)
    rw [context, owner, enclosed, Construct.below, Step.withField, Step.ifNamed, if_pos named]
    exact ⟨owned, fun inside => if_pos inside, fun value => if_neg (by simp [value.outside])⟩

end Standing

/-! ### Names of targets -/

namespace Cst.WithItem

variable {tree : Cst} (found : tree.WithItem)

/-- A name of a target stands for a binding in the scope around the statement, unless the construct is
enclosed; then it stands for nothing. -/
theorem standsFor_name {text : Label → String} (isModule : tree.kind = "module") {inner : Way}
    {name : Cst} (member : (inner, name) ∈ found.construct.aliasNames) :
    (Standing.along (found.wayTo ++ inner)).standsFor? text name =
      if found.isEnclosed then none
      else some (.name ⟨.binding, text name.label, name.label.line⟩ found.way.definition?) := by
  obtain ⟨isNode, unpacks, isName⟩ := mem_aliasNames_iff.mp member
  cases inner with
  -- The way to a name of the target is not empty, as it begins in the field of the alias.
  | nil => cases unpacks
  | cons step rest =>
    rw [Way.unpacksAlias, Bool.and_eq_true, Bool.and_eq_true] at unpacks
    obtain ⟨⟨named, inside⟩, parts⟩ := unpacks
    obtain ⟨isStep, -⟩ := mem_nodes_cons_iff.mp isNode
    obtain ⟨owned, context, -⟩ := Standing.below_construct isModule found isStep named
    have stands := context inside
    rw [Standing.along_append, List.foldl_cons]
    cases enclosed : found.isEnclosed with
    | true =>
      rw [enclosed] at stands
      exact Standing.standsFor_hidden (Standing.along_hidden stands rest)
    | false =>
      rw [enclosed] at stands
      obtain ⟨stores, same⟩ := Standing.along_unpacked parts stands
      rw [Standing.standsFor_target isName stores, same, owned]
      rfl

theorem value_read (isModule : tree.kind = "module") {step : Step}
    (isStep : step ∈ found.construct.steps) (value : step.ToValue) :
    (Standing.along (found.wayTo ++ [step])).context = .load ∧
      (Standing.along (found.wayTo ++ [step])).owner = found.way.definition? := by
  obtain ⟨owned, -, read⟩ := Standing.below_construct isModule found isStep value.named
  rw [Standing.along_append]
  exact ⟨read value, owned⟩

theorem mem_nodes : (found.wayTo, found.construct) ∈ tree.nodes :=
  mem_nodes_trans found.isStatement.reached
    (mem_nodes_of_step found.isClause (mem_nodes_of_step found.isItem found.reached))

end Cst.WithItem

section Reading

variable {file : SourceFile} {outline : Outline} {sited : List Outline.Sited}
  {found : file.tree.WithItem}

theorem aliasNames_eq_nil_of_binds (isModule : file.tree.kind = "module")
    (binds : BindsTarget file outline sited found) (enclosed : found.isEnclosed = true) :
    found.construct.aliasNames = [] := by
  apply List.eq_nil_iff_forall_not_mem.mpr
  rintro ⟨inner, name⟩ member
  -- A name of an enclosed construct would stand for a binding and for nothing.
  have stands := binds.names inner name member
  rw [found.standsFor_name isModule member, if_pos enclosed] at stands
  cases stands

theorem binds_of_bare (isModule : file.tree.kind = "module")
    (entries : (outline.entries sited).Perm (file.tree.nodes.filterMap fun found =>
      (Standing.along found.1).standsFor? file.textOf found.2))
    (bare : found.isEnclosed = true → found.construct.aliasNames = []) :
    BindsTarget file outline sited found := by
  have names : ∀ inner name, (inner, name) ∈ found.construct.aliasNames →
      (Standing.along (found.wayTo ++ inner)).standsFor? file.textOf name =
        some (.name ⟨.binding, file.textOf name.label, name.label.line⟩ found.way.definition?) := by
    intro inner name member
    have notEnclosed : ¬ found.isEnclosed = true := by
      intro enclosed
      rw [bare enclosed] at member
      cases member
    rw [found.standsFor_name isModule member, if_neg notEnclosed]
  constructor
  · intro step isStep value
    exact found.value_read isModule isStep value
  · exact names
  · intro inner name member
    have isNode : (found.wayTo ++ inner, name) ∈ file.tree.nodes :=
      Cst.mem_nodes_trans found.mem_nodes (Cst.mem_aliasNames_iff.mp member).1
    -- The binding is an entry of the outline, so it occurs in the scope of its owner.
    have isEntry := entries.symm.subset (List.mem_filterMap.mpr ⟨_, isNode, names inner name member⟩)
    exact Outline.exists_scopeAt isEntry

end Reading

/-- In a module that is not nested too deeply the names of the outline are what the nodes of the tree
stand for. Each item `e as t` of a `with` statement reads `e` in the scope around the statement. A name
that unpacking reaches in `t` stands for one binding in the same scope, however the items are written and
put in brackets, unless an enclosure holds the construct; then it stands for nothing. So an item does what
it should exactly when it is not enclosed or has no names to bind. -/
theorem withItem_binds_iff (file : SourceFile) (shallow : file.tooDeep? = none)
    (isModule : file.tree.kind = "module") :
    ∃ outline sited, file.outline = .ok outline ∧
      sited.map Prod.fst = outline.definitions ∧ (sited.map Prod.snd).Nodup ∧
      (outline.entries sited).Perm (file.tree.nodes.filterMap fun found =>
        (Standing.along found.1).standsFor? file.textOf found.2) ∧
      ∀ found : file.tree.WithItem,
        (∀ step ∈ found.construct.steps, step.ToValue →
          (Standing.along (found.wayTo ++ [step])).context = .load ∧
            (Standing.along (found.wayTo ++ [step])).owner = found.way.definition?) ∧
        (∀ inner name, (inner, name) ∈ found.construct.aliasNames →
          (Standing.along (found.wayTo ++ inner)).standsFor? file.textOf name =
            if found.isEnclosed then none
            else some (.name ⟨.binding, file.textOf name.label, name.label.line⟩
              found.way.definition?)) ∧
        (BindsTarget file outline sited found ↔
          (found.isEnclosed = true → found.construct.aliasNames = [])) := by
  obtain ⟨outline, read, -, -, -⟩ := SourceFile.tracked_of_shallow shallow
  obtain ⟨sited, sites, distinct, entries⟩ := SourceFile.exists_sited read
  refine ⟨outline, sited, read, sites, distinct, entries, fun found => ⟨?_, ?_, ?_, ?_⟩⟩
  · intro step isStep value
    exact found.value_read isModule isStep value
  · intro inner name member
    exact found.standsFor_name isModule member
  · exact aliasNames_eq_nil_of_binds isModule
  · exact binds_of_bare isModule entries

namespace WithFiles

def node (kind : String) (byte stop : Nat) (children : List Cst) (field : Option String := none) : Cst :=
  .node { kind, field, start := ⟨byte, 0, byte⟩, stop } children

def name (byte stop : Nat) (field : Option String := none) : Cst := node "identifier" byte stop [] field

def token (kind : String) (byte stop : Nat) : Cst :=
  .node { kind, named := false, start := ⟨byte, 0, byte⟩, stop } []

/-- The body of a statement, from a byte on. -/
def body (byte : Nat) : Cst :=
  .node { kind := "block", field := some "body", start := ⟨byte, 1, 4⟩, stop := byte + 4 }
    [.node { kind := "pass_statement", start := ⟨byte, 1, 4⟩, stop := byte + 4 }
      [.node { kind := "pass", named := false, start := ⟨byte, 1, 4⟩, stop := byte + 4 } []]]

/-! #### Two items in brackets -/

def unpacked : Cst :=
  node "as_pattern" 14 25
    [name 14 15, token "as" 16 18,
      node "as_pattern_target" 19 25
        [node "tuple" 19 25
          [token "(" 19 20, name 20 21, token "," 21 22, name 23 24, token ")" 24 25]]
        (some "alias")]
    (some "value")

def toUnpacked : Step := ⟨{ kind := "with_item", start := ⟨14, 0, 14⟩, stop := 25 }, [], unpacked, []⟩

def firstItem : Cst :=
  node "with_item" 6 12
    [node "as_pattern" 6 12
      [name 6 7, token "as" 8 10, node "as_pattern_target" 11 12 [name 11 12] (some "alias")]
      (some "value")]

def toItem : Step :=
  ⟨{ kind := "with_clause", start := ⟨5, 0, 5⟩, stop := 26 },
    [token "(" 5 6, firstItem, token "," 12 13], .node toUnpacked.parent toUnpacked.siblings,
    [token ")" 25 26]⟩

def toClause : Step :=
  ⟨{ kind := "with_statement", stop := 36 }, [token "with" 0 4],
    .node toItem.parent toItem.siblings, [token ":" 26 27, body 32]⟩

def toStatement : Step :=
  ⟨{ kind := "module", stop := 36 }, [], .node toClause.parent toClause.siblings, []⟩

def pairFile : SourceFile where
  name := "t.py"
  text := "with (a as b, c as (d, e)):\n    pass\n"
  tree := .node toStatement.parent toStatement.siblings

theorem pairFile_shallow : pairFile.tooDeep? = none :=
  (SourceFile.tooDeep?_eq_none_iff _).mpr (by decide)

/-- The second of the two items. -/
def secondItem : pairFile.tree.WithItem where
  way := [toStatement]
  statement := toStatement.child
  clause := toClause
  item := toItem
  inner := [toUnpacked]
  construct := unpacked
  isStatement := ⟨List.mem_of_getElem? (i := 1) rfl, by decide⟩
  isWith := rfl
  isClause := List.mem_of_getElem? (i := 1) rfl
  clauseNamed := rfl
  clauseKind := rfl
  isItem := List.mem_of_getElem? (i := 3) rfl
  itemNamed := rfl
  itemKind := rfl
  reached := List.mem_of_getElem? (i := 1) rfl
  within := by decide
  isConstruct := .inl rfl

/-- The brackets around both items are no enclosure, and both names of the second one are bound. -/
theorem pairFile_binds :
    pairFile.tooDeep? = none ∧ pairFile.tree.kind = "module" ∧
    ∃ outline sited, pairFile.outline = .ok outline ∧
      BindsTarget pairFile outline sited secondItem ∧
      unpacked.aliasNames.map (fun found => pairFile.textOf found.2.label) = ["d", "e"] := by
  obtain ⟨outline, sited, read, -, -, -, each⟩ := withItem_binds_iff pairFile pairFile_shallow rfl
  obtain ⟨-, -, binds⟩ := each secondItem
  have bare : secondItem.isEnclosed = false := by decide
  exact ⟨pairFile_shallow, rfl, outline, sited, read, binds.mpr (by simp [bare]), by decide +kernel⟩

/-! #### A single item in brackets -/

def opened : Cst :=
  node "as_pattern" 6 19
    [node "call" 6 13
      [name 6 10 (some "function"),
        node "argument_list" 10 13 [token "(" 10 11, name 11 12, token ")" 12 13] (some "arguments")],
      token "as" 14 16, node "as_pattern_target" 17 19 [name 17 19] (some "alias")]

def toOpened : Step :=
  ⟨{ kind := "parenthesized_expression", field := some "value", start := ⟨5, 0, 5⟩, stop := 20 },
    [token "(" 5 6], opened, [token ")" 19 20]⟩

def toEnclosure : Step :=
  ⟨{ kind := "with_item", start := ⟨5, 0, 5⟩, stop := 20 }, [],
    .node toOpened.parent toOpened.siblings, []⟩

def toSingle : Step :=
  ⟨{ kind := "with_clause", start := ⟨5, 0, 5⟩, stop := 20 }, [],
    .node toEnclosure.parent toEnclosure.siblings, []⟩

def toItems : Step :=
  ⟨{ kind := "with_statement", stop := 30 }, [token "with" 0 4],
    .node toSingle.parent toSingle.siblings, [token ":" 20 21, body 26]⟩

def toWith : Step := ⟨{ kind := "module", stop := 30 }, [], .node toItems.parent toItems.siblings, []⟩

/-- A file in which a name is bound by the single item of a statement, which stands in brackets. -/
def bracketFile : SourceFile where
  name := "t.py"
  text := "with (open(p) as fh):\n    pass\n"
  tree := .node toWith.parent toWith.siblings

def bracketItem : bracketFile.tree.WithItem where
  way := [toWith]
  statement := toWith.child
  clause := toItems
  item := toSingle
  inner := [toEnclosure, toOpened]
  construct := opened
  isStatement := ⟨List.mem_of_getElem? (i := 1) rfl, by decide⟩
  isWith := rfl
  isClause := List.mem_of_getElem? (i := 1) rfl
  clauseNamed := rfl
  clauseKind := rfl
  isItem := List.mem_of_getElem? (i := 0) rfl
  itemNamed := rfl
  itemKind := rfl
  reached := List.mem_of_getElem? (i := 3) rfl
  within := by decide
  isConstruct := .inl rfl

theorem bracketFile_shallow : bracketFile.tooDeep? = none :=
  (SourceFile.tooDeep?_eq_none_iff _).mpr (by decide)

theorem bracketFile_validate : bracketFile.validate = .ok () := by
  have accepted : bracketFile.refused? = none := by
    rw [SourceFile.refused?, Cst.walk_eq_preorder]
    rfl
  rw [SourceFile.validate, bracketFile_shallow, accepted]
  rfl

/-- What is left of the file: two names are read, and none is bound. -/
def bracketOutline : Outline :=
  .module [.group "with_statement" [.group "with_clause" [.group "with_item"
    [.group "parenthesized_expression" [.group "as_pattern" [.group "call"
      [.reference "open" 1, .group "argument_list" [.reference "p" 1]]]]]]]]

theorem bracketFile_outline : bracketFile.outline = .ok bracketOutline := by
  rw [SourceFile.outline, bracketFile_shallow]
  rfl

theorem bracketFile_findings : bracketFile.findings {} = .ok [] := by
  obtain ⟨outline, read, shallow, returned⟩ := SourceFile.findings_eq bracketFile_validate {}
  rw [bracketFile_outline] at read
  cases read
  have tracked : unusedNames "t.py" bracketOutline = .ok (bracketOutline.findings "t.py") := by
    rw [unusedNames_eq]
    exact if_pos shallow
  have names : bracketOutline.findings bracketFile.name = [] :=
    Except.ok.inj (tracked.symm.trans (by rfl))
  have lines : scanLines bracketFile.name bracketFile.text 80 = [] := by rfl
  rw [returned, names, List.nil_append]
  change Except.ok (sortByLine (enabledOf {} (scanLines bracketFile.name bracketFile.text 80))) = _
  rw [lines, enabledOf, List.filter_nil, sortByLine, List.mergeSort_nil]

/-- An item of a file that passes validation does not bind the name of its target, and the name is not
reported although nothing reads it. -/
theorem bracketFile_loses_name :
    bracketFile.validate = .ok () ∧
    opened.aliasNames.map (fun found => bracketFile.textOf found.2.label) = ["fh"] ∧
    (∀ outline sited, ¬ BindsTarget bracketFile outline sited bracketItem) ∧
    bracketFile.findings {} = .ok [] := by
  refine ⟨bracketFile_validate, by decide +kernel, ?_, bracketFile_findings⟩
  intro outline sited binds
  have none : opened.aliasNames = [] := aliasNames_eq_nil_of_binds rfl binds (by decide)
  have one : opened.aliasNames.length = 1 := by decide
  rw [none] at one
  cases one

end WithFiles

end ScopeCheck
