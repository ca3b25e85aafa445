import ScopeCheck.Proofs.Outline.Pass

/-! # What a node gives when it is read -/

namespace ScopeCheck

open Cst (Label Path Step)
open Outline (Accounted)
open Role (AllOrdinary)

variable {text : Label → String}

/-- What a name for a type binds is the entry of the first name on its left side. -/
theorem aliasBinding_accounted (label : Label) (children : List Cst) (owner : Option Path)
    (path : Path) :
    Accounted owner (aliasBinding text children)
      ((Cst.node label children).steps.flatMap fun step =>
        if step.isFirstIn "left" then
          Standing.entries text ⟨.typeName step.child.label.line, owner, path ++ [step.before.length]⟩
            step.child
        else []) := by
  rcases Cst.exists_first label [] children (fun label => label.field == some "left") rfl with
    ⟨none, nowhere⟩ | ⟨step, _, _, found, _, given⟩
  · have nothing : aliasBinding text children = [] := by
      simp only [aliasBinding, Cst.firstInField?, none]
    rw [nothing, List.flatMap_eq_nil_iff.mpr fun step member => by
      rw [Step.isFirstIn, nowhere step member]
      rfl]
    exact Accounted.nil
  · -- Of the steps, only the one to the left side enters the context of a name for a type.
    have entered := given Entry fun step => Standing.entries text
      ⟨.typeName step.child.label.line, owner, path ++ [step.before.length]⟩ step.child
    refine Accounted.perm ?_ (List.Perm.of_eq entered.symm)
    rw [Standing.entries_typeName]
    simp only [aliasBinding, Cst.firstInField?, found]
    cases namesIn text step.child with
    | nil => exact Accounted.nil
    | cons name rest => exact Accounted.binding name _

theorem holdsDefinition_iff (children : List Cst) :
    holdsDefinition children = true ↔ ∃ definition,
      Cst.firstInField? "definition" children = some definition ∧
        Construct.ofKind definition.kind ∈ [Construct.function, Construct.classDef] := by
  unfold holdsDefinition
  cases Cst.firstInField? "definition" children <;> simp

theorem Construct.ofKind_eq_function_iff (kind : String) :
    ofKind kind = .function ↔ kind = "function_definition" := by
  fun_cases ofKind kind <;> simp_all

theorem Construct.ofKind_eq_classDef_iff (kind : String) :
    ofKind kind = .classDef ↔ kind = "class_definition" := by
  fun_cases ofKind kind <;> simp_all

theorem decorated?_eq (siblings : List Cst) :
    Cst.decorated? siblings = if holdsDefinition siblings then
      some (siblings.findIdx fun sibling => sibling.label.field == some "definition") else none := by
  unfold Cst.decorated? holdsDefinition
  cases Cst.firstInField? "definition" siblings with
  | none => rfl
  | some definition =>
    simp [Construct.ofKind_eq_function_iff, Construct.ofKind_eq_classDef_iff]

theorem below_load {label : Label} {children : List Cst} {standing : Standing}
    (reads : standing.context.forKind label.kind = .load) {step : Step}
    (member : step ∈ (Cst.node label children).steps) :
    standing.context.below step = (Construct.ofKind label.kind).below step := by
  have parent : step.parent = label := (Cst.of_mem_steps member).1
  rw [← parent] at reads ⊢
  exact NameContext.below_load reads

theorem owner_load {label : Label} {children : List Cst} {standing : Standing}
    (reads : standing.context.forKind label.kind = .load) {step : Step}
    (member : step ∈ (Cst.node label children).steps) :
    standing.ownerBelow step = match Construct.ofKind label.kind with
      | .function | .classDef => some standing.path
      | .decorated =>
        if holdsDefinition children then some (standing.path ++
          [children.findIdx fun child => child.label.field == some "definition"])
        else standing.owner
      | _ => standing.owner := by
  obtain ⟨parent, siblings, _⟩ := Cst.of_mem_steps member
  change step.parent = label at parent
  change step.siblings = children at siblings
  rw [Standing.ownerBelow_load (by rw [parent]; exact reads), parent, siblings, decorated?_eq]
  cases holdsDefinition children <;> rfl

/-- A definition that is read takes in the names of its decorators. -/
theorem definition_accounted {tree : Cst} (each : ∀ child ∈ tree.children, Accurate text child)
    {standing : Standing} (reads : standing.context.forKind tree.kind = .load)
    (isDefinition : Construct.ofKind tree.kind ∈ [Construct.function, Construct.classDef])
    {decorators : List Outline} {found : List Entry}
    (decorated : Accounted (some standing.path) decorators found) (owner : Option Path) :
    Accounted owner (readAs text (.definition decorators) tree)
      (found ++ standing.entries text tree) := by
  obtain ⟨label, children⟩ := tree
  change standing.context.forKind label.kind = .load at reads
  change Construct.ofKind label.kind ∈ _ at isDefinition
  rw [readAs_definition, Standing.entries_eq, Standing.standsFor_load reads, Cst.kind, Cst.label]
  simp only [List.mem_cons, List.not_mem_nil, or_false] at isDefinition
  rcases isDefinition with isFunction | isClass
  · -- What stands below belongs to the definition, which itself comes after its decorators.
    have body : Accounted (some standing.path)
        (readEach text (Role.ofFunction (children.map Cst.label)) children)
        (standing.entriesBelow text (.node label children)) := by
      refine named_accounted each (Plan.ofFunction_ordinary _) fun step member => ?_
      rw [below_load reads member, owner_load reads member, isFunction, apply_ite Role.context,
        apply_ite Role.context]
      exact ⟨rfl, rfl⟩
    rw [if_pos isFunction, isFunction]
    exact Accounted.perm (decorated.append body).function List.perm_middle.symm
  · have body : Accounted (some standing.path)
        (readEach text (Role.ofDefinition (children.map Cst.label)) children)
        (standing.entriesBelow text (.node label children)) := by
      refine named_accounted each (Plan.ofDefinition_ordinary _) fun step member => ?_
      rw [below_load reads member, owner_load reads member, isClass, apply_ite Role.context]
      exact ⟨rfl, rfl⟩
    rw [if_neg (by simp [isClass]), isClass]
    exact Accounted.perm (decorated.append body).classDef List.perm_middle.symm

/-- Next to a definition only decorators are read, and all names belong to the definition. -/
theorem below_decorated {label : Label} {children : List Cst} {standing : Standing}
    (reads : standing.context.forKind label.kind = .load)
    (isDecorated : Construct.ofKind label.kind = .decorated)
    (holds : holdsDefinition children = true) {step : Step}
    (member : step ∈ (Cst.node label children).steps) :
    standing.below step =
      { context :=
          if step.isFirstIn "definition" then .load
          else step.ifNamed (if step.child.kind == "decorator" then .load else .hidden)
        owner := some (standing.path ++
          [children.findIdx fun child => child.label.field == some "definition"])
        path := standing.path ++ [step.before.length] } := by
  have siblings : step.siblings = children := (Cst.of_mem_steps member).2.1
  rw [Standing.below, below_load reads member, owner_load reads member, isDecorated, Construct.below,
    siblings, decorated?_eq, if_pos holds]
  simp only [if_pos holds]
  rfl

def Role.ofDecorator (step : Step) : Role :=
  ifNamed step (if step.child.kind == "decorator" then .read else .skip)

/-- What stands below a decorated definition: the decorators, and the definition in its field. -/
theorem entriesBelow_decorated {label : Label} {children : List Cst} {standing : Standing}
    (reads : standing.context.forKind label.kind = .load)
    (isDecorated : Construct.ofKind label.kind = .decorated)
    (holds : holdsDefinition children = true) {owner : Path}
    (isOwner : owner = standing.path ++
      [children.findIdx fun child => child.label.field == some "definition"]) :
    (((Cst.node label children).steps.flatMap fun step =>
        Standing.entries text ⟨(Role.ofDecorator step).context, some owner,
          standing.path ++ [step.before.length]⟩ step.child) ++
      (Cst.node label children).steps.flatMap fun step =>
        if step.isFirstIn "definition" then (standing.below step).entries text step.child
        else []).Perm (standing.entriesBelow text (.node label children)) := by
  obtain ⟨definition, atField, isDefinition⟩ := (holdsDefinition_iff _).mp holds
  -- The two passes are compared step by step, where the order no longer matters.
  refine (List.flatMap_append_perm _ _ _).trans (List.Perm.of_eq ?_)
  refine List.flatMap_congr fun step member => ?_
  by_cases first : step.isFirstIn "definition" = true
  · -- The definition is no decorator, so the pass over the decorators skips it.
    have same : step.child = definition := by
      have search := Cst.find?_of_isFirst first
      rw [(Cst.of_mem_steps member).2.1] at search
      exact Option.some.inj (search.symm.trans atField)
    have kind : (step.child.kind == "decorator") = false := by
      rw [same, beq_eq_false_iff_ne]
      intro isDecorator
      rw [isDecorator] at isDefinition
      revert isDefinition
      decide
    have skipped : Role.ofDecorator step = .skip := by
      rw [Role.ofDecorator, kind]
      exact ite_self _
    rw [if_pos first, skipped, Role.context, Standing.entries_hidden, List.nil_append]
  · rw [if_neg first, List.append_nil, below_decorated reads isDecorated holds member, if_neg first,
      Role.ofDecorator, Role.context_ifNamed, apply_ite Role.context, isOwner]
    rfl

/-- A definition under decorators: the definition itself is read in its own field, and the decorators
are read as parts of it. -/
theorem decorated_accounted {label : Label} {children : List Cst}
    (each : ∀ child ∈ children, Accurate text child)
    (further : ∀ child ∈ children, ∀ grandchild ∈ child.children, Accurate text grandchild)
    {standing : Standing} (reads : standing.context.forKind label.kind = .load)
    (isDecorated : Construct.ofKind label.kind = .decorated)
    (holds : holdsDefinition children = true) {roles : List Role}
    (given : roles = Role.onNamed (fun label => if label.kind == "decorator" then .read else .skip)
      (children.map Cst.label)) (owner : Option Path) :
    Accounted owner
      (readEach text (Role.onField "definition" (.definition (readEach text roles children))
        (children.map Cst.label)) children)
      (standing.entriesBelow text (.node label children)) := by
  obtain ⟨definition, atField, isDefinition⟩ := (holdsDefinition_iff _).mp holds
  -- The definition is the child to which the first step in its field leads.
  rcases Cst.exists_first label [] children (fun label => label.field == some "definition") rfl with
    ⟨none, _⟩ | ⟨step, member, first, found, index, alone⟩
  · simp [Cst.firstInField?, none] at atField
  obtain rfl : step.child = definition := Option.some.inj (found.symm.trans atField)
  rw [List.length_nil, Nat.zero_add] at index
  have isRead : (standing.below step).context.forKind step.child.kind = .load := by
    rw [below_decorated reads isDecorated holds member, Step.isFirstIn, if_pos first]
    rfl
  have ordinary : AllOrdinary roles := by
    rw [given]
    refine Role.onNamed_ordinary (fun label => ?_) _
    split <;> trivial
  have decorators : Accounted (some (standing.below step).path) (readEach text roles children) _ :=
    readEach_accounted each ordinary (given.trans (Role.onNamed_eq label [] children _)) _ standing.path
  -- The definition is read with its own children, two levels below.
  have decorated := definition_accounted (further step.child (Cst.of_mem_stepsFrom member).2.2) isRead
    isDefinition decorators owner
  rw [readEach_onField, atField]
  refine decorated.perm ?_
  rw [← alone Entry fun step => (standing.below step).entries text step.child]
  refine entriesBelow_decorated reads isDecorated holds ?_
  rw [← index]
  rfl

theorem fits_load {label : Label} {children : List Cst} {standing : Standing}
    (reads : standing.context.forKind label.kind = .load) {construct : Construct}
    (kind : Construct.ofKind label.kind = construct)
    (inner : construct ∉ [Construct.function, Construct.classDef, Construct.decorated]) :
    ∀ step ∈ (Cst.node label children).steps, standing.context.below step = construct.below step ∧
      standing.ownerBelow step = standing.owner := by
  intro step member
  rw [below_load reads member, owner_load reads member, kind]
  cases construct <;> simp_all

/-- A name for a type: the binding of its first name, and then what its right side gives. -/
theorem typeAlias_accounted {label : Label} {children : List Cst}
    (each : ∀ child ∈ children, Accurate text child) {standing : Standing}
    (fits : ∀ step ∈ (Cst.node label children).steps,
      standing.context.below step = Construct.typeAlias.below step ∧
        standing.ownerBelow step = standing.owner) :
    Accounted standing.owner (aliasBinding text children ++
      readEach text (Role.onField "right" .read (children.map Cst.label)) children)
      (standing.entriesBelow text (.node label children)) := by
  refine Accounted.perm ((aliasBinding_accounted label children _ standing.path).append
    (readEach_accounted each (Role.onFirst_ordinary (by trivial) _ _)
      (Role.onField_eq label [] children _ _ rfl) _ standing.path)) ?_
  refine (List.flatMap_append_perm _ _ _).trans (List.Perm.of_eq ?_)
  refine List.flatMap_congr fun step member => ?_
  obtain ⟨context, owned⟩ := fits step member
  rw [Standing.below, context, owned, Construct.below]
  by_cases left : step.isFirstIn "left" = true
  · -- A child stands in one field, so the left side is not read a second time.
    have right : step.isFirstIn "right" = false := Cst.isFirstIn_of_ne left (by decide)
    rw [if_pos left, if_pos left, right]
    exact (congrArg (_ ++ ·) (Standing.entries_hidden text _ _ step.child)).trans
      (List.append_nil _)
  · rw [if_neg left, if_neg left, List.nil_append, apply_ite Role.context]
    rfl

/-- A construct that is read, and is neither a name nor a definition, gives what stands below it. -/
theorem construct_accounted {label : Label} {children : List Cst}
    (each : ∀ child ∈ children, Accurate text child) {standing : Standing}
    (reads : standing.context.forKind label.kind = .load)
    (inner : Construct.ofKind label.kind ∉
      [Construct.name, Construct.function, Construct.classDef, Construct.decorated]) :
    Accounted standing.owner ((Plan.ofRead text label children).parts text label children)
      (standing.entriesBelow text (.node label children)) := by
  have fits : ∀ construct, Construct.ofKind label.kind = construct →
      construct ∉ [Construct.function, Construct.classDef, Construct.decorated] →
      ∀ step ∈ (Cst.node label children).steps, standing.context.below step = construct.below step ∧
        standing.ownerBelow step = standing.owner :=
    fun construct kind inner => fits_load reads kind inner
  unfold Plan.ofRead
  cases construct : Construct.ofKind label.kind with
  | name | function | classDef | decorated => simp [construct] at inner
  | nameless =>
    rw [Standing.entriesBelow_hidden fun step member => (fits _ construct (by simp) step member).1]
    exact Accounted.nil
  | binds field =>
    exact group_accounted (withField_accounted each (by trivial) (fits _ construct (by simp)))
  | skips field =>
    exact group_accounted (withField_accounted each (by trivial) (fits _ construct (by simp)))
  -- The role of a child is chosen by its field and its kind, as its context is.
  | withItem =>
    refine group_accounted (named_accounted each (Role.onNamed_ordinary (fun label => ?_) _)
      fun step member => ?_)
    · split
      · trivial
      · split <;> trivial
    · rw [apply_ite Role.context, apply_ite Role.context]
      exact fits _ construct (by simp) step member
  -- What a handler skips is found by a search along the children.
  | handler =>
    refine group_accounted (pass_accounted each (Role.ofHandler_ordinary false _)
      (Role.ofHandler_eq label [] children false rfl) fun step member => ?_)
    rw [Role.context_ifNamed, apply_ite Role.context]
    exact fits _ construct (by simp) step member
  | lambda =>
    rw [group_pair]
    exact (fields_accounted each (by decide) (by trivial) (by trivial)
      (fits _ construct (by simp))).groupUnlessEmpty _
  | deletion =>
    exact group_accounted (uniform_accounted each (by trivial) (fits _ construct (by simp)))
  | caseClause =>
    refine group_accounted (named_accounted each (Role.onNamed_ordinary (fun label => ?_) _)
      fun step member => ?_)
    · split <;> trivial
    · rw [apply_ite Role.context]
      exact fits _ construct (by simp) step member
  -- The binding is a part of the node itself, in front of what the pass gives.
  | typeAlias =>
    have parts : (Plan.group (aliasBinding text children)
        [Role.onField "right" .read (children.map Cst.label)]).parts text label children =
          Outline.groupUnlessEmpty label.kind (aliasBinding text children ++
            readEach text (Role.onField "right" .read (children.map Cst.label)) children) := by
      simp [Plan.parts]
    rw [parts]
    exact (typeAlias_accounted each (fits _ construct (by simp))).groupUnlessEmpty _
  | plain =>
    exact group_accounted (uniform_accounted each (by trivial) (fits _ construct (by simp)))

theorem ofRead_definition {label : Label} (children : List Cst)
    (isDefinition : Construct.ofKind label.kind ∈ [Construct.function, Construct.classDef]) :
    (Plan.ofRead text label children).parts text label children =
      readAs text (.definition []) (.node label children) := by
  rw [readAs_definition, Plan.ofRead]
  simp only [List.mem_cons, List.not_mem_nil, or_false] at isDefinition
  rcases isDefinition with isFunction | isClass
  · rw [isFunction, if_pos rfl]
    rfl
  · rw [isClass, if_neg (by decide : ¬ Construct.classDef = .function)]
    rfl

/-- A node that is read gives the parts that its nodes stand for. -/
theorem read_accounted {label : Label} {children : List Cst}
    (each : ∀ child ∈ children, Accurate text child)
    (further : ∀ child ∈ children, ∀ grandchild ∈ child.children, Accurate text grandchild)
    {standing : Standing} (reads : standing.context.forKind label.kind = .load) :
    Accounted standing.owner ((Plan.ofRead text label children).parts text label children)
      (standing.entries text (.node label children)) := by
  have own : standing.standsFor? text (.node label children) =
      (Construct.ofKind label.kind).standsFor? text standing label := Standing.standsFor_load reads
  have context : ∀ step ∈ (Cst.node label children).steps,
      standing.context.below step = (Construct.ofKind label.kind).below step :=
    fun step => below_load reads
  -- Definitions, names and decorated definitions have entries or owners of their own.
  by_cases isDefinition : Construct.ofKind label.kind ∈ [Construct.function, Construct.classDef]
  · rw [ofRead_definition children isDefinition]
    have inner : ∀ child ∈ (Cst.node label children).children, Accurate text child := each
    exact definition_accounted inner reads isDefinition Accounted.nil standing.owner
  rw [Standing.entries_eq, own]
  by_cases isName : Construct.ofKind label.kind = .name
  · rw [isName] at context
    rw [Standing.entriesBelow_hidden context, Plan.ofRead, isName]
    exact Accounted.reference (text label) label.line
  by_cases isDecorated : Construct.ofKind label.kind = .decorated
  · have owned : ∀ step ∈ (Cst.node label children).steps, standing.ownerBelow step = _ :=
      fun step => owner_load reads
    rw [isDecorated] at context owned
    rw [Plan.ofRead, isDecorated]
    by_cases holds : holdsDefinition children = true
    · simp only [if_pos holds]
      exact decorated_accounted each further reads isDecorated holds rfl standing.owner
    · simp only [if_neg holds] at owned ⊢
      refine group_accounted (uniform_accounted each (by trivial) fun step member =>
        ⟨?_, owned step member⟩)
      have siblings : step.siblings = children := (Cst.of_mem_steps member).2.1
      rw [context step member, Construct.below, siblings, decorated?_eq, if_neg holds]
      rfl
  · -- The other constructs stand for nothing themselves.
    have inner : Construct.ofKind label.kind ∉
        [Construct.name, Construct.function, Construct.classDef, Construct.decorated] := by
      simp_all
    have nothing : (Construct.ofKind label.kind).standsFor? text standing label = none := by
      cases construct : Construct.ofKind label.kind <;> simp_all [Construct.standsFor?]
    rw [nothing]
    exact construct_accounted each reads inner

end ScopeCheck
