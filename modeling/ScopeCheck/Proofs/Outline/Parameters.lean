import ScopeCheck.Proofs.Outline.Construct
import ScopeCheck.Proofs.Outline.Reading

/-!
# The parameters of a function

A parameter list is passed over twice, for the names that it binds and for the annotations and defaults
that are read. The first pass finds the pattern of a parameter in a field in some kinds and as the first
child without a field in another.
-/

namespace ScopeCheck

open Cst (Label)

/-- The parts of a parameter. A separator has none. -/
structure Parameter where
  /-- A name, or names with stars or in brackets. -/
  pattern : Option Cst := none
  annotation : Option Cst := none
  /-- The default. -/
  value : Option Cst := none

namespace Parameter

/-- The identifiers that the parameter binds. -/
def names (parameter : Parameter) : List Label := parameter.pattern.toList.flatMap Cst.identifiers

/-- The expressions of the parameter. -/
def details (parameter : Parameter) : List Cst :=
  parameter.annotation.toList ++ parameter.value.toList

/-- The identifiers of the parameter, in document order. -/
def identifiers (parameter : Parameter) : List Label :=
  parameter.names ++ parameter.details.flatMap Cst.identifiers

end Parameter

/-- The parameters that are a pattern and nothing else. -/
def barePatterns : List String :=
  ["identifier", "list_splat_pattern", "dictionary_splat_pattern", "tuple_pattern"]

def separators : List String := ["keyword_separator", "positional_separator"]

/-- The nodes that are parameters. -/
inductive IsParameter : Cst → Parameter → Prop where
  | bare {tree : Cst} (kind : tree.kind ∈ barePatterns) : IsParameter tree { pattern := tree }
  | separator {tree : Cst} (kind : tree.kind ∈ separators) (nameless : tree.identifiers = []) :
    IsParameter tree {}
  | annotated {tree pattern annotation : Cst} (kind : tree.kind = "typed_parameter")
    (parts : tree.MadeOf [pattern, annotation]) (first : tree.children.head? = some pattern)
    (fields : [pattern, annotation].map (·.label.field) = [none, some "type"]) :
    IsParameter tree { pattern, annotation }
  | withDefault {tree pattern value : Cst} (kind : tree.kind = "default_parameter")
    (parts : tree.MadeOf [pattern, value])
    (fields : [pattern, value].map (·.label.field) = [some "name", some "value"]) :
    IsParameter tree { pattern, value }
  | annotatedWithDefault {tree pattern annotation value : Cst}
    (kind : tree.kind = "typed_default_parameter")
    (parts : tree.MadeOf [pattern, annotation, value])
    (fields : [pattern, annotation, value].map (·.label.field) =
      [some "name", some "type", some "value"]) :
    IsParameter tree { pattern, annotation, value }

/-- A parameter list, of a function or of a lambda. -/
structure ListsParameters (list : Cst) (parameters : List Parameter) : Prop where
  kind : list.kind ∈ ["parameters", "lambda_parameters"]
  each : ∃ parts, list.MadeOf parts ∧ List.Forall₂ IsParameter parts parameters

structure FunctionParts where
  name : Cst
  typeParameters : Option Cst := none
  list : Cst
  /-- The annotation of what the function returns. -/
  returned : Option Cst := none
  body : Cst

structure IsFunction (tree : Cst) (parts : FunctionParts) : Prop where
  kind : tree.kind = "function_definition"
  made : tree.MadeOf ([parts.name] ++ parts.typeParameters.toList ++ [parts.list] ++
    parts.returned.toList ++ [parts.body])
  name : parts.name.label.field = some "name"
  typeParameters : ∀ part ∈ parts.typeParameters, part.label.field = some "type_parameters"
  list : parts.list.label.field = some "parameters"
  returned : ∀ part ∈ parts.returned, part.label.field = some "return_type"
  body : parts.body.label.field = some "body"

/-- A definition under some decorators. -/
structure IsDecorated (tree : Cst) (decorators : List Cst) (definition : Cst) : Prop where
  kind : tree.kind = "decorated_definition"
  made : tree.MadeOf (decorators ++ [definition])
  decorators : ∀ part ∈ decorators, part.kind = "decorator" ∧ part.label.field = none
  definition : definition.label.field = some "definition"

/-- A lambda. One without parameters has no parameter list. -/
structure IsLambda (tree : Cst) (list : Option Cst) (body : Cst) : Prop where
  kind : tree.kind = "lambda"
  made : tree.MadeOf (list.toList ++ [body])
  list : ∀ part ∈ list, part.label.field = some "parameters"
  body : body.label.field = some "body"

section Names

variable {text : Label → String}

theorem namesInNamed_eq (trees : List Cst) :
    namesInNamed text trees = (trees.filter Cst.named).flatMap (namesIn text) := by
  induction trees with
  | nil => rfl
  | cons tree rest ih =>
    rw [namesInNamed, ih]
    cases named : tree.named with
    | true => rw [if_pos rfl, List.filter_cons_of_pos named, List.flatMap_cons]
    | false => rw [if_neg Bool.false_ne_true, List.filter_cons_of_neg (by simp [named])]

/-- The names below a node are the texts of its identifiers. -/
theorem namesIn_eq {tree : Cst} (exposed : tree.NamesExposed) :
    namesIn text tree = tree.identifiers.map text := by
  induction tree using Cst.induction with
  | node label children ih =>
    have own : (Cst.node label children).identifiers =
        (if label.kind = "identifier" then [label] else []) ++ children.flatMap Cst.identifiers :=
      Cst.identifiers_eq _
    rw [namesIn, own]
    by_cases isName : label.kind = "identifier"
    · -- The search stops at an identifier, below which there is nothing.
      have leaf : children = [] := (exposed _ (Cst.root_mem_nodes _) isName).1
      rw [if_pos (beq_iff_eq.mpr isName), if_pos isName, leaf]
      rfl
    · have below : (children.filter Cst.named).flatMap (namesIn text) =
          (children.filter Cst.named).flatMap fun child => child.identifiers.map text :=
        List.flatMap_congr fun child member =>
          ih child (List.mem_of_mem_filter member) (exposed.child (List.mem_of_mem_filter member))
      have tokens : ∀ child ∈ children, child.named = false → child.identifiers.map text = [] := by
        intro child member token
        rw [exposed.identifiers_of_token member token, List.map_nil]
      rw [if_neg (mt beq_iff_eq.mp isName), if_neg isName, namesInNamed_eq, below,
        Cst.flatMap_filter_of_quiet tokens, List.nil_append, List.map_flatMap]

theorem namesIn_identifier {tree : Cst} (isName : tree.kind = "identifier") :
    namesIn text tree = [text tree.label] := by
  obtain ⟨label, children⟩ := tree
  have own : label.kind = "identifier" := isName
  rw [namesIn, if_pos (beq_iff_eq.mpr own)]
  rfl

theorem parameterName_bare {tree : Cst} (kind : tree.kind ∈ barePatterns) :
    parameterName text tree = namesIn text tree := by
  simp only [barePatterns, List.mem_cons, List.not_mem_nil, or_false] at kind
  -- A name is taken as it is, and the other patterns are searched.
  rcases kind with isName | isList | isDictionary | isTuple
  · rw [parameterName, isName, namesIn_identifier isName]
    rfl
  · rw [parameterName, isList]
    rfl
  · rw [parameterName, isDictionary]
    rfl
  · rw [parameterName, isTuple]
    rfl

end Names

def Role.ofParameter (kind : String) : Role :=
  if detailedParameters.contains kind then .parameter else .skip

section Passes

variable {text : Label → String}

theorem readEach_inField (field : String) (role : Role) (children : List Cst) :
    readEach text (Role.onField field role (children.map Cst.label)) children =
      (Cst.firstInField? field children).toList.flatMap (readAs text role) := by
  rw [readEach_onField]
  cases Cst.firstInField? field children with
  | none => rfl
  | some child => exact (List.append_nil _).symm

/-- Of a parameter, its annotation is read and then its default. -/
theorem readAs_parameter (tree : Cst) :
    readAs text .parameter tree =
      ((tree.childInField? "type").toList ++ (tree.childInField? "value").toList).flatMap
        (readAs text .read) := by
  obtain ⟨label, children⟩ := tree
  rw [List.flatMap_append, Cst.childInField?, Cst.childInField?, Cst.children, ← readEach_inField,
    ← readEach_inField, readAs_node]
  exact splice_pair label children _ _

/-- Of a parameter list, only the parameters that can have an annotation or a default are read. -/
theorem readAs_parameters (list : Cst) :
    readAs text .parameters list =
      (list.children.filter Cst.named).flatMap fun child =>
        readAs text (Role.ofParameter child.kind) child := by
  obtain ⟨label, children⟩ := list
  rw [readAs_node]
  exact (splice_single label children _).trans (readEach_onNamed _ children)

end Passes

namespace IsParameter

variable {text : Label → String} {tree : Cst} {parameter : Parameter}

/-- The first pass takes the names that a parameter binds. -/
theorem names (form : IsParameter tree parameter) (exposed : tree.NamesExposed) :
    parameterName text tree = parameter.names.map text := by
  have pattern_names : ∀ {pattern : Cst} {parts : List Cst}, tree.MadeOf parts → pattern ∈ parts →
      namesIn text pattern = pattern.identifiers.map text :=
    fun made member => namesIn_eq (exposed.child (made.mem_iff.mp member).1)
  have bound : ∀ pattern : Cst, (some pattern).toList.flatMap Cst.identifiers = pattern.identifiers :=
    fun _ => List.append_nil _
  rw [Parameter.names]
  -- The kind alone decides where the names are looked for.
  cases form with
  | bare kind => rw [bound, parameterName_bare kind, namesIn_eq exposed]
  | separator kind =>
    simp only [separators, List.mem_cons, List.not_mem_nil, or_false] at kind
    rcases kind with kind | kind
    · rw [parameterName, kind]
      rfl
    · rw [parameterName, kind]
      rfl
  | @annotated pattern annotation kind parts first fields =>
    have isPattern : pattern ∈ [pattern, annotation] := List.mem_cons_self
    have found : (tree.children.find? fun child => child.named && child.label.field.isNone) =
        some pattern := by
      obtain ⟨rest, children⟩ := List.head?_eq_some_iff.mp first
      have named : pattern.named = true := (parts.mem_iff.mp isPattern).2.1
      rw [children]
      refine List.find?_cons_of_pos ?_
      simp_all
    rw [bound, parameterName, kind, ← pattern_names parts isPattern]
    simp only [found]
  | @withDefault pattern value kind parts fields =>
    have found : tree.childInField? "name" = some pattern := by
      rw [Cst.childInField?, parts.firstInField?_eq]
      simp_all [Cst.firstInField?]
    rw [bound, parameterName, kind, ← pattern_names parts List.mem_cons_self]
    simp only [found]
  | @annotatedWithDefault pattern annotation value kind parts fields =>
    have found : tree.childInField? "name" = some pattern := by
      rw [Cst.childInField?, parts.firstInField?_eq]
      simp_all [Cst.firstInField?]
    rw [bound, parameterName, kind, ← pattern_names parts List.mem_cons_self]
    simp only [found]

theorem not_detailed : ∀ kind ∈ barePatterns ++ separators, kind ∉ Role.detailedParameters := by
  decide

/-- The second pass takes the annotation of a parameter and its default. -/
theorem details (form : IsParameter tree parameter) :
    readAs text (Role.ofParameter tree.kind) tree =
      parameter.details.flatMap (readAs text .read) := by
  have skipped : tree.kind ∈ barePatterns ++ separators →
      readAs text (Role.ofParameter tree.kind) tree = [] := by
    intro other
    rw [Role.ofParameter, if_neg (mt List.contains_iff_mem.mp (not_detailed _ other)), readAs_skip]
  have taken : tree.kind ∈ Role.detailedParameters →
      tree.childInField? "type" = parameter.annotation →
      tree.childInField? "value" = parameter.value →
      readAs text (Role.ofParameter tree.kind) tree =
        parameter.details.flatMap (readAs text .read) := by
    intro detailed annotation value
    rw [Role.ofParameter, if_pos (List.contains_iff_mem.mpr detailed), readAs_parameter, annotation,
      value]
    rfl
  cases form with
  | bare kind => exact skipped (List.mem_append_left _ kind)
  | separator kind => exact skipped (List.mem_append_right _ kind)
  | annotated kind parts first fields =>
    simp only [List.map_cons, List.map_nil, List.cons.injEq, and_true] at fields
    exact taken (by simp [kind, Role.detailedParameters])
      ((parts.firstInField?_eq "type").trans (by simp [Cst.firstInField?, fields]))
      ((parts.firstInField?_eq "value").trans (by simp [Cst.firstInField?, fields]))
  | withDefault kind parts fields =>
    simp only [List.map_cons, List.map_nil, List.cons.injEq, and_true] at fields
    exact taken (by simp [kind, Role.detailedParameters])
      ((parts.firstInField?_eq "type").trans (by simp [Cst.firstInField?, fields]))
      ((parts.firstInField?_eq "value").trans (by simp [Cst.firstInField?, fields]))
  | annotatedWithDefault kind parts fields =>
    simp only [List.map_cons, List.map_nil, List.cons.injEq, and_true] at fields
    exact taken (by simp [kind, Role.detailedParameters])
      ((parts.firstInField?_eq "type").trans (by simp [Cst.firstInField?, fields]))
      ((parts.firstInField?_eq "value").trans (by simp [Cst.firstInField?, fields]))

theorem identifiers_eq (form : IsParameter tree parameter) :
    tree.identifiers = parameter.identifiers := by
  rw [Parameter.identifiers, Parameter.names, Parameter.details]
  cases form with
  | bare kind => simp
  | separator kind nameless => exact nameless
  | annotated kind parts first fields => simp [parts.identifiers_eq, kind]
  | withDefault kind parts fields => simp [parts.identifiers_eq, kind]
  | annotatedWithDefault kind parts fields => simp [parts.identifiers_eq, kind]

end IsParameter

theorem flatMap_eq_of_forall₂ {α β γ : Type} {fits : α → β → Prop} {left : α → List γ}
    {right : β → List γ} {items : List α} {others : List β}
    (each : List.Forall₂ fits items others)
    (same : ∀ item ∈ items, ∀ other, fits item other → left item = right other) :
    items.flatMap left = others.flatMap right := by
  induction each with
  | nil => rfl
  | cons first rest ih =>
    rw [List.flatMap_cons, List.flatMap_cons, same _ List.mem_cons_self _ first,
      ih fun item member => same item (List.mem_cons_of_mem _ member)]

namespace ListsParameters

variable {text : Label → String} {list : Cst} {parameters : List Parameter}

theorem names (lists : ListsParameters list parameters) (exposed : list.NamesExposed) :
    parameterNames text list = (parameters.flatMap Parameter.names).map text := by
  obtain ⟨parts, made, each⟩ := lists.each
  -- A comment between parameters binds nothing, so only the parameters count.
  have comments : ∀ child : Cst, child.kind = "comment" → child.label.field = none →
      parameterName text child = [] := by
    intro child comment _
    rw [parameterName, comment]
    rfl
  rw [parameterNames, made.flatMap_named comments, List.map_flatMap]
  refine flatMap_eq_of_forall₂ each fun part member parameter form => ?_
  exact form.names (exposed.child (made.mem_iff.mp member).1)

theorem details (lists : ListsParameters list parameters) :
    readAs text .parameters list =
      (parameters.flatMap Parameter.details).flatMap (readAs text .read) := by
  obtain ⟨parts, made, each⟩ := lists.each
  have comments : ∀ child : Cst, child.kind = "comment" → child.label.field = none →
      readAs text (Role.ofParameter child.kind) child = [] := by
    intro child comment _
    rw [comment]
    exact readAs_skip child
  rw [readAs_parameters, made.flatMap_named comments, List.flatMap_assoc]
  exact flatMap_eq_of_forall₂ each fun part _ parameter form => form.details

theorem identifiers_eq (lists : ListsParameters list parameters) :
    list.identifiers = parameters.flatMap Parameter.identifiers := by
  obtain ⟨parts, made, each⟩ := lists.each
  have other : list.kind ≠ "identifier" := by
    intro isName
    simpa [isName] using lists.kind
  rw [made.identifiers_eq other]
  exact flatMap_eq_of_forall₂ each fun part _ parameter form => form.identifiers_eq

end ListsParameters

section Functions

variable {text : Label → String} {parameters : List Parameter}

namespace IsFunction

variable {tree : Cst} {parts : FunctionParts}

theorem definedName_eq (isFunction : IsFunction tree parts) :
    definedName text tree.children = text parts.name.label := by
  have found : Cst.firstInField? "name" tree.children = some parts.name := by
    rw [isFunction.made.firstInField?_eq]
    simp [Cst.firstInField?, isFunction.name]
  rw [definedName, found]

theorem definedParameters_eq (isFunction : IsFunction tree parts) :
    definedParameters text tree.children = parameterNames text parts.list := by
  have named : parts.list.named = true := (isFunction.made.mem_iff.mp (by simp)).2.1
  have typeParameters : (parts.typeParameters.toList.filter fun part =>
      part.label.field == some "parameters") = [] := by
    rw [List.filter_eq_nil_iff]
    intro part member
    simp [isFunction.typeParameters part (Option.mem_toList.mp member)]
  have returned : (parts.returned.toList.filter fun part =>
      part.label.field == some "parameters") = [] := by
    rw [List.filter_eq_nil_iff]
    intro part member
    simp [isFunction.returned part (Option.mem_toList.mp member)]
  -- One part alone stands in the field, so it is the last one there.
  have found : (tree.children.filter fun part =>
      part.named && part.label.field == some "parameters") = [parts.list] := by
    rw [← List.filter_filter, isFunction.made.filter_inField]
    simp [List.filter_append, typeParameters, returned, isFunction.name, isFunction.list,
      isFunction.body, named]
  rw [definedParameters, found]
  rfl

/-- The name of a function and its type parameters are skipped. -/
theorem readEach_eq (isFunction : IsFunction tree parts) :
    readEach text (Role.ofFunction (tree.children.map Cst.label)) tree.children =
      readAs text .parameters parts.list ++
        (parts.returned.toList ++ [parts.body]).flatMap (readAs text .read) := by
  -- What a child gives depends on its field alone.
  let give (child : Cst) : List Outline := readAs text
    (if child.label.field == some "name" || child.label.field == some "type_parameters" then .skip
    else if child.label.field == some "parameters" then .parameters
    else .read) child
  have comments : ∀ child : Cst, child.kind = "comment" → child.label.field = none →
      give child = [] := by
    intro child comment field
    simp only [give, field]
    exact readAs_comment comment
  -- The name and the type parameters give nothing, and all other parts what they give when read.
  have name : give parts.name = [] := by
    simp only [give, isFunction.name]
    exact readAs_skip _
  have typeParameters : parts.typeParameters.toList.flatMap give = [] := by
    refine List.flatMap_eq_nil_iff.mpr fun part member => ?_
    simp only [give, isFunction.typeParameters part (Option.mem_toList.mp member)]
    exact readAs_skip _
  have list : give parts.list = readAs text .parameters parts.list := by
    simp only [give, isFunction.list]
    rfl
  have returned : parts.returned.toList.flatMap give =
      parts.returned.toList.flatMap (readAs text .read) := by
    refine List.flatMap_congr fun part member => ?_
    simp only [give, isFunction.returned part (Option.mem_toList.mp member)]
    rfl
  have body : give parts.body = readAs text .read parts.body := by
    simp only [give, isFunction.body]
    rfl
  calc readEach text (Role.ofFunction (tree.children.map Cst.label)) tree.children
    _ = (tree.children.filter Cst.named).flatMap give := readEach_onNamed _ _
    _ = _ := isFunction.made.flatMap_named comments
    _ = _ := by
      simp only [List.flatMap_append, List.flatMap_cons, List.flatMap_nil, name, typeParameters, list,
        returned, body, List.nil_append, List.append_nil, List.append_assoc]

/-- A function whose decorators were read already. -/
theorem readAs_definition (isFunction : IsFunction tree parts)
    (lists : ListsParameters parts.list parameters) (exposed : parts.list.NamesExposed)
    (decorators : List Outline) :
    readAs text (.definition decorators) tree =
      [.function (text parts.name.label) tree.label.line
        ((parameters.flatMap Parameter.names).map text)
        (decorators ++ (parameters.flatMap Parameter.details ++ parts.returned.toList ++
          [parts.body]).flatMap (readAs text .read))] := by
  have plan : readAs text (.definition decorators) tree =
      [.function (definedName text tree.children) tree.label.line
        (definedParameters text tree.children)
        (decorators ++ readEach text (Role.ofFunction (tree.children.map Cst.label))
          tree.children)] := by
    have kind : Construct.ofKind tree.label.kind = .function :=
      (Construct.ofKind_eq_function_iff _).mpr isFunction.kind
    obtain ⟨label, children⟩ := tree
    exact (ScopeCheck.readAs_definition decorators label children).trans (if_pos kind)
  rw [plan, isFunction.definedName_eq, isFunction.definedParameters_eq, lists.names exposed,
    isFunction.readEach_eq, lists.details, ← List.flatMap_append, List.append_assoc]

/-- A function without decorators is read as one that has none. -/
theorem readAs_read (isFunction : IsFunction tree parts) :
    readAs text .read tree = readAs text (.definition []) tree := by
  have kind : Construct.ofKind tree.label.kind = .function :=
    (Construct.ofKind_eq_function_iff _).mpr isFunction.kind
  obtain ⟨label, children⟩ := tree
  rw [readAs_node]
  exact ofRead_definition children (by simp [show Construct.ofKind label.kind = _ from kind])

end IsFunction

/-- The definition below a decorated node begins with what the decorators give, in their order. -/
theorem IsDecorated.readAs_read {tree definition : Cst} {decorators : List Cst}
    {parts : FunctionParts} (isDecorated : IsDecorated tree decorators definition)
    (isFunction : IsFunction definition parts) :
    readAs text .read tree =
      readAs text (.definition (decorators.flatMap (readAs text .read))) definition := by
  -- No decorator stands in the field of the definition.
  have atField : Cst.firstInField? "definition" tree.children = some definition := by
    have none : decorators.find? (fun part => part.label.field == some "definition") = none :=
      List.find?_eq_none.mpr fun part member => by simp [(isDecorated.decorators part member).2]
    rw [isDecorated.made.firstInField?_eq, Cst.firstInField?, List.find?_append, none,
      Option.none_or]
    simp [isDecorated.definition]
  -- The node is taken for a decorated definition only because of what the field holds.
  have holds : holdsDefinition tree.children = true := by
    refine (holdsDefinition_iff _).mpr ⟨definition, atField, ?_⟩
    simp [(Construct.ofKind_eq_function_iff _).mpr isFunction.kind]
  have decorations : readEach text (Role.onNamed
      (fun label => if label.kind == "decorator" then .read else .skip)
      (tree.children.map Cst.label)) tree.children = decorators.flatMap (readAs text .read) := by
    let give (child : Cst) : List Outline :=
      readAs text (if child.label.kind == "decorator" then .read else .skip) child
    have comments : ∀ child : Cst, child.kind = "comment" → child.label.field = none →
        give child = [] := by
      intro child comment _
      simp only [give, show child.label.kind = _ from comment]
      exact readAs_skip child
    have each : decorators.flatMap give = decorators.flatMap (readAs text .read) := by
      refine List.flatMap_congr fun part member => ?_
      simp only [give, show part.label.kind = _ from (isDecorated.decorators part member).1]
      rfl
    have function : give definition = [] := by
      simp only [give, show definition.label.kind = _ from isFunction.kind]
      exact readAs_skip definition
    calc readEach text (Role.onNamed _ (tree.children.map Cst.label)) tree.children
      _ = (tree.children.filter Cst.named).flatMap give := readEach_onNamed _ _
      _ = (decorators ++ [definition]).flatMap give := isDecorated.made.flatMap_named comments
      _ = decorators.flatMap (readAs text .read) := by
        rw [List.flatMap_append, each, List.flatMap_singleton, function, List.append_nil]
  have kind : Construct.ofKind tree.label.kind = .decorated := by
    rw [show tree.label.kind = _ from isDecorated.kind]
    rfl
  obtain ⟨label, children⟩ := tree
  rw [readAs_node, Plan.of, Plan.ofRead, show Construct.ofKind label.kind = _ from kind]
  simp only [Cst.children] at holds atField decorations
  simp only [if_pos holds]
  rw [Plan.parts, readEach_inField, atField, decorations]
  exact List.append_nil _

/-- A lambda is a group of what its parameter list gives and what its body gives. -/
theorem IsLambda.readAs_read {lambda body : Cst} {list : Option Cst}
    (isLambda : IsLambda lambda list body) :
    readAs text .read lambda = Outline.groupUnlessEmpty lambda.kind
      (list.toList.flatMap (readAs text .parameters) ++ readAs text .read body) := by
  -- The list and the body are found in their fields; the list may be missing.
  have atParameters : Cst.firstInField? "parameters" lambda.children = list := by
    rw [isLambda.made.firstInField?_eq, Cst.firstInField?]
    cases given : list with
    | none => simp [isLambda.body]
    | some part => simp [isLambda.list part given]
  have atBody : Cst.firstInField? "body" lambda.children = some body := by
    rw [isLambda.made.firstInField?_eq, Cst.firstInField?]
    cases given : list with
    | none => simp [isLambda.body]
    | some part => simp [isLambda.list part given, isLambda.body]
  have kind : Construct.ofKind lambda.label.kind = .lambda := by
    rw [show lambda.label.kind = _ from isLambda.kind]
    rfl
  obtain ⟨label, children⟩ := lambda
  simp only [Cst.children] at atParameters atBody
  rw [readAs_node, Plan.of, Plan.ofRead, show Construct.ofKind label.kind = _ from kind]
  simp only [group_pair]
  rw [readEach_inField, readEach_inField, atParameters, atBody, Option.toList_some,
    List.flatMap_singleton]
  rfl

end Functions

/-- The identifiers of a parameter list are, parameter by parameter, those that the parameter binds and
those of its annotation and its default. In the outline, a function has the first as its parameters,
in document order, and the others only in its children: these are what the decorators give, the
annotation and the default of each parameter in turn, what the function returns, and its body. It
stands at its own line and not at that of a decorator. A lambda has the same annotations and defaults
in front of its body, and nothing else. -/
theorem outline_of_parameters (text : Label → String) {list : Cst} {parameters : List Parameter}
    (lists : ListsParameters list parameters) (exposed : list.NamesExposed) :
    list.identifiers = parameters.flatMap (fun parameter =>
      parameter.names ++ parameter.details.flatMap Cst.identifiers) ∧
    (∀ definition parts, IsFunction definition parts → parts.list = list →
      readAs text .read definition =
        [.function (text parts.name.label) definition.label.line
          ((parameters.flatMap Parameter.names).map text)
          ((parameters.flatMap Parameter.details ++ parts.returned.toList ++ [parts.body]).flatMap
            (readAs text .read))] ∧
      ∀ tree decorators, IsDecorated tree decorators definition →
        readAs text .read tree =
          [.function (text parts.name.label) definition.label.line
            ((parameters.flatMap Parameter.names).map text)
            ((decorators ++ parameters.flatMap Parameter.details ++ parts.returned.toList ++
              [parts.body]).flatMap (readAs text .read))]) ∧
    ∀ lambda heading body, IsLambda lambda heading body →
      heading = some list ∨ heading = none ∧ parameters = [] →
      readAs text .read lambda = Outline.groupUnlessEmpty lambda.kind
        ((parameters.flatMap Parameter.details ++ [body]).flatMap (readAs text .read)) := by
  refine ⟨lists.identifiers_eq, ?_, ?_⟩
  · rintro definition parts isFunction rfl
    refine ⟨?_, fun tree decorators isDecorated => ?_⟩
    · rw [isFunction.readAs_read, isFunction.readAs_definition lists exposed, List.nil_append]
    · rw [isDecorated.readAs_read isFunction, isFunction.readAs_definition lists exposed,
        ← List.flatMap_append]
      simp only [List.append_assoc]
  · intro lambda heading body isLambda given
    -- A lambda without a list has no parameters, so both sides are empty then.
    have front : heading.toList.flatMap (readAs text .parameters) =
        (parameters.flatMap Parameter.details).flatMap (readAs text .read) := by
      rcases given with rfl | ⟨rfl, rfl⟩
      · exact (List.flatMap_singleton ..).trans lists.details
      · rfl
    rw [isLambda.readAs_read, front, List.flatMap_append, List.flatMap_singleton]

namespace Signature

def token (kind : String) : Cst := .node { kind, named := false } []

def name (byte row : Nat) (field : Option String) : Cst :=
  .node { kind := "identifier", field, start := ⟨byte, row, 0⟩, stop := byte + 1 } []

def annotation (byte row : Nat) (field : String) : Cst :=
  .node { kind := "type", field := some field } [name byte row none]

def couple : Cst :=
  .node { kind := "tuple_pattern", field := some "name" }
    [token "(", name 26 2 none, token ",", name 29 2 none, token ")"]

def starred (byte row : Nat) : Cst :=
  .node { kind := "list_splat_pattern" } [token "*", name byte row none]

def doubleStarred : Cst :=
  .node { kind := "dictionary_splat_pattern" } [token "**", name 56 2 none]

def list : Cst :=
  .node { kind := "parameters", field := some "parameters" }
    [token "(", name 13 2 none, token ",", .node { kind := "keyword_separator" } [token "*"],
      .node { kind := "typed_parameter" } [name 19 2 none, token ":", annotation 22 2 "type"],
      .node { kind := "default_parameter" } [couple, token "=", name 34 2 (some "value")],
      .node { kind := "typed_parameter" } [starred 38 2, token ":", annotation 41 2 "type"],
      .node { kind := "typed_default_parameter" }
        [name 44 2 (some "name"), token ":", annotation 47 2 "type", token "=",
          name 51 2 (some "value")],
      doubleStarred, token ")"]

def parameters : List Parameter :=
  [{ pattern := name 13 2 none }, {},
    { pattern := name 19 2 none, annotation := annotation 22 2 "type" },
    { pattern := couple, value := name 34 2 (some "value") },
    { pattern := starred 38 2, annotation := annotation 41 2 "type" },
    { pattern := name 44 2 (some "name"), annotation := annotation 47 2 "type",
      value := name 51 2 (some "value") },
    { pattern := doubleStarred }]

theorem list_lists : ListsParameters list parameters :=
  ⟨by decide, _, ⟨rfl, by decide⟩,
    .cons (.bare (by decide)) <| .cons (.separator (by decide) rfl) <|
    .cons (.annotated rfl ⟨rfl, by decide⟩ rfl rfl) <| .cons (.withDefault rfl ⟨rfl, by decide⟩ rfl) <|
    .cons (.annotated rfl ⟨rfl, by decide⟩ rfl rfl) <|
    .cons (.annotatedWithDefault rfl ⟨rfl, by decide⟩ rfl) <| .cons (.bare (by decide)) .nil⟩

theorem list_exposed : list.NamesExposed := by
  unfold Cst.NamesExposed
  decide

def parts : FunctionParts where
  name := name 11 2 (some "name")
  list := list
  returned := annotation 62 2 "return_type"
  body := .node { kind := "block", field := some "body" } [name 65 2 none]

def function : Cst :=
  .node { kind := "function_definition", field := some "definition", start := ⟨7, 2, 0⟩ }
    [token "def", parts.name, list, token "->", annotation 62 2 "return_type", token ":", parts.body]

def decorator : Cst := .node { kind := "decorator" } [token "@", name 1 0 none]

def decorated : Cst :=
  .node { kind := "decorated_definition" } [decorator, .node { kind := "comment" } [], function]

def lambdaList : Cst :=
  .node { kind := "lambda_parameters", field := some "parameters" }
    [name 74 3 none, token ",",
      .node { kind := "default_parameter" }
        [name 77 3 (some "name"), token "=", name 81 3 (some "value")],
      token ",", starred 85 3]

def lambda : Cst :=
  .node { kind := "lambda" } [token "lambda", lambdaList, token ":", name 88 3 (some "body")]

end Signature

/-- A function with parameters of all forms, below a decorator and a comment, and a lambda. -/
def signatureFile : SourceFile where
  name := "m.py"
  text := "@d\n# e\ndef f(a, *, b: t, (c, e) = g, *h: u, i: v = j, **k) -> r: a\nlambda a, b = g, *c: a\n"
  tree := .node { kind := "module" } [Signature.decorated, Signature.lambda]

open Signature in
theorem signatureFile_outline :
    readAs signatureFile.textOf .read decorated =
      [.function "f" 3 ["a", "b", "c", "e", "h", "i", "k"]
        [.group "decorator" [.reference "d" 1], .group "type" [.reference "t" 3], .reference "g" 3,
          .group "type" [.reference "u" 3], .group "type" [.reference "v" 3], .reference "j" 3,
          .group "type" [.reference "r" 3], .group "block" [.reference "a" 3]]] ∧
    readAs signatureFile.textOf .read lambda =
      [.group "lambda" [.reference "g" 4, .reference "a" 4]] := by
  have isFunction : IsFunction function parts :=
    ⟨rfl, ⟨rfl, by decide⟩, rfl, by rintro _ ⟨⟩, rfl, by rintro _ ⟨⟩; rfl, rfl⟩
  have isDecorated : IsDecorated decorated [decorator] function :=
    ⟨rfl, ⟨rfl, by decide⟩, List.forall_mem_singleton.mpr ⟨rfl, rfl⟩, rfl⟩
  have isLambda : IsLambda lambda (some lambdaList) (name 88 3 (some "body")) :=
    ⟨rfl, ⟨rfl, by decide⟩, by rintro _ ⟨⟩; rfl, rfl⟩
  have lists : ListsParameters lambdaList [{ pattern := name 74 3 none },
      { pattern := name 77 3 (some "name"), value := name 81 3 (some "value") },
      { pattern := starred 85 3 }] :=
    ⟨by decide, _, ⟨rfl, by decide⟩, .cons (.bare (by decide)) <|
      .cons (.withDefault rfl ⟨rfl, by decide⟩ rfl) <| .cons (.bare (by decide)) .nil⟩
  have exposed : lambdaList.NamesExposed := by
    unfold Cst.NamesExposed
    decide
  obtain ⟨-, functions, -⟩ :=
    outline_of_parameters signatureFile.textOf list_lists list_exposed
  obtain ⟨-, -, lambdas⟩ := outline_of_parameters signatureFile.textOf lists exposed
  have ofDecorated := (functions function parts isFunction rfl).2 _ _ isDecorated
  have ofLambda := lambdas lambda _ _ isLambda (.inl rfl)
  exact ⟨ofDecorated.trans rfl, ofLambda.trans rfl⟩

end ScopeCheck
