import ScopeCheck.Cst.Basic
import ScopeCheck.Outline.Basic
import ScopeCheck.Outline.Construct
import ScopeCheck.SourceFile.Validity

/-!
# ScopeCheck.Outline.Reading

The outline of a source file. The kind of a node and the role in which it is read decide the roles of
its children. Decorators, defaults and annotations of a definition become parts of the definition
itself, so their names belong to its scope.
-/

namespace ScopeCheck

open Cst (Label)

inductive Role where
  | read
  | bind
  | skip
  /-- The node is an item of a `with` statement, and what follows `as` in it is bound. -/
  | bindAlias
  /-- The node is deleted: a bare name gives nothing, anything else is read. -/
  | delete
  /-- The node is a pattern of a `case` clause. -/
  | matched
  /-- The node names the class of a pattern. -/
  | classOfPattern
  /-- The node is a parameter list, of which annotations and defaults are read. -/
  | parameters
  /-- The node is a parameter, of which the annotation and then the default are read. -/
  | parameter
  /-- The node is a definition under decorators that were read already. -/
  | definition (decorators : List Outline)

namespace Role

/-! ### The roles of children -/

/-- Gives a role to each named child by what the child says of itself; tokens are skipped. -/
def onNamed (role : Label → Role) (labels : List Label) : List Role :=
  labels.map fun label => if label.named then role label else .skip

/-- Gives a role to the first child that satisfies a condition, and skips all others. -/
def onFirst (condition : Label → Bool) (role : Role) : List Label → List Role
  | [] => []
  | label :: rest =>
    if condition label then role :: rest.map fun _ => .skip
    else .skip :: onFirst condition role rest

/-- Gives a role to the first child in a field, and skips all others. -/
def onField (field : String) (role : Role) (labels : List Label) : List Role :=
  onFirst (fun label => label.field == some field) role labels

/-- Gives a role to all named children but the first of them. -/
def onLaterNamed (role : Role) : List Label → List Role
  | [] => []
  | label :: rest =>
    if label.named then .skip :: onNamed (fun _ => role) rest
    else .skip :: onLaterNamed role rest

/-- One field gets a role of its own, and all other named children are read. -/
def withField (field : String) (role : Role) (labels : List Label) : List Role :=
  onNamed (fun label => if label.field == some field then role else .read) labels

/-- The parts of a `with` item: the alias is bound, directly or below the construct that holds
it. -/
def ofWithItem (labels : List Label) : List Role :=
  onNamed (fun label =>
    if label.field == some "alias" then .bind
    else if label.kind == "as_pattern" then .bindAlias
    else .read) labels

/-- The parts of a clause that handles exceptions: the name that follows `as` binds nothing that
outlives the clause. `afterAs` tells whether the token before was `as`. -/
def ofHandler (afterAs : Bool) : List Label → List Role
  | [] => []
  | label :: rest =>
    if !label.named then .skip :: ofHandler (label.kind == "as") rest
    else if afterAs || label.field == some "alias" then .skip :: ofHandler false rest
    else .read :: ofHandler afterAs rest

/-- The parts of a definition: its own name and its type parameters are no expressions. -/
def ofDefinition (labels : List Label) : List Role :=
  onNamed (fun label =>
    if label.field == some "name" || label.field == some "type_parameters" then .skip
    else .read) labels

/-- The parts of a function definition: in addition, its parameters are told apart. -/
def ofFunction (labels : List Label) : List Role :=
  onNamed (fun label =>
    if label.field == some "name" || label.field == some "type_parameters" then .skip
    else if label.field == some "parameters" then .parameters
    else .read) labels

/-- The kinds of parameters that can have an annotation or a default. -/
def detailedParameters : List String :=
  ["default_parameter", "typed_default_parameter", "typed_parameter"]

def ofParameters (labels : List Label) : List Role :=
  onNamed (fun label =>
    if detailedParameters.contains label.kind then .parameter else .skip) labels

/-- The parts of a `case` clause: its patterns are matched, its guard and its body are read. -/
def ofCase (labels : List Label) : List Role :=
  onNamed (fun label => if label.kind == "case_pattern" then .matched else .read) labels

def ofClassPattern (labels : List Label) : List Role :=
  onNamed (fun label => if label.kind == "dotted_name" then .classOfPattern else .matched) labels

end Role

/-! ### Names below a node -/

section Names

variable (text : Label → String)

mutual

/-- All names below a node, in document order. -/
def namesIn : Cst → List String
  | .node label children =>
    if label.kind == "identifier" then [text label] else namesInNamed children

def namesInNamed : List Cst → List String
  | [] => []
  | tree :: rest =>
    if tree.named then namesIn tree ++ namesInNamed rest else namesInNamed rest

end

def parameterName (parameter : Cst) : List String :=
  match parameter.kind with
  | "identifier" => [text parameter.label]
  | "typed_parameter" =>
    match parameter.children.find? fun child => child.named && child.label.field.isNone with
    | some child => namesIn text child
    | none => []
  | "default_parameter" | "typed_default_parameter" =>
    match parameter.childInField? "name" with
    | some name => namesIn text name
    | none => []
  | "list_splat_pattern" | "dictionary_splat_pattern" | "tuple_pattern" => namesIn text parameter
  | _ => []

/-- The names that a parameter list binds, in document order. -/
def parameterNames (parameters : Cst) : List String :=
  (parameters.children.filter Cst.named).flatMap (parameterName text)

/-- The name of a definition with the given parts, empty where it has none. -/
def definedName (parts : List Cst) : String :=
  match Cst.firstInField? "name" parts with
  | some name => text name.label
  | none => ""

/-- The parameters of a function definition with the given parts. -/
def definedParameters (parts : List Cst) : List String :=
  match (parts.filter fun part => part.named && part.label.field == some "parameters").getLast? with
  | some parameters => parameterNames text parameters
  | none => []

/-- What a name for a type binds: the first name on its left side, at the line of that side. -/
def aliasBinding (parts : List Cst) : List Outline :=
  match Cst.firstInField? "left" parts with
  | none => []
  | some left =>
    match namesIn text left with
    | [] => []
    | name :: _ => [.binding name left.label.line]

/-- Whether a definition stands under the decorators of a node. -/
def holdsDefinition (parts : List Cst) : Bool :=
  match Cst.firstInField? "definition" parts with
  | some definition => Construct.ofKind definition.kind ∈ [Construct.function, Construct.classDef]
  | none => false

end Names

/-! ### The plan of a node -/

/-- What a node gives: parts of its own, and what its children give in one or more passes over them,
each pass with a role for every child. -/
inductive Plan where
  /-- Some parts, and then those of each pass. -/
  | splice (parts : List Outline) (passes : List (List Role))
  /-- A group of some parts and those of each pass. -/
  | group (parts : List Outline) (passes : List (List Role))
  /-- A function definition with some parts in front. -/
  | function (decorators : List Outline) (roles : List Role)
  /-- A class definition with some parts in front. -/
  | classDef (decorators : List Outline) (roles : List Role)
  /-- The definition below a node, after a pass over its decorators. -/
  | decorated (roles : List Role)

section Reading

variable (text : Label → String)

namespace Plan

def ofRead (label : Label) (children : List Cst) : Plan :=
  let labels := children.map Cst.label
  match Construct.ofKind label.kind with
  | .name => .splice [.reference (text label) label.line] []
  | .nameless => .splice [] []
  | .function => .function [] (Role.ofFunction labels)
  | .classDef => .classDef [] (Role.ofDefinition labels)
  | .decorated =>
    -- Anything else under decorators is no definition and is read like any construct.
    if holdsDefinition children then
      .decorated
        (Role.onNamed (fun label => if label.kind == "decorator" then .read else .skip) labels)
    else .group [] [Role.onNamed (fun _ => .read) labels]
  | .binds field => .group [] [Role.withField field .bind labels]
  | .skips field => .group [] [Role.withField field .skip labels]
  | .withItem => .group [] [Role.ofWithItem labels]
  | .handler => .group [] [Role.ofHandler false labels]
  -- The parameters belong to no scope; their annotations and defaults are read.
  | .lambda =>
    .group [] [Role.onField "parameters" .parameters labels, Role.onField "body" .read labels]
  | .deletion => .group [] [Role.onNamed (fun _ => .delete) labels]
  | .caseClause => .group [] [Role.ofCase labels]
  | .typeAlias => .group (aliasBinding text children) [Role.onField "right" .read labels]
  | .plain => .group [] [Role.onNamed (fun _ => .read) labels]

def ofBind (label : Label) (children : List Cst) : Plan :=
  let labels := children.map Cst.label
  match Target.ofKind label.kind with
  | .name => .splice [.binding (text label) label.line] []
  | .aliased =>
    if labels.any (·.named) then .splice [] [Role.onNamed (fun _ => .bind) labels]
    else .splice [.binding (text label) label.line] []
  | .unpacked => .splice [] [Role.onNamed (fun _ => .bind) labels]
  | .nameless => .splice [] []
  | .read => ofRead text label children

def ofDelete (label : Label) (children : List Cst) : Plan :=
  if label.kind == "identifier" then .splice [] []
  else if deletionContainers.contains label.kind then
    .splice [] [Role.onNamed (fun _ => .delete) (children.map Cst.label)]
  else ofRead text label children

def ofMatched (label : Label) (children : List Cst) : Plan :=
  let labels := children.map Cst.label
  match Pattern.ofKind label.kind with
  | .nameless => .splice [] []
  | .dotted =>
    -- A name alone is a capture; of a name with dots the first part is a value that is read.
    if 1 < labels.countP (·.named) then .splice [] [Role.onFirst (·.named) .read labels]
    else .splice [] []
  | .ofClass => .splice [] [Role.ofClassPattern labels]
  | .keyword => .splice [] [Role.onLaterNamed .matched labels]
  | .compound => .splice [] [Role.onNamed (fun _ => .matched) labels]

def of (role : Role) (label : Label) (children : List Cst) : Plan :=
  let labels := children.map Cst.label
  match role with
  | .skip => .splice [] []
  | .read => ofRead text label children
  | .bind => ofBind text label children
  | .bindAlias => .group [] [Role.withField "alias" .bind labels]
  | .delete => ofDelete text label children
  | .matched => ofMatched label children
  | .classOfPattern => .splice [] [Role.onFirst (·.named) .read labels]
  | .parameters => .splice [] [Role.ofParameters labels]
  | .parameter => .splice [] [Role.onField "type" .read labels, Role.onField "value" .read labels]
  | .definition decorators =>
    if Construct.ofKind label.kind = .function then .function decorators (Role.ofFunction labels)
    else .classDef decorators (Role.ofDefinition labels)

end Plan

/-! ### The reading -/

mutual

/-- The parts of an outline that a node gives in a role. -/
def readAs (role : Role) : Cst → List Outline
  | .node label children =>
    match Plan.of text role label children with
    | .splice parts passes => parts ++ passes.flatMap fun roles => readEach roles children
    | .group parts passes =>
      Outline.groupUnlessEmpty label.kind
        (parts ++ passes.flatMap fun roles => readEach roles children)
    | .function decorators roles =>
      [.function (definedName text children) label.line (definedParameters text children)
        (decorators ++ readEach roles children)]
    | .classDef decorators roles =>
      [.classDef (definedName text children) label.line (decorators ++ readEach roles children)]
    | .decorated roles =>
      readEach
        (Role.onField "definition" (.definition (readEach roles children))
          (children.map Cst.label)) children

/-- The parts of an outline that some nodes give, each in a role of its own. -/
def readEach : List Role → List Cst → List Outline
  | role :: roles, tree :: trees => readAs role tree ++ readEach roles trees
  | _, _ => []

end

end Reading

namespace SourceFile

/-- The outline of a file, as one module. A tree that is nested too deeply has none. -/
def outline (file : SourceFile) : Except Failure Outline :=
  match file.tooDeep? with
  | some (line, column) => .error (.badSource .tooDeep file.name line column)
  | none =>
    .ok (.module (readEach file.textOf
      (Role.onNamed (fun _ => .read) (file.tree.children.map Cst.label)) file.tree.children))

end SourceFile

end ScopeCheck
