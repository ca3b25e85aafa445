import ScopeCheck.Proofs.Cst.Way
import ScopeCheck.Proofs.Scope.Ownership

/-!
# The context of a name

What a name does follows from the way that leads to it from the root. A step down changes the context by
the kind of the parent and by what the step says of the child, without any reading of the tree as a
whole.
-/

namespace ScopeCheck

open Cst (Label Path Step Way)

/-- The context in which a node stands. -/
inductive NameContext where
  | root
  /-- No name is taken from the node. -/
  | hidden
  | load
  | store
  /-- The `as` construct of a `with` item. -/
  | withAlias
  | deleted
  /-- A pattern of a `case` clause. -/
  | matched
  /-- The name of the class of a pattern. -/
  | className
  | parameters
  | parameter
  /-- The left side of a name for a type, which begins at a line. -/
  | typeName (line : Nat)
  deriving DecidableEq

/-- The kinds of nodes that are targets themselves or hand the store context on. -/
def storeKinds : List String :=
  ["identifier", "as_pattern_target", "pattern_list", "tuple_pattern", "list_pattern", "tuple", "list",
    "expression_list", "parenthesized_expression", "list_splat_pattern", "list_splat"]

/-- The kinds of nodes that are deleted themselves or hand the deletion on. -/
def deletedKinds : List String :=
  ["identifier", "expression_list", "tuple", "list", "parenthesized_expression"]

namespace Cst

mutual

/-- Whether a node is a name or a named descendant of it is. -/
def holdsName : Cst → Bool
  | .node label children => label.kind == "identifier" || anyHoldsName children

/-- Whether a named one among some nodes is a name or has one below it. -/
def anyHoldsName : List Cst → Bool
  | [] => false
  | tree :: rest => (tree.named && holdsName tree) || anyHoldsName rest

end

/-- Which of some siblings is the definition that the others decorate: the first in its field, if it is
a definition. -/
def decorated? (siblings : List Cst) : Option Nat :=
  match firstInField? "definition" siblings with
  | none => none
  | some definition =>
    if definition.kind = "function_definition" ∨ definition.kind = "class_definition" then
      some (siblings.findIdx fun sibling => sibling.label.field == some "definition")
    else none

namespace Step

/-- A context for a named child; tokens hold no names. -/
def ifNamed (step : Step) (context : NameContext) : NameContext :=
  if step.named then context else .hidden

/-- Named children are read, but for those in a field. -/
def withField (step : Step) (field : String) (context : NameContext) : NameContext :=
  step.ifNamed <| if step.inField field then context else .load

/-- Whether the token directly before the child is `as`. -/
def followsAs (step : Step) : Bool :=
  step.before.getLast?.any fun previous => !previous.named && previous.kind == "as"

/-- The context below a node that is read. -/
def belowLoad (step : Step) : NameContext :=
  match step.parent.kind with
  | "identifier" | "comment" | "import_statement" | "import_from_statement" | "future_import_statement"
  | "global_statement" | "nonlocal_statement" | "type_parameter" => .hidden
  | "function_definition" =>
    step.ifNamed <|
      if step.inField "name" || step.inField "type_parameters" then .hidden
      else if step.inField "parameters" then .parameters
      else .load
  | "class_definition" =>
    step.ifNamed <| if step.inField "name" || step.inField "type_parameters" then .hidden else .load
  -- Next to a definition, decorators are the only children that are read.
  | "decorated_definition" =>
    if (decorated? step.siblings).isSome then
      if step.isFirstIn "definition" then .load
      else step.ifNamed <| if step.child.kind == "decorator" then .load else .hidden
    else step.ifNamed .load
  | "assignment" | "augmented_assignment" | "for_statement" | "for_in_clause" =>
    step.withField "left" .store
  | "named_expression" => step.withField "name" .store
  | "keyword_argument" => step.withField "name" .hidden
  | "attribute" => step.withField "attribute" .hidden
  | "as_pattern" => step.withField "alias" .hidden
  | "with_item" =>
    step.ifNamed <|
      if step.inField "alias" then .store
      else if step.child.kind == "as_pattern" then .withAlias
      else .load
  | "except_clause" | "except_group_clause" =>
    step.ifNamed <| if step.followsAs || step.inField "alias" then .hidden else .load
  | "lambda" =>
    if step.isFirstIn "parameters" then .parameters
    else if step.isFirstIn "body" then .load
    else .hidden
  | "delete_statement" => step.ifNamed .deleted
  | "case_clause" => step.ifNamed <| if step.child.kind == "case_pattern" then .matched else .load
  | "type_alias_statement" =>
    if step.isFirstIn "left" then .typeName step.child.label.line
    else if step.isFirstIn "right" then .load
    else .hidden
  | _ => step.ifNamed .load

/-- The context below a pattern of a `case` clause: captures are no names, and of a name with dots the
first part is read. -/
def belowMatched (step : Step) : NameContext :=
  match step.parent.kind with
  | "identifier" | "comment" => .hidden
  | "dotted_name" =>
    if step.isFirst Label.named && 1 < step.siblings.countP Cst.named then .load else .hidden
  | "class_pattern" =>
    step.ifNamed <| if step.child.kind == "dotted_name" then .className else .matched
  -- The first named child is the keyword itself.
  | "keyword_pattern" => step.ifNamed <| if step.before.any Cst.named then .matched else .hidden
  | _ => step.ifNamed .matched

end Step

end Cst

namespace NameContext

/-- The context of a node, given its kind: what neither can be bound nor deleted is read. -/
def forKind (context : NameContext) (kind : String) : NameContext :=
  match context with
  | .store => if storeKinds.contains kind then .store else .load
  | .deleted => if deletedKinds.contains kind then .deleted else .load
  | _ => context

/-- The context of a child from that of its parent. -/
def below (context : NameContext) (step : Step) : NameContext :=
  match context.forKind step.parent.kind with
  | .root => step.ifNamed .load
  | .hidden => .hidden
  | .load => step.belowLoad
  | .store => if step.parent.kind = "identifier" then .hidden else step.ifNamed .store
  | .withAlias => step.withField "alias" .store
  | .deleted => if step.parent.kind = "identifier" then .hidden else step.ifNamed .deleted
  | .matched => step.belowMatched
  | .className => if step.isFirst Label.named then .load else .hidden
  | .parameters =>
    step.ifNamed <|
      if ["default_parameter", "typed_default_parameter", "typed_parameter"].contains step.child.kind
      then .parameter else .hidden
  | .parameter => if step.isFirstIn "type" || step.isFirstIn "value" then .load else .hidden
  | .typeName line =>
    -- Only the first name is bound, so it must not have been met in a sibling before.
    if step.parent.kind == "identifier" || Cst.anyHoldsName step.before then .hidden
    else step.ifNamed (.typeName line)

end NameContext

/-- What a node stands for in the outline of its tree. -/
inductive Entry where
  /-- A name with the path of the definition that owns it, if any does. -/
  | name (occurrence : Occurrence) (owner : Option Path)
  /-- A definition with its own path. -/
  | definition (kind : ScopeKind) (line : Nat) (path : Path)
  deriving DecidableEq, Repr

/-- What is known of a node from the way that leads to it. -/
structure Standing where
  context : NameContext
  owner : Option Path
  path : Path

namespace Standing

/-- Which definition owns the names of a child: the parent if it is a definition that is read, or the
sibling that is decorated. -/
def ownerBelow (standing : Standing) (step : Step) : Option Path :=
  if standing.context.forKind step.parent.kind = .load then
    match step.parent.kind with
    | "function_definition" | "class_definition" => some standing.path
    -- The names of decorators belong to the definition next to them.
    | "decorated_definition" =>
      match Cst.decorated? step.siblings with
      | some index => some (standing.path ++ [index])
      | none => standing.owner
    | _ => standing.owner
  else standing.owner

def below (standing : Standing) (step : Step) : Standing where
  context := standing.context.below step
  owner := standing.ownerBelow step
  path := standing.path ++ [step.before.length]

/-- The standing of the node to which a way leads. -/
def along (way : Way) : Standing :=
  way.foldl below { context := .root, owner := none, path := [] }

/-- What a node stands for by itself. -/
def standsFor? (text : Label → String) (standing : Standing) (node : Cst) : Option Entry :=
  match standing.context.forKind node.kind, node.kind with
  | .load, "identifier" =>
    some (.name ⟨.reference, text node.label, node.label.line⟩ standing.owner)
  | .load, "function_definition" => some (.definition .function node.label.line standing.path)
  | .load, "class_definition" => some (.definition .classDef node.label.line standing.path)
  | .store, "identifier" =>
    some (.name ⟨.binding, text node.label, node.label.line⟩ standing.owner)
  | .store, "as_pattern_target" =>
    -- Without named children it is a name by itself.
    if node.children.any Cst.named then none
    else some (.name ⟨.binding, text node.label, node.label.line⟩ standing.owner)
  | .typeName line, "identifier" =>
    some (.name ⟨.binding, text node.label, line⟩ standing.owner)
  | _, _ => none

end Standing

end ScopeCheck
