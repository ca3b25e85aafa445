/-!
# ScopeCheck.Outline.Construct

What the kind of a node means for the names below it. A kind that is not listed here is a plain
construct, whose named children are all read.
-/

namespace ScopeCheck

/-- How a node is read. -/
inductive Construct where
  | name
  /-- A construct that holds no names of expressions. -/
  | nameless
  | function
  | classDef
  | decorated
  /-- A construct that binds what stands in one field and reads the rest. -/
  | binds (field : String)
  /-- A construct that skips what stands in one field and reads the rest. -/
  | skips (field : String)
  /-- One item of a `with` statement. -/
  | withItem
  | handler
  | lambda
  | deletion
  /-- A clause of a `match` statement. -/
  | caseClause
  | typeAlias
  /-- Any other construct; its named children are read. -/
  | plain
  deriving DecidableEq, Repr

def Construct.ofKind : String → Construct
  | "identifier" => .name
  | "comment" | "import_statement" | "import_from_statement" | "future_import_statement"
  | "global_statement" | "nonlocal_statement" | "type_parameter" => .nameless
  | "function_definition" => .function
  | "class_definition" => .classDef
  | "decorated_definition" => .decorated
  | "assignment" | "augmented_assignment" | "for_statement" | "for_in_clause" => .binds "left"
  | "named_expression" => .binds "name"
  | "keyword_argument" => .skips "name"
  | "attribute" => .skips "attribute"
  | "as_pattern" => .skips "alias"
  | "with_item" => .withItem
  | "except_clause" | "except_group_clause" => .handler
  | "lambda" => .lambda
  | "delete_statement" => .deletion
  | "case_clause" => .caseClause
  | "type_alias_statement" => .typeAlias
  | _ => .plain

/-- How a node is bound to. -/
inductive Target where
  | name
  /-- What follows `as`; it is a name by itself where it has no named children. -/
  | aliased
  /-- A construct whose named children are all bound to. -/
  | unpacked
  /-- A comment. -/
  | nameless
  /-- Anything else is read, as the object of an attribute is. -/
  | read
  deriving DecidableEq, Repr

def Target.ofKind : String → Target
  | "identifier" => .name
  | "as_pattern_target" => .aliased
  | "pattern_list" | "tuple_pattern" | "list_pattern" | "tuple" | "list" | "expression_list"
  | "parenthesized_expression" | "list_splat_pattern" | "list_splat" => .unpacked
  | "comment" => .nameless
  | _ => .read

/-- How a node of a `case` pattern is matched. Captures bind nothing; values and classes are read.
-/
inductive Pattern where
  /-- A capture or a comment. -/
  | nameless
  /-- A name with dots, which is a value where it has several parts. -/
  | dotted
  /-- A class with patterns for its attributes. -/
  | ofClass
  | keyword
  /-- Any other pattern; its named children are patterns. -/
  | compound
  deriving DecidableEq, Repr

def Pattern.ofKind : String → Pattern
  | "identifier" | "comment" => .nameless
  | "dotted_name" => .dotted
  | "class_pattern" => .ofClass
  | "keyword_pattern" => .keyword
  | _ => .compound

end ScopeCheck
