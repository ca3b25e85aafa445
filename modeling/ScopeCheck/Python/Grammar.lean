import ScopeCheck.Grammar.Rule

/-!
# ScopeCheck.Python.Grammar

The grammar of Python programs. It is wider than the language: it also covers the statements of
older versions. Symbols whose name begins with an underscore leave no node in a tree.
-/

namespace ScopeCheck.Python

open Grammar
open Grammar.Rule (seq choice many many1 optional separated commas trailingCommas atLevel leftward
  rightward weight field named asToken)

/-- A token that is written as it stands. -/
private abbrev t := Rule.token

/-- Whole texts, and the statements that stand on one line. -/
def simpleStatements : List (String × Rule) := [
  ("module", many "_statement"),
  ("_statement", choice ["_simple_statements", "_compound_statement"]),
  ("_simple_statements", seq [separated ";" "_simple_statement", optional (t ";"), "_newline"]),
  ("_simple_statement",
    choice [
      "future_import_statement", "import_statement", "import_from_statement",
      "print_statement", "assert_statement", "expression_statement", "return_statement",
      "delete_statement", "raise_statement", "pass_statement", "break_statement",
      "continue_statement", "global_statement", "nonlocal_statement", "exec_statement",
      "type_alias_statement"]),
  ("import_statement", seq [t "import", "_import_list"]),
  ("import_prefix", many1 (t ".")),
  ("relative_import", seq ["import_prefix", optional "dotted_name"]),
  ("future_import_statement",
    seq [
      t "from", t "__future__", t "import",
      choice ["_import_list", seq [t "(", "_import_list", t ")"]]]),
  ("import_from_statement",
    seq [
      t "from", field "module_name" (choice ["relative_import", "dotted_name"]), t "import",
      choice ["wildcard_import", "_import_list", seq [t "(", "_import_list", t ")"]]]),
  ("_import_list", trailingCommas (field "name" (choice ["dotted_name", "aliased_import"]))),
  ("aliased_import", seq [field "name" "dotted_name", t "as", field "alias" "identifier"]),
  ("wildcard_import", t "*"),
  ("print_statement",
    choice [
      atLevel 1 (seq [
        t "print", "chevron", many (seq [t ",", field "argument" "expression"]),
        optional (t ",")]),
      atLevel (-3) (weight (-1) (seq [
        t "print", commas (field "argument" "expression"), optional (t ",")]))]),
  ("chevron", seq [t ">>", "expression"]),
  ("assert_statement", seq [t "assert", commas "expression"]),
  ("expression_statement",
    choice [
      "expression", trailingCommas "expression", "assignment", "augmented_assignment", "yield"]),
  ("named_expression",
    seq [field "name" "_named_expression_lhs", t ":=", field "value" "expression"]),
  ("_named_expression_lhs", choice ["identifier", "keyword_identifier"]),
  ("return_statement", seq [t "return", optional "_expressions"]),
  ("delete_statement", seq [t "del", "_expressions"]),
  ("_expressions", choice ["expression", "expression_list"]),
  ("raise_statement",
    seq [
      t "raise", optional "_expressions", optional (seq [t "from", field "cause" "expression"])]),
  ("pass_statement", leftward 0 (t "pass")),
  ("break_statement", leftward 0 (t "break")),
  ("continue_statement", leftward 0 (t "continue"))]

/-- The statements that hold blocks, definitions apart. -/
def compoundStatements : List (String × Rule) := [
  ("_compound_statement",
    choice [
      "if_statement", "for_statement", "while_statement", "try_statement", "with_statement",
      "function_definition", "class_definition", "decorated_definition", "match_statement"]),
  ("if_statement",
    seq [
      t "if", field "condition" "expression", t ":", field "consequence" "_suite",
      many (field "alternative" "elif_clause"), optional (field "alternative" "else_clause")]),
  ("elif_clause",
    seq [t "elif", field "condition" "expression", t ":", field "consequence" "_suite"]),
  ("else_clause", seq [t "else", t ":", field "body" "_suite"]),
  ("match_statement",
    seq [
      t "match", commas (field "subject" "expression"), optional (t ","), t ":",
      field "body" (named "block" "_match_block")]),
  ("_match_block",
    choice [seq ["_indent", many (field "alternative" "case_clause"), "_dedent"], "_newline"]),
  ("case_clause",
    seq [
      t "case", commas "case_pattern", optional (t ","), optional (field "guard" "if_clause"),
      t ":", field "consequence" "_suite"]),
  ("for_statement",
    seq [
      optional (t "async"), t "for", field "left" "_left_hand_side", t "in",
      field "right" "_expressions", t ":", field "body" "_suite",
      field "alternative" (optional "else_clause")]),
  ("while_statement",
    seq [
      t "while", field "condition" "expression", t ":", field "body" "_suite",
      optional (field "alternative" "else_clause")]),
  ("try_statement",
    seq [
      t "try", t ":", field "body" "_suite",
      choice [
        seq [many1 "except_clause", optional "else_clause", optional "finally_clause"],
        seq [many1 "except_group_clause", optional "else_clause", optional "finally_clause"],
        "finally_clause"]]),
  ("except_clause",
    seq [
      t "except",
      optional (seq [
        field "value" "expression",
        optional (seq [choice [t "as", t ","], field "alias" "expression"])]),
      t ":", "_suite"]),
  ("except_group_clause",
    seq [
      t "except*", seq ["expression", optional (seq [t "as", "expression"])], t ":", "_suite"]),
  ("finally_clause", seq [t "finally", t ":", "_suite"]),
  ("with_statement",
    seq [optional (t "async"), t "with", "with_clause", t ":", field "body" "_suite"]),
  ("with_clause",
    choice [
      trailingCommas "with_item", seq [t "(", commas "with_item", optional (t ","), t ")"]]),
  ("with_item", weight 1 (seq [field "value" "expression"]))]

/-- Definitions, the statements on names, arguments and blocks. -/
def definitions : List (String × Rule) := [
  ("function_definition",
    seq [
      optional (t "async"), t "def", field "name" "identifier",
      field "type_parameters" (optional "type_parameter"), field "parameters" "parameters",
      optional (seq [t "->", field "return_type" "type"]), t ":", field "body" "_suite"]),
  ("parameters", seq [t "(", optional "_parameters", t ")"]),
  ("lambda_parameters", "_parameters"),
  ("list_splat", seq [t "*", "expression"]),
  ("dictionary_splat", seq [t "**", "expression"]),
  ("global_statement", seq [t "global", commas "identifier"]),
  ("nonlocal_statement", seq [t "nonlocal", commas "identifier"]),
  ("exec_statement",
    seq [
      t "exec", field "code" (choice ["string", "identifier"]),
      optional (seq [t "in", commas "expression"])]),
  ("type_alias_statement",
    weight 1 (seq [t "type", field "left" "type", t "=", field "right" "type"])),
  ("class_definition",
    seq [
      t "class", field "name" "identifier",
      field "type_parameters" (optional "type_parameter"),
      field "superclasses" (optional "argument_list"), t ":", field "body" "_suite"]),
  ("type_parameter", seq [t "[", commas "type", optional (t ","), t "]"]),
  ("parenthesized_list_splat",
    atLevel 1 (seq [
      t "(",
      choice [named "parenthesized_expression" "parenthesized_list_splat", "list_splat"],
      t ")"])),
  ("argument_list",
    seq [
      t "(",
      optional (commas (choice [
        "expression", "list_splat", "dictionary_splat",
        named "parenthesized_expression" "parenthesized_list_splat", "keyword_argument"])),
      optional (t ","), t ")"]),
  ("decorated_definition",
    seq [
      many1 "decorator",
      field "definition" (choice ["class_definition", "function_definition"])]),
  ("decorator", seq [t "@", "expression", "_newline"]),
  ("_suite",
    choice [
      named "block" "_simple_statements", seq ["_indent", "block"], named "block" "_newline"]),
  ("block", seq [many "_statement", "_dedent"])]

/-- Names with dots, and the patterns of `case` clauses. -/
def patterns : List (String × Rule) := [
  ("expression_list",
    rightward 0 (seq [
      "expression", choice [t ",", seq [many1 (seq [t ",", "expression"]), optional (t ",")]]])),
  ("dotted_name", atLevel 1 (separated "." "identifier")),
  ("case_pattern",
    atLevel 1 (choice [named "as_pattern" "_as_pattern", "keyword_pattern", "_simple_pattern"])),
  ("_simple_pattern",
    atLevel 1 (choice [
      "class_pattern", "splat_pattern", "union_pattern", named "list_pattern" "_list_pattern",
      named "tuple_pattern" "_tuple_pattern", "dict_pattern", "string", "concatenated_string",
      "true", "false", "none", seq [optional (t "-"), choice ["integer", "float"]],
      "complex_pattern", "dotted_name", t "_"])),
  ("_as_pattern", seq ["case_pattern", t "as", "identifier"]),
  ("union_pattern",
    rightward 0 (seq ["_simple_pattern", many1 (leftward 0 (seq [t "|", "_simple_pattern"]))])),
  ("_list_pattern", seq [t "[", optional (trailingCommas "case_pattern"), t "]"]),
  ("_tuple_pattern", seq [t "(", optional (trailingCommas "case_pattern"), t ")"]),
  ("dict_pattern",
    seq [
      t "\x7b", optional (trailingCommas (choice ["_key_value_pattern", "splat_pattern"])),
      t "\x7d"]),
  ("_key_value_pattern",
    seq [field "key" "_simple_pattern", t ":", field "value" "case_pattern"]),
  ("keyword_pattern", seq ["identifier", t "=", "_simple_pattern"]),
  ("splat_pattern", atLevel 1 (seq [choice [t "*", t "**"], choice ["identifier", t "_"]])),
  ("class_pattern", seq ["dotted_name", t "(", optional (trailingCommas "case_pattern"), t ")"]),
  ("complex_pattern",
    atLevel 1 (seq [
      optional (t "-"), choice ["integer", "float"], choice [t "+", t "-"],
      choice ["integer", "float"]]))]

/-- Parameters, and the targets of bindings. -/
def parameters : List (String × Rule) := [
  ("_parameters", trailingCommas "parameter"),
  ("_patterns", trailingCommas "pattern"),
  ("parameter",
    choice [
      "identifier", "typed_parameter", "default_parameter", "typed_default_parameter",
      "list_splat_pattern", "tuple_pattern", "keyword_separator", "positional_separator",
      "dictionary_splat_pattern"]),
  ("pattern",
    choice [
      "identifier", "keyword_identifier", "subscript", "attribute", "list_splat_pattern",
      "tuple_pattern", "list_pattern"]),
  ("tuple_pattern", seq [t "(", optional "_patterns", t ")"]),
  ("list_pattern", seq [t "[", optional "_patterns", t "]"]),
  ("default_parameter",
    seq [
      field "name" (choice ["identifier", "tuple_pattern"]), t "=", field "value" "expression"]),
  ("typed_default_parameter",
    atLevel (-1) (seq [
      field "name" "identifier", t ":", field "type" "type", t "=", field "value" "expression"])),
  ("list_splat_pattern",
    seq [t "*", choice ["identifier", "keyword_identifier", "subscript", "attribute"]]),
  ("dictionary_splat_pattern",
    seq [t "**", choice ["identifier", "keyword_identifier", "subscript", "attribute"]]),
  ("as_pattern",
    leftward 0 (seq [
      "expression", t "as", field "alias" (named "as_pattern_target" "expression")]))]

/-- Expressions that are built from operators, and assignments. -/
def expressions : List (String × Rule) := [
  ("_expression_within_for_in_clause",
    choice ["expression", named "lambda" "lambda_within_for_in_clause"]),
  ("expression",
    choice [
      "comparison_operator", "not_operator", "boolean_operator", "lambda",
      "primary_expression", "conditional_expression", "named_expression", "as_pattern"]),
  ("primary_expression",
    choice [
      "await", "binary_operator", "identifier", "keyword_identifier", "string",
      "concatenated_string", "integer", "float", "true", "false", "none", "unary_operator",
      "attribute", "subscript", "call", "list", "list_comprehension", "dictionary",
      "dictionary_comprehension", "set", "set_comprehension", "tuple",
      "parenthesized_expression", "generator_expression", "ellipsis",
      named "list_splat" "list_splat_pattern"]),
  ("not_operator", atLevel 12 (seq [t "not", field "argument" "expression"])),
  ("boolean_operator",
    choice [
      leftward 11 (seq [
        field "left" "expression", field "operator" (t "and"), field "right" "expression"]),
      leftward 10 (seq [
        field "left" "expression", field "operator" (t "or"), field "right" "expression"])]),
  ("binary_operator",
    choice [
      leftward 18 (seq [
        field "left" "primary_expression", field "operator" (t "+"),
        field "right" "primary_expression"]),
      leftward 18 (seq [
        field "left" "primary_expression", field "operator" (t "-"),
        field "right" "primary_expression"]),
      leftward 19 (seq [
        field "left" "primary_expression", field "operator" (t "*"),
        field "right" "primary_expression"]),
      leftward 19 (seq [
        field "left" "primary_expression", field "operator" (t "@"),
        field "right" "primary_expression"]),
      leftward 19 (seq [
        field "left" "primary_expression", field "operator" (t "/"),
        field "right" "primary_expression"]),
      leftward 19 (seq [
        field "left" "primary_expression", field "operator" (t "%"),
        field "right" "primary_expression"]),
      leftward 19 (seq [
        field "left" "primary_expression", field "operator" (t "//"),
        field "right" "primary_expression"]),
      rightward 21 (seq [
        field "left" "primary_expression", field "operator" (t "**"),
        field "right" "primary_expression"]),
      leftward 14 (seq [
        field "left" "primary_expression", field "operator" (t "|"),
        field "right" "primary_expression"]),
      leftward 15 (seq [
        field "left" "primary_expression", field "operator" (t "&"),
        field "right" "primary_expression"]),
      leftward 16 (seq [
        field "left" "primary_expression", field "operator" (t "^"),
        field "right" "primary_expression"]),
      leftward 17 (seq [
        field "left" "primary_expression", field "operator" (t "<<"),
        field "right" "primary_expression"]),
      leftward 17 (seq [
        field "left" "primary_expression", field "operator" (t ">>"),
        field "right" "primary_expression"])]),
  ("unary_operator",
    atLevel 20 (seq [
      field "operator" (choice [t "+", t "-", t "~"]), field "argument" "primary_expression"])),
  ("_not_in", seq [t "not", t "in"]),
  ("_is_not", seq [t "is", t "not"]),
  ("comparison_operator",
    leftward 13 (seq [
      "primary_expression",
      many1 (seq [
        field "operators" (choice [
          t "<", t "<=", t "==", t "!=", t ">=", t ">", t "<>", t "in",
          asToken "not in" "_not_in", t "is", asToken "is not" "_is_not"]),
        "primary_expression"])])),
  ("lambda",
    atLevel (-2) (seq [
      t "lambda", field "parameters" (optional "lambda_parameters"), t ":",
      field "body" "expression"])),
  ("lambda_within_for_in_clause",
    seq [
      t "lambda", field "parameters" (optional "lambda_parameters"), t ":",
      field "body" "_expression_within_for_in_clause"]),
  ("assignment",
    seq [
      field "left" "_left_hand_side",
      choice [
        seq [t "=", field "right" "_right_hand_side"], seq [t ":", field "type" "type"],
        seq [t ":", field "type" "type", t "=", field "right" "_right_hand_side"]]]),
  ("augmented_assignment",
    seq [
      field "left" "_left_hand_side",
      field "operator" (choice [
        t "+=", t "-=", t "*=", t "/=", t "@=", t "//=", t "%=", t "**=", t ">>=", t "<<=",
        t "&=", t "^=", t "|="]),
      field "right" "_right_hand_side"]),
  ("_left_hand_side", choice ["pattern", "pattern_list"]),
  ("pattern_list",
    seq ["pattern", choice [t ",", seq [many1 (seq [t ",", "pattern"]), optional (t ",")]]]),
  ("_right_hand_side",
    choice [
      "expression", "expression_list", "assignment", "augmented_assignment", "pattern_list",
      "yield"]),
  ("yield",
    rightward 0 (seq [
      t "yield", choice [seq [t "from", "expression"], optional "_expressions"]])),
  ("attribute",
    atLevel 22 (seq [
      field "object" "primary_expression", t ".", field "attribute" "identifier"])),
  ("subscript",
    atLevel 22 (seq [
      field "value" "primary_expression", t "[",
      commas (field "subscript" (choice ["expression", "slice"])), optional (t ","), t "]"])),
  ("slice",
    seq [
      optional "expression", t ":", optional "expression",
      optional (seq [t ":", optional "expression"])]),
  ("call",
    atLevel 22 (seq [
      field "function" "primary_expression",
      field "arguments" (choice ["generator_expression", "argument_list"])]))]

/-- Types, as they stand in the place of a type. -/
def types : List (String × Rule) := [
  ("typed_parameter",
    atLevel (-1) (seq [
      choice ["identifier", "list_splat_pattern", "dictionary_splat_pattern"], t ":",
      field "type" "type"])),
  ("type",
    choice [
      atLevel 1 "expression", "splat_type", "generic_type", "union_type", "constrained_type",
      "member_type"]),
  ("splat_type", atLevel 1 (seq [choice [t "*", t "**"], "identifier"])),
  ("generic_type",
    atLevel 1 (seq [choice ["identifier", named "identifier" (t "type")], "type_parameter"])),
  ("union_type", leftward 0 (seq ["type", t "|", "type"])),
  ("constrained_type", rightward 0 (seq ["type", t ":", "type"])),
  ("member_type", seq ["type", t ".", "identifier"]),
  ("keyword_argument",
    seq [
      field "name" (choice ["identifier", "keyword_identifier"]), t "=",
      field "value" "expression"])]

/-- Collections, comprehensions and conditions. -/
def collections : List (String × Rule) := [
  ("list", seq [t "[", optional "_collection_elements", t "]"]),
  ("set", seq [t "\x7b", "_collection_elements", t "\x7d"]),
  ("tuple", seq [t "(", optional "_collection_elements", t ")"]),
  ("dictionary",
    seq [
      t "\x7b", optional (commas (choice ["pair", "dictionary_splat"])), optional (t ","),
      t "\x7d"]),
  ("pair", seq [field "key" "expression", t ":", field "value" "expression"]),
  ("list_comprehension", seq [t "[", field "body" "expression", "_comprehension_clauses", t "]"]),
  ("dictionary_comprehension",
    seq [t "\x7b", field "body" "pair", "_comprehension_clauses", t "\x7d"]),
  ("set_comprehension",
    seq [t "\x7b", field "body" "expression", "_comprehension_clauses", t "\x7d"]),
  ("generator_expression",
    seq [t "(", field "body" "expression", "_comprehension_clauses", t ")"]),
  ("_comprehension_clauses", seq ["for_in_clause", many (choice ["for_in_clause", "if_clause"])]),
  ("parenthesized_expression", atLevel 1 (seq [t "(", choice ["expression", "yield"], t ")"])),
  ("_collection_elements",
    trailingCommas (choice [
      "expression", "yield", "list_splat",
      named "parenthesized_expression" "parenthesized_list_splat"])),
  ("for_in_clause",
    leftward 0 (seq [
      optional (t "async"), t "for", field "left" "_left_hand_side", t "in",
      field "right" (commas "_expression_within_for_in_clause"), optional (t ",")])),
  ("if_clause", seq [t "if", "expression"]),
  ("conditional_expression",
    rightward (-1) (seq ["expression", t "if", "expression", t "else", "expression"]))]

/-- Strings, and words that are keywords only in some places. -/
def strings : List (String × Rule) := [
  ("concatenated_string", seq ["string", many1 "string"]),
  ("string",
    seq ["string_start", many (choice ["interpolation", "string_content"]), "string_end"]),
  ("string_content",
    rightward 0 (many1 (choice [
      "escape_interpolation", "escape_sequence", "_not_escape_sequence", "_string_content"]))),
  ("interpolation",
    seq [
      t "\x7b", field "expression" "_f_expression", optional (t "="),
      optional (field "type_conversion" "type_conversion"),
      optional (field "format_specifier" "format_specifier"), t "\x7d"]),
  ("_f_expression", choice ["expression", "expression_list", "pattern_list", "yield"]),
  ("format_specifier",
    seq [t ":", many (choice ["_format_text", named "format_expression" "interpolation"])]),
  ("keyword_identifier",
    choice [
      atLevel (-3) (named "identifier" (choice [t "print", t "exec", t "async", t "await"])),
      named "identifier" (choice [t "type", t "match"])]),
  ("await", atLevel 20 (seq [t "await", "primary_expression"])),
  ("positional_separator", t "/"),
  ("keyword_separator", t "*")]

def grammar : Grammar where
  rules :=
    simpleStatements ++ compoundStatements ++ definitions ++ patterns ++ parameters ++
      expressions ++ types ++ collections ++ strings
  inlined :=
    ["_simple_statement", "_compound_statement", "_suite", "_expressions", "_left_hand_side",
      "keyword_identifier"]
  hidden := ["expression", "primary_expression", "pattern", "parameter"]
  word := "identifier"
  extras := ["comment", "line_continuation"]
  layoutTokens := [
    (false, "_newline"), (false, "_indent"), (false, "_dedent"), (false, "string_start"),
    (false, "_string_content"), (false, "escape_interpolation"), (false, "string_end"),
    (false, "comment"), (true, "]"), (true, ")"), (true, "\x7d"), (true, "except")]

end ScopeCheck.Python
