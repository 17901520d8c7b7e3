import Crosscheck.Java.Grammar.Types
/-!
# Expressions

Operators bind as their level says: `1` assignment, `3` the conditional, `4` to `13` the binary
operators, `14` casts, `15` unary operators. An assignment or a lambda takes everything to its
right, wherever it stands.
-/

namespace Crosscheck.Java.Grammar

open Phrase

/-- The levels of the binary operators. -/
def binaryLevels : List (String × Nat) :=
  [("||", 4), ("&&", 5), ("|", 6), ("^", 7), ("&", 8), ("==", 9), ("!=", 9), ("<", 10), (">", 10),
    ("<=", 10), (">=", 10), ("<<", 11), (">>", 11), (">>>", 11), ("+", 12), ("-", 12), ("*", 13),
    ("/", 13), ("%", 13)]

/-- Signs of assignments. -/
def assignmentSigns : List String :=
  ["=", "+=", "-=", "*=", "/=", "&=", "|=", "^=", "%=", "<<=", ">>=", ">>>="]

/-- A pattern that takes a record apart. -/
def recordPattern : Phrase :=
  let component := node "record_pattern_component"
    [first [seq [use .bareType, anyName], atom "underscore_pattern" "_"]]
  node "record_pattern"
    [first
      [only ["generic_type"] (use .simpleType), anyName],
      node "record_pattern_body"
        [sign "(", maybe (commas (first [component, use .recordPattern])), sign ")"]]

/-- How an operand grows to the right by operators. -/
def operatorGrowths (arrows : Bool) : List Growth :=
  binaryLevels.map (fun (text, level) =>
    ⟨level, [], "binary_expression", seq [sign text, use (.expression level arrows)]⟩)
  ++ [⟨15, [], "update_expression", first [sign "++", sign "--"]⟩,
    ⟨10, [], "instanceof_expression",
      seq [word "instanceof", maybe (word "final"),
        first
          [use .recordPattern,
            seq [use .type, maybe (name "identifier" ["instanceof", "when"])]]]⟩,
    ⟨3, [], "ternary_expression",
      seq [sign "?", use (.expression 0 true), sign ":", use (.expression 2 arrows)]⟩]

/-- An expression. -/
def expression (floor : Nat) (arrows : Bool) : Phrase :=
  grow floor (use (.operand arrows)) (operatorGrowths arrows)

/-- Arguments of a call. -/
def arguments : Phrase :=
  node "argument_list" [sign "(", maybe (commas (use (.expression 0 true))), sign ")"]

/-- An expression in parentheses. -/
def parenthesized : Phrase :=
  node "parenthesized_expression" [sign "(", use (.expression 0 true), sign ")"]

/-- A lambda. -/
def lambda : Phrase :=
  let inferred := node "inferred_parameters" [sign "(", commas anyName, sign ")"]
  node "lambda_expression"
    [first
      [seq [name "identifier" expressionWords, ahead (sign "->")],
        seq [inferred, ahead (sign "->")],
        seq [use .parameters, ahead (sign "->")]],
      sign "->", first [use .block, use (.expression 0 true)]]

/-- The beginning of an operand that cannot go on from an expression in parentheses. -/
def freshOperand : Phrase :=
  first
    [sign "(", sign "!", sign "~", .number, character, sign "\"", sign "\"\"\"",
      name "identifier" ["instanceof"]]

/-- A type where an expression might start as well. -/
def clearType : Phrase := .unless (operandWords ++ softWords) (use .type)

/-- A cast that cannot be read as an expression in parentheses with an operator after it. -/
def clearCast (arrows : Bool) : Phrase :=
  first
    [node "cast_expression"
      [sign "(", clearType, sign ")",
        ahead (first [freshOperand, seq [first [sign "++", sign "--"], freshOperand]]),
        use (.expression 14 arrows)],
      node "cast_expression"
        [sign "(", clearType, some1 (seq [sign "&", use .type]), sign ")",
          first [use .lambda, use .primary]]]

/-- A cast of an operand that starts with a sign. -/
def signedCast (arrows : Bool) : Phrase :=
  node "cast_expression"
    [sign "(", clearType, sign ")",
      ahead (first [sign "+", sign "-", sign "++", sign "--"]), use (.expression 14 arrows)]

/-- An operator in front of its operand. -/
def unary (arrows : Bool) : Phrase :=
  first
    [node "unary_expression"
      [playing .operator (first [sign "+", sign "-", sign "!", sign "~"]),
        use (.expression 15 arrows)],
      node "update_expression"
        [first [sign "++", sign "--"], use (.expression 15 arrows)]]

/-- What a `new` creates, its dimensions or its arguments included. -/
def creation : Phrase :=
  let size := node "dimensions_expr"
    [annotations, sign "[", use (.expression 0 true), sign "]"]
  first
    [node "array_creation_expression"
      [word "new", annotations, use .simpleType,
        first
          [seq [some1 size, maybe (use .dimensions)],
            seq [use .dimensions, use .arrayInitializer]]],
      node "object_creation_expression" [createdObject]]
where
  /-- An object that is created, perhaps of a class without a name. -/
  createdObject : Phrase :=
    seq [word "new", annotations, maybe (seq [use .typeArguments, annotations]), use .simpleType,
      use .arguments, maybe (use .classBody)]

/-- The name of a method or a field after a dot. -/
def memberName : Phrase := name "identifier" ["this", "super", "new"]

/-- What may be selected or done with a primary. -/
def primaryGrowths : List Growth :=
  [⟨1, [], "method_invocation",
      seq [sign ".", maybe (seq [atom "super" "super", sign "."]), maybe (use .typeArguments),
        memberName, use .arguments]⟩,
    ⟨1, [], "field_access",
      seq [sign ".", maybe (seq [atom "super" "super", sign "."]),
        first [atom "this" "this", memberName]]⟩,
    ⟨1, [], "object_creation_expression", seq [sign ".", creation.createdObject]⟩,
    ⟨1, [], "template_expression", seq [sign ".", use .string]⟩,
    ⟨1, [], "array_access", seq [sign "[", use (.expression 0 true), sign "]"]⟩,
    ⟨1, [], "method_reference", referred⟩,
    ⟨1, ["identifier", "field_access", "array_access"], "assignment_expression",
      seq [first (assignmentSigns.map sign), use (.expression 0 true)]⟩]
where
  /-- The method a reference names. -/
  referred : Phrase :=
    seq [sign "::", maybe (use .typeArguments), first [word "new", anyName]]

/-- What `super` starts. -/
def superMember : Phrase :=
  first
    [node "method_invocation"
      [atom "super" "super", sign ".", maybe (seq [atom "super" "super", sign "."]),
        maybe (use .typeArguments), memberName, use .arguments],
      node "field_access"
        [atom "super" "super", sign ".", maybe (seq [atom "super" "super", sign "."]),
          first [atom "this" "this", memberName]],
      node "method_reference" [atom "super" "super", primaryGrowths.referred]]

/-- A type that is no plain name. -/
def shapedType : Phrase :=
  only
    ["generic_type", "array_type", "void_type", "integral_type", "floating_point_type",
      "boolean_type", "annotated_type"]
    clearType

/-- What a primary starts with. -/
def primarySeed : Phrase :=
  first
    [.number, character, use .string, atom "true" "true", atom "false" "false",
      atom "null_literal" "null", atom "this" "this", creation, superMember,
      node "class_literal"
        [.unless (operandWords ++ softWords) (use .bareType), sign ".", word "class"],
      node "method_reference" [shapedType, primaryGrowths.referred],
      node "method_invocation" [name "identifier" expressionWords, use .arguments],
      name "identifier" expressionWords, use .parenthesized]

/-- An operand that no operator takes part in, apart from assignments to it. -/
def primary : Phrase := grow 0 primarySeed primaryGrowths

/-- An operand. -/
def operand (arrows : Bool) : Phrase :=
  first
    ((if arrows then [use .lambda] else [])
      ++ [clearCast arrows, unary arrows, use .switch, use .primary, signedCast arrows])

/-- A string or a text block. -/
def string : Phrase :=
  let escape := piece "escape_sequence" escapeSequence
  let embedded := node "string_interpolation"
    [tight "\\\x7b", use (.expression 0 true), sign "\x7d"]
  first
    [node "string_literal"
      [sign "\"\"\"",
        many (first [piece "multiline_string_fragment" blockFragment, embedded, escape]),
        tight "\"\"\""],
      node "string_literal"
        [sign "\"", many (first [piece "string_fragment" stringFragment, embedded, escape]),
          tight "\""]]

/-- Values between braces. -/
def arrayInitializer : Phrase :=
  let value := first [use .arrayInitializer, use (.expression 0 true)]
  node "array_initializer"
    [sign "\x7b", maybe (commas value), maybe (sign ","), sign "\x7d"]

end Crosscheck.Java.Grammar
