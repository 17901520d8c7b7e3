import Crosscheck.Java.Grammar.Words
/-!
# Types
-/

namespace Crosscheck.Java.Grammar

open Phrase

/-- A type that is one word. -/
def namedType : Phrase :=
  first
    [atom "void_type" "void",
      node "integral_type" [first (["byte", "short", "int", "long", "char"].map word)],
      node "floating_point_type" [first (["float", "double"].map word)],
      atom "boolean_type" "boolean", typeName]

/-- Type arguments; there may be none between the brackets. -/
def typeArguments : Phrase :=
  let wildcard := node "wildcard"
    [annotations, sign "?",
      maybe (first [seq [word "extends", use .type], seq [atom "super" "super", use .type]])]
  node "type_arguments" [sign "<", maybe (commas (first [wildcard, use .type])), closer]

/-- How a type name grows: members of other types, and type arguments. -/
def typeGrowths : List Growth :=
  [⟨1, ["type_identifier", "scoped_type_identifier", "generic_type"], "scoped_type_identifier",
      seq [sign ".", annotations,
        name "type_identifier" ["class", "this", "super", "new"]]⟩,
    ⟨1, ["type_identifier", "scoped_type_identifier"], "generic_type", use .typeArguments⟩]

/-- A type that is no array. -/
def simpleType : Phrase := grow 0 namedType typeGrowths

/-- A type without annotations in front. -/
def bareType : Phrase :=
  grow 0 (use .simpleType)
    [⟨1, ["void_type", "integral_type", "floating_point_type", "boolean_type", "type_identifier",
        "scoped_type_identifier", "generic_type"], "array_type", use .dimensions⟩]

/-- A type. -/
def type : Phrase :=
  first [node "annotated_type" [some1 (use .marker), use .bareType], use .bareType]

/-- Pairs of square brackets. -/
def dimensions : Phrase :=
  node "dimensions" [some1 (seq [annotations, sign "[", sign "]"])]

/-- The parameters of a generic declaration. -/
def typeParameters : Phrase :=
  let bound := node "type_bound"
    [word "extends", use .type, many (seq [sign "&", use .type])]
  node "type_parameters"
    [sign "<", commas (node "type_parameter" [annotations, name "type_identifier" [], maybe bound]),
      closer]

/-- The name a variable is declared under, with the dimensions written after it. -/
def declaredName : Phrase :=
  seq [first [atom "underscore_pattern" "_", anyName], maybe (use .dimensions)]

/-- A variable that is declared, with its first value. -/
def declarator : Phrase :=
  node "variable_declarator"
    [declaredName,
      maybe (seq [sign "=", first [use .arrayInitializer, use (.expression 0 true)]])]

/-- Variables of one type. -/
def declarators : Phrase := commas declarator

/-- The type of a declaration, where the words are keywords. -/
def typeUnless (words : List String) : Phrase := .unless words (use .bareType)

end Crosscheck.Java.Grammar
