import Crosscheck.Java.Phrase
/-!
# Keywords and names

A word is a keyword only where a keyword of that spelling could stand; anywhere else it is an
identifier (`int if = 1;` declares a variable named `if`). The lists below say which words are
keywords at which kind of place.
-/

namespace Crosscheck.Java.Grammar

open Phrase

/-- Types with a keyword of their own. -/
def primitiveWords : List String :=
  ["void", "byte", "short", "int", "long", "char", "float", "double", "boolean"]

/-- Words other than types that an expression starts with. -/
def operandWords : List String := ["new", "this", "super", "true", "false", "null", "switch"]

/-- Keywords where an expression starts. -/
def expressionWords : List String := operandWords ++ primitiveWords

/-- Words that are keywords in some places where an expression starts, and still name things
there. -/
def softWords : List String := ["open", "module", "record", "with", "sealed", "yield"]

/-- Modifiers, apart from annotations. -/
def modifierWords : List String :=
  ["public", "protected", "private", "abstract", "static", "final", "strictfp", "default",
    "synchronized", "native", "transient", "volatile", "sealed"]

/-- Words that start a declaration after its modifiers. -/
def declarationWords : List String := ["class", "interface", "enum", "record"]

/-- Words that start a statement. -/
def statementWords : List String :=
  ["assert", "break", "continue", "do", "for", "if", "return", "synchronized", "throw", "try",
    "while", "import", "package", "class", "interface", "enum"] ++ modifierWords.dropLast

/-- Keywords where a statement starts, apart from types and soft words. -/
def openingWords : List String := statementWords ++ operandWords

/-- Keywords where a member of a class starts, apart from types. -/
def memberWords : List String := modifierWords ++ declarationWords

/-- An identifier of any spelling. -/
def anyName : Phrase := name "identifier" []

/-- The name of a type. -/
def typeName : Phrase := name "type_identifier" primitiveWords

/-- A dotted name. -/
def dottedName : Phrase :=
  grow 0 anyName [⟨1, [], "scoped_identifier", seq [sign ".", anyName]⟩]

/-- An annotation without or with arguments. -/
def marker : Phrase :=
  first
    [node "annotation"
      [sign "@", use .name,
        node "annotation_argument_list"
          [sign "(",
            first
              [seq [commas (node "element_value_pair"
                  [name "identifier" expressionWords, sign "=", use .elementValue]),
                ahead (sign ")")],
                use .elementValue, nothing],
            sign ")"]],
      node "marker_annotation" [sign "@", use .name]]

/-- The value of an element of an annotation. -/
def elementValue : Phrase :=
  first
    [node "element_value_array_initializer"
      [sign "\x7b", maybe (commas (use .elementValue)), maybe (sign ","), sign "\x7d"],
      use .marker, use (.expression 0 true)]

/-- Modifiers of a declaration. -/
def modifiers : Phrase :=
  node "modifiers"
    [some1 (first (use .marker :: sign "non-sealed" :: modifierWords.map word))]

/-- Annotations in front of something. -/
def annotations : Phrase := many (use .marker)

end Crosscheck.Java.Grammar
