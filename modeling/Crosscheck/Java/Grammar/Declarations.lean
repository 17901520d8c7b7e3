import Crosscheck.Java.Grammar.Statements
/-!
# Declarations
-/

namespace Crosscheck.Java.Grammar

open Phrase

/-- Types after commas. -/
def typeList : Phrase := node "type_list" [commas (use .type)]

/-- Interfaces that are implemented. -/
def implemented : Phrase := maybe (node "super_interfaces" [word "implements", typeList])

/-- Subtypes that are permitted. -/
def permitted : Phrase := maybe (node "permits" [word "permits", typeList])

/-- A class. -/
def classDeclaration : Phrase :=
  node "class_declaration"
    [maybe (use .modifiers), word "class", anyName, maybe (use .typeParameters),
      maybe (node "superclass" [word "extends", use .type]), implemented, permitted,
      playing .body (use .classBody)]

/-- A record. -/
def recordDeclaration : Phrase :=
  node "record_declaration"
    [maybe (use .modifiers), word "record", anyName, maybe (use .typeParameters), use .parameters,
      implemented, playing .body (use .classBody)]

/-- An interface. -/
def interfaceDeclaration : Phrase :=
  node "interface_declaration"
    [maybe (use .modifiers), word "interface", anyName, maybe (use .typeParameters),
      maybe (node "extends_interfaces" [word "extends", typeList]), permitted,
      playing .body (use .interfaceBody)]

/-- An annotation type. -/
def annotationDeclaration : Phrase :=
  node "annotation_type_declaration"
    [maybe (use .modifiers), sign "@interface", anyName, playing .body (use .annotationBody)]

/-- An enumeration. -/
def enumDeclaration : Phrase :=
  node "enum_declaration"
    [maybe (use .modifiers), word "enum", anyName, implemented, playing .body (use .enumBody)]

/-- The constants of an enumeration, then its members after a semicolon. -/
def enumBody : Phrase :=
  let constant := node "enum_constant"
    [maybe (use .modifiers), anyName, maybe (use .arguments), maybe (use .classBody)]
  node "enum_body"
    [sign "\x7b", maybe (commas constant), maybe (sign ","),
      maybe (node "enum_body_declarations" [sign ";", many (use .member)]), sign "\x7d"]

/-- Parameters of a method, a constructor or a lambda. -/
def parameters : Phrase :=
  let receiver := node "receiver_parameter"
    [annotations, use .bareType, many (seq [anyName, sign "."]), atom "this" "this"]
  let spread := node "spread_parameter"
    [maybe (use .modifiers), use .bareType, sign "...", annotations, declarator]
  let plain := node "formal_parameter" [maybe (use .modifiers), use .bareType, declaredName]
  let more := maybe (commas (first [spread, plain]))
  node "formal_parameters"
    [sign "(", first [seq [receiver, maybe (seq [sign ",", more])], more], sign ")"]

/-- The exceptions a method may end with. -/
def thrown : Phrase := maybe (node "throws" [word "throws", commas (use .type)])

/-- A method. -/
def method (words : List String) : Phrase :=
  node "method_declaration"
    [maybe (use .modifiers), maybe (seq [use .typeParameters, annotations]), typeUnless words,
      anyName, use .parameters, maybe (use .dimensions), thrown,
      first [playing .body (use .block), sign ";"]]

/-- Variables that belong to a type. -/
def fields (kind : String) : Phrase :=
  node kind [maybe (use .modifiers), typeUnless memberWords, use .declarators, sign ";"]

/-- The call of another constructor that a constructor starts with. -/
def constructorCall : Phrase :=
  node "explicit_constructor_invocation"
    [first
      [seq [maybe (use .typeArguments), first [atom "this" "this", atom "super" "super"],
          use .arguments],
        seq [use .primary, sign ".", maybe (use .typeArguments), atom "super" "super",
          use .arguments]],
      sign ";"]

/-- A constructor. -/
def constructor : Phrase :=
  node "constructor_declaration"
    [maybe (use .modifiers), maybe (use .typeParameters),
      name "identifier" (memberWords ++ primitiveWords),
      use .parameters, thrown,
      playing .body
        (node "constructor_body"
          [sign "\x7b", maybe constructorCall, many (use .statement), sign "\x7d"])]

/-- A constructor of a record that leaves its parameters out. -/
def compactConstructor : Phrase :=
  node "compact_constructor_declaration"
    [maybe (use .modifiers), name "identifier" (memberWords ++ primitiveWords),
      playing .body (use .block)]

/-- Types declared inside a type. -/
def nestedTypes : List Phrase :=
  [use .classDeclaration, use .interfaceDeclaration, use .enumDeclaration,
    use .annotationDeclaration]

/-- A member of a class. -/
def member : Phrase :=
  first
    ([sign ";", use .block, node "static_initializer" [word "static", use .block]]
      ++ nestedTypes
      ++ [use .recordDeclaration, use .method, fields "field_declaration", constructor,
        compactConstructor])

/-- The members of a class. -/
def classBody : Phrase := node "class_body" [sign "\x7b", many (use .member), sign "\x7d"]

/-- The members of an interface. -/
def interfaceBody : Phrase :=
  node "interface_body"
    [sign "\x7b",
      many (first
        ([sign ";"] ++ nestedTypes
          ++ [use .recordDeclaration, use .method, fields "constant_declaration"])),
      sign "\x7d"]

/-- The members of an annotation type. -/
def annotationBody : Phrase :=
  let element := node "annotation_type_element_declaration"
    [maybe (use .modifiers), typeUnless memberWords, anyName, sign "(", sign ")",
      maybe (use .dimensions), maybe (seq [word "default", use .elementValue]), sign ";"]
  node "annotation_type_body"
    [sign "\x7b", many (first (nestedTypes ++ [element, fields "constant_declaration"])),
      sign "\x7d"]

/-- A module. -/
def moduleDeclaration : Phrase :=
  let names := commas (use .name)
  let directive := first
    [node "requires_module_directive"
      [word "requires",
        many (node "requires_modifier" [first [word "transitive", word "static"]]), use .name,
        sign ";"],
      node "exports_module_directive"
        [word "exports", use .name, maybe (seq [word "to", names]), sign ";"],
      node "opens_module_directive"
        [word "opens", use .name, maybe (seq [word "to", names]), sign ";"],
      node "uses_module_directive" [word "uses", use .name, sign ";"],
      node "provides_module_directive"
        [word "provides", use .name, word "with", names, sign ";"]]
  node "module_declaration"
    [annotations, maybe (word "open"), word "module", use .name,
      playing .body (node "module_body" [sign "\x7b", many directive, sign "\x7d"])]

/-- The package a file belongs to. -/
def packageDeclaration : Phrase :=
  node "package_declaration" [annotations, word "package", use .name, sign ";"]

/-- Names from elsewhere. -/
def importDeclaration : Phrase :=
  node "import_declaration"
    [word "import", maybe (word "static"), use .name,
      maybe (seq [sign ".", node "asterisk" [sign "*"]]), sign ";"]

/-- A declaration that may stand among statements. -/
def declaration : Phrase :=
  first
    ([importDeclaration, packageDeclaration, moduleDeclaration] ++ nestedTypes
      ++ [use .recordDeclaration])

/-- What a file consists of: statements, and methods without a class around them. -/
def topLevel : Phrase := first [use .statement, method (openingWords ++ softWords)]

/-- The phrase of each category. -/
def rules : Category → Phrase
  | .statement => statement
  | .block => block
  | .declaration => declaration
  | .member => member
  | .classBody => classBody
  | .interfaceBody => interfaceBody
  | .annotationBody => annotationBody
  | .enumBody => enumBody
  | .recordDeclaration => recordDeclaration
  | .classDeclaration => classDeclaration
  | .interfaceDeclaration => interfaceDeclaration
  | .annotationDeclaration => annotationDeclaration
  | .enumDeclaration => enumDeclaration
  | .method => method memberWords
  | .declarators => declarators
  | .localVariables => localVariables
  | .modifiers => modifiers
  | .marker => marker
  | .elementValue => elementValue
  | .name => dottedName
  | .type => type
  | .simpleType => simpleType
  | .bareType => bareType
  | .typeArguments => typeArguments
  | .typeParameters => typeParameters
  | .dimensions => dimensions
  | .parameters => parameters
  | .arguments => arguments
  | .parenthesized => parenthesized
  | .arrayInitializer => arrayInitializer
  | .recordPattern => recordPattern
  | .switch => switch
  | .string => string
  | .primary => primary
  | .lambda => lambda
  | .operand arrows => operand arrows
  | .expression floor arrows => expression floor arrows

end Crosscheck.Java.Grammar
