import Crosscheck.Document.Xml.Token
/-!
# Document type declarations

What a document may declare before its first element, as far as it bears on the elements: entities,
and attributes that elements have without saying so. Declarations outside the document are not read.
-/

namespace Crosscheck.Document.Xml

open Crosscheck.Document.Json

/-- What an entity stands for. -/
inductive Entity
  | replacement (text : List Char)
  /-- Something outside the document. -/
  | external

/-- A declared attribute of an element. -/
structure Attribute where
  element : PrefixedName
  name : PrefixedName
  /-- Whether the value is any text; that of other attributes is a list of words. -/
  isText : Bool
  /-- The value where the element gives none, as it is written. -/
  standard : Option (List Char)

/-- The declarations of a document. -/
structure Doctype where
  entities : List (List Char × Entity)
  attributes : List Attribute
  /-- Whether there may be declarations that are not read. -/
  isPartial : Bool

/-- No declarations. -/
def Doctype.empty : Doctype := ⟨[], [], false⟩

/-- What a name stands for. The first declaration of a name counts. -/
def Doctype.entity? (doctype : Doctype) (name : List Char) : Option Entity :=
  (doctype.entities.find? (·.1 == name)).map (·.2)

/-- Whether a character may stand in a public identifier. -/
def isPublicChar (c : Char) : Bool :=
  c.isAlphanum || " \n-'()+,./:=?;!*#@$_%".toList.contains c

/-- A public or a system identifier, with the literals it needs. -/
def externalId? (publicAlone : Bool) (cs : List Char) : Option (List Char) :=
  match after? "SYSTEM" cs with
  | some rest => do
    let (_, rest) ← literal? (← layout? rest)
    return rest
  | none => do
    let rest ← after? "PUBLIC" cs
    let (publicId, rest) ← literal? (← layout? rest)
    if publicId.all isPublicChar then
      match (layout? rest).bind literal? with
      | some (_, rest) => return rest
      | none => if publicAlone then return rest else none
    else none

/-- The end of a declaration, after layout. -/
def close? (cs : List Char) : Option (List Char) :=
  match skip cs with
  | '>' :: rest => some rest
  | _ => none

/-- The replacement text of an entity from its literal: character references are resolved, other
references stay. -/
def replacement? : Nat → List Char → Option (List Char)
  | 0, _ => none
  | _, [] => some []
  | _, '%' :: _ => none
  | fuel + 1, '&' :: rest =>
    match reference? rest with
    | none => none
    | some (.char c, rest) => (replacement? fuel rest).map (c :: ·)
    | some (.entity name, rest) =>
      (replacement? fuel rest).map fun more => '&' :: name ++ ';' :: more
  | fuel + 1, c :: rest => (replacement? fuel rest).map (c :: ·)

/-- An entity declaration, after its opening. -/
def entityDeclaration? (cs : List Char) : Option (Option (List Char × Entity) × List Char) := do
  let cs ← layout? cs
  let (inside, cs) ← match cs with
    | '%' :: rest => (layout? rest).map (true, ·)
    | _ => some (false, cs)
  let (name, rest) ← name? cs
  let cs ← layout? rest
  match literal? cs with
  | some (value, rest) =>
    let text ← replacement? (value.length + 1) value
    let rest ← close? rest
    return (if inside then none else some (name, .replacement text), rest)
  | none =>
    let rest ← externalId? false cs
    let rest := match (layout? rest).bind (after? "NDATA") with
      | some more =>
        if inside then rest
        else (((layout? more).bind name?).map (·.2)).getD rest
      | none => rest
    let rest ← close? rest
    return (if inside then none else some (name, .external), rest)

/-- Words between parentheses with bars between them, after the opening one. -/
def choice? : Nat → List Char → Option (List Char)
  | 0, _ => none
  | fuel + 1, cs =>
    let (word, rest) := (skip cs).span fun c => isNamePart c || c == ':'
    if word.isEmpty then none
    else
      match skip rest with
      | '|' :: rest => choice? fuel rest
      | ')' :: rest => some rest
      | _ => none

/-- The type of an attribute: whether it is any text. -/
def attributeType? (cs : List Char) : Option (Bool × List Char) :=
  match cs with
  | '(' :: rest => (choice? rest.length rest).map (false, ·)
  | _ => do
    let (word, rest) ← name? cs
    let word := String.ofList word
    if word == "CDATA" then return (true, rest)
    else if word == "NOTATION" then
      match ← layout? rest with
      | '(' :: rest => (choice? rest.length rest).map (false, ·)
      | _ => none
    else if ["ID", "IDREF", "IDREFS", "ENTITY", "ENTITIES", "NMTOKEN", "NMTOKENS"].contains
        word then
      return (false, rest)
    else none

/-- The value that an attribute has where none is given, if it has one. -/
def attributeDefault? (cs : List Char) : Option (Option (List Char) × List Char) :=
  match after? "#REQUIRED" cs with
  | some rest => some (none, rest)
  | none =>
    match after? "#IMPLIED" cs with
    | some rest => some (none, rest)
    | none => do
      let cs ← match after? "#FIXED" cs with
        | some rest => layout? rest
        | none => some cs
      let (value, rest) ← literal? cs
      return (some value, rest)

/-- The attributes that a declaration lists for an element, up to its end. -/
def attributeList? (element : PrefixedName) :
    Nat → List Char → Option (List Attribute × List Char)
  | 0, _ => none
  | fuel + 1, cs =>
    match close? cs with
    | some rest => some ([], rest)
    | none => do
      let (name, rest) ← prefixedName? (← layout? cs)
      let (isText, rest) ← attributeType? (← layout? rest)
      let (standard, rest) ← attributeDefault? (← layout? rest)
      let (more, rest) ← attributeList? element fuel rest
      return (⟨element, name, isText, standard⟩ :: more, rest)

/-- What follows a mark of repetition, if there is one right here. -/
def repetition (cs : List Char) : List Char :=
  match cs with
  | c :: rest => if c == '?' || c == '*' || c == '+' then rest else cs
  | [] => []

/-- A group of elements and groups after its opening, all divided by the same mark. -/
def group? : Nat → Option Char → List Char → Option (List Char)
  | 0, _, _ => none
  | fuel + 1, divider, cs => do
    let rest ← match skip cs with
      | '(' :: rest => group? fuel none rest
      | rest => (prefixedName? rest).map fun (_, rest) => repetition rest
    match skip rest with
    | ')' :: rest => return repetition rest
    | c :: rest =>
      if (c == ',' || c == '|') && (divider.isNone || divider == some c) then
        group? fuel (some c) rest
      else none
    | [] => none

/-- Elements that may stand between text, each after a bar, up to the end of the model. -/
def mixed? : Nat → List Char → Option (List Char)
  | 0, _ => none
  | fuel + 1, cs =>
    match skip cs with
    | ')' :: '*' :: rest => some rest
    | '|' :: rest => do
      let (_, rest) ← prefixedName? (skip rest)
      mixed? fuel rest
    | _ => none

/-- What an element may hold. -/
def contentModel? (cs : List Char) : Option (List Char) :=
  match cs with
  | '(' :: rest =>
    match after? "#PCDATA" (skip rest) with
    | some rest =>
      match skip rest with
      | ')' :: '*' :: rest => some rest
      | ')' :: rest => some rest
      | rest => mixed? (rest.length + 1) rest
    | none => group? (rest.length + 1) none rest
  | _ => do
    let (word, rest) ← name? cs
    if word == "EMPTY".toList || word == "ANY".toList then some rest else none

/-- An element declaration, after its opening. -/
def elementDeclaration? (cs : List Char) : Option (List Char) := do
  let (_, rest) ← prefixedName? (← layout? cs)
  close? (← contentModel? (← layout? rest))

/-- A notation declaration, after its opening. -/
def notationDeclaration? (cs : List Char) : Option (List Char) := do
  let (_, rest) ← name? (← layout? cs)
  let rest ← externalId? true (← layout? rest)
  close? rest

/-- Whether every reference in the literal of an attribute is one, and to a declared entity. -/
def isSound (declared : Doctype) : Nat → List Char → Bool
  | 0, _ => false
  | _, [] => true
  | _, '<' :: _ => false
  | fuel + 1, '&' :: rest =>
    match reference? rest with
    | none => false
    | some (.char _, rest) => isSound declared fuel rest
    | some (.entity name, rest) =>
      ((predefined? name).isSome || declared.isPartial || (declared.entity? name).isSome)
        && isSound declared fuel rest
  | fuel + 1, _ :: rest => isSound declared fuel rest

/-- The declarations inside a document up to the closing bracket. They count until a reference to
declarations is met, and after it in a document that stands alone. -/
def subset? (standalone : Bool) :
    Nat → Bool → Doctype → List Char → Option (Doctype × List Char)
  | 0, _, _, _ => none
  | fuel + 1, counts, declared, cs =>
    match skip cs with
    | ']' :: rest => some (declared, rest)
    | '%' :: rest => do
      let (_, rest) ← name? rest
      match rest with
      | ';' :: rest => subset? standalone fuel standalone { declared with isPartial := true } rest
      | _ => none
    | '<' :: '!' :: '-' :: '-' :: rest => do
      subset? standalone fuel counts declared (← comment? rest)
    | '<' :: '?' :: rest => do
      subset? standalone fuel counts declared (← instruction? rest)
    | '<' :: '!' :: rest =>
      match after? "ENTITY" rest with
      | some rest => do
        let (entity, rest) ← entityDeclaration? rest
        subset? standalone fuel counts
          (if counts then { declared with entities := declared.entities ++ entity.toList }
          else declared) rest
      | none =>
        match after? "ATTLIST" rest with
        | some rest => do
          let (element, rest) ← prefixedName? (← layout? rest)
          let (attributes, rest) ← attributeList? element (rest.length + 1) rest
          if !attributes.all fun a =>
              (a.standard.map fun value => isSound declared (value.length + 1) value).getD true
          then none
          subset? standalone fuel counts
            (if counts then { declared with attributes := declared.attributes ++ attributes }
            else declared) rest
        | none =>
          match after? "ELEMENT" rest with
          | some rest => do
      subset? standalone fuel counts declared (← elementDeclaration? rest)
          | none => do
            let rest ← notationDeclaration? (← after? "NOTATION" rest)
            subset? standalone fuel counts declared rest
    | _ => none

/-- Where declarations outside the document are found, if there are any. -/
def outside? (cs : List Char) : Option (Bool × List Char) :=
  match skip cs with
  | '>' :: _ => some (false, cs)
  | '[' :: _ => some (false, cs)
  | _ => ((layout? cs).bind (externalId? false)).map (true, ·)

/-- A document type declaration, after its opening. -/
def doctype? (standalone : Bool) (cs : List Char) : Option (Doctype × List Char) := do
  let (_, rest) ← prefixedName? (← layout? cs)
  let (isPartial, rest) ← outside? rest
  match skip rest with
  | '[' :: rest =>
    let (declared, rest) ← subset? standalone (rest.length + 1) true ⟨[], [], isPartial⟩ rest
    return (declared, ← close? rest)
  | rest => return (⟨[], [], isPartial⟩, ← close? rest)

end Crosscheck.Document.Xml
