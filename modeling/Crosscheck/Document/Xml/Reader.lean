import Crosscheck.Document.Xml.Doctype
import Crosscheck.Document.Xml.Element
import Crosscheck.Document.Xml.Encoding
/-!
# Reading XML documents

`parse` reads the bytes of a document as its root element, if the document is well-formed: tags
match, attributes differ, references resolve, and every prefix is bound to a namespace.

Text that stands for an entity is read in its place. What all of it together may come to is bounded,
so a small document cannot stand for a huge one.
-/

namespace Crosscheck.Document.Xml

open Crosscheck.Text Crosscheck.Document.Json

/-- Why a document is not read. -/
inductive Failure
  | malformed
  | unknownEncoding
  | wideEncoding
  deriving DecidableEq, Repr

/-- A part of the content of an element. -/
inductive Piece
  | text (cs : List Char)
  | element (e : Element)

/-- The namespaces that prefixes are bound to, the last binding first. -/
abbrev Scope := List (List Char × List Char)

/-- The namespace of the prefix that is bound in every document. -/
def xmlSpace : List Char := "http://www.w3.org/XML/1998/namespace".toList

/-- The namespace that no prefix may be bound to. -/
def xmlnsSpace : List Char := "http://www.w3.org/2000/xmlns/".toList

/-- What the pieces of the content come to: the text before the first element, and the elements. -/
def gather (pieces : List Piece) : List Char × List Element :=
  let isText : Piece → Bool
    | .text _ => true
    | .element _ => false
  ((pieces.takeWhile isText).flatMap fun
      | .text cs => cs
      | .element _ => [],
    pieces.filterMap fun
      | .text _ => none
      | .element e => some e)

/-! ## Attribute values -/

/-- The value of an attribute from its literal, with what is left of the text that entities may come
to. A blank of any kind is a space. -/
def attributeText (doctype : Doctype) (among : List (List Char)) :
    Nat → Nat → List Char → Option (List Char × Nat)
  | 0, _, _ => none
  | _, budget, [] => some ([], budget)
  | _, _, '<' :: _ => none
  | fuel + 1, budget, '&' :: rest => do
    let (reference, rest) ← reference? rest
    let (front, budget) ← match reference with
      | .char c => some ([c], budget)
      | .entity name =>
        match predefined? name with
        | some c => some ([c], budget)
        | none =>
          if among.contains name then none
          else
            match doctype.entity? name with
            | some (.replacement text) =>
              if text.length > budget then none
              else
                attributeText doctype (name :: among) fuel (budget - text.length) text
            | some .external => none
            | none => if doctype.isPartial then some ([], budget) else none
    let (more, budget) ← attributeText doctype among fuel budget rest
    return (front ++ more, budget)
  | fuel + 1, budget, c :: rest => do
    let (more, budget) ← attributeText doctype among fuel budget rest
    return ((if isLayout c then ' ' else c) :: more, budget)

/-- A list of words with one space between two of them. -/
def asWords : List Char → List Char
  | ' ' :: ' ' :: rest => asWords (' ' :: rest)
  | c :: rest => c :: asWords rest
  | [] => []

/-- A value of an attribute that is a list of words. -/
def wordList (cs : List Char) : List Char := asWords (stripBy (· == ' ') cs)

/-- The attributes of a start tag up to its end: names and literals, and whether the tag closes the
element. -/
def attributes? : Nat → List Char → Option (List (PrefixedName × List Char) × Bool × List Char)
  | 0, _ => none
  | fuel + 1, cs =>
    match skip cs with
    | '>' :: rest => some ([], false, rest)
    | '/' :: '>' :: rest => some ([], true, rest)
    | _ => do
      let (name, rest) ← prefixedName? (← layout? cs)
      match skip rest with
      | '=' :: rest =>
        let (value, rest) ← literal? (skip rest)
        let (more, closed, rest) ← attributes? fuel rest
        return ((name, value) :: more, closed, rest)
      | _ => none

/-- The values of attributes. -/
def attributeValues (doctype : Doctype) (element : PrefixedName) :
    Nat → List (PrefixedName × List Char) → Option (List (PrefixedName × List Char) × Nat)
  | budget, [] => some ([], budget)
  | budget, (name, written) :: rest => do
    let (value, budget) ← attributeText doctype []
      (written.length + doctype.entities.foldl (fun sum (_, entity) =>
        match entity with
        | .replacement text => sum + text.length + 1
        | .external => sum + 1) 1)
      budget written
    let isText := ((doctype.attributes.find? fun a =>
      a.element == element && a.name == name).map (·.isText)).getD true
    let (more, budget) ← attributeValues doctype element budget rest
    return ((name, if isText then value else wordList value) :: more, budget)

/-- The attributes that an element has without giving them. -/
def standardAttributes (doctype : Doctype) (element : PrefixedName)
    (given : List PrefixedName) : List (PrefixedName × List Char) :=
  (doctype.attributes.foldl (fun seen a =>
    if a.element == element && !seen.1.contains a.name then
      (a.name :: seen.1, match a.standard with
        | some value => seen.2 ++ [(a.name, value)]
        | none => seen.2)
    else seen) (([] : List PrefixedName), ([] : List (PrefixedName × List Char)))).2.filter
      fun (name, _) => !given.contains name

/-! ## Namespaces -/

/-- Binds a prefix; the empty one stands for names without a prefix. -/
def bind? (scope : Scope) (space uri : List Char) : Option Scope :=
  let isXml := space == ['x', 'm', 'l']
  if space == "xmlns".toList || isXml != (uri == xmlSpace) || uri == xmlnsSpace
      || (uri.isEmpty && !space.isEmpty) || uri.contains '\x7d'
  then none
  else some ((space, uri) :: scope)

/-- The prefix that an attribute binds. -/
def bound? (name : PrefixedName) : Option (List Char) :=
  if name.space == "xmlns".toList then some name.name
  else if name.space.isEmpty && name.name == "xmlns".toList then some []
  else none

/-- The namespace of a prefix. -/
def namespaceOf? (scope : Scope) (space : List Char) : Option (List Char) :=
  (scope.find? (·.1 == space)).map (·.2)

/-- A name with its namespace in braces before it. -/
def qualified (uri name : List Char) : List Char :=
  if uri.isEmpty then name else '\x7b' :: uri ++ '\x7d' :: name

/-- The name of an element. Without a prefix it is in the namespace that is bound to none. -/
def elementName? (scope : Scope) (name : PrefixedName) : Option (List Char) :=
  if name.space.isEmpty then some (qualified ((namespaceOf? scope []).getD []) name.name)
  else (namespaceOf? scope name.space).map (qualified · name.name)

/-- The name of an attribute. Without a prefix it is in no namespace. -/
def attributeName? (scope : Scope) (name : PrefixedName) : Option (List Char) :=
  if name.space.isEmpty then some name.name
  else (namespaceOf? scope name.space).map (qualified · name.name)

/-- The scope inside an element, and its attributes other than those that bind a prefix. -/
def resolve? (scope : Scope) (given : List (PrefixedName × List Char)) :
    Option (Scope × List (String × String)) := do
  let scope ← given.foldlM (fun scope (name, value) =>
    match bound? name with
    | some space => bind? scope space value
    | none => some scope) scope
  let plain := given.filter fun (name, _) => (bound? name).isNone
  let named ← plain.mapM fun (name, value) => do
    return (String.ofList (← attributeName? scope name), String.ofList value)
  if (named.map (·.1)).Nodup then return (scope, named) else none

/-! ## Content -/

/-- Whether the mark that ends a section of plain text stands in a text. -/
def hasSectionEnd (cs : List Char) : Bool := (before? [']', ']', '>'] cs).isSome

mutual

/-- The element at the front of a text, after the opening of its tag, with what is left of the text
that entities may come to. -/
def element (doctype : Doctype) : Nat → Scope → List (List Char) → Nat → List Char →
    Option (Element × List Char × Nat)
  | 0, _, _, _, _ => none
  | fuel + 1, scope, among, budget, cs => do
    let (name, rest) ← prefixedName? cs
    let (written, closed, rest) ← attributes? (rest.length + 1) rest
    if !(written.map (·.1)).Nodup then none
    let (given, budget) ← attributeValues doctype name budget
      (written ++ standardAttributes doctype name (written.map (·.1)))
    let (scope, attributes) ← resolve? scope given
    let tag := String.ofList (← elementName? scope name)
    if closed then return (.mk tag attributes "" [], rest, budget)
    else
      let (pieces, rest, budget) ← content doctype fuel scope among budget rest
      let (closing, rest) ← prefixedName? (← after? "</" rest)
      if closing != name then none
      let rest ← close? rest
      let (text, children) := gather pieces
      return (.mk tag attributes (String.ofList text) children, rest, budget)

/-- The content at the front of a text up to an end tag or to the end of the text, with what is left
of the text that entities may come to. -/
def content (doctype : Doctype) : Nat → Scope → List (List Char) → Nat → List Char →
    Option (List Piece × List Char × Nat)
  | 0, _, _, _, _ => none
  | _, _, _, budget, [] => some ([], [], budget)
  | _, _, _, budget, '<' :: '/' :: rest => some ([], '<' :: '/' :: rest, budget)
  | fuel + 1, scope, among, budget, '<' :: '!' :: '-' :: '-' :: rest => do
    content doctype fuel scope among budget (← comment? rest)
  | fuel + 1, scope, among, budget, '<' :: '?' :: rest => do
    content doctype fuel scope among budget (← instruction? rest)
  | fuel + 1, scope, among, budget, '<' :: '!' :: rest => do
    let (plain, rest) ← before? [']', ']', '>'] (← after? "[CDATA[" rest)
    let (more, rest, budget) ← content doctype fuel scope among budget rest
    return (.text plain :: more, rest, budget)
  | fuel + 1, scope, among, budget, '<' :: rest => do
    let (inner, rest, budget) ← element doctype fuel scope among budget rest
    let (more, rest, budget) ← content doctype fuel scope among budget rest
    return (.element inner :: more, rest, budget)
  | fuel + 1, scope, among, budget, '&' :: rest => do
    let (reference, rest) ← reference? rest
    let (front, budget) ← match reference with
      | .char c => some ([.text [c]], budget)
      | .entity name =>
        match predefined? name with
        | some c => some ([.text [c]], budget)
        | none =>
          if among.contains name then none
          else
            match doctype.entity? name with
            | some (.replacement text) =>
              if text.length > budget then none
              else
                match content doctype fuel scope (name :: among) (budget - text.length) text with
                | some (pieces, [], budget) => some (pieces, budget)
                | _ => none
            | _ => none
    let (more, rest, budget) ← content doctype fuel scope among budget rest
    return (front ++ more, rest, budget)
  | fuel + 1, scope, among, budget, c :: rest => do
    let (run, rest) := (c :: rest).span fun c => c != '<' && c != '&'
    if hasSectionEnd run then none
    let (more, rest, budget) ← content doctype fuel scope among budget rest
    return (.text run :: more, rest, budget)

end

/-! ## Documents -/

/-- What follows the comments, instructions and layout at the front of a text. -/
def miscellany? : Nat → List Char → Option (List Char)
  | 0, _ => none
  | fuel + 1, cs =>
    match skip cs with
    | '<' :: '!' :: '-' :: '-' :: rest => do miscellany? fuel (← comment? rest)
    | '<' :: '?' :: rest => do miscellany? fuel (← instruction? rest)
    | rest => some rest

/-- How many characters entities may come to. -/
def entityBudget : Nat := 8388608

/-- What comes before the first element, and what is left from there. -/
def prolog? (standalone : Bool) (fuel : Nat) (cs : List Char) : Option (Doctype × List Char) := do
  let cs ← miscellany? fuel cs
  match after? "<!DOCTYPE" cs with
  | none => return (.empty, cs)
  | some rest =>
    let (doctype, rest) ← doctype? standalone rest
    return ({ doctype with isPartial := doctype.isPartial && !standalone },
      ← miscellany? fuel rest)

/-- Reads the characters of a document after its declaration. -/
def ofChars? (standalone : Bool) (cs : List Char) : Option Element := do
  let fuel := cs.length + 1
  let (doctype, cs) ← prolog? standalone fuel cs
  let (root, rest, _) ← element doctype (fuel + 1) [(['x', 'm', 'l'], xmlSpace)] [] entityBudget
    (← after? "<" cs)
  match ← miscellany? fuel rest with
  | [] => return root
  | _ => none

/-- The declaration at the front of a document. -/
def opening? (cs : List Char) : Option (Option Declaration × List Char) :=
  match after? "<?xml" cs with
  | some rest =>
    match rest with
    | c :: _ =>
      if isLayout c then (declaration? rest).map fun (d, rest) => (some d, rest)
      else some (none, cs)
    | [] => none
  | none => some (none, cs)

/-- The encoding of a document whose first bytes show one and whose declaration names one. -/
def encodingOf (shown : Encoding) (name : String) : Except Failure Encoding :=
  let plain := name.map Char.toLower
  match shown with
  | .utf16 bigEndian =>
    if plain == "utf-16" || plain == (if bigEndian then "utf-16be" else "utf-16le") then
      .ok (.utf16 bigEndian)
    else if ["utf-8", "utf-16be", "utf-16le", "iso-8859-1", "us-ascii"].contains plain then
      .error .malformed
    else
      match encodingOfName name with
      | .known _ => .error .malformed
      | .wide => .error .wideEncoding
      | .unknown => .error .unknownEncoding
  | _ =>
    if plain == "utf-8" then .ok .utf8
    else if plain == "utf-16" || plain == "utf-16be" || plain == "utf-16le" then .error .malformed
    else if plain == "iso-8859-1" then .ok (.table latin1Upper)
    else if plain == "us-ascii" then .ok (.table asciiUpper)
    else
      match encodingOfName name with
      | .known encoding => .ok encoding
      | .wide => .error .wideEncoding
      | .unknown => .error .unknownEncoding

/-- The characters of a document, from the bytes after a byte order mark. -/
def charsOf? (encoding : Encoding) (bytes : Bytes) : Option (List Char) := do
  let cs ← encoding.decode? bytes
  if cs.all fun c => isDocumentChar c.toNat then return unifyLines cs else none

/-- The characters at the front of a document, up to one that is not ASCII: enough to read its
declaration, whatever its encoding. -/
def frontOf (encoding : Encoding) (bytes : Bytes) : List Char :=
  match encoding with
  | .utf16 bigEndian =>
    ((units? bigEndian (bytes.take (bytes.length / 2 * 2))).getD []).takeWhile (· < 0x80)
      |>.map Char.ofNat
  | _ => (bytes.takeWhile (· < 0x80)).map fun b => Char.ofNat b.toNat

/-- The outcome of a step that can only find a document malformed. -/
def orMalformed {α : Type} : Option α → Except Failure α
  | some a => .ok a
  | none => .error .malformed

/-- Reads a document. -/
def parse (bytes : Bytes) : Except Failure Element := do
  let (shown, body) := detect bytes
  let (declared, _) ← orMalformed (opening? (unifyLines (frontOf shown body)))
  let encoding ← match declared.bind (·.encoding) with
    | some name => encodingOf shown name
    | none => .ok shown
  let cs ← orMalformed (charsOf? encoding body)
  let (declared, rest) ← orMalformed (opening? cs)
  orMalformed (ofChars? ((declared.map (·.standalone)).getD false) rest)

end Crosscheck.Document.Xml
