import Crosscheck.Document.Yaml.Scalar
import Crosscheck.Text.Glyph
/-!
# Tokens of YAML

The marks and the scalars that a YAML text consists of, and how directives, anchors and tags are
written.
-/

namespace Crosscheck.Document.Yaml

/-- A line that tells how a document is to be read. -/
inductive Directive
  | version (major : List Char)
  | handle (handle lead : String)
  | other
  deriving DecidableEq, Repr

/-- A piece of a YAML text. The marks of blocks are not written: they follow from indentation. -/
inductive Token
  | directive (d : Directive)
  | documentStart
  | documentEnd
  | blockSequence
  | blockMapping
  | blockEnd
  | flowSequence
  | flowSequenceEnd
  | flowMapping
  | flowMappingEnd
  | item
  | comma
  | key
  | value
  | reference (name : String)
  | anchor (name : String)
  | tag (handle : Option String) (suffix : String)
  | scalar (text : String) (plain : Bool)
  | streamEnd
  /-- The text cannot be read any further. -/
  | broken (failure : Failure)
  deriving DecidableEq, Repr

/-- How a complaint names a token. -/
def Token.name : Token → String
  | .directive _ => "<directive>"
  | .documentStart => "<document start>"
  | .documentEnd => "<document end>"
  | .blockSequence => "<block sequence start>"
  | .blockMapping => "<block mapping start>"
  | .blockEnd => "<block end>"
  | .flowSequence => "["
  | .flowSequenceEnd => "]"
  | .flowMapping => "\x7b"
  | .flowMappingEnd => "\x7d"
  | .item => "-"
  | .comma => ","
  | .key => "?"
  | .value => ":"
  | .reference _ => "<alias>"
  | .anchor _ => "<anchor>"
  | .tag .. => "<tag>"
  | .scalar .. => "<scalar>"
  | .streamEnd => "<stream end>"
  | .broken _ => "<broken>"

/-- A token with the place where it begins. -/
structure Placed where
  mark : Mark
  token : Token
  deriving Repr

namespace Scan

/-- A name of at least one character. -/
def name (context : String) : Scan String := do
  let cs ← takeWhile isNameChar
  if cs.isEmpty then expected context "alphabetic or numeric character"
  return String.ofList cs

/-- Goes over spaces. -/
def spaces : Scan Unit := do
  let _ ← takeWhile (· == ' ')

/-! ## Tags -/

/-- What a tag belongs to. -/
inductive TagPlace
  | directive
  | node

/-- How a complaint names what a tag belongs to. -/
def TagPlace.name : TagPlace → String
  | .directive => "directive"
  | .node => "tag"

/-- Characters that a tag may hold. -/
def isTagChar (c : Char) : Bool := c.isAlphanum || "-;/?:@&=+$,_.!~*'()[]%".toList.contains c

/-- The bytes that escapes in a row write. -/
def escapedBytes (context : String) : Nat → Text.Bytes → Scan Text.Bytes
  | 0, bytes => return bytes
  | fuel + 1, bytes => do
    match ← accept (· == '%') with
    | none => return bytes
    | some _ =>
      let n ← hexNumber 2 context "URI escape sequence"
      escapedBytes context fuel (bytes ++ [UInt8.ofNat n])

/-- The characters of a tag. Escapes write the bytes of characters. -/
def tagText (context : String) : Nat → String → Scan String
  | 0, text => return text
  | fuel + 1, text => do
    let text := text ++ String.ofList (← takeWhile fun c => isTagChar c && c != '%')
    if ← meets (· == '%') then
      match Text.ofUtf8? (← escapedBytes context (← get).rest.length []) with
      | some more => tagText context fuel (text ++ more)
      | none => fail context "invalid UTF-8"
    else return text

/-- A tag, or what a handle stands for: at least one character. -/
def tagBody (place : TagPlace) : Scan String := do
  let cursor ← get
  let text ← tagText s!"while scanning a {place.name}" (cursor.rest.length + 1) ""
  if (← get).mark == cursor.mark then expected s!"while parsing a {place.name}" "URI"
  return text

/-- A handle: exclamation marks, with a name between them or none. -/
def tagHandle (place : TagPlace) : Scan String := do
  let context := s!"while scanning a {place.name}"
  if (← accept (· == '!')).isNone then expected context "'!'"
  if ← meets (· == ' ') then return "!"
  let cs ← takeWhile isNameChar
  if (← accept (· == '!')).isNone then expected context "'!'"
  return "!" ++ String.ofList cs ++ "!"

/-- Whether a second exclamation mark comes before the end of a tag. -/
def hasHandle (cs : List Char) : Bool :=
  ((cs.drop 1).takeWhile (!isSpaceOrBreak ·)).contains '!'

/-- The parts of a tag: its handle and what follows it. -/
def tagParts : Scan (Option String × String) := do
  let rest := (← get).rest
  match rest.drop 1 with
  | '<' :: _ =>
    advance 2
    let suffix ← tagBody .node
    if (← accept (· == '>')).isNone then expected "while parsing a tag" "'>'"
    return (none, suffix)
  | following =>
    if following.head?.all isGap then
      advance 1
      return (none, "!")
    else
      let handle ← if hasHandle rest then tagHandle .node else do advance 1; pure "!"
      return (some handle, ← tagBody .node)

/-- A tag. -/
def tag : Scan Token := do
  let (handle, suffix) ← tagParts
  expectBefore isSpaceOrBreak "while scanning a tag" "' '"
  return .tag handle suffix

/-! ## Directives -/

/-- What is being read in a directive. -/
def directiveContext : String := "while scanning a directive"

/-- A number in a directive. -/
def versionNumber : Scan (List Char) := do
  let digits ← takeWhile Char.isDigit
  if digits.isEmpty then expected directiveContext "a digit"
  return digits

/-- What follows the name of a directive. -/
def directiveBody (name : String) : Scan Directive := do
  if name == "YAML" then
    spaces
    let major ← versionNumber
    if (← accept (· == '.')).isNone then expected directiveContext "a digit or '.'"
    let _ ← versionNumber
    expectBefore isSpaceOrBreak directiveContext "a digit or ' '"
    return .version major
  else if name == "TAG" then
    spaces
    let handle ← tagHandle .directive
    unless ← meets (· == ' ') do expected directiveContext "' '"
    spaces
    let lead ← tagBody .directive
    expectBefore isSpaceOrBreak directiveContext "' '"
    return .handle handle lead
  else
    let _ ← takeWhile (!isBreak ·)
    return .other

/-- A directive with the rest of its line. -/
def directive : Scan Token := do
  advance 1
  let word ← name directiveContext
  expectBefore isSpaceOrBreak directiveContext "alphabetic or numeric character"
  let body ← directiveBody word
  blankLine directiveContext
  return .directive body

/-! ## Anchors -/

/-- Characters that may follow a name of an anchor. -/
def endsAnchor (c : Char) : Bool := isGap c || "?:,]\x7d%@`".toList.contains c

/-- The name of an anchor, after its mark. -/
def anchorName (context : String) : Scan String := do
  advance 1
  let word ← name context
  expectBefore endsAnchor context "alphabetic or numeric character"
  return word

end Scan

end Crosscheck.Document.Yaml
