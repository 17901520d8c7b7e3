import Crosscheck.Document.Yaml.Scanner
import Crosscheck.Document.Yaml.Tag
/-!
# Nodes

From tokens to the tree of a document: scalars, sequences and mappings with their tags. References
stand for a copy of the node that they name.
-/

namespace Crosscheck.Document.Yaml

/-- A node of a document. -/
inductive Node
  | scalar (tag : Tag) (text : String)
  | sequence (tag : Tag) (items : List Node)
  | mapping (tag : Tag) (entries : List (Node × Node))
  deriving Repr

/-- The node that stands where nothing is written. -/
def Node.absent : Node := .scalar .null ""

instance : Inhabited Node := ⟨.absent⟩

/-- A named node, which has no value yet while it is being read, and the place of its name. -/
structure Anchored where
  name : String
  mark : Mark
  node : Option Node

/-- What is left to read of a document, the handles of its tags, and its named nodes. -/
structure Reading where
  tokens : List Placed
  handles : List (String × String)
  anchors : List Anchored

/-- A step in reading a document. -/
abbrev Read := StateT Reading (Except Failure)

namespace Read

/-- Complains about the text. -/
def complain {α : Type} (context : Option (String × Mark)) (problem : String) (mark : Mark) :
    Read α :=
  throw (.malformed ⟨context.map (·.1), context.map (·.2), problem, some mark⟩)

/-- The next token with its place. -/
def next : Read Placed := do
  match (← get).tokens with
  | [] => throw (.malformed ⟨none, none, "text is cut short", none⟩)
  | ⟨_, .broken failure⟩ :: _ => throw failure
  | placed :: _ => return placed

/-- The next token. -/
def peek : Read Token := return (← next).token

/-- The place of the next token. -/
def place : Read Mark := return (← next).mark

/-- Goes over the next token. -/
def advance : Read Unit := modify fun r => { r with tokens := r.tokens.drop 1 }

/-- Goes over a token if it comes next. -/
def accept (token : Token) : Read Bool := do
  if (← peek) == token then advance; return true else return false

/-- Goes over a token that has to come next: complains that `what` is expected. -/
def expect (token : Token) (context : Option (String × Mark)) (what : String) : Read Unit := do
  unless ← accept token do
    let found ← next
    complain context s!"expected {what} {Text.quoted found.token.name}" found.mark

/-- Whether one of the tokens comes next. -/
def meets (tokens : List Token) : Read Bool := return tokens.contains (← peek)

/-! ## Names and tags -/

/-- The node of a name. -/
def anchored? (name : String) : Read (Option Anchored) :=
  return (← get).anchors.find? (·.name == name)

/-- Gives a name to a node that is yet to be read. A name is given once. -/
def openAnchor : Option (String × Mark) → Read Unit
  | none => return
  | some (name, mark) => do
    if let some first ← anchored? name then
      complain (some (s!"found duplicate anchor {Text.quoted name}; first occurrence", first.mark))
        "second occurrence" mark
    modify fun r => { r with anchors := ⟨name, mark, none⟩ :: r.anchors }

/-- Sets the node of a name. -/
def closeAnchor (anchor : Option (String × Mark)) (node : Node) : Read Node := do
  match anchor with
  | none => return node
  | some (name, mark) =>
    modify fun r => { r with anchors := ⟨name, mark, some node⟩ :: r.anchors }
    return node

/-- The node that a reference stands for. -/
def named (name : String) (mark : Mark) : Read Node := do
  match (← anchored? name).bind (·.node) with
  | some node => return node
  | none => complain none s!"found undefined alias {Text.quoted name}" mark

/-- What a node is marked with, in either order: its name with the place where the marks begin, and
its tag. -/
structure Marks where
  anchor : Option (String × Mark)
  tag : Option String

/-- The text of a tag with its handle written out. -/
def tagText (start mark : Mark) (handle : Option String) (suffix : String) : Read String := do
  match handle with
  | none => return suffix
  | some handle =>
    match (← get).handles.lookup handle with
    | some lead => return lead ++ suffix
    | none =>
      complain (some ("while parsing a node", start))
        s!"found undefined tag handle {Text.quoted handle}" mark

/-- The tag in front of a node that begins at `start`. -/
def tagMark : Read (Option (Mark × Option String × String)) := do
  match ← next with
  | ⟨mark, .tag handle suffix⟩ => advance; return some (mark, handle, suffix)
  | _ => return none

/-- The name in front of a node. -/
def anchorMark : Read (Option String) := do
  match ← peek with
  | .anchor name => advance; return some name
  | _ => return none

/-- The marks in front of a node. -/
def marks : Read Marks := do
  let start ← place
  let before ← anchorMark
  let tag ← tagMark
  let after ← if before.isNone && tag.isSome then anchorMark else pure none
  let tag ← tag.mapM fun (mark, handle, suffix) => tagText start mark handle suffix
  return ⟨(before <|> after).map (·, start), tag⟩

/-- The tag of a collection. -/
def collectionTag (tag : Option String) (default : Tag) : Tag :=
  match tag with
  | none => default
  | some "!" => default
  | some text => Tag.ofText text

/-- The tag of a scalar. The tag of one exclamation mark makes a text as good as a plain one. -/
def scalarTag (tag : Option String) (plain : Bool) (text : String) : Tag :=
  match tag with
  | none => if plain then Tag.ofPlain text else .str
  | some "!" => Tag.ofPlain text
  | some name => Tag.ofText name

/-- Where a node may stand. -/
inductive Place
  | flow
  | block
  /-- After a key, where the items of a list need not be indented. -/
  | entry
  deriving DecidableEq

/-- A node of which only the marks are written. -/
def bare (site : Place) (start : Mark) (anchor : Option (String × Mark)) (tag : Option String) :
    Read Node := do
  if anchor.isNone && tag.isNone then
    let found ← next
    let kind := if site == .flow then "flow" else "block"
    complain (some (s!"while parsing a {kind} node", start))
      s!"expected the node content, but found {Text.quoted found.token.name}" found.mark
  closeAnchor anchor (.scalar (scalarTag tag true "") "")

/-- Gives up where the fuel is used up. -/
def tooDeep {α : Type} : Read α := do complain none "nested too deeply" (← place)

mutual

/-- A node. -/
def node (site : Place) : Nat → Read Node
  | 0 => tooDeep
  | fuel + 1 => do
    let ⟨start, first⟩ ← next
    match first with
    | .reference name => advance; named name start
    | _ =>
      let ⟨anchor, tag⟩ ← marks
      openAnchor anchor
      let inBlock := site != .flow
      match ← peek with
      | .scalar text plain =>
        advance
        closeAnchor anchor (.scalar (scalarTag tag plain text) text)
      | .flowSequence =>
        let mark ← place
        advance
        closeAnchor anchor (.sequence (collectionTag tag .seq) (← flowItems mark true fuel))
      | .flowMapping =>
        let mark ← place
        advance
        closeAnchor anchor (.mapping (collectionTag tag .map) (← flowEntries mark true fuel))
      | .item =>
        if site == .entry then
          closeAnchor anchor (.sequence (collectionTag tag .seq) (← looseItems fuel))
        else bare site start anchor tag
      | .blockSequence =>
        if inBlock then
          let mark ← place
          advance
          closeAnchor anchor (.sequence (collectionTag tag .seq) (← blockItems mark fuel))
        else bare site start anchor tag
      | .blockMapping =>
        if inBlock then
          let mark ← place
          advance
          closeAnchor anchor (.mapping (collectionTag tag .map) (← blockEntries mark fuel))
        else bare site start anchor tag
      | _ => bare site start anchor tag

/-- A node, or an absent one before one of the tokens. -/
def nodeUnless (site : Place) (tokens : List Token) : Nat → Read Node
  | 0 => tooDeep
  | fuel + 1 => do if ← meets tokens then return .absent else node site fuel

/-- The items of an indented list. -/
def blockItems (start : Mark) : Nat → Read (List Node)
  | 0 => tooDeep
  | fuel + 1 => do
    if ← accept .item then
      let item ← nodeUnless .block [.item, .blockEnd] fuel
      return item :: (← blockItems start fuel)
    else
      expect .blockEnd (some ("while parsing a block collection", start))
        "<block end>, but found"
      return []

/-- The items of a list that is not indented. -/
def looseItems : Nat → Read (List Node)
  | 0 => tooDeep
  | fuel + 1 => do
    if ← accept .item then
      let item ← nodeUnless .block [.item, .key, .value, .blockEnd] fuel
      return item :: (← looseItems fuel)
    else return []

/-- The value after a key, absent where there is none. -/
def valueUnless (site : Place) (tokens : List Token) : Nat → Read Node
  | 0 => tooDeep
  | fuel + 1 => do if ← accept .value then nodeUnless site tokens fuel else return .absent

/-- The entries of an indented mapping. -/
def blockEntries (start : Mark) : Nat → Read (List (Node × Node))
  | 0 => tooDeep
  | fuel + 1 => do
    let ends := [.key, .value, .blockEnd]
    if ← accept .key then
      let key ← nodeUnless .entry ends fuel
      let value ← valueUnless .entry ends fuel
      return (key, value) :: (← blockEntries start fuel)
    else
      expect .blockEnd (some ("while parsing a block mapping", start)) "<block end>, but found"
      return []

/-- The items of a list in brackets. A single entry of a mapping may be an item. -/
def flowItems (start : Mark) (first : Bool) : Nat → Read (List Node)
  | 0 => tooDeep
  | fuel + 1 => do
    if ← accept .flowSequenceEnd then return []
    unless first do
      expect .comma (some ("while parsing a flow sequence", start)) "',' or ']', but got"
    let ends := [.comma, .flowSequenceEnd]
    if ← accept .key then
      let key ← nodeUnless .flow (.value :: ends) fuel
      let value ← valueUnless .flow ends fuel
      return .mapping .map [(key, value)] :: (← flowItems start false fuel)
    else if ← accept .flowSequenceEnd then return []
    else
      let item ← node .flow fuel
      return item :: (← flowItems start false fuel)

/-- The entries of a mapping in braces. -/
def flowEntries (start : Mark) (first : Bool) : Nat → Read (List (Node × Node))
  | 0 => tooDeep
  | fuel + 1 => do
    if ← accept .flowMappingEnd then return []
    unless first do
      expect .comma (some ("while parsing a flow mapping", start)) "',' or '\x7d', but got"
    let ends := [.comma, .flowMappingEnd]
    if ← accept .key then
      let key ← nodeUnless .flow (.value :: ends) fuel
      let value ← valueUnless .flow ends fuel
      return (key, value) :: (← flowEntries start false fuel)
    else if ← accept .flowMappingEnd then return []
    else
      let key ← node .flow fuel
      return (key, .absent) :: (← flowEntries start false fuel)

end

/-! ## Documents -/

/-- The handles that need no directive. -/
def defaultHandles : List (String × String) := [("!", "!"), ("!!", Tag.lead)]

/-- Whether a version can be read: the first digit group is the number one. -/
def isKnownVersion (major : List Char) : Bool := major.dropWhile (· == '0') == ['1']

/-- The directives before a document: at most one of the version, and one of each handle. -/
def directives : Nat → Bool → List (String × String) → Read (List (String × String))
  | 0, _, _ => tooDeep
  | fuel + 1, versioned, handles => do
    match ← next with
    | ⟨mark, .directive (.version major)⟩ =>
      advance
      if versioned then complain none "found duplicate YAML directive" mark
      if !isKnownVersion major then
        complain none "found incompatible YAML document (version 1.* is required)" mark
      directives fuel true handles
    | ⟨mark, .directive (.handle handle lead)⟩ =>
      advance
      if (handles.lookup handle).isSome then
        complain none s!"duplicate tag handle {Text.quoted handle}" mark
      directives fuel versioned ((handle, lead) :: handles)
    | ⟨_, .directive .other⟩ => advance; directives fuel versioned handles
    | _ => return handles

/-- The mark at the start of a document. -/
def startMark : Read Unit := expect .documentStart none "'<document start>', but found"

/-- The root of a document after its mark; absent where the document is empty. -/
def root (fuel : Nat) : Read Node := do
  match ← peek with
  | .directive _ => return .absent
  | .documentStart | .documentEnd | .streamEnd => return .absent
  | _ => node .block fuel

/-- Goes over the marks at the end of a document. -/
def endMarks : Nat → Read Unit
  | 0 => tooDeep
  | fuel + 1 => do if ← accept .documentEnd then endMarks fuel else return

/-- The end of the text. No second document may come before it. -/
def finish (fuel : Nat) (start : Mark) : Read Unit := do
  endMarks fuel
  unless ← accept .streamEnd do
    let mark ← place
    let _ ← directives fuel false []
    startMark
    complain (some ("expected a single document in the stream", start))
      "but found another document" mark

/-- The only document of a text, if there is one. -/
def document (fuel : Nat) : Read (Option Node) := do
  match ← peek with
  | .streamEnd => return none
  | .directive _ | .documentStart =>
    let handles ← directives fuel false []
    modify fun r => { r with handles := handles ++ defaultHandles }
    startMark
    let start ← place
    let result ← root fuel
    finish fuel start
    return some result
  | _ =>
    let start ← place
    let result ← node .block fuel
    finish fuel start
    return some result

end Read

/-- The tree of a text. Between two tokens reading goes at most four levels deeper. -/
def compose (s : String) : Except Failure (Option Node) :=
  let tokens := tokens s
  (Read.document (4 * tokens.length + 8)).run' ⟨tokens, Read.defaultHandles, []⟩

end Crosscheck.Document.Yaml
