import Crosscheck.Java.Lexeme
/-!
# Phrases

A `Phrase` says what a piece of source looks like, and `Reader.read` reads it. Reading is ordered
and committed: of several `first` options the earliest that fits is taken, `many` and `grow` go on
as long as they can, and nothing read is taken back later.

Comments may stand between any two lexemes. A comment becomes a child of the innermost node that
has a lexeme on both sides of it: it travels in front of the part it precedes (`Part.before`) and
is put down when a node is closed around that part, unless the part comes first in the node.
-/

namespace Crosscheck.Java

open Crosscheck.Text

/-- Where reading stands: the text that is left, and how many bytes and line feeds lie before it. -/
structure Cursor where
  rest : Glyphs
  offset : Nat
  row : Nat

namespace Cursor

/-- The start of a text. A leading byte order mark is passed over. -/
def start : Glyphs → Cursor
  | .char '\uFEFF' :: rest => ⟨rest, 3, 0⟩
  | text => ⟨text, 0, 0⟩

/-- Passes over one glyph. -/
def step (c : Cursor) (g : Glyph) (rest : Glyphs) : Cursor :=
  ⟨rest, c.offset + g.width, if g == .char '\n' then c.row + 1 else c.row⟩

/-- Passes over a number of glyphs. -/
def skip (c : Cursor) : Nat → Cursor
  | 0 => c
  | n + 1 =>
    match c.rest with
    | [] => c
    | g :: rest => (c.step g rest).skip n

/-- A leaf over the next glyphs, and what follows. -/
def leaf (c : Cursor) (kind : String) (named : Bool) (n : Nat) : Node × Cursor :=
  let after := c.skip n
  (⟨kind, named, none, c.offset, after.offset, c.row, []⟩, after)

/-- The comment that comes next, and what follows. -/
def comment? (c : Cursor) : Option (Node × Cursor) :=
  match lineComment c.rest, blockComment c.rest with
  | some n, _ => some (c.leaf "line_comment" true n)
  | none, some n => some (c.leaf "block_comment" true n)
  | none, none => none

/-- Passes over white space and comments, collecting the comments. As much fuel as there are glyphs
is enough. -/
def layout : Nat → Cursor → List Node × Cursor
  | 0, c => ([], c)
  | fuel + 1, c =>
    match c.rest with
    | [] => ([], c)
    | g :: rest =>
      if on isSpace g then layout fuel (c.step g rest)
      else
        match c.comment? with
        | none => ([], c)
        | some (node, after) =>
          let (more, c) := layout fuel after
          (node :: more, c)

end Cursor

/-- A node that was read, with the comments in front of it. -/
structure Part where
  before : List Node
  node : Node

/-- Parts under one node. The comments in front of the first part stay in front of the node. -/
def Part.close (kind : String) : List Part → List Part
  | [] => []
  | first :: rest =>
    let children := first.node :: rest.flatMap fun part => part.before ++ [part.node]
    let stop := (children.getLast?.map (·.stop)).getD first.node.stop
    [⟨first.before, ⟨kind, true, none, first.node.start, stop, first.node.row, children⟩⟩]

/-- Says which part the nodes play in the node around them. -/
def Part.playing (role : Role) (part : Part) : Part :=
  { part with node := { part.node with role := some role } }

/-- The grammatical categories that phrases refer to by name. -/
inductive Category
  | statement
  | block
  | declaration
  | member
  | classBody
  | interfaceBody
  | annotationBody
  | enumBody
  | recordDeclaration
  | classDeclaration
  | interfaceDeclaration
  | annotationDeclaration
  | enumDeclaration
  | method
  | declarators
  | localVariables
  | modifiers
  | marker
  | elementValue
  | name
  | type
  | simpleType
  | bareType
  | typeArguments
  | typeParameters
  | dimensions
  | parameters
  | arguments
  | parenthesized
  | arrayInitializer
  | recordPattern
  | switch
  | string
  | primary
  | lambda
  /-- An operand of an operator that binds as tightly as `floor` says; a lambda may stand at its
  end if `arrows` says so. -/
  | operand (arrows : Bool)
  /-- An expression whose operators bind more tightly than `floor`. -/
  | expression (floor : Nat) (arrows : Bool)

mutual

/-- What a piece of source looks like. -/
inductive Phrase
  /-- Nothing. -/
  | nothing
  /-- A sign that is not the beginning of a longer one. -/
  | sign (text : String)
  /-- A sign that closes an angle bracket, even at the beginning of a longer one. -/
  | closer
  /-- A keyword. -/
  | word (text : String)
  /-- A keyword that is a node of its own kind. -/
  | atom (kind : String) (text : String)
  /-- An identifier other than the words that are keywords here. -/
  | name (kind : String) (keywords : List String)
  /-- A number literal. -/
  | number
  /-- A character literal. -/
  | character
  /-- A sign without layout before it. -/
  | tight (text : String)
  /-- A named leaf without layout before it. -/
  | piece (kind : String) (scan : Glyphs → Option Nat)
  /-- One phrase after the other. -/
  | seq (parts : List Phrase)
  /-- The first option that fits. -/
  | first (options : List Phrase)
  /-- The phrase as often as it fits. -/
  | many (part : Phrase)
  /-- Nothing is read, but the phrase has to fit here. -/
  | ahead (part : Phrase)
  /-- The phrase, unless one of the words comes next. -/
  | unless (words : List String) (part : Phrase)
  /-- The phrase, if the last node it gives is of one of the kinds. -/
  | only (kinds : List String) (part : Phrase)
  /-- What the phrase gives, under a node. -/
  | node (kind : String) (parts : List Phrase)
  /-- What the phrase gives plays a part in the node around it. -/
  | playing (role : Role) (part : Phrase)
  /-- A phrase that growths whose level is above the floor then extend to the right. -/
  | grow (floor : Nat) (seed : Phrase) (growths : List Growth)
  /-- The phrase of a category. -/
  | use (category : Category)

/-- A way to extend what was read: if the last node is of one of the kinds `onto` (of any, if there
are none), and the phrase follows, both come under a node. -/
inductive Growth
  | mk (level : Nat) (onto : List String) (kind : String) (rest : Phrase)

end

namespace Reader

/-- What reading gives: the parts, and what is left. -/
abbrev Outcome := Option (List Part × Cursor)

/-- The lexeme that the scanner finds after layout. -/
def lexeme (kind : String) (named : Bool) (scan : Glyphs → Option Nat) (c : Cursor) : Outcome :=
  let (comments, c) := c.layout c.rest.length
  (scan c.rest).map fun n =>
    let (node, after) := c.leaf kind named n
    ([⟨comments, node⟩], after)

/-- The identifier-shaped word the text begins with. -/
def wordAt (text : Glyphs) : Option Glyphs := (identifier text).map text.take

/-- Scans one word. -/
def scanWord (word : String) (text : Glyphs) : Option Nat :=
  if wordAt text == some (ofString word) then some word.length else none

/-- Scans one sign. -/
def scanSign (sign : String) (text : Glyphs) : Option Nat :=
  if longestSign text == some sign then some sign.length else none

/-- Whether the next lexeme is one of the words. -/
def wordNext (words : List String) (c : Cursor) : Bool :=
  match wordAt (c.layout c.rest.length).2.rest with
  | some word => words.any fun w => ofString w == word
  | none => false

/-- Scans an identifier that is none of the words. -/
def scanName (words : List String) (text : Glyphs) : Option Nat :=
  match wordAt text with
  | some word => if words.any fun w => ofString w == word then none else some word.length
  | none => none

/-- Reads one thing after the other. -/
def inOrder (read : Phrase → Cursor → Outcome) : List Phrase → Cursor → Outcome
  | [], c => some ([], c)
  | p :: ps, c =>
    (read p c).bind fun (parts, c) => (inOrder read ps c).map fun (more, c) => (parts ++ more, c)

/-- Reads the same thing as often as it fits, at most as often as the fuel says. -/
def often (read : Cursor → Outcome) : Nat → Cursor → List Part × Cursor
  | 0, c => ([], c)
  | fuel + 1, c =>
    match read c with
    | some (parts, after) =>
      if after.offset == c.offset then ([], c)
      else
        let (more, c) := often read fuel after
        (parts ++ more, c)
    | none => ([], c)

/-- Whether the last of the parts is of one of the kinds. -/
def endsIn (kinds : List String) (parts : List Part) : Bool :=
  (parts.getLast?.map fun part => kinds.contains part.node.kind).getD false

/-- The first growth that extends the parts. -/
def extension (read : Phrase → Cursor → Outcome) (floor : Nat) (parts : List Part) (c : Cursor) :
    List Growth → Outcome
  | [] => none
  | ⟨level, onto, kind, rest⟩ :: growths =>
    let here :=
      if floor < level && (onto.isEmpty || endsIn onto parts) then
        (read rest c).map fun (more, c) => (Part.close kind (parts ++ more), c)
      else none
    here <|> extension read floor parts c growths

/-- Extends the parts as often as it can. -/
def extend (read : Phrase → Cursor → Outcome) (floor : Nat) (growths : List Growth) :
    Nat → List Part → Cursor → List Part × Cursor
  | 0, parts, c => (parts, c)
  | fuel + 1, parts, c =>
    match extension read floor parts c growths with
    | some (parts, c) => extend read floor growths fuel parts c
    | none => (parts, c)

/-- Reads a phrase. The fuel bounds how deeply phrases nest. -/
def read (rules : Category → Phrase) : Nat → Phrase → Cursor → Outcome
  | 0, _, _ => none
  | fuel + 1, phrase, c =>
    match phrase with
    | .nothing => some ([], c)
    | .sign text => lexeme text false (scanSign text) c
    | .closer => lexeme ">" false (fun text => if begins ">" text then some 1 else none) c
    | .word text => lexeme text false (scanWord text) c
    | .atom kind text => lexeme kind true (scanWord text) c
    | .name kind keywords => lexeme kind true (scanName keywords) c
    | .number =>
      let (comments, c) := c.layout c.rest.length
      (Java.number c.rest).map fun (kind, n) =>
        let (node, after) := c.leaf kind true n
        ([⟨comments, node⟩], after)
    | .character => lexeme "character_literal" true characterLiteral c
    | .tight text =>
      if begins text c.rest then
        let (node, after) := c.leaf text false text.length
        some ([⟨[], node⟩], after)
      else none
    | .piece kind scan =>
      (scan c.rest).map fun n =>
        let (node, after) := c.leaf kind true n
        ([⟨[], node⟩], after)
    | .seq parts => inOrder (read rules fuel) parts c
    | .first options => options.findSome? fun option => read rules fuel option c
    | .many part => some (often (read rules fuel part) c.rest.length c)
    | .ahead part => (read rules fuel part c).map fun _ => ([], c)
    | .unless words part => if wordNext words c then none else read rules fuel part c
    | .only kinds part =>
      match read rules fuel part c with
      | some (parts, after) => if endsIn kinds parts then some (parts, after) else none
      | none => none
    | .node kind parts =>
      (inOrder (read rules fuel) parts c).map fun (parts, c) => (Part.close kind parts, c)
    | .playing role part =>
      (read rules fuel part c).map fun (parts, c) => (parts.map (Part.playing role), c)
    | .grow floor seed growths =>
      (read rules fuel seed c).map fun (parts, c) =>
        extend (read rules fuel) floor growths (c.rest.length + 1) parts c
    | .use category => read rules fuel (rules category) c

end Reader

namespace Phrase

/-- The phrase or nothing. -/
def maybe (part : Phrase) : Phrase := first [part, nothing]

/-- The phrase once or more often. -/
def some1 (part : Phrase) : Phrase := seq [part, many part]

/-- The phrase, then more of them after commas. -/
def commas (part : Phrase) : Phrase := seq [part, many (seq [sign ",", part])]

/-- A phrase that starts with a word, where that word is a keyword: nothing else may be made of
it. -/
def optional (word : String) (part : Phrase) : Phrase := first [part, .unless [word] nothing]

end Phrase

end Crosscheck.Java
