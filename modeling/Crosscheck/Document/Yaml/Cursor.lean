import Crosscheck.Text.Quoted
/-!
# A place in a YAML text

The text from a place on, with the line and the column of that place, and complaints about what is
found there. Line ends are line feeds, next lines, line separators and paragraph separators; a byte
order mark takes no column.
-/

namespace Crosscheck.Document.Yaml

/-- A place in a text: how many characters come before it, and its line and column, counted from
zero. -/
structure Mark where
  index : Nat
  line : Nat
  column : Nat
  deriving DecidableEq, Repr

/-- What is wrong with a text, and where: what was being read, and what was found instead. -/
structure Complaint where
  context : Option String
  contextMark : Option Mark
  problem : String
  mark : Option Mark
  deriving DecidableEq, Repr

/-- Why a text is not read. -/
inductive Failure
  /-- The text breaks the rules of the notation. -/
  | malformed (complaint : Complaint)
  /-- A text that is no value of the kind it is meant to be. -/
  | unfit
  /-- A word that is no truth value. -/
  | unknownWord
  /-- A number without text. -/
  | emptyNumber
  /-- A text that has not the form of a day or a time. -/
  | unfitMoment
  deriving DecidableEq, Repr

/-- Characters that end a line. -/
def isBreak (c : Char) : Bool := c == '\n' || c == '\x85' || c == '\u2028' || c == '\u2029'

/-- Characters that end a line, and the space. -/
def isSpaceOrBreak (c : Char) : Bool := c == ' ' || isBreak c

/-- Characters that end a word. -/
def isGap (c : Char) : Bool := c == '\t' || isSpaceOrBreak c

/-- Letters, digits and dashes: what names of anchors and of directives consist of. -/
def isNameChar (c : Char) : Bool := c.isAlphanum || c == '-' || c == '_'

/-- A text from a place on. -/
structure Cursor where
  rest : List Char
  mark : Mark
  deriving Repr

namespace Cursor

/-- The start of a text. -/
def start (s : String) : Cursor := ⟨s.toList, 0, 0, 0⟩

/-- The column. -/
def column (cursor : Cursor) : Nat := cursor.mark.column

/-- The place after the next character. -/
def next (cursor : Cursor) : Cursor :=
  match cursor.rest with
  | [] => cursor
  | c :: rest =>
    if isBreak c then ⟨rest, cursor.mark.index + 1, cursor.mark.line + 1, 0⟩
    else ⟨rest, cursor.mark.index + 1, cursor.mark.line,
      if c == '\uFEFF' then cursor.column else cursor.column + 1⟩

/-- The place after so many characters. -/
def skip (cursor : Cursor) : Nat → Cursor
  | 0 => cursor
  | n + 1 => cursor.next.skip n

/-- Whether the text goes on with a separator of documents. -/
def meetsMark (cursor : Cursor) (mark : String) : Bool :=
  mark.toList.isPrefixOf cursor.rest && (cursor.rest[mark.length]?).all isGap

/-- Whether the text goes on with any separator of documents. -/
def meetsSeparator (cursor : Cursor) : Bool := cursor.meetsMark "---" || cursor.meetsMark "..."

end Cursor

/-- A step through a text. -/
abbrev Scan := StateT Cursor (Except Failure)

namespace Scan

/-- Complains about what is found here while something is being read. -/
def fail {α : Type} (context problem : String) : Scan α := do
  throw (.malformed ⟨some context, none, problem, some (← get).mark⟩)

/-- The next character. -/
def peek : Scan (Option Char) := return (← get).rest.head?

/-- Whether the next character satisfies the test. -/
def meets (p : Char → Bool) : Scan Bool := return (← peek).any p

/-- Whether the text ends here or the next character satisfies the test. -/
def meetsOrEnds (p : Char → Bool) : Scan Bool := return (← peek).all p

/-- Goes over so many characters. -/
def advance (n : Nat) : Scan Unit := modify (·.skip n)

/-- Goes over the characters that satisfy the test. -/
def takeWhile (p : Char → Bool) : Scan (List Char) := do
  let taken := (← get).rest.takeWhile p
  advance taken.length
  return taken

/-- Goes over the next character if it satisfies the test. -/
def accept (p : Char → Bool) : Scan (Option Char) := do
  match ← peek with
  | some c => if p c then advance 1; return some c else return none
  | none => return none

/-- The name of the character at an offset: a quoted one, or the null at the end of the text. -/
def foundAt (offset : Nat) : Scan String :=
  return Text.quoted (String.singleton (((← get).rest[offset]?).getD '\x00'))

/-- Complains that something else is found here. -/
def expected {α : Type} (context what : String) : Scan α := do
  fail context s!"expected {what}, but found {← foundAt 0}"

/-- Complains unless the text ends here or goes on with a character that satisfies the test. -/
def expectBefore (p : Char → Bool) (context what : String) : Scan Unit := do
  unless ← meetsOrEnds p do expected context what

/-- Goes over the end of a line. All line ends but the separators count as line feeds. -/
def lineBreak : Scan (Option Char) := do
  let c ← accept isBreak
  return c.map fun c => if c == '\x85' then '\n' else c

/-- Goes over the rest of a line, which holds nothing but a comment. -/
def blankLine (context : String) : Scan Unit := do
  let _ ← takeWhile (· == ' ')
  if ← meets (· == '#') then
    let _ ← takeWhile (!isBreak ·)
  expectBefore isBreak context "a comment or a line break"
  let _ ← lineBreak

end Scan

end Crosscheck.Document.Yaml
