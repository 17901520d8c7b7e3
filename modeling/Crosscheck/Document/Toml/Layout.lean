import Crosscheck.Document.Toml.Pieces
import Crosscheck.Text.IdentifierTable
import Crosscheck.Text.PrintableTable
/-!
# Lines of a TOML text

Goes over the characters of a text once. Comments become blanks, and so do the line ends inside of
brackets, so that every entry is left on a line of its own; only texts in threefold quotation marks
keep their line ends, apart from one right behind the opening mark, with which the mark changes
place. Keys are checked on the way.

A look back from the start of the text goes on at its end.
-/

namespace Crosscheck.Document.Toml

open Crosscheck.Text

/-- Where the reader stands with respect to a key. -/
inductive KeyPhase
  | outside
  | inName
  | afterName
  deriving DecidableEq, Repr

/-- The state of the reader. -/
structure Layout where
  chars : Array Char
  /-- The quotation mark that is open. -/
  opened : Option Char
  /-- Whether a threefold quotation mark is open. -/
  multiline : Bool
  brackets : Int
  /-- Whether the reader is in the header of a table. -/
  inHeader : Bool
  /-- Whether the reader is in the header of a list of tables. -/
  inArrayHeader : Bool
  lineStart : Bool
  phase : KeyPhase
  dotted : Bool

/-- The state before the first character. -/
def Layout.start (cs : List Char) : Layout :=
  ⟨cs.toArray, none, false, 0, false, false, true, .outside, false⟩

namespace Layout

/-- The character `k` places before the place `i`. -/
def back (s : Layout) (i k : Nat) : Option Char :=
  if k ≤ i then s.chars[i - k]?
  else if k - i ≤ s.chars.size then s.chars[s.chars.size - (k - i)]?
  else none

/-- How many characters `c` in a row end `k` places before the place `i`. -/
def runBack (s : Layout) (c : Char) (i k : Nat) : Nat → Nat
  | 0 => 0
  | fuel + 1 => if s.back i k == some c then s.runBack c i (k + 1) fuel + 1 else 0

/-- Writes a character. -/
def put (s : Layout) (i : Nat) (c : Char) : Layout := { s with chars := s.chars.setIfInBounds i c }

/-- Characters of bare keys. -/
def isBareChar (c : Char) : Bool :=
  if c.toNat < 0x80 then c.isAlphanum || c == '_' || c == '-'
  else inRanges identifierStarts c.toNat || (digitValue? c).isSome

/-- Whether a name goes on after the blank or the dot at the place `i`. -/
def nameFollows (s : Layout) (i : Nat) : Except Failure Bool :=
  match s.chars[i + 1]? with
  | none => .error .cutShort
  | some c => .ok (!isBlank c && c != '.')

/-- Goes on in a name if one follows. -/
def continueName (s : Layout) (i : Nat) : Except Failure Layout := do
  return if ← s.nameFollows i then { s with phase := .inName } else s

/-- Ends a key at its equals sign; nothing else may follow a name. -/
def endKey (s : Layout) (c : Char) : Except Failure Layout :=
  if c == '=' then .ok { s with phase := .outside, dotted := false } else .error .malformed

/-- A character of a key. The result tells whether the character is done with. -/
def keyChar (s : Layout) (i : Nat) (c : Char) : Except Failure (Layout × Bool) := do
  if c == '\n' then throw .malformed
  match s.opened with
  | some mark =>
    if c == mark && s.runBack '\\' i 1 i % 2 == 0 then
      return ({ s with phase := .afterName, opened := none }, true)
    else return (s, true)
  | none =>
    if s.phase == .inName then
      if isBlank c then return ({ s with phase := .afterName }, true)
      else if c == '.' then return ({ s with dotted := true }, true)
      else if isBareChar c then return (s, true)
      else if s.dotted && s.back i 1 == some '.' && (c == '"' || c == '\'') then
        return ({ s with opened := some c }, true)
      else return (← s.endKey c, false)
    else if isBlank c then
      if s.dotted then return (← s.continueName i, true) else return (s, true)
    else if c == '.' then return (← { s with dotted := true }.continueName i, true)
    else return (← s.endKey c, false)

/-- Opens or closes a quotation mark, which is the third one in a row if `triple` says so. -/
def toggle (s : Layout) (mark : Char) (triple : Bool) : Layout :=
  let multiline := if triple then !s.multiline else s.multiline
  let opens := if triple then multiline else s.opened.isNone
  { s with multiline, opened := if opens then some mark else none }

/-- A quotation mark. One behind an odd number of backslashes does not count, if it is double. -/
def quoteMark (s : Layout) (i : Nat) (c : Char) : Layout :=
  if c == '\'' && s.opened != some '"' then s.toggle '\'' (s.runBack '\'' i 1 2 == 2)
  else if c == '"' && s.opened != some '\'' then
    let before := s.runBack '"' i 1 2
    let escaped :=
      before != 1 && s.runBack '\\' i (before + 1) s.chars.size % 2 == 1
    if escaped then s else s.toggle '"' (before == 2)
  else s

/-- Makes a comment blank. The result tells whether the text ends with it. -/
def blankComment (s : Layout) (i : Nat) : Nat → Layout × Bool
  | 0 => (s, true)
  | fuel + 1 =>
    match s.chars[i]? with
    | none => (s, true)
    | some c => if c == '\n' then (s, false) else (s.put i ' ').blankComment (i + 1) fuel

/-- Whether marks count at all: not inside quotation marks, nor in headers. -/
def isFree (s : Layout) : Bool := s.opened.isNone && !s.inHeader && !s.inArrayHeader

/-- An opening bracket. At the start of a line it begins a header. -/
def openBracket (s : Layout) (i : Nat) : Layout :=
  if !s.isFree then s
  else if !s.lineStart then { s with brackets := s.brackets + 1 }
  else if s.chars[i + 1]? == some '[' then { s with inArrayHeader := true }
  else { s with inHeader := true }

/-- A closing bracket. -/
def closeBracket (s : Layout) (i : Nat) : Layout :=
  if s.opened.isSome then s
  else if s.inHeader then { s with inHeader := false }
  else if s.inArrayHeader then
    if s.back i 1 == some ']' then { s with inArrayHeader := false } else s
  else { s with brackets := s.brackets - 1 }

/-- A line end. -/
def lineEnd (s : Layout) (i : Nat) : Except Failure Layout :=
  if s.opened.isSome || s.multiline then
    if !s.multiline then .error .malformed
    else
      match s.back i 1 with
      | some mark =>
        if (mark == '"' || mark == '\'') && s.back i 2 == some mark then
          let s := s.put i mark
          .ok (if s.back i 3 == some mark then s.put (i - 3) ' ' else s)
        else .ok s
      | none => .ok s
  else if s.brackets != 0 then .ok (s.put i ' ')
  else .ok { s with lineStart := true }

/-- The first character of a line that is no blank. Outside of headers it begins a key. -/
def lineBegin (s : Layout) (i : Nat) : Except Failure Layout :=
  match s.chars[i]? with
  | none => .ok s
  | some c =>
    if !s.lineStart || c == ' ' || c == '\t' then .ok s
    else
      let s := { s with lineStart := false }
      if s.inHeader || s.inArrayHeader then .ok s
      else if c == '=' then .error .malformed
      else .ok { s with phase := .inName }

/-- What follows the key of a line. -/
def otherChar (s : Layout) (i : Nat) (c : Char) : Except Failure (Layout × Bool) := do
  let s := s.quoteMark i c
  let (s, ends) := if c == '#' && s.isFree then s.blankComment i s.chars.size else (s, false)
  if ends then return (s, true)
  let s := if c == '[' then s.openBracket i else s
  let s := if c == ']' then s.closeBracket i else s
  return (← if c == '\n' then s.lineEnd i else s.lineBegin i, false)

/-- The character at the place `i`. The result tells whether the text ends with it. -/
def step (s : Layout) (i : Nat) (c : Char) : Except Failure (Layout × Bool) := do
  if s.phase == .outside then s.otherChar i c
  else
    let (s, done) ← s.keyChar i c
    if done then return (s, false) else s.otherChar i c

/-- All characters from the place `i` on. -/
def run (s : Layout) (i : Nat) : Nat → Except Failure Layout
  | 0 => .ok s
  | fuel + 1 =>
    match s.chars[i]? with
    | none => .ok s
    | some c => do
      let (s, ends) ← s.step i c
      if ends then return s else s.run (i + 1) fuel

end Layout

/-- The lines of a text. No key and no quotation mark may be left open. -/
def logicalLines (text : String) : Except Failure (List (List Char)) := do
  let cs := text.toList
  let s ← (Layout.start cs).run 0 cs.length
  if s.phase != .outside || s.opened.isSome then throw .malformed
  return split ['\n'] s.chars.toList

end Crosscheck.Document.Toml
