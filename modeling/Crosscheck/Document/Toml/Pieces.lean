import Crosscheck.Text.Blank
/-!
# Pieces of a TOML text

Cutting texts at separators and at quotation marks.
-/

namespace Crosscheck.Document.Toml

open Crosscheck.Text

/-- Why a text is not read. -/
inductive Failure
  /-- The text breaks the rules of the notation. -/
  | malformed
  /-- The text ends, or a part of it is empty, where a character is needed. -/
  | cutShort
  /-- A table is needed where a value of another kind stands. -/
  | notTable
  /-- A list of tables is needed where a value of another kind stands. -/
  | notArray
  deriving DecidableEq, Repr

/-- A text without the blanks at its ends. -/
def strip (cs : List Char) : List Char := stripBy isBlank cs

/-- What comes before the first separator, and what comes after it. -/
def splitOnce (separator : List Char) : List Char → Option (List Char × List Char)
  | [] => none
  | c :: rest =>
    if separator.isPrefixOf (c :: rest) then some ([], (c :: rest).drop separator.length)
    else (splitOnce separator rest).map fun (before, after) => (c :: before, after)

/-- The parts of a text between separators, which is cut at most so many times. -/
def splitMost (separator : List Char) : Nat → List Char → List (List Char)
  | 0, cs => [cs]
  | n + 1, cs =>
    match splitOnce separator cs with
    | none => [cs]
    | some (before, after) => before :: splitMost separator n after

/-- The parts of a text between separators. -/
def split (separator : List Char) (cs : List Char) : List (List Char) :=
  splitMost separator cs.length cs

/-- How often a separator is found in a text. -/
def occurrences (separator : List Char) (cs : List Char) : Nat := (split separator cs).length - 1

/-- The parts with separators between them. -/
def join (separator : List Char) (parts : List (List Char)) : List Char :=
  separator.intercalate parts

/-- A text without its first and its last character. -/
def inner (cs : List Char) : List Char := (cs.drop 1).dropLast

/-- Whether a text begins with a quotation mark. -/
def beginsQuoted : List Char → Bool
  | c :: _ => c == '"' || c == '\''
  | [] => false

/-- Joins parts between double quotes to the last part between single quotes as long as the number
of the latter is even, which means that a single quote is open. -/
def joinOpen : Nat → List (List Char) → List (List Char) → List (List Char) × List (List Char)
  | 0, singles, doubles => (singles, doubles)
  | _, singles, [] => (singles, [])
  | fuel + 1, singles, double :: doubles =>
    if singles.length % 2 == 0 then
      let last := (singles.getLast?).getD [] ++ '"' :: double
      joinOpen fuel (singles.dropLast ++ split ['\''] last) doubles
    else (singles, double :: doubles)

/-- The parts of a text between its quotation marks. Every second one is quoted. -/
def quotePieces (cs : List Char) : List (List Char) :=
  let doubles := split ['"'] cs
  let (singles, doubles) := match doubles with
    | first :: second :: rest =>
      if first.contains '\'' then
        joinOpen (rest.length + 1) (split ['\''] first) (second :: rest)
      else ([], doubles)
    | _ => ([], doubles)
  singles ++ unquoted doubles
where
  /-- Parts that begin outside of double quotes; single quotes count there. -/
  unquoted : List (List Char) → List (List Char)
    | [] => []
    | [piece] => split ['\''] piece
    | piece :: quoted :: rest => split ['\''] piece ++ quoted :: unquoted rest

/-- How many parts a text has when it is cut at the first separator that is not quoted: those before
it, all that are quoted counted in. -/
def cutsBefore (separator : List Char) (cs : List Char) : Nat :=
  go 1 false (quotePieces cs)
where
  /-- Goes over the pieces between quotation marks. -/
  go (count : Nat) (quoted : Bool) : List (List Char) → Nat
    | [] => count
    | piece :: rest =>
      let found := occurrences separator piece
      if !quoted && found > 0 then count else go (count + found) (!quoted) rest

end Crosscheck.Document.Toml
