import Crosscheck.Console.Width
import Crosscheck.Text.Blank
/-!
# Wrapping

Breaks text into lines of a limited width. Lines break before words. A word that is longer than a
line is folded over several lines, or else cut off and marked with an ellipsis.
-/

namespace Crosscheck.Console

open Crosscheck.Text

/-- What becomes of a word that is longer than a line. -/
inductive Overflow
  | fold
  | ellipsis
  deriving DecidableEq, Repr

/-- Where a text stands in its line. -/
inductive Alignment
  /-- At the left, with nothing added. -/
  | plain
  | left
  | center
  | right
  deriving DecidableEq, Repr

/-- A text without the blanks at its end. -/
def dropBlankEnd (cs : List Char) : List Char := (cs.reverse.dropWhile isBlank).reverse

/-- The lines of a text. -/
def linesOf : List Char → List (List Char)
  | [] => [[]]
  | c :: rest =>
    match linesOf rest with
    | [] => [[c]]
    | line :: more => if c == '\n' then [] :: line :: more else (c :: line) :: more

/-- A line with every tab replaced by spaces, up to the next multiple of eight cells; `column` cells
stand before it. -/
def expandTabs (column : Nat) : List Char → List Char
  | [] => []
  | '\t' :: rest =>
    let next := (column / 8 + 1) * 8
    spaces (next - column) ++ expandTabs next rest
  | c :: rest => c :: expandTabs (column + cellsOf c) rest

/-- Adds a character in front of words. A word ends where its last blank is followed by something
else; blanks in front belong to the first word. -/
def consWord (c : Char) : List (List Char) → List (List Char)
  | [] => [[c]]
  | word :: rest =>
    match word with
    | [] => [c] :: rest
    | d :: _ =>
      if isBlank c && !isBlank d then
        [c] :: word :: rest
      else (c :: word) :: rest

/-- The words of a text, each with the blanks that follow it. -/
def splitWords : List Char → List (List Char)
  | [] => []
  | c :: rest => consWord c (splitWords rest)

/-- The words of a text. Blanks at the front belong to the first word. -/
def wordsOf (cs : List Char) : List (List Char) :=
  match splitWords cs with
  | first :: second :: rest =>
    if first.all isBlank then (first ++ second) :: rest else first :: second :: rest
  | words => words

/-- Cuts a word into pieces of a limited width, `used` cells being taken on the first line. -/
def chop (limit used : Nat) : List Char → List (List Char)
  | [] => [[]]
  | c :: rest =>
    if used + cellsOf c > limit then
      match chop limit (cellsOf c) rest with
      | piece :: more => [] :: (c :: piece) :: more
      | [] => [[], [c]]
    else
      match chop limit (used + cellsOf c) rest with
      | piece :: more => (c :: piece) :: more
      | [] => [[c]]

/-- Lines in the making: those that are complete, and the last one with the room that it takes. -/
structure Layout where
  complete : List (List Char)
  current : List Char
  used : Nat

namespace Layout

/-- Whether nothing is laid out yet. -/
def isFresh (layout : Layout) : Bool := layout.complete.isEmpty && layout.current.isEmpty

/-- Goes on with a piece on the same line. -/
def extend (layout : Layout) (piece : List Char) : Layout :=
  { layout with current := layout.current ++ piece, used := layout.used + width piece }

/-- Goes on with a piece on a new line, or on the first line if that is still empty. -/
def newLine (layout : Layout) (piece : List Char) : Layout :=
  if layout.isFresh then ⟨[], piece, width piece⟩
  else ⟨layout.complete ++ [layout.current], piece, width piece⟩

/-- Lays out a word. -/
def add (limit : Nat) (overflow : Overflow) (layout : Layout) (word : List Char) : Layout :=
  let needed := width (dropBlankEnd word)
  if layout.used + needed ≤ limit then layout.extend word
  else if needed > limit then
    match overflow with
    | .fold => (chop limit 0 word).foldl newLine layout
    | .ellipsis => layout.newLine word
  else if layout.used != 0 && !layout.isFresh then layout.newLine word
  else { layout with current := layout.current ++ word }

/-- All lines. -/
def lines (layout : Layout) : List (List Char) := layout.complete ++ [layout.current]

end Layout

/-- Breaks a line. -/
def breakLine (limit : Nat) (overflow : Overflow) (line : List Char) : List (List Char) :=
  match wordsOf line with
  | [] => [line]
  | words => (words.foldl (Layout.add limit overflow) ⟨[], [], 0⟩).lines

/-- Cuts blanks off the end of a line, as many as there are characters past the limit. -/
def dropExcessBlanks (limit : Nat) (line : List Char) : List Char :=
  let blanks := (line.reverse.takeWhile isBlank).length
  line.take (line.length - min blanks (line.length - limit))

/-- Cuts a line to a limit. -/
def cutTo (limit : Nat) (overflow : Overflow) (line : List Char) : List Char :=
  if width line ≤ limit then line
  else match overflow with
    | .fold => setWidth limit line
    | .ellipsis => setWidth (limit - 1) line ++ ['…']

/-- Aligns a line. -/
def align (limit : Nat) (overflow : Overflow) (alignment : Alignment) (line : List Char) :
    List Char :=
  match alignment with
  | .plain => cutTo limit overflow line
  | .left =>
    let line := cutTo limit overflow line
    line ++ spaces (limit - width line)
  | .center =>
    let line := cutTo limit overflow (dropBlankEnd line)
    let line := spaces ((limit - width line) / 2) ++ line
    line ++ spaces (limit - width line)
  | .right =>
    let line := cutTo limit overflow (dropBlankEnd line)
    spaces (limit - width line) ++ line

/-- The lines of a text, none wider than the limit. -/
def wrap (limit : Nat) (overflow : Overflow) (alignment : Alignment) (cs : List Char) :
    List (List Char) :=
  (linesOf cs).flatMap fun line =>
    (breakLine limit overflow (expandTabs 0 line)).map fun piece =>
      align limit overflow alignment (dropExcessBlanks limit piece)

end Crosscheck.Console
