import Crosscheck.Console.WidthTable
import Crosscheck.Text.IdentifierTable
/-!
# Width on a screen

How many cells of a fixed-width screen a text takes, and how it is brought to a given width.
-/

namespace Crosscheck.Console

open Crosscheck.Text

/-- The number of cells that a character takes. -/
def cellsOf (c : Char) : Nat :=
  if inRanges zeroWidthRanges c.toNat then 0
  else if inRanges doubleWidthRanges c.toNat then 2
  else 1

/-- The number of cells that a text takes. A zero-width joiner hides the character after it. -/
def width : List Char → Nat
  | [] => 0
  | '\u200D' :: _ :: rest => width rest
  | c :: rest => cellsOf c + width rest

/-- So many spaces. -/
def spaces (n : Nat) : List Char := List.replicate n ' '

/-- As much of a text as fits into so many cells. -/
def fitting : Nat → List Char → List Char
  | _, [] => []
  | room, c :: rest => if cellsOf c ≤ room then c :: fitting (room - cellsOf c) rest else []

/-- A text brought to an exact width: cut if it is too long, filled with spaces if it is short. -/
def setWidth (cells : Nat) (cs : List Char) : List Char :=
  let kept := if width cs ≤ cells then cs else fitting cells cs
  kept ++ spaces (cells - width kept)

end Crosscheck.Console
