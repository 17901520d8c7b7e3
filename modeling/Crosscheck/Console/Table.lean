import Crosscheck.Console.Styled
import Crosscheck.Console.Wrap
import Crosscheck.Number.Binary64
/-!
# Tables

Tables of text with a title above, a heavy frame around the heads of the columns and a light one
around the rows. A column is as wide as its widest cell. If the table is wider than the screen, its
widest columns are narrowed first.
-/

namespace Crosscheck.Console

open Crosscheck.Text

/-- A column: its head, and where its cells stand. -/
structure Column where
  head : String
  alignment : Alignment

/-- A table. Every row has a cell for every column. -/
structure Table where
  title : String
  columns : List Column
  rows : List (List String)

/-! ## Widths -/

/-- Whether a line ends at a character, for the measure of a text. -/
def endsLine (c : Char) : Bool :=
  [0x0A, 0x0B, 0x0C, 0x0D, 0x1C, 0x1D, 0x1E, 0x85, 0x2028, 0x2029].contains c.toNat

/-- The width of the widest line of a text, `used` cells standing before it. -/
def measureFrom (used : Nat) : List Char → Nat
  | [] => used
  | '\u200D' :: c :: rest =>
    if endsLine c then max used (measureFrom 0 rest) else measureFrom used rest
  | c :: rest =>
    if endsLine c then max used (measureFrom 0 rest) else measureFrom (used + cellsOf c) rest

/-- The width of a cell with the blanks at its sides, at most a limit. -/
def cellWidth (limit : Nat) (cs : List Char) : Nat := min limit (measureFrom 0 cs + 2)

/-- The width that columns take together. -/
def totalWidth (widths : List Nat) : Nat := widths.foldl (· + ·) 0

/-- Takes a total off values, evenly from those that share in it and at most `bound` from each. -/
def takeOff (total : Nat) (shares : Nat) : List (Nat × Bool × Nat) → List Nat
  | [] => []
  | (value, takesPart, bound) :: rest =>
    if takesPart && bound != 0 then
      let part := min bound (Binary64.roundQuotient total shares)
      (value - part) :: takeOff (total - part) (shares - 1) rest
    else value :: takeOff total shares rest

/-- Takes a total off values. -/
def reduce (total : Nat) (slots : List (Nat × Bool × Nat)) : List Nat :=
  takeOff total (slots.countP fun (_, takesPart, bound) => takesPart && bound != 0) slots

/-- Narrows the widest columns to the next widest ones, until the limit holds or all are equally
wide. Every step takes off at least one cell. -/
def narrow (limit : Nat) : Nat → List Nat → List Nat
  | 0, widths => widths
  | steps + 1, widths =>
    let excess := totalWidth widths - limit
    let widest := widths.foldl max 0
    let second := (widths.map fun w => if w == widest then 0 else w).foldl max 0
    if excess == 0 || widest == second then widths
    else
      let bound := min excess (widest - second)
      narrow limit steps (reduce excess (widths.map fun w => (w, w == widest, bound)))

/-- Narrows columns to a limit, in the last resort all of them. -/
def narrowed (limit : Nat) (widths : List Nat) : List Nat :=
  let widths := narrow limit (totalWidth widths - limit) widths
  let excess := totalWidth widths - limit
  if excess == 0 then widths else reduce excess (widths.map fun w => (w, true, w))

/-- The width of a column within a limit. -/
def columnWidth (limit : Nat) (cells : List (List Char)) : Nat :=
  (cells.map (cellWidth limit)).foldl max 0

/-- The widths of columns that take at most a limit together. -/
def columnWidths (limit : Nat) (columns : List (List (List Char))) : List Nat :=
  let widths := columns.map fun cells => max 1 (columnWidth limit cells)
  if totalWidth widths ≤ limit then widths
  else (columns.zip (narrowed limit widths)).map fun (cells, w) => columnWidth w cells

/-! ## Lines -/

/-- A rule of a frame through columns. -/
def rule (left fill mid right : Char) (widths : List Nat) : List Char :=
  left :: ([mid].intercalate (widths.map fun w => List.replicate w fill) ++ [right])

/-- The lines of a cell of a width. -/
def cellLines (w : Nat) (alignment : Alignment) (cs : List Char) : List (List Char) :=
  (wrap (w - 2) .ellipsis alignment cs).map fun line =>
    setWidth w (' ' :: setWidth (w - 2) line ++ [' '])

/-- Cells of one row brought to the same number of lines, those of a head from below. -/
def levelled (isHead : Bool) (widths : List Nat) (cells : List (List (List Char))) :
    List (List (List Char)) :=
  let height := (cells.map List.length).foldl max 1
  (widths.zip cells).map fun (w, lines) =>
    let filling := List.replicate (height - lines.length) (spaces w)
    if isHead then filling ++ lines else lines ++ filling

/-- The lines that cells make side by side. -/
def sideBySide (bar : Char) (height : Nat) (cells : List (List (List Char))) :
    List (List Char) :=
  (List.range height).map fun number =>
    let pieces := cells.map fun lines => lines.getD number []
    bar :: ([bar].intercalate pieces ++ [bar])

/-- The lines of a row. -/
def rowLines (isHead : Bool) (bar : Char) (columns : List Column) (widths : List Nat)
    (row : List (List Char)) : List (List Char) :=
  let cells := ((columns.zip widths).zip row).map fun ((column, w), cs) =>
    cellLines w column.alignment cs
  let cells := levelled isHead widths cells
  sideBySide bar ((cells.map List.length).foldl max 1) cells

namespace Table

/-- The lines of a table on a screen of a width, all cells as they are shown. -/
def lines (table : Table) (screen : Nat) (title : List Char) (head : List (List Char))
    (rows : List (List (List Char))) : List (List Char) :=
  let frame := table.columns.length + 1
  let columns := (List.range table.columns.length).map fun number =>
    (head :: rows).map fun row => row.getD number []
  let widths := columnWidths (screen - frame) columns
  wrap (totalWidth widths + frame) .fold .center title
    ++ [rule '┏' '━' '┳' '┓' widths]
    ++ rowLines true '┃' table.columns widths head
    ++ [rule '┡' '━' '╇' '┩' widths]
    ++ rows.flatMap (rowLines false '│' table.columns widths)
    ++ [rule '└' '─' '┴' '┘' widths]

/-- The lines of a table on a screen of a width. There are none if a cell has a mark that ends a
style that is not in force. -/
def render? (table : Table) (screen : Nat) : Option (List String) := do
  let head ← (table.columns.map (·.head)).mapM shown?
  let rows ← table.rows.mapM fun row => row.mapM shown?
  let title ← shown? table.title
  return (table.lines screen title head rows).map String.ofList

end Table

end Crosscheck.Console
