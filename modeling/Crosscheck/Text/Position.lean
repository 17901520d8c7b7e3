import Crosscheck.Text.Glyph
/-!
# Positions in a text

A byte offset, as the row and the column it falls on. Rows are counted by line feeds, columns by
bytes.
-/

namespace Crosscheck.Text

/-- A row and a column, both counted from zero. -/
structure Position where
  row : Nat
  column : Nat
  deriving DecidableEq, Repr

/-- The line feed. -/
def lineFeed : UInt8 := 10

/-- How many of the bytes follow the last line feed. -/
def sinceLineFeed (bytes : Bytes) : Nat := (bytes.reverse.takeWhile (· != lineFeed)).length

/-- The offset at which the line that holds an offset starts. -/
def lineStart (bytes : Bytes) (offset : Nat) : Nat :=
  let before := bytes.take offset
  before.length - sinceLineFeed before

/-- The position of an offset. -/
def position (bytes : Bytes) (offset : Nat) : Position :=
  ⟨(bytes.take offset).count lineFeed, offset - lineStart bytes offset⟩

end Crosscheck.Text
