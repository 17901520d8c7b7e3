import Crosscheck.Text.Glyph
/-!
# Blanks

Which characters are blank, and what is left of a text when the blanks at its ends are cut off.
Blank are the characters whose Unicode class is a separator or whose bidirectional class is a
whitespace, a segment or a paragraph separator: 29 of them.
-/

namespace Crosscheck.Text

/-- Blank characters. -/
def isBlank (c : Char) : Bool :=
  let n := c.toNat
  (0x09 ≤ n && n ≤ 0x0D) || (0x1C ≤ n && n ≤ 0x20) || n == 0x85 || n == 0xA0 || n == 0x1680
    || (0x2000 ≤ n && n ≤ 0x200A) || n == 0x2028 || n == 0x2029 || n == 0x202F || n == 0x205F
    || n == 0x3000

/-- A glyph that is a blank character; stray bytes are not blank. -/
def Glyph.isBlank : Glyph → Bool
  | .char c => Text.isBlank c
  | .stray _ => false

/-- Cuts what satisfies the test off both ends. -/
def stripBy {α : Type} (p : α → Bool) (xs : List α) : List α :=
  ((xs.dropWhile p).reverse.dropWhile p).reverse

/-- A string without the blanks at its ends. -/
def trim (s : String) : String := String.ofList (stripBy isBlank s.toList)

/-- Text without the blanks at its ends. -/
def trimGlyphs (text : Glyphs) : Glyphs := stripBy Glyph.isBlank text

end Crosscheck.Text
