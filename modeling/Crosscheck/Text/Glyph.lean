/-!
# Text over bytes

Source files are bytes, and the variations that this library makes are text edits. A `Glyph` is one
unit of text read from bytes: a character, or a byte that is part of no well-formed UTF-8 sequence.
Nothing is lost on the way in, so what is cut out of a file and put back is byte for byte what stood
there.

`decode` reads bytes as glyphs, `encode` writes them back.
-/

namespace Crosscheck.Text

/-- The content of a file. -/
abbrev Bytes := List UInt8

/-- One unit of text read from bytes. -/
inductive Glyph
  /-- A character. -/
  | char (c : Char)
  /-- A byte that belongs to no character. -/
  | stray (b : UInt8)
  deriving DecidableEq, Repr, Inhabited

/-- Text that came from bytes, or is meant to become bytes. -/
abbrev Glyphs := List Glyph

/-- A continuation byte of a UTF-8 sequence. -/
def isTail (b : UInt8) : Bool := 0x80 ≤ b && b ≤ 0xBF

/-- The UTF-8 sequence of a character. -/
def encodeChar (c : Char) : Bytes :=
  let n := c.toNat
  if n < 0x80 then [UInt8.ofNat n]
  else if n < 0x800 then [UInt8.ofNat (0xC0 + n / 64), UInt8.ofNat (0x80 + n % 64)]
  else if n < 0x10000 then
    [UInt8.ofNat (0xE0 + n / 4096), UInt8.ofNat (0x80 + n / 64 % 64), UInt8.ofNat (0x80 + n % 64)]
  else
    [UInt8.ofNat (0xF0 + n / 262144), UInt8.ofNat (0x80 + n / 4096 % 64),
      UInt8.ofNat (0x80 + n / 64 % 64), UInt8.ofNat (0x80 + n % 64)]

/-- The character that the bytes begin with, and the number of bytes it takes: the shortest form
only, no surrogates, nothing past the last code point. -/
def leadingChar : Bytes → Option (Char × Nat)
  | [] => none
  | a :: rest =>
    if a < 0x80 then some (Char.ofNat a.toNat, 1)
    else if 0xC2 ≤ a && a ≤ 0xDF then
      match rest with
      | b :: _ =>
        if isTail b then some (Char.ofNat ((a.toNat - 0xC0) * 64 + (b.toNat - 0x80)), 2) else none
      | [] => none
    else if 0xE0 ≤ a && a ≤ 0xEF then
      match rest with
      | b :: c :: _ =>
        if isTail b && isTail c && !(a == 0xE0 && b < 0xA0) && !(a == 0xED && b > 0x9F) then
          some (Char.ofNat ((a.toNat - 0xE0) * 4096 + (b.toNat - 0x80) * 64 + (c.toNat - 0x80)), 3)
        else none
      | _ => none
    else if 0xF0 ≤ a && a ≤ 0xF4 then
      match rest with
      | b :: c :: d :: _ =>
        if isTail b && isTail c && isTail d && !(a == 0xF0 && b < 0x90) && !(a == 0xF4 && b > 0x8F)
        then
          some (Char.ofNat ((a.toNat - 0xF0) * 262144 + (b.toNat - 0x80) * 4096
            + (c.toNat - 0x80) * 64 + (d.toNat - 0x80)), 4)
        else none
      | _ => none
    else none

/-- Reads at most as many glyphs as the fuel says. -/
def decodeFrom : Nat → Bytes → Glyphs
  | 0, _ => []
  | _, [] => []
  | fuel + 1, a :: rest =>
    match leadingChar (a :: rest) with
    | some (c, n) => .char c :: decodeFrom fuel (rest.drop (n - 1))
    | none => .stray a :: decodeFrom fuel rest

/-- Bytes as text. Every glyph takes at least one byte, so as much fuel as there are bytes is
enough. -/
def decode (bytes : Bytes) : Glyphs := decodeFrom bytes.length bytes

/-- The bytes of one glyph. -/
def Glyph.encode : Glyph → Bytes
  | .char c => encodeChar c
  | .stray b => [b]

/-- Text as bytes. -/
def encode (text : Glyphs) : Bytes := text.flatMap Glyph.encode

/-- How many bytes a glyph takes. -/
def Glyph.width : Glyph → Nat
  | .char c => c.utf8Size
  | .stray _ => 1

/-- Characters as glyphs. -/
def ofString (s : String) : Glyphs := s.toList.map .char

/-- The character a glyph is. -/
def Glyph.char? : Glyph → Option Char
  | .char c => some c
  | .stray _ => none

/-- The text as characters, where every glyph is one. -/
def toString? (text : Glyphs) : Option String := (text.mapM Glyph.char?).map String.ofList

/-- The bytes of a string. -/
def utf8 (s : String) : Bytes := encode (ofString s)

/-- The characters of bytes that are well-formed UTF-8. -/
def ofUtf8? (bytes : Bytes) : Option String := toString? (decode bytes)

end Crosscheck.Text
