import Crosscheck.Text.Glyph
import Crosscheck.Text.PrintableTable
/-!
# Quoted text

Text between quotation marks, with everything that has no visible form written as an escape. The
mark is a single quote, unless the text holds single quotes and no double ones.
-/

namespace Crosscheck.Text

/-- A number in hexadecimal, padded with zeros. -/
def hexPadded (width n : Nat) : String :=
  let digits := Nat.toDigits 16 n
  String.ofList (List.replicate (width - digits.length) '0' ++ digits)

/-- The mark that quotes a text. -/
def quoteMark (cs : List Char) : Char :=
  if cs.contains '\'' && !cs.contains '"' then '"' else '\''

/-- A character between quotation marks. -/
def escapeChar (mark c : Char) : String :=
  if c == mark || c == '\\' then String.ofList ['\\', c]
  else if c == '\n' then "\\n"
  else if c == '\r' then "\\r"
  else if c == '\t' then "\\t"
  else if isPrintable c then String.ofList [c]
  else if c.toNat < 0x100 then "\\x" ++ hexPadded 2 c.toNat
  else if c.toNat < 0x10000 then "\\u" ++ hexPadded 4 c.toNat
  else "\\U" ++ hexPadded 8 c.toNat

/-- A text as a quoted literal. -/
def quoted (s : String) : String :=
  let cs := s.toList
  let mark := quoteMark cs
  String.ofList [mark] ++ String.join (cs.map (escapeChar mark)) ++ String.ofList [mark]

/-- A byte between quotation marks: visible ASCII as it is. -/
def escapeByte (mark : Char) (b : UInt8) : String :=
  if b < 0x80 then escapeChar mark (Char.ofNat b.toNat) else "\\x" ++ hexPadded 2 b.toNat

/-- Bytes as a quoted literal. -/
def quotedBytes (bytes : Bytes) : String :=
  let mark := quoteMark (bytes.map fun b => Char.ofNat b.toNat)
  "b" ++ String.ofList [mark] ++ String.join (bytes.map (escapeByte mark)) ++ String.ofList [mark]

end Crosscheck.Text
