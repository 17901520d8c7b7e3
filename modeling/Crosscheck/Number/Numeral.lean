import Crosscheck.Number.Binary64
import Crosscheck.Text.Blank
import Crosscheck.Text.Case
import Crosscheck.Text.PrintableTable
/-!
# Numbers in text

Readers for numbers that people write: blanks around the number, a sign, single underscores between
digits, and the decimal digits of any script are all taken.
-/

namespace Crosscheck

open Crosscheck.Text

/-- The most digits that a whole number is read from or written with. -/
def digitLimit : Nat := 4300

/-- The value of decimal digits. -/
def naturalOf (digits : List Char) : Nat :=
  digits.foldl (fun n c => 10 * n + (c.toNat - '0'.toNat)) 0

/-- A number with its sign. -/
def signed (negative : Bool) (n : Nat) : Int := if negative then -n else n

/-- Whether a text begins with a minus, and what follows its sign. -/
def signOf : List Char → Bool × List Char
  | '-' :: rest => (true, rest)
  | '+' :: rest => (false, rest)
  | cs => (false, cs)

/-- The sign and the digits of a text that consists of an optional sign and ASCII digits. -/
def signedDigits? (cs : List Char) : Option (Bool × List Char) :=
  let (negative, digits) := signOf cs
  if digits != [] && digits.all Char.isDigit then some (negative, digits) else none

/-- Whether a character is a blank of ASCII. The four separators of files, groups, records and units
do not count. -/
def isAsciiBlank (c : Char) : Bool := c == ' ' || ('\t' ≤ c && c ≤ '\r')

/-- A character with the digits of all scripts brought to ASCII. -/
def asciiDigit (c : Char) : Char :=
  if c.toNat < 0x80 then c
  else ((digitValue? c).map fun n => Char.ofNat ('0'.toNat + n)).getD c

/-- A text as a numeral: without the blanks around it, its digits in ASCII. -/
def numeral (s : String) : List Char :=
  if s.toList.all (·.toNat < 0x80) then stripBy isAsciiBlank s.toList
  else (stripBy isBlank s.toList).map asciiDigit

/-- A text without its underscores, if each of them stands between two digits. -/
def joinDigits? : List Char → Option (List Char)
  | [] => some []
  | '_' :: _ => none
  | c :: '_' :: d :: rest =>
    if c.isDigit && d.isDigit then (joinDigits? (d :: rest)).map (c :: ·) else none
  | c :: rest => (joinDigits? rest).map (c :: ·)

/-- The whole number that a text writes. -/
def integerOf? (s : String) : Option Int := do
  let (negative, digits) ← signedDigits? (← joinDigits? (numeral s))
  if digits.length > digitLimit then none else some (signed negative (naturalOf digits))

/-- The power of ten that the end of a number writes: nothing, or the mark and a whole number. -/
def powerOf? : List Char → Option Int
  | [] => some 0
  | e :: rest =>
    if e == 'e' || e == 'E' then
      (signedDigits? rest).map fun (negative, digits) => signed negative (naturalOf digits)
    else none

/-- The decimal number that digits with an optional point and an optional power of ten write. -/
def decimalOf? (negative : Bool) (cs : List Char) : Option Binary64 :=
  let (whole, rest) := cs.span Char.isDigit
  let (places, rest) := match rest with
    | '.' :: rest => rest.span Char.isDigit
    | _ => ([], rest)
  let digits := whole ++ places
  if digits.isEmpty then none
  else (powerOf? rest).map fun power =>
    Binary64.ofDecimal negative (naturalOf digits) (power - places.length)

/-- The double that a text writes. -/
def doubleOf? (s : String) : Option Binary64 := do
  let (negative, cs) := signOf (← joinDigits? (numeral s))
  let word := lower (String.ofList cs)
  if word == "inf" || word == "infinity" then some (.infinite negative)
  else if word == "nan" then some .nan
  else decimalOf? negative cs

end Crosscheck
