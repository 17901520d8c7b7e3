import Crosscheck.Document.Value
import Crosscheck.Fault
import Crosscheck.Number.Numeral
/-!
# Line numbers in reports

Reports write a line as a number or as text. `lineOf` brings both to one number; whatever is no
usable line is `unknownLine`.
-/

namespace Crosscheck

open Crosscheck.Text Crosscheck.Document

/-- Stands for a line that is not known. -/
def unknownLine : Int := -1

/-- Whether a number fits into 32 bits with a sign. -/
def fitsLine (n : Int) : Bool := -2147483648 ≤ n && n ≤ 2147483647

/-- The line that a text gives. -/
def lineOfText (s : String) : Except Fault Int :=
  match signedDigits? (trim s).toList with
  | none => .ok unknownLine
  | some (negative, digits) =>
    if digits.length > digitLimit then .error .tooManyDigits
    else
      let n := signed negative (naturalOf digits)
      .ok (if fitsLine n then n else unknownLine)

/-- The line that a value gives. Only numbers and text can give one; a truth value is no number. -/
def lineOf : Value → Except Fault Int
  | .int n => .ok n
  | .text s => lineOfText s
  | _ => .ok unknownLine

end Crosscheck
