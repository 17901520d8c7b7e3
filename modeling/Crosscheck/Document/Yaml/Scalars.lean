import Crosscheck.Document.Value
import Crosscheck.Document.Yaml.Tag
import Crosscheck.Number.Numeral
/-!
# Values of scalars

What a text is as a value of the kind that its tag names.
-/

namespace Crosscheck.Document.Yaml

open Crosscheck.Text

/-- A failure that belongs to no place in the text. -/
def unplaced (problem : String) : Failure := .malformed ⟨none, none, problem, none⟩

/-- The value, or the failure of a text that is none. -/
def orUnfit {α : Type} : Option α → Except Failure α
  | some a => .ok a
  | none => .error .unfit

/-- The value of a digit in a base. -/
def baseDigit? (base : Nat) (c : Char) : Option Nat :=
  let value? :=
    if c.isDigit then some (c.toNat - '0'.toNat)
    else if 'a' ≤ c && c ≤ 'f' then some (c.toNat - 'a'.toNat + 10)
    else if 'A' ≤ c && c ≤ 'F' then some (c.toNat - 'A'.toNat + 10)
    else none
  value?.filter (· < base)

/-- The number that at least one digit writes in a base. -/
def inBase (base : Nat) (cs : List Char) : Except Failure Int :=
  if cs.isEmpty then .error .unfit
  else orUnfit ((cs.mapM (baseDigit? base)).map fun ds =>
    Int.ofNat (ds.foldl (fun n d => base * n + d) 0))

/-- A text without underscores, cut after its sign. -/
def signAndBody (text : String) : Except Failure (Bool × List Char) :=
  match text.toList.filter (· != '_') with
  | [] => .error .emptyNumber
  | cs => .ok (signOf cs)

/-- The whole number of a text without underscores and sign. -/
def magnitude (cs : List Char) : Except Failure Int :=
  match cs with
  | [] => .error .emptyNumber
  | ['0'] => .ok 0
  | '0' :: 'b' :: digits => inBase 2 digits
  | '0' :: 'x' :: digits => inBase 16 digits
  | '0' :: 'o' :: digits => inBase 8 digits
  | '0' :: digits => inBase 8 ('0' :: digits)
  | digits => do
    let parts ← orUnfit ((Tag.splitColons digits).mapM fun part => integerOf? (String.ofList part))
    return parts.foldl (fun n part => 60 * n + part) 0

/-- A whole number. -/
def intValue (text : String) : Except Failure Value := do
  let (negative, body) ← signAndBody text
  let n ← magnitude body
  return .int (if negative then -n else n)

/-- The sum of the parts of a number in base sixty, the first of which counts one. -/
def sixtieths (parts : List Binary64) : Binary64 :=
  (parts.foldl
    (fun (sum, base) part => (sum.add (part.mul (Binary64.ofInt base)), base * 60))
    (Binary64.zero false, (1 : Int))).1

/-- A number with a point. -/
def floatValue (text : String) : Except Failure Value := do
  let (negative, body) ← signAndBody (lower text)
  let x ←
    if String.ofList body == ".inf" then pure (.infinite false)
    else if String.ofList body == ".nan" then pure .nan
    else
      match Tag.splitColons body with
      | [part] => orUnfit (doubleOf? (String.ofList part))
      | parts => do
        let parts ← orUnfit (parts.mapM fun part => doubleOf? (String.ofList part))
        pure (sixtieths parts.reverse)
  return .float (if negative then x.neg else x)

/-- A truth value. -/
def boolValue (text : String) : Except Failure Value :=
  let word := lower text
  if word == "yes" || word == "true" || word == "on" then .ok (.bool true)
  else if word == "no" || word == "false" || word == "off" then .ok (.bool false)
  else .error .unknownWord

/-- A fraction of a second in millionths, cut after six places. -/
def microseconds (fraction : List Char) : Nat :=
  let places := fraction.take 6
  naturalOf (places ++ List.replicate (6 - places.length) '0')

/-- A distance from universal time in minutes; less than a day. -/
def offsetMinutes : Option Char × List Char × List Char → Except Failure Int
  | (none, _, _) => .ok 0
  | (some sign, hours, minutes) =>
    let total := naturalOf hours * 60 + naturalOf minutes
    if total ≥ 1440 then .error .unfit else .ok (signed (sign == '-') total)

/-- A day, or a day with a time. -/
def momentValue (text : String) : Except Failure Value := do
  match Tag.momentText? text.toList with
  | none => throw .unfitMoment
  | some parts =>
    let day : Day := ⟨naturalOf parts.year, naturalOf parts.month, naturalOf parts.day⟩
    match parts.clock with
    | none => if day.isValid then return .moment (.day day) else throw .unfit
    | some (hour, minute, second, fraction) =>
      let clock : Clock :=
        ⟨naturalOf hour, naturalOf minute, naturalOf second, microseconds fraction⟩
      let offset ← parts.zone.mapM offsetMinutes
      if day.isValid && clock.isValid then return .moment (.instant day clock offset)
      else throw .unfit

/-! ## Bytes -/

/-- The six bits that a character of base 64 stands for. -/
def sixBits? (c : Char) : Option Nat :=
  if 'A' ≤ c && c ≤ 'Z' then some (c.toNat - 'A'.toNat)
  else if 'a' ≤ c && c ≤ 'z' then some (c.toNat - 'a'.toNat + 26)
  else if c.isDigit then some (c.toNat - '0'.toNat + 52)
  else if c == '+' then some 62
  else if c == '/' then some 63
  else none

/-- Reads base 64, `count` characters into a group of four, which left over the bits `left`, and
after `fill` fill marks. Other characters are passed over; the group has to be complete or filled
up. -/
def base64 (count left fill : Nat) : List Char → Option Bytes
  | [] => if count == 0 then some [] else none
  | c :: rest =>
    if c == '=' then
      if count ≥ 2 && count + fill + 1 ≥ 4 then some [] else base64 count left (fill + 1) rest
    else
      match sixBits? c with
      | none => base64 count left fill rest
      | some n =>
        match count with
        | 0 => base64 1 n 0 rest
        | 1 => (base64 2 (n % 16) 0 rest).map (UInt8.ofNat (left * 4 + n / 16) :: ·)
        | 2 => (base64 3 (n % 4) 0 rest).map (UInt8.ofNat (left * 16 + n / 4) :: ·)
        | _ => (base64 0 0 0 rest).map (UInt8.ofNat (left * 64 + n) :: ·)

/-- Bytes in base 64. -/
def bytesValue (text : String) : Except Failure Value :=
  if text.toList.any (·.toNat ≥ 0x80) then
    .error (unplaced "failed to convert base64 data into ascii")
  else
    match base64 0 0 0 text.toList with
    | some bytes => .ok (.bytes bytes)
    | none => .error (unplaced "failed to decode base64 data")

/-- The value of a scalar. -/
def scalarValue (tag : Tag) (text : String) : Except Failure Value :=
  match tag with
  | .null => .ok .null
  | .bool => boolValue text
  | .int => intValue text
  | .float => floatValue text
  | .binary => bytesValue text
  | .moment => momentValue text
  | .str => .ok (.text text)
  | _ => .error (unplaced "could not determine a constructor for the tag")

end Crosscheck.Document.Yaml
