import Crosscheck.Document.Value
import Crosscheck.Number.Numeral
/-!
# JSON documents

A reader for JSON. It also takes the numbers `NaN`, `Infinity` and `-Infinity`; of two fields with
one name the later value stays, in the place of the first; a whole number stays whole, and one of
too many digits is refused.
-/

namespace Crosscheck.Document.Json

open Crosscheck.Text

/-- Why a text is not read. -/
inductive Failure
  | malformed
  | tooManyDigits
  deriving DecidableEq, Repr

/-- Whether a character is layout. -/
def isLayout (c : Char) : Bool := c == ' ' || c == '\t' || c == '\n' || c == '\r'

/-- The text without leading layout. -/
def skip (cs : List Char) : List Char := cs.dropWhile isLayout

/-- What follows a word at the front of a text. -/
def after? (word : String) (cs : List Char) : Option (List Char) :=
  if word.toList.isPrefixOf cs then some (cs.drop word.length) else none

/-! ## Text -/

/-- The value of a hexadecimal digit. -/
def hexValue? (c : Char) : Option Nat :=
  if '0' ≤ c && c ≤ '9' then some (c.toNat - '0'.toNat)
  else if 'a' ≤ c && c ≤ 'f' then some (c.toNat - 'a'.toNat + 10)
  else if 'A' ≤ c && c ≤ 'F' then some (c.toNat - 'A'.toNat + 10)
  else none

/-- The number that hexadecimal digits write. -/
def hexNumber? (cs : List Char) : Option Nat :=
  (cs.mapM hexValue?).map (·.foldl (fun n d => 16 * n + d) 0)

/-- The code unit that four digits at the front of a text write. -/
def unit? (cs : List Char) : Option (Nat × List Char) :=
  if (cs.take 4).length == 4 then (hexNumber? (cs.take 4)).map (·, cs.drop 4) else none

/-- The character of a code point. Half a pair of surrogates is no character. -/
def scalar (n : Nat) : Char :=
  if 0xD800 ≤ n && n ≤ 0xDFFF then '\uFFFD' else Char.ofNat n

/-- The character that code units at the front of a text write, after the mark of an escape. Two
surrogates make one character. -/
def escapedUnits? (cs : List Char) : Option (Char × List Char) := do
  let (high, rest) ← unit? cs
  if 0xD800 ≤ high && high ≤ 0xDBFF then
    match rest with
    | '\\' :: 'u' :: more =>
      let (low, rest') ← unit? more
      if 0xDC00 ≤ low && low ≤ 0xDFFF then
        return (Char.ofNat (0x10000 + (high - 0xD800) * 0x400 + (low - 0xDC00)), rest')
      else return (scalar high, rest)
    | _ => return (scalar high, rest)
  else return (scalar high, rest)

/-- The character that an escape writes, after its backslash. -/
def escaped? : List Char → Option (Char × List Char)
  | '"' :: rest => some ('"', rest)
  | '\\' :: rest => some ('\\', rest)
  | '/' :: rest => some ('/', rest)
  | 'b' :: rest => some ('\x08', rest)
  | 'f' :: rest => some ('\x0c', rest)
  | 'n' :: rest => some ('\n', rest)
  | 'r' :: rest => some ('\r', rest)
  | 't' :: rest => some ('\t', rest)
  | 'u' :: rest => escapedUnits? rest
  | _ => none

/-- The characters up to the closing quotation mark. -/
def textBody : Nat → List Char → Except Failure (List Char × List Char)
  | 0, _ => .error .malformed
  | _, [] => .error .malformed
  | _, '"' :: rest => .ok ([], rest)
  | fuel + 1, '\\' :: rest =>
    match escaped? rest with
    | none => .error .malformed
    | some (c, rest) => do
      let (cs, rest) ← textBody fuel rest
      return (c :: cs, rest)
  | fuel + 1, c :: rest =>
    if c.toNat < 0x20 then .error .malformed
    else do
      let (cs, rest) ← textBody fuel rest
      return (c :: cs, rest)

/-! ## Numbers -/

/-- The digits at the front of a text. -/
def digits (cs : List Char) : List Char × List Char := cs.span Char.isDigit

/-- The digits of the whole part: no zero comes before another digit. -/
def wholeDigits : List Char → List Char × List Char
  | '0' :: rest => (['0'], rest)
  | cs => digits cs

/-- The digits after a point, if digits follow it. -/
def fraction (cs : List Char) : Option (List Char × List Char) :=
  match cs with
  | '.' :: rest =>
    let (ds, rest) := digits rest
    if ds.isEmpty then none else some (ds, rest)
  | _ => none

/-- The power of ten after its mark, if digits follow it. -/
def power (cs : List Char) : Option (Int × List Char) :=
  match cs with
  | e :: rest =>
    if e == 'e' || e == 'E' then
      let (negative, rest) := signOf rest
      let (ds, rest) := digits rest
      if ds.isEmpty then none else some (signed negative (naturalOf ds), rest)
    else none
  | [] => none

/-- A number without its sign. -/
def number (negative : Bool) (cs : List Char) : Except Failure (Value × List Char) :=
  let (whole, rest) := wholeDigits cs
  if whole.isEmpty then .error .malformed
  else
    let fractional := fraction rest
    let rest := (fractional.map (·.2)).getD rest
    let scaled := power rest
    let rest := (scaled.map (·.2)).getD rest
    if fractional.isNone && scaled.isNone then
      if whole.length > digitLimit then .error .tooManyDigits
      else .ok (.int (signed negative (naturalOf whole)), rest)
    else
      let places := (fractional.map (·.1)).getD []
      let exponent := (scaled.map (·.1)).getD 0 - places.length
      .ok (.float (Binary64.ofDecimal negative (naturalOf (whole ++ places)) exponent), rest)

/-- A word that is a value. -/
def word? (cs : List Char) : Option (Value × List Char) :=
  let words : List (String × Value) :=
    [("null", .null), ("true", .bool true), ("false", .bool false), ("NaN", .float .nan),
      ("Infinity", .float (.infinite false)), ("-Infinity", .float (.infinite true))]
  words.findSome? fun (word, value) => (after? word cs).map (value, ·)

/-! ## Values -/

mutual

/-- A value at the front of a text. -/
def value : Nat → List Char → Except Failure (Value × List Char)
  | 0, _ => .error .malformed
  | fuel + 1, cs =>
    match word? cs with
    | some found => .ok found
    | none =>
      match cs with
      | '"' :: rest => do
        let (text, rest) ← textBody rest.length rest
        return (.text (String.ofList text), rest)
      | '[' :: rest => do
        match skip rest with
        | ']' :: rest => return (.list [], rest)
        | rest =>
          let (items, rest) ← items fuel rest
          return (.list items, rest)
      | '\x7b' :: rest => do
        match skip rest with
        | '\x7d' :: rest => return (.map [], rest)
        | rest =>
          let (fields, rest) ← fields fuel rest
          return (.map (OrderedMap.ofList fields).entries, rest)
      | '-' :: rest => number true rest
      | rest => number false rest

/-- The items of a list from the next one to the closing bracket. -/
def items : Nat → List Char → Except Failure (List Value × List Char)
  | 0, _ => .error .malformed
  | fuel + 1, cs => do
    let (item, rest) ← value fuel cs
    match skip rest with
    | ']' :: rest => return ([item], rest)
    | ',' :: rest =>
      let (more, rest) ← items fuel (skip rest)
      return (item :: more, rest)
    | _ => throw .malformed

/-- The fields of a map from the next one to the closing brace. -/
def fields : Nat → List Char → Except Failure (List (Value × Value) × List Char)
  | 0, _ => .error .malformed
  | fuel + 1, cs =>
    match cs with
    | '"' :: rest => do
      let (name, rest) ← textBody rest.length rest
      match skip rest with
      | ':' :: rest =>
        let (item, rest) ← value fuel (skip rest)
        match skip rest with
        | '\x7d' :: rest => return ([(.text (String.ofList name), item)], rest)
        | ',' :: rest =>
          let (more, rest) ← fields fuel (skip rest)
          return ((.text (String.ofList name), item) :: more, rest)
        | _ => throw .malformed
      | _ => throw .malformed
    | _ => throw .malformed

end

/-- Reads a text. Every value takes at least one character, so as much fuel as there are characters
is enough. -/
def parse (s : String) : Except Failure Value := do
  let cs := skip s.toList
  let (result, rest) ← value (cs.length + 1) cs
  match skip rest with
  | [] => return result
  | _ => throw .malformed

end Crosscheck.Document.Json
