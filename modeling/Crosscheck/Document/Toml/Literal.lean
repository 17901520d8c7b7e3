import Crosscheck.Document.Toml.Pieces
import Crosscheck.Document.Value
import Crosscheck.Number.Numeral
/-!
# Literals of TOML

Days, times, numbers and texts in quotation marks.
-/

namespace Crosscheck.Document.Toml

open Crosscheck.Text

/-- The value, or the failure of a text that is none. -/
def orMalformed {α : Type} : Option α → Except Failure α
  | some a => .ok a
  | none => .error .malformed

/-! ## Moments -/

/-- A part of a text between two places. -/
def slice (cs : List Char) (first last : Nat) : List Char := (cs.take last).drop first

/-- The whole number between two places. -/
def sliceInt? (cs : List Char) (first last : Nat) : Option Int :=
  integerOf? (String.ofList (slice cs first last))

/-- The natural number between two places. -/
def sliceNat? (cs : List Char) (first last : Nat) : Option Nat :=
  (sliceInt? cs first last).bind Int.toNat?

/-- The distance from universal time in minutes. -/
def zoneOffset? (cs : List Char) : Option Int :=
  if cs == ['Z'] then some 0
  else
    match cs with
    | [] => none
    | sign :: _ => do
      let minutes := (← sliceInt? cs 1 3) * 60 + (← sliceInt? cs 4 6)
      return if sign == '-' then -minutes else minutes

/-- A fraction of a second in millionths. -/
def fractionOf? (cs : List Char) : Option Nat := do
  let n ← sliceNat? cs 0 cs.length
  return if cs.length ≤ 6 then n * tenTo (6 - cs.length) else n / tenTo (cs.length - 6)

/-- What follows the seconds of a time: the fraction, and the distance from universal time. Of what
cannot be read nothing is left. -/
def secondsTail (cs : List Char) : Nat × Option Int :=
  match cs with
  | [] => (0, none)
  | '.' :: rest =>
    let (digits, zone) :=
      if rest.getLast?.any fun c => c == 'Z' || c == 'z' then (rest.dropLast, some ['Z'])
      else if rest.contains '+' then
        (rest.takeWhile (· != '+'), some (rest.dropWhile (· != '+')))
      else if rest.contains '-' then
        (rest.takeWhile (· != '-'), some (rest.dropWhile (· != '-')))
      else (rest, none)
    match zone with
    | none => ((fractionOf? digits).getD 0, none)
    | some zone =>
      match zoneOffset? zone, fractionOf? digits with
      | some offset, some fraction => (fraction, some offset)
      | _, _ => (0, none)
  | zone => (0, zoneOffset? zone)

/-- A day, or a day with a time. What stands between the numbers does not matter, as long as there
is a dash. -/
def momentOf? (cs : List Char) : Option Moment := do
  if !(cs.drop 1).contains '-' then none
  let day : Day := ⟨← sliceNat? cs 0 4, ← sliceNat? cs 5 7, ← sliceNat? cs 8 10⟩
  if !day.isValid then none
  if cs.length == 10 then return .day day
  let (micro, offset) := secondsTail (cs.drop 19)
  let clock : Clock := ⟨← sliceNat? cs 11 13, ← sliceNat? cs 14 16, ← sliceNat? cs 17 19, micro⟩
  if clock.isValid then return .instant day clock offset else none

/-- The digits of a fraction of three to six places. -/
def timeFraction (cs : List Char) : List Char :=
  match cs with
  | '.' :: rest =>
    let digits := (rest.takeWhile Char.isDigit).take 6
    if digits.length < 3 then [] else digits
  | _ => []

/-- The time that a text begins with; the fraction counts as millionths. -/
def clockOf? (cs : List Char) : Option Clock :=
  match cs with
  | h₁ :: h₂ :: ':' :: m₁ :: m₂ :: ':' :: s₁ :: s₂ :: rest =>
    if [h₁, h₂, m₁, m₂, s₁, s₂].all Char.isDigit then
      some ⟨naturalOf [h₁, h₂], naturalOf [m₁, m₂], naturalOf [s₁, s₂],
        naturalOf (timeFraction rest)⟩
    else none
  | _ => none

/-! ## Numbers -/

/-- Whether two characters stand side by side in a text. -/
def hasPair (c d : Char) (cs : List Char) : Bool := (splitOnce [c, d] cs).isSome

/-- Whether a text keeps to the rules for zeros and underscores in numbers. -/
def keepsNumberRules (text : List Char) : Bool :=
  let cs := strip text
  if cs.isEmpty || cs.head? == some '_' || cs.getLast? == some '_' || hasPair '_' '.' cs
    || hasPair '.' '_' cs then false
  else
    match cs with
    | [_] => true
    | '0' :: c :: _ =>
      (c == '.' || c == 'o' || c == 'b' || c == 'x') && !hasPair '_' '_' cs
    | sign :: rest =>
      let unsigned := if sign == '+' || sign == '-' then rest else sign :: rest
      let zeroLeads := (sign == '+' || sign == '-') &&
        match unsigned with
        | '0' :: c :: _ => c != '.'
        | _ => false
      !zeroLeads && !hasPair '_' '_' unsigned
    | [] => false

/-- The digit of a base. -/
def digitIn? (base : Nat) (c : Char) : Option Nat :=
  let value? :=
    if c.isDigit then some (c.toNat - '0'.toNat)
    else if 'a' ≤ c && c ≤ 'f' then some (c.toNat - 'a'.toNat + 10)
    else none
  value?.filter (· < base)

/-- The number that at least one digit writes in a base. -/
def numberIn? (base : Nat) (cs : List Char) : Option Int :=
  if cs.isEmpty then none
  else (cs.mapM (digitIn? base)).map fun ds => Int.ofNat (ds.foldl (fun n d => base * n + d) 0)

/-- A whole number, in the base that its first characters tell. A decimal one does not begin with a
zero. -/
def wholeOf? (cs : List Char) : Option Int :=
  let (negative, body) := signOf (numeral (String.ofList cs))
  let n? := match (lower (String.ofList body)).toList with
    | '0' :: 'x' :: digits => numberIn? 16 digits
    | '0' :: 'o' :: digits => numberIn? 8 digits
    | '0' :: 'b' :: digits => numberIn? 2 digits
    | '0' :: zeros => if zeros.all (· == '0') then some 0 else none
    | digits => if digits.all Char.isDigit then integerOf? (String.ofList digits) else none
  n?.map fun n => if negative then -n else n

/-- A number without its sign. -/
def unsignedNumber (cs : List Char) : Except Failure Value := do
  let small := lower (String.ofList cs)
  if cs.contains '.' || (!cs.contains 'x' && small.toList.contains 'e') then
    if (splitOnce ['.'] cs).any (·.2.isEmpty) then throw .malformed
    if !cs.head?.any Char.isDigit then throw .malformed
    return .float (← orMalformed (doubleOf? (String.ofList cs)))
  else if small == "inf" || small == "nan" then
    return .float (← orMalformed (doubleOf? small))
  else return .int (← orMalformed (wholeOf? cs))

/-- A number with the other sign. -/
def negated : Value → Value
  | .int n => .int (-n)
  | .float x => .float ((Binary64.zero false).add x.neg)
  | value => value

/-- A number. -/
def numberValue (cs : List Char) : Except Failure Value := do
  let (negative, body) := signOf cs
  let value ← unsignedNumber (body.filter (· != '_'))
  return if negative then negated value else value

/-! ## Texts -/

/-- Whether an odd number of backslashes ends a text. -/
def endsEscaped (cs : List Char) : Bool :=
  (cs.reverse.takeWhile (· == '\\')).length % 2 == 1

/-- The letters of escapes, and what they stand for. -/
def escapes : List (Char × Char) :=
  [('0', '\x00'), ('b', '\x08'), ('f', '\x0c'), ('n', '\n'), ('r', '\r'), ('t', '\t'), ('"', '"')]

/-- Whether the parts of a text between its quotation marks may follow each other: nothing comes
behind the closing mark. `triple` tells whether the mark is threefold, `empty` how many empty parts
came in a row. -/
def closesOnce (triple : Bool) (closed : Bool) (empty : Nat) : List (List Char) → Bool
  | [] => true
  | part :: rest =>
    if part.isEmpty then
      if triple then closesOnce triple closed (empty + 1) rest
      else closesOnce triple true empty rest
    else if endsEscaped part then closesOnce triple closed empty rest
    else if closed then false
    else if !triple || empty > 1 then closesOnce triple true empty rest
    else closesOnce triple closed 0 rest

/-- Whether a text in quotation marks is closed once. -/
def isClosedOnce (mark : Char) (cs : List Char) : Bool :=
  match split [mark] (cs.drop 1) with
  | [] :: [] :: parts => closesOnce true false 0 parts
  | parts => closesOnce false false 0 parts

/-- Whether the parts of a text between backslashes begin with the letters of escapes. -/
def escapesKnown (doubled : Bool) : List (List Char) → Bool
  | [] => true
  | [] :: rest => escapesKnown (!doubled) rest
  | (c :: _) :: rest =>
    ((escapes.lookup c).isSome || c == 'u' || c == 'U' || doubled) && escapesKnown false rest

/-- The value of the hexadecimal digits at the front of a text, as far as there are any. -/
def codePoint (digits : List Char) : Except Failure Char := do
  let small := (lower (String.ofList digits)).toList
  match small with
  | [] => throw .cutShort
  | 'd' :: c :: _ => if !('0' ≤ c && c ≤ '7') then throw .malformed
  | ['d'] => throw .cutShort
  | _ => pure ()
  match numberIn? 16 small with
  | none => throw .malformed
  | some n =>
    if n > 0x10FFFF then throw .malformed
    else return Char.ofNat n.toNat

/-- Writes the characters of code points in place of their escapes, after `before`. An escape behind
an odd number of backslashes stays. -/
def codeEscapes (letter : Char) (length : Nat) (skip : Bool) (before : List Char) :
    List (List Char) → Except Failure (List Char)
  | [] => .ok before
  | part :: rest =>
    if skip then
      codeEscapes letter length (endsEscaped part) (before ++ ['\\', letter] ++ part) rest
    else do
      let c ← codePoint (part.take length)
      codeEscapes letter length false (before ++ c :: part.drop length) rest

/-- Writes the characters of all code points of one kind of escape. -/
def replaceCodes (letter : Char) (length : Nat) (cs : List Char) : Except Failure (List Char) :=
  match split ['\\', letter] cs with
  | [] => .ok []
  | first :: rest => codeEscapes letter length (endsEscaped first) first rest

/-- Writes the characters that the other escapes stand for. The escapes of code points stay. -/
def unescape : List Char → Except Failure (List Char)
  | [] => .ok []
  | '\\' :: c :: rest =>
    match escapes.lookup c with
    | some d => return d :: (← unescape rest)
    | none =>
      if c == '\\' then return '\\' :: (← unescape rest)
      else if c == 'u' || c == 'U' then return '\\' :: c :: (← unescape rest)
      else .error .malformed
  | c :: rest => return c :: (← unescape rest)

/-- A text in double quotes with its escapes written out. -/
def writtenOut (cs : List Char) : Except Failure (List Char) := do
  if !escapesKnown false ((split ['\\'] cs).drop 1) then throw .malformed
  unescape (← replaceCodes 'U' 8 (← replaceCodes 'u' 4 cs))

/-- A text without its quotation marks, single or threefold. -/
def withoutMarks (mark : Char) (cs : List Char) : List Char :=
  match cs with
  | _ :: c :: d :: _ => if c == mark && d == c then inner (inner (inner cs)) else inner cs
  | _ => []

/-- A text in quotation marks. -/
def quotedValue (mark : Char) (cs : List Char) : Except Failure Value := do
  if !isClosedOnce mark cs then throw .malformed
  let cs ← if mark == '"' then writtenOut cs else pure cs
  return .text (String.ofList (withoutMarks mark cs))

end Crosscheck.Document.Toml
