import Crosscheck.Number.Binary64
/-!
# Decimal text of numbers

The shortest decimal that reads back as a given double, and its text form.
-/

namespace Crosscheck

namespace Binary64

/-- Whether the ratio lies among the reals that round to `mantissa * 2 ^ exponent`. The ends of that
interval belong to it where the mantissa is even; below a power of two the lower half-step is half
as long. -/
def roundsTo (mantissa : Nat) (exponent : Int) (num den : Nat) : Bool :=
  let narrow := mantissa == twoTo 52 && exponent > -1074
  let (n, d) := scale num den (exponent - 2)
  let low := (4 * mantissa - (if narrow then 1 else 2)) * d
  let high := (4 * mantissa + 2) * d
  if mantissa % 2 == 0 then low ≤ n && n ≤ high else low < n && n < high

/-- A decimal `digits * 10 ^ exponent`. -/
structure Decimal where
  digits : Nat
  exponent : Int
  deriving DecidableEq, Repr

/-- The ratio a decimal stands for. -/
def Decimal.ratio (x : Decimal) : Nat × Nat :=
  if x.exponent < 0 then (x.digits, tenTo x.exponent.natAbs)
  else (x.digits * tenTo x.exponent.natAbs, 1)

/-- How far a decimal is from a ratio, over the product of the denominators. -/
def Decimal.distance (x : Decimal) (num den : Nat) : Nat :=
  let (n, d) := x.ratio
  (Int.ofNat (n * den) - Int.ofNat (num * d)).natAbs

/-- The power of ten below or at a positive ratio: the exponent of its first digit. -/
def leadingExponent (num den : Nat) : Int :=
  let guess : Int := (Nat.toDigits 10 num).length - (Nat.toDigits 10 den).length
  let (n, d) := (Decimal.mk 1 guess).ratio
  if n * den ≤ num * d then guess else guess - 1

/-- Of the two neighbours of a double on the grid of a power of ten, the nearer one that reads back;
of two equally near ones the even. -/
def onGrid? (mantissa : Nat) (exponent : Int) (grid : Int) : Option Decimal :=
  let (num, den) := ratio mantissa exponent
  let (gn, gd) := (Decimal.mk 1 grid).ratio
  let below := num * gd / (den * gn)
  let reads (x : Decimal) : Bool :=
    x.digits != 0 && (let (n, d) := x.ratio; roundsTo mantissa exponent n d)
  match ([⟨below, grid⟩, ⟨below + 1, grid⟩] : List Decimal).filter reads with
  | [x, y] =>
    let dx := x.distance num den
    let dy := y.distance num den
    some (if dx < dy || (dx == dy && x.digits % 2 == 0) then x else y)
  | [x] => some x
  | _ => none

/-- The shortest decimal that reads back as a positive finite double: the coarsest grid that holds
one, from one digit up to seventeen. -/
def shortest (mantissa : Nat) (exponent : Int) : Decimal :=
  let (num, den) := ratio mantissa exponent
  let first := leadingExponent num den
  ((List.range 18).findSome? fun n =>
    onGrid? mantissa exponent (first + 1 - Int.ofNat n)).getD ⟨0, 0⟩

/-- Zeros. -/
def zeros (n : Nat) : String := String.ofList (List.replicate n '0')

/-- A positive decimal in text: with a point from `0.0001` up to below `10 ^ 16`, and with a power
of ten of at least two digits elsewhere. -/
def Decimal.render (x : Decimal) : String :=
  let digits := ((Nat.toDigits 10 x.digits).reverse.dropWhile (· == '0')).reverse
  let length : Int := (Nat.toDigits 10 x.digits).length
  let point : Int := length + x.exponent
  if -4 < point && point ≤ 16 then
    if point ≤ 0 then "0." ++ zeros point.natAbs ++ String.ofList digits
    else if digits.length ≤ point.natAbs then
      String.ofList digits ++ zeros (point.natAbs - digits.length) ++ ".0"
    else
      String.ofList (digits.take point.natAbs) ++ "." ++ String.ofList (digits.drop point.natAbs)
  else
    let power := point - 1
    let mark := if power < 0 then "e-" else "e+"
    let size := Nat.repr power.natAbs
    let tail := if digits.length ≤ 1 then "" else "." ++ String.ofList (digits.drop 1)
    String.ofList (digits.take 1) ++ tail ++ mark ++ (if size.length < 2 then "0" else "") ++ size

/-- A double in text. -/
def render : Binary64 → String
  | .nan => "nan"
  | .infinite negative => if negative then "-inf" else "inf"
  | .finite negative mantissa exponent =>
    (if negative then "-" else "") ++
      if mantissa == 0 then "0.0" else (shortest mantissa exponent).render

end Binary64

end Crosscheck
