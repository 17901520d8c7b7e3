/-!
# Double-precision numbers

A `Binary64` is a number of the 64-bit binary format, held exactly. `Binary64.ofRatio` rounds a
ratio of naturals to the nearest such number, a tie to the even neighbour; decimal text, sums and
products go through it.
-/

namespace Crosscheck

/-- A power of two. -/
def twoTo (n : Nat) : Nat := Nat.pow 2 n

/-- A power of ten. -/
def tenTo (n : Nat) : Nat := Nat.pow 10 n

/-- A double-precision number. A finite one is `mantissa * 2 ^ exponent`, with the mantissa below
`2 ^ 53` and the exponent at least `-1074`; the mantissa is at least `2 ^ 52` wherever the exponent
is not the least one. -/
inductive Binary64
  | finite (negative : Bool) (mantissa : Nat) (exponent : Int)
  | infinite (negative : Bool)
  | nan
  deriving DecidableEq, Repr

namespace Binary64

/-- Zero. -/
def zero (negative : Bool) : Binary64 := .finite negative 0 (-1074)

/-- The quotient rounded to the nearest natural, a tie to the even one. -/
def roundQuotient (num den : Nat) : Nat :=
  let q := num / den
  let r := 2 * (num % den)
  if r < den then q else if den < r then q + 1 else q + q % 2

/-- The ratio over two to the power, as a ratio. -/
def scale (num den : Nat) (exponent : Int) : Nat × Nat :=
  if exponent < 0 then (num * twoTo exponent.natAbs, den)
  else (num, den * twoTo exponent.natAbs)

/-- The double nearest to a ratio. -/
def ofRatio (negative : Bool) (num den : Nat) : Binary64 :=
  if num = 0 then zero negative
  else
    let guess : Int := num.log2 - den.log2 - 52
    let (n, d) := scale num den guess
    let exponent := max (if n < d * twoTo 52 then guess - 1 else guess) (-1074)
    let (n, d) := scale num den exponent
    let mantissa := roundQuotient n d
    let (mantissa, exponent) :=
      if mantissa = twoTo 53 then (twoTo 52, exponent + 1) else (mantissa, exponent)
    if exponent > 971 then .infinite negative else .finite negative mantissa exponent

/-- The double nearest to `digits * 10 ^ exponent`. Exponents far outside the format's range are
settled by the number of digits alone. -/
def ofDecimal (negative : Bool) (digits : Nat) (exponent : Int) : Binary64 :=
  let magnitude : Int := exponent + (Nat.toDigits 10 digits).length
  if digits = 0 then zero negative
  else if magnitude > 400 then .infinite negative
  else if magnitude < -400 then zero negative
  else if exponent < 0 then ofRatio negative digits (tenTo exponent.natAbs)
  else ofRatio negative (digits * tenTo exponent.natAbs) 1

/-- The double nearest to a whole number. -/
def ofInt (n : Int) : Binary64 := ofRatio (n < 0) n.natAbs 1

/-- The magnitude of a finite number as a ratio. -/
def ratio (mantissa : Nat) (exponent : Int) : Nat × Nat :=
  if exponent < 0 then (mantissa, twoTo exponent.natAbs)
  else (mantissa * twoTo exponent.natAbs, 1)

/-- The number with the sign turned. -/
def neg : Binary64 → Binary64
  | .finite negative mantissa exponent => .finite (!negative) mantissa exponent
  | .infinite negative => .infinite (!negative)
  | .nan => .nan

/-- The rounded product. -/
def mul : Binary64 → Binary64 → Binary64
  | .finite n₁ m₁ e₁, .finite n₂ m₂ e₂ =>
    let (num, den) := ratio (m₁ * m₂) (e₁ + e₂)
    ofRatio (n₁ != n₂) num den
  | .nan, _ | _, .nan => .nan
  | .infinite n₁, .infinite n₂ => .infinite (n₁ != n₂)
  | .infinite n₁, .finite n₂ m _ => if m = 0 then .nan else .infinite (n₁ != n₂)
  | .finite n₁ m _, .infinite n₂ => if m = 0 then .nan else .infinite (n₁ != n₂)

/-- The signed mantissa over the exponent `lower`, which is at most the number's own. -/
def alignedMantissa (negative : Bool) (mantissa : Nat) (exponent lower : Int) : Int :=
  let m : Int := (mantissa * twoTo (exponent - lower).natAbs : Nat)
  if negative then -m else m

/-- The rounded sum. A sum of zero is negative only where both parts are. -/
def add : Binary64 → Binary64 → Binary64
  | .finite n₁ m₁ e₁, .finite n₂ m₂ e₂ =>
    let lower := min e₁ e₂
    let sum := alignedMantissa n₁ m₁ e₁ lower + alignedMantissa n₂ m₂ e₂ lower
    if sum = 0 then zero (n₁ && n₂ && m₁ == 0 && m₂ == 0)
    else
      let (num, den) := ratio sum.natAbs lower
      ofRatio (sum < 0) num den
  | .nan, _ | _, .nan => .nan
  | .infinite n₁, .infinite n₂ => if n₁ = n₂ then .infinite n₁ else .nan
  | .infinite n, _ | _, .infinite n => .infinite n

/-- The whole number that is left when the fraction is dropped. -/
def truncate? : Binary64 → Option Int
  | .finite negative mantissa exponent =>
    let (num, den) := ratio mantissa exponent
    let n : Int := num / den
    some (if negative then -n else n)
  | _ => none

/-- The whole number that a finite double is equal to. -/
def toInt? (x : Binary64) : Option Int :=
  match x with
  | .finite _ mantissa exponent =>
    let (num, den) := ratio mantissa exponent
    if num % den = 0 then x.truncate? else none
  | _ => none

/-- Numerical equality: the two zeros are equal, and so is the one not-a-number to itself. -/
def sameValue : Binary64 → Binary64 → Bool
  | .finite n₁ m₁ e₁, .finite n₂ m₂ e₂ =>
    (m₁ == 0 && m₂ == 0) || (n₁ == n₂ && m₁ == m₂ && e₁ == e₂)
  | x, y => x == y

/-- The order of the numbers that are no not-a-number. -/
def lt : Binary64 → Binary64 → Bool
  | .finite n₁ m₁ e₁, .finite n₂ m₂ e₂ =>
    let lower := min e₁ e₂
    alignedMantissa n₁ m₁ e₁ lower < alignedMantissa n₂ m₂ e₂ lower
  | .infinite n, .finite .. => n
  | .finite .., .infinite n => !n
  | .infinite n₁, .infinite n₂ => n₁ && !n₂
  | .nan, _ | _, .nan => false

/-- Whether the number is zero. -/
def isZero : Binary64 → Bool
  | .finite _ mantissa _ => mantissa == 0
  | _ => false

end Binary64

end Crosscheck
