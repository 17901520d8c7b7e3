import Crosscheck.Number.Numeral
import Mathlib.Logic.Function.Defs
/-!
# Whole numbers in texts

The decimal text of a whole number is its digits, behind a minus if it is negative. Sign and digits
are read back from it, so different numbers have different texts.
-/

namespace Crosscheck

section Digits

variable {n : Nat}

theorem isDigit_of_mem_toDigits {c : Char} (h : c ∈ Nat.toDigits 10 n) : c.isDigit = true :=
  Nat.isDigit_of_mem_toDigits (by decide) (by decide) h

theorem naturalOf_toDigits : naturalOf (Nat.toDigits 10 n) = n :=
  Nat.ofDigitChars_toDigits (by decide) (by decide)

/-- Digits have no sign in front. -/
theorem signOf_toDigits : signOf (Nat.toDigits 10 n) = (false, Nat.toDigits 10 n) := by
  have hdigit : ∀ c ∈ Nat.toDigits 10 n, c.isDigit = true := fun _ => isDigit_of_mem_toDigits
  generalize Nat.toDigits 10 n = digits at hdigit ⊢
  unfold signOf
  split
  · exact absurd (hdigit '-' List.mem_cons_self) (by decide)
  · exact absurd (hdigit '+' List.mem_cons_self) (by decide)
  · rfl

end Digits

/-- The decimal text of a number is its digits, behind a minus if it is negative. -/
theorem toList_toString (n : Int) :
    (toString n).toList =
      if n < 0 then '-' :: Nat.toDigits 10 n.natAbs else Nat.toDigits 10 n.natAbs := by
  cases n with
  | ofNat m =>
    have htext : toString (Int.ofNat m) = String.ofList (Nat.toDigits 10 m) :=
      Nat.repr_eq_ofList_toDigits
    have hpos : ¬ Int.ofNat m < 0 := Int.not_lt.mpr (Int.natCast_nonneg m)
    rw [if_neg hpos, htext, String.toList_ofList]
    rfl
  | negSucc m =>
    have htext : toString (Int.negSucc m) = "-" ++ String.ofList (Nat.toDigits 10 m.succ) :=
      congrArg ("-" ++ ·) Nat.repr_eq_ofList_toDigits
    rw [if_pos (Int.negSucc_lt_zero m), htext, String.toList_append,
      String.toList_ofList (l := Nat.toDigits 10 m.succ)]
    rfl

/-- The text of a number gives its sign and its digits. -/
theorem signedDigits?_toString (n : Int) :
    signedDigits? (toString n).toList = some (decide (n < 0), Nat.toDigits 10 n.natAbs) := by
  have hdigits : (Nat.toDigits 10 n.natAbs != [] &&
      (Nat.toDigits 10 n.natAbs).all Char.isDigit) = true := by
    rw [Bool.and_eq_true, bne_iff_ne, List.all_eq_true]
    exact ⟨Nat.toDigits_ne_nil, fun _ => isDigit_of_mem_toDigits⟩
  rw [toList_toString]
  split
  · next hneg =>
    simp only [signedDigits?, signOf, hdigits, if_true, hneg, decide_true]
  · next hpos =>
    simp only [signedDigits?, signOf_toDigits, hdigits, if_true, hpos, decide_false]

/-- A text of a number has a minus in it and digits. -/
theorem eq_minus_or_isDigit {n : Int} {c : Char} (h : c ∈ (toString n).toList) :
    c = '-' ∨ c.isDigit = true := by
  rw [toList_toString] at h
  split at h
  · exact (List.mem_cons.mp h).imp_right isDigit_of_mem_toDigits
  · exact .inr (isDigit_of_mem_toDigits h)

/-- Different numbers have different texts. -/
theorem toString_injective : Function.Injective (toString : Int → String) := by
  intro m n h
  have hread := signedDigits?_toString m
  rw [h, signedDigits?_toString n] at hread
  obtain ⟨hsign, hdigits⟩ := Prod.mk.inj (Option.some.inj hread)
  have hvalue : n.natAbs = m.natAbs := by
    rw [← @naturalOf_toDigits n.natAbs, hdigits, naturalOf_toDigits]
  have hnegative : n < 0 ↔ m < 0 := decide_eq_decide.mp hsign
  omega

end Crosscheck
