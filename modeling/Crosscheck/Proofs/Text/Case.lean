import Crosscheck.Text.Case
import Mathlib.Data.List.Basic
/-!
# Texts in another case

Texts that differ only in the case of ASCII letters have one upper case and one lower case. A letter
is mapped on its own in upper case. In lower case a sigma looks at its surroundings, but only at
whether there is a letter with case, and an ASCII letter is one in either case.

So everything that the two maps ask of a character is a question that does not tell an ASCII letter
from its small form (`toLower_blind`).
-/

namespace Crosscheck.Text

/-- Texts that differ at most in the case of ASCII letters. -/
def SameLetters (s t : String) : Prop := s.toList.map Char.toLower = t.toList.map Char.toLower

instance (s t : String) : Decidable (SameLetters s t) := inferInstanceAs (Decidable (_ = _))

theorem SameLetters.append {s t s' t' : String} (h : SameLetters s t) (h' : SameLetters s' t') :
    SameLetters (s ++ s') (t ++ t') := by
  unfold SameLetters at *
  rw [String.toList_append, String.toList_append, List.map_append, List.map_append, h, h']

theorem SameLetters.refl (s : String) : SameLetters s s := rfl

theorem toLower_eq_self {c : Char} (h : c.toNat < 0x41 ∨ 0x5A < c.toNat) : c.toLower = c := by
  unfold Char.toLower
  refine dif_neg fun hcapital => ?_
  have hfirst : 0x41 ≤ c.toNat := UInt32.le_iff_toNat_le.mp hcapital.1
  have hlast : c.toNat ≤ 0x5A := UInt32.le_iff_toNat_le.mp hcapital.2
  omega

/-- A question that does not tell a capital ASCII letter from the small one tells no character from
its small form. -/
theorem toLower_blind {α : Type} (f : Char → α)
    (h : ∀ n < 26, f (Char.ofNat (0x61 + n)) = f (Char.ofNat (0x41 + n))) (c : Char) :
    f c.toLower = f c := by
  have hsmall : ∀ n < 26, (Char.ofNat (0x41 + n)).toLower = Char.ofNat (0x61 + n) := by decide
  by_cases hcapital : 0x41 ≤ c.toNat ∧ c.toNat ≤ 0x5A
  · obtain ⟨n, hn⟩ := Nat.exists_eq_add_of_le hcapital.1
    have hletter : c = Char.ofNat (0x41 + n) := by rw [← hn, Char.ofNat_toNat]
    have hrange : n < 26 := by omega
    rw [hletter, hsmall n hrange, h n hrange]
  · rw [toLower_eq_self (by omega)]

/-! ## Upper case -/

theorem upperChars_toLower (c : Char) : upperChars c.toLower = upperChars c :=
  toLower_blind upperChars (by decide) c

/-- The upper case of a text does not depend on the case of its ASCII letters. -/
theorem upper_eq_of_sameLetters {s t : String} (h : SameLetters s t) : upper s = upper t := by
  have hmap (cs : List Char) : (cs.map Char.toLower).flatMap upperChars = cs.flatMap upperChars := by
    rw [List.flatMap_map]
    exact congrArg (cs.flatMap ·) (funext upperChars_toLower)
  rw [upper, upper, ← hmap s.toList, ← hmap t.toList, h]

theorem upper_append (s t : String) : upper (s ++ t) = upper s ++ upper t := by
  rw [upper, upper, upper, String.toList_append, List.flatMap_append, String.ofList_append]

/-! ## Lower case -/

/-- The capital ASCII letters are in some ranges exactly if the small ones are. -/
theorem inRanges_toLower {ranges : Array (Nat × Nat)}
    (h : ∀ n < 26, ranges.toList.any (fun range => range.1 ≤ 0x61 + n && 0x61 + n ≤ range.2) =
      ranges.toList.any fun range => range.1 ≤ 0x41 + n && 0x41 + n ≤ range.2) (c : Char) :
    inRanges ranges c.toLower.toNat = inRanges ranges c.toNat := by
  have hnat : ∀ n < 26, (Char.ofNat (0x61 + n)).toNat = 0x61 + n ∧
      (Char.ofNat (0x41 + n)).toNat = 0x41 + n := by decide
  refine toLower_blind (fun c => inRanges ranges c.toNat) (fun n hn => ?_) c
  simp only [inRanges, ← Array.any_toList, (hnat n hn).1, (hnat n hn).2]
  exact h n hn

theorem meetsCased_map_toLower (cs : List Char) :
    meetsCased (cs.map Char.toLower) = meetsCased cs := by
  have hignorable := @inRanges_toLower caseIgnorableRanges (by decide +kernel)
  have hcased := @inRanges_toLower casedRanges (by decide +kernel)
  unfold meetsCased
  rw [List.dropWhile_map]
  simp only [Function.comp_def, hignorable]
  cases cs.dropWhile fun c => inRanges caseIgnorableRanges c.toNat with
  | nil => rfl
  | cons c rest => exact hcased c

theorem lowerFrom_map_toLower (before cs : List Char) :
    lowerFrom (before.map Char.toLower) (cs.map Char.toLower) = lowerFrom before cs := by
  induction cs generalizing before with
  | nil => rfl
  | cons c rest ih =>
    have hsigma : (c.toLower.toNat == 0x3A3) = (c.toNat == 0x3A3) :=
      toLower_blind (fun c => c.toNat == 0x3A3) (by decide) c
    have hchars : lowerChars c.toLower = lowerChars c := toLower_blind lowerChars (by decide) c
    rw [List.map_cons, lowerFrom, lowerFrom, hsigma, hchars, meetsCased_map_toLower,
      meetsCased_map_toLower, ← List.map_cons, ih]

/-- The lower case of a text does not depend on the case of its ASCII letters. -/
theorem lower_eq_of_sameLetters {s t : String} (h : SameLetters s t) : lower s = lower t := by
  rw [lower, lower, ← lowerFrom_map_toLower [] s.toList, ← lowerFrom_map_toLower [] t.toList, h]

/-- An underscore stays in a text in lower case. -/
theorem underscore_mem_lower {s : String} (h : '_' ∈ s.toList) : '_' ∈ (lower s).toList := by
  have hfrom (before cs : List Char) (hmem : '_' ∈ cs) : '_' ∈ lowerFrom before cs := by
    induction cs generalizing before with
    | nil => exact nomatch hmem
    | cons c rest ih =>
      rw [lowerFrom, List.mem_append]
      rcases List.mem_cons.mp hmem with rfl | hrest
      · exact .inl List.mem_cons_self
      · exact .inr (ih _ hrest)
  rw [lower, String.toList_ofList]
  exact hfrom [] s.toList h

end Crosscheck.Text
