import Crosscheck.Text.Glyph
import Mathlib.Tactic.SplitIfs
/-!
# Nothing is lost between bytes and text

What is read as text is written back as the same bytes (`encode_decode`), whether the bytes are
well-formed UTF-8 or not: a byte that belongs to no character is a glyph of its own. The widths of
the glyphs count the bytes (`length_encode`).
-/

namespace Crosscheck.Text

/-! ## One character -/

/-- A byte is told by its number. -/
theorem ofNat_eq_of_toNat {n : Nat} {b : UInt8} (h : n = b.toNat) : UInt8.ofNat n = b := by
  rw [h, UInt8.ofNat_toNat]

theorem isTail_iff {b : UInt8} : isTail b = true ↔ 0x80 ≤ b.toNat ∧ b.toNat ≤ 0xBF := by
  simp only [isTail, Bool.and_eq_true, decide_eq_true_eq, UInt8.le_iff_toNat_le]
  rfl

/-- The bytes of a code point. -/
theorem encodeChar_ofNat {n : Nat} (h : n.isValidChar) : encodeChar (Char.ofNat n) =
    if n < 0x80 then [UInt8.ofNat n]
    else if n < 0x800 then [UInt8.ofNat (0xC0 + n / 64), UInt8.ofNat (0x80 + n % 64)]
    else if n < 0x10000 then
      [UInt8.ofNat (0xE0 + n / 4096), UInt8.ofNat (0x80 + n / 64 % 64), UInt8.ofNat (0x80 + n % 64)]
    else
      [UInt8.ofNat (0xF0 + n / 262144), UInt8.ofNat (0x80 + n / 4096 % 64),
        UInt8.ofNat (0x80 + n / 64 % 64), UInt8.ofNat (0x80 + n % 64)] := by
  have hnat : (Char.ofNat n).toNat = n := by
    rw [Char.ofNat, dif_pos h]
    rfl
  rw [encodeChar, hnat]

section Sequences

variable {a b c d : UInt8}

/-- One byte. -/
theorem encodeChar_one (ha : a.toNat < 0x80) : encodeChar (Char.ofNat a.toNat) = [a] := by
  rw [encodeChar_ofNat (.inl (by omega)), if_pos ha, UInt8.ofNat_toNat]

/-- Two bytes. -/
theorem encodeChar_two (hlo : 0xC2 ≤ a.toNat) (hhi : a.toNat ≤ 0xDF) (hb : isTail b = true) :
    encodeChar (Char.ofNat ((a.toNat - 0xC0) * 64 + (b.toNat - 0x80))) = [a, b] := by
  obtain ⟨hb, hb'⟩ := isTail_iff.mp hb
  rw [encodeChar_ofNat (.inl (by omega)), if_neg (by omega), if_pos (by omega),
    ofNat_eq_of_toNat (b := a) (by omega), ofNat_eq_of_toNat (b := b) (by omega)]

/-- Three bytes. The surrogates are kept out by the second one. -/
theorem encodeChar_three (hlo : 0xE0 ≤ a.toNat) (hhi : a.toNat ≤ 0xEF) (hb : isTail b = true)
    (hc : isTail c = true) (hshort : a.toNat = 0xE0 → 0xA0 ≤ b.toNat)
    (hsurrogate : a.toNat = 0xED → b.toNat ≤ 0x9F) :
    encodeChar (Char.ofNat
      ((a.toNat - 0xE0) * 4096 + (b.toNat - 0x80) * 64 + (c.toNat - 0x80))) = [a, b, c] := by
  obtain ⟨hb, hb'⟩ := isTail_iff.mp hb
  obtain ⟨hc, hc'⟩ := isTail_iff.mp hc
  have hvalid : ((a.toNat - 0xE0) * 4096 + (b.toNat - 0x80) * 64
      + (c.toNat - 0x80)).isValidChar := by
    unfold Nat.isValidChar
    omega
  rw [encodeChar_ofNat hvalid, if_neg (by omega), if_neg (by omega), if_pos (by omega),
    ofNat_eq_of_toNat (b := a) (by omega), ofNat_eq_of_toNat (b := b) (by omega),
    ofNat_eq_of_toNat (b := c) (by omega)]

/-- Four bytes. The last code point bounds the second one. -/
theorem encodeChar_four (hlo : 0xF0 ≤ a.toNat) (hhi : a.toNat ≤ 0xF4) (hb : isTail b = true)
    (hc : isTail c = true) (hd : isTail d = true) (hshort : a.toNat = 0xF0 → 0x90 ≤ b.toNat)
    (hlast : a.toNat = 0xF4 → b.toNat ≤ 0x8F) :
    encodeChar (Char.ofNat ((a.toNat - 0xF0) * 262144 + (b.toNat - 0x80) * 4096
      + (c.toNat - 0x80) * 64 + (d.toNat - 0x80))) = [a, b, c, d] := by
  obtain ⟨hb, hb'⟩ := isTail_iff.mp hb
  obtain ⟨hc, hc'⟩ := isTail_iff.mp hc
  obtain ⟨hd, hd'⟩ := isTail_iff.mp hd
  have hvalid : ((a.toNat - 0xF0) * 262144 + (b.toNat - 0x80) * 4096
      + (c.toNat - 0x80) * 64 + (d.toNat - 0x80)).isValidChar := by
    unfold Nat.isValidChar
    omega
  rw [encodeChar_ofNat hvalid, if_neg (by omega), if_neg (by omega), if_neg (by omega),
    ofNat_eq_of_toNat (b := a) (by omega), ofNat_eq_of_toNat (b := b) (by omega),
    ofNat_eq_of_toNat (b := c) (by omega), ofNat_eq_of_toNat (b := d) (by omega)]

end Sequences

theorem le_toNat_of_unless {a b x y : UInt8} (h : (!(a == x && b < y)) = true)
    (ha : a.toNat = x.toNat) : y.toNat ≤ b.toNat := by
  rw [UInt8.toNat_inj.mp ha, beq_self_eq_true, Bool.true_and, Bool.not_eq_true',
    decide_eq_false_iff_not] at h
  exact Nat.le_of_not_lt fun hlt => h (UInt8.lt_iff_toNat_lt.mpr hlt)

/-- A character is read from the bytes that it is written with. -/
theorem encodeChar_of_leadingChar {bytes : Bytes} {char : Char} {n : Nat}
    (h : leadingChar bytes = some (char, n)) : 0 < n ∧ encodeChar char = bytes.take n := by
  unfold leadingChar at h
  split at h
  · exact nomatch h
  split at h
  · next hone =>
    obtain ⟨rfl, rfl⟩ := Prod.mk.inj (Option.some.inj h)
    exact ⟨Nat.one_pos, encodeChar_one (UInt8.lt_iff_toNat_lt.mp hone)⟩
  split at h
  · next htwo =>
    simp only [Bool.and_eq_true, decide_eq_true_eq, UInt8.le_iff_toNat_le] at htwo
    split at h
    · obtain ⟨hb, h⟩ := Option.ite_none_right_eq_some.mp h
      obtain ⟨rfl, rfl⟩ := Prod.mk.inj (Option.some.inj h)
      exact ⟨Nat.two_pos, encodeChar_two htwo.1 htwo.2 hb⟩
    · exact nomatch h
  split at h
  · next hthree =>
    simp only [Bool.and_eq_true, decide_eq_true_eq, UInt8.le_iff_toNat_le] at hthree
    split at h
    · obtain ⟨htail, h⟩ := Option.ite_none_right_eq_some.mp h
      rw [Bool.and_eq_true, Bool.and_eq_true, Bool.and_eq_true] at htail
      obtain ⟨⟨⟨hb, hc⟩, hshort⟩, hsurrogate⟩ := htail
      obtain ⟨rfl, rfl⟩ := Prod.mk.inj (Option.some.inj h)
      exact ⟨Nat.succ_pos 2, encodeChar_three hthree.1 hthree.2 hb hc
        (le_toNat_of_unless hshort) (le_toNat_of_unless hsurrogate)⟩
    · exact nomatch h
  split at h
  · next hfour =>
    simp only [Bool.and_eq_true, decide_eq_true_eq, UInt8.le_iff_toNat_le] at hfour
    split at h
    · obtain ⟨htail, h⟩ := Option.ite_none_right_eq_some.mp h
      rw [Bool.and_eq_true, Bool.and_eq_true, Bool.and_eq_true, Bool.and_eq_true] at htail
      obtain ⟨⟨⟨⟨hb, hc⟩, hd⟩, hshort⟩, hlast⟩ := htail
      obtain ⟨rfl, rfl⟩ := Prod.mk.inj (Option.some.inj h)
      exact ⟨Nat.succ_pos 3, encodeChar_four hfour.1 hfour.2 hb hc hd
        (le_toNat_of_unless hshort) (le_toNat_of_unless hlast)⟩
    · exact nomatch h
  · exact nomatch h

/-! ## All bytes -/

theorem encode_append (xs ys : Glyphs) : encode (xs ++ ys) = encode xs ++ encode ys :=
  List.flatMap_append

theorem encode_decodeFrom {fuel : Nat} {bytes : Bytes} (h : bytes.length ≤ fuel) :
    encode (decodeFrom fuel bytes) = bytes := by
  induction fuel generalizing bytes with
  | zero =>
    rw [List.length_eq_zero_iff.mp (Nat.le_zero.mp h)]
    rfl
  | succ fuel ih =>
    match bytes with
    | [] => rfl
    | a :: rest =>
      have hrest : rest.length ≤ fuel := Nat.le_of_succ_le_succ h
      rw [decodeFrom]
      split
      · next char n hlead =>
        obtain ⟨hpos, hbytes⟩ := encodeChar_of_leadingChar hlead
        have htail : (rest.drop (n - 1)).length ≤ fuel := by
          rw [List.length_drop]
          omega
        have hdrop : rest.drop (n - 1) = (a :: rest).drop n := by
          rw [← List.drop_succ_cons (a := a), Nat.sub_add_cancel hpos]
        change encodeChar char ++ encode (decodeFrom fuel (rest.drop (n - 1))) = a :: rest
        rw [ih htail, hbytes, hdrop, List.take_append_drop]
      · change [a] ++ encode (decodeFrom fuel rest) = a :: rest
        rw [ih hrest]
        rfl

/-- What was read is written back as it was. -/
@[simp]
theorem encode_decode (bytes : Bytes) : encode (decode bytes) = bytes :=
  encode_decodeFrom (Nat.le_refl _)

/-! ## Widths -/

/-- How many bytes the glyphs take. -/
def extent : Glyphs → Nat
  | [] => 0
  | g :: rest => g.width + extent rest

theorem length_encodeChar (c : Char) : (encodeChar c).length = c.utf8Size := by
  have hone : c.val ≤ UInt32.ofNatLT 0x7F (by decide) ↔ c.toNat < 0x80 :=
    UInt32.le_iff_toNat_le.trans Nat.lt_succ_iff.symm
  have htwo : c.val ≤ UInt32.ofNatLT 0x7FF (by decide) ↔ c.toNat < 0x800 :=
    UInt32.le_iff_toNat_le.trans Nat.lt_succ_iff.symm
  have hthree : c.val ≤ UInt32.ofNatLT 0xFFFF (by decide) ↔ c.toNat < 0x10000 :=
    UInt32.le_iff_toNat_le.trans Nat.lt_succ_iff.symm
  simp only [encodeChar, Char.utf8Size, hone, htwo, hthree]
  split_ifs
  · rfl
  · rfl
  · rfl
  · rfl

theorem Glyph.length_encode (g : Glyph) : g.encode.length = g.width := by
  cases g with
  | char c => exact length_encodeChar c
  | stray b => rfl

theorem length_encode (text : Glyphs) : (encode text).length = extent text := by
  induction text with
  | nil => rfl
  | cons g rest ih =>
    rw [encode, List.flatMap_cons, List.length_append, g.length_encode, extent, ← ih]
    rfl

/-- Text that was read takes as many bytes as there were. -/
theorem extent_decode (bytes : Bytes) : extent (decode bytes) = bytes.length := by
  rw [← length_encode, encode_decode]

end Crosscheck.Text
