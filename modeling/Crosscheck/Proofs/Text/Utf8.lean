import Crosscheck.Proofs.Text.Glyph
import Mathlib.Data.List.Basic
/-!
# What bytes are read as

Where bytes begin with the UTF-8 sequence of a character, that character is read
(`leadingChar_eq_some_iff`). Where they begin with none, because the form is too long, the number is
that of a surrogate or past the last one, or the sequence is cut short, the first byte is read by
itself, and the next one is looked at. `Decodes` says so without the reader, and is what the reader
does (`decode_eq_iff`).

Text is put together from what was cut out of sources and from words in ASCII. A cut may go through
a sequence, so that the parts are read as other text than the whole; but every glyph keeps its bytes,
and it keeps them where text is a string of code points, with lone surrogates for the bytes that
belong to no character (`passages_keep_bytes`).
-/

namespace Crosscheck.Text

/-! ## The character that bytes begin with -/

/-- Characters are written in UTF-8. -/
theorem encodeChar_eq (c : Char) : encodeChar c = String.utf8EncodeChar c := by
  have hvalid : c.toNat < 0xD800 ∨ 0xDFFF < c.toNat ∧ c.toNat < 0x110000 := c.valid
  have hval : c.val.toNat = c.toNat := rfl
  rw [encodeChar, String.utf8EncodeChar, hval]
  -- The first digit is below its bound already, so that cutting it down changes nothing.
  by_cases hone : c.toNat < 0x80
  · rw [if_pos hone, if_pos (by omega)]
  by_cases htwo : c.toNat < 0x800
  · rw [if_neg hone, if_pos htwo, if_neg (by omega), if_pos (by omega), Nat.add_comm 0xC0,
      Nat.add_comm 0x80, Nat.mod_eq_of_lt (b := 32) (by omega)]
  by_cases hthree : c.toNat < 0x10000
  · rw [if_neg hone, if_neg htwo, if_pos hthree, if_neg (by omega), if_neg (by omega),
      if_pos (by omega), Nat.add_comm 0xE0, Nat.add_comm 0x80, Nat.add_comm 0x80,
      Nat.mod_eq_of_lt (b := 16) (by omega)]
  · rw [if_neg hone, if_neg htwo, if_neg hthree, if_neg (by omega), if_neg (by omega),
      if_neg (by omega), Nat.add_comm 0xF0, Nat.add_comm 0x80, Nat.add_comm 0x80,
      Nat.add_comm 0x80, Nat.mod_eq_of_lt (b := 8) (by omega)]

section Sequences

variable {a b c d : UInt8}

/-- One byte. -/
theorem leadingChar_one (ha : a.toNat < 0x80) (rest : Bytes) :
    leadingChar (a :: rest) = some (Char.ofNat a.toNat, 1) := by
  unfold leadingChar
  exact if_pos (UInt8.lt_iff_toNat_lt.mpr ha)

/-- Two bytes. -/
theorem leadingChar_two (hlo : 0xC2 ≤ a.toNat) (hhi : a.toNat ≤ 0xDF) (hb : isTail b = true)
    (rest : Bytes) : leadingChar (a :: b :: rest) =
      some (Char.ofNat ((a.toNat - 0xC0) * 64 + (b.toNat - 0x80)), 2) := by
  unfold leadingChar
  simp only [UInt8.lt_iff_toNat_lt, UInt8.le_iff_toNat_le, UInt8.reduceToNat, Bool.and_eq_true,
    decide_eq_true_eq]
  rw [if_neg (by omega), if_pos (by omega), if_pos hb]

/-- Three bytes. -/
theorem leadingChar_three (hlo : 0xE0 ≤ a.toNat) (hhi : a.toNat ≤ 0xEF) (hb : isTail b = true)
    (hc : isTail c = true) (hshort : a.toNat = 0xE0 → 0xA0 ≤ b.toNat)
    (hsurrogate : a.toNat = 0xED → b.toNat ≤ 0x9F) (rest : Bytes) :
    leadingChar (a :: b :: c :: rest) = some (Char.ofNat
      ((a.toNat - 0xE0) * 4096 + (b.toNat - 0x80) * 64 + (c.toNat - 0x80)), 3) := by
  unfold leadingChar
  simp only [UInt8.lt_iff_toNat_lt, UInt8.le_iff_toNat_le, gt_iff_lt, ← UInt8.toNat_inj,
    UInt8.reduceToNat, Bool.and_eq_true, Bool.not_eq_true', Bool.and_eq_false_imp, beq_iff_eq,
    decide_eq_true_eq, decide_eq_false_iff_not, Nat.not_lt]
  rw [if_neg (by omega), if_neg (by omega), if_pos (by omega),
    if_pos ⟨⟨⟨hb, hc⟩, hshort⟩, hsurrogate⟩]

/-- Four bytes. -/
theorem leadingChar_four (hlo : 0xF0 ≤ a.toNat) (hhi : a.toNat ≤ 0xF4) (hb : isTail b = true)
    (hc : isTail c = true) (hd : isTail d = true) (hshort : a.toNat = 0xF0 → 0x90 ≤ b.toNat)
    (hlast : a.toNat = 0xF4 → b.toNat ≤ 0x8F) (rest : Bytes) :
    leadingChar (a :: b :: c :: d :: rest) = some (Char.ofNat ((a.toNat - 0xF0) * 262144
      + (b.toNat - 0x80) * 4096 + (c.toNat - 0x80) * 64 + (d.toNat - 0x80)), 4) := by
  unfold leadingChar
  simp only [UInt8.lt_iff_toNat_lt, UInt8.le_iff_toNat_le, gt_iff_lt, ← UInt8.toNat_inj,
    UInt8.reduceToNat, Bool.and_eq_true, Bool.not_eq_true', Bool.and_eq_false_imp, beq_iff_eq,
    decide_eq_true_eq, decide_eq_false_iff_not, Nat.not_lt]
  rw [if_neg (by omega), if_neg (by omega), if_neg (by omega), if_pos (by omega),
    if_pos ⟨⟨⟨⟨hb, hc⟩, hd⟩, hshort⟩, hlast⟩]

end Sequences

theorem isTail_ofNat {n : Nat} (h : n < 64) : isTail (UInt8.ofNat (0x80 + n)) = true := by
  rw [isTail_iff, UInt8.toNat_ofNat']
  omega

/-- A character is read from its own bytes, whatever comes behind them. -/
theorem leadingChar_encodeChar (c : Char) (rest : Bytes) :
    leadingChar (encodeChar c ++ rest) = some (c, (encodeChar c).length) := by
  have hvalid : c.toNat < 0xD800 ∨ 0xDFFF < c.toNat ∧ c.toNat < 0x110000 := c.valid
  have hchar {n : Nat} (h : n = c.toNat) : Char.ofNat n = c := by rw [h, Char.ofNat_toNat]
  rw [encodeChar]
  -- What a first byte asks of the second one is what the number is of: one too large for a shorter
  -- sequence, no surrogate, and not past the last one.
  by_cases hone : c.toNat < 0x80
  · have ha := UInt8.toNat_ofNat' (n := c.toNat)
    rw [if_pos hone, List.singleton_append, leadingChar_one (by omega), hchar (by omega)]
    rfl
  by_cases htwo : c.toNat < 0x800
  · have ha := UInt8.toNat_ofNat' (n := 0xC0 + c.toNat / 64)
    have hb := UInt8.toNat_ofNat' (n := 0x80 + c.toNat % 64)
    rw [if_neg hone, if_pos htwo, List.cons_append, List.singleton_append,
      leadingChar_two (by omega) (by omega) (isTail_ofNat (by omega)), hchar (by omega)]
    rfl
  by_cases hthree : c.toNat < 0x10000
  · have ha := UInt8.toNat_ofNat' (n := 0xE0 + c.toNat / 4096)
    have hb := UInt8.toNat_ofNat' (n := 0x80 + c.toNat / 64 % 64)
    have hc := UInt8.toNat_ofNat' (n := 0x80 + c.toNat % 64)
    rw [if_neg hone, if_neg htwo, if_pos hthree, List.cons_append, List.cons_append,
      List.singleton_append, leadingChar_three (by omega) (by omega) (isTail_ofNat (by omega))
        (isTail_ofNat (by omega)) (by omega) (by omega), hchar (by omega)]
    rfl
  · have ha := UInt8.toNat_ofNat' (n := 0xF0 + c.toNat / 262144)
    have hb := UInt8.toNat_ofNat' (n := 0x80 + c.toNat / 4096 % 64)
    have hc := UInt8.toNat_ofNat' (n := 0x80 + c.toNat / 64 % 64)
    have hd := UInt8.toNat_ofNat' (n := 0x80 + c.toNat % 64)
    rw [if_neg hone, if_neg htwo, if_neg hthree, List.cons_append, List.cons_append,
      List.cons_append, List.singleton_append, leadingChar_four (by omega) (by omega)
        (isTail_ofNat (by omega)) (isTail_ofNat (by omega)) (isTail_ofNat (by omega)) (by omega)
        (by omega), hchar (by omega)]
    rfl

/-- The character that bytes begin with is the one whose sequence they begin with. -/
theorem leadingChar_eq_some_iff {bytes : Bytes} {c : Char} {n : Nat} :
    leadingChar bytes = some (c, n) ↔
      String.utf8EncodeChar c <+: bytes ∧ n = (String.utf8EncodeChar c).length := by
  rw [← encodeChar_eq]
  constructor
  · intro h
    have hbegins : encodeChar c <+: bytes := by
      rw [(encodeChar_of_leadingChar h).2]
      exact List.take_prefix n bytes
    obtain ⟨rest, rfl⟩ := hbegins
    rw [leadingChar_encodeChar, Option.some.injEq, Prod.mk.injEq] at h
    exact ⟨List.prefix_append _ _, h.2.symm⟩
  · rintro ⟨⟨rest, rfl⟩, rfl⟩
    exact leadingChar_encodeChar c rest

theorem leadingChar_eq_none_iff {bytes : Bytes} :
    leadingChar bytes = none ↔ ∀ c, ¬ String.utf8EncodeChar c <+: bytes := by
  constructor
  · intro h c hbegins
    rw [leadingChar_eq_some_iff.mpr ⟨hbegins, rfl⟩] at h
    exact nomatch h
  · intro h
    cases hlead : leadingChar bytes with
    | none => rfl
    | some found => exact absurd (leadingChar_eq_some_iff.mp hlead).1 (h found.1)

/-! ## Reading all of the bytes -/

/-- What bytes are read as: the characters whose UTF-8 sequences they begin with, one after the
other, and a byte by itself where they begin with none. -/
inductive Decodes : Bytes → Glyphs → Prop
  | nil : Decodes [] []
  | char {c : Char} {rest : Bytes} {text : Glyphs} (h : Decodes rest text) :
    Decodes (String.utf8EncodeChar c ++ rest) (.char c :: text)
  | stray {b : UInt8} {rest : Bytes} {text : Glyphs}
    (hnone : ∀ c, ¬ String.utf8EncodeChar c <+: b :: rest) (h : Decodes rest text) :
    Decodes (b :: rest) (.stray b :: text)

/-- What comes behind a character, told from the bytes behind its first one. -/
theorem drop_of_sequence {c : Char} {behind rest : Bytes} {a : UInt8}
    (h : String.utf8EncodeChar c ++ behind = a :: rest) :
    rest.drop ((String.utf8EncodeChar c).length - 1) = behind := by
  have hpos : 0 < (String.utf8EncodeChar c).length :=
    List.length_pos_iff.mpr String.utf8EncodeChar_ne_nil
  rw [← List.drop_succ_cons (a := a), Nat.sub_add_cancel hpos, ← h, List.drop_left]

theorem decodes_decodeFrom {fuel : Nat} {bytes : Bytes} (h : bytes.length ≤ fuel) :
    Decodes bytes (decodeFrom fuel bytes) := by
  induction fuel generalizing bytes with
  | zero =>
    rw [List.length_eq_zero_iff.mp (Nat.le_zero.mp h)]
    exact .nil
  | succ fuel ih =>
    match bytes with
    | [] => exact .nil
    | a :: rest =>
      have hrest : rest.length ≤ fuel := Nat.le_of_succ_le_succ h
      rw [decodeFrom]
      split
      · next c n hlead =>
        obtain ⟨⟨behind, hbytes⟩, rfl⟩ := leadingChar_eq_some_iff.mp hlead
        have hbehind := drop_of_sequence hbytes
        rw [hbehind, ← hbytes]
        refine .char (ih ?_)
        rw [← hbehind, List.length_drop]
        omega
      · next hlead => exact .stray (leadingChar_eq_none_iff.mp hlead) (ih hrest)

theorem decodeFrom_of_decodes {fuel : Nat} {bytes : Bytes} {text : Glyphs}
    (h : Decodes bytes text) (hfuel : bytes.length ≤ fuel) : decodeFrom fuel bytes = text := by
  -- Every glyph takes one unit of fuel and at least one byte.
  induction h generalizing fuel with
  | nil => cases fuel <;> rfl
  | @char c rest text _ ih =>
    obtain ⟨a, behind, hbytes⟩ := List.exists_cons_of_ne_nil
      (List.append_ne_nil_of_left_ne_nil (String.utf8EncodeChar_ne_nil (c := c)) rest)
    have hlead : leadingChar (a :: behind) = some (c, (String.utf8EncodeChar c).length) :=
      leadingChar_eq_some_iff.mpr ⟨⟨rest, hbytes⟩, rfl⟩
    have hdrop := drop_of_sequence hbytes
    rw [hbytes, List.length_cons] at hfuel
    cases fuel with
    | zero => exact absurd hfuel (Nat.not_succ_le_zero _)
    | succ fuel =>
      rw [hbytes, decodeFrom, hlead]
      dsimp only
      rw [hdrop, ih]
      rw [← hdrop, List.length_drop]
      omega
  | @stray b rest text hnone _ ih =>
    cases fuel with
    | zero => exact absurd hfuel (Nat.not_succ_le_zero _)
    | succ fuel =>
      rw [decodeFrom, leadingChar_eq_none_iff.mpr hnone, ih (Nat.le_of_succ_le_succ hfuel)]

/-- The reader does what is said of it. -/
theorem decode_eq_iff {bytes : Bytes} {text : Glyphs} :
    decode bytes = text ↔ Decodes bytes text := by
  constructor
  · rintro rfl
    exact decodes_decodeFrom (Nat.le_refl _)
  · intro h
    exact decodeFrom_of_decodes h (Nat.le_refl _)

/-- Forms that are too long, surrogates, numbers past the last one and sequences that are cut short
are read byte by byte. -/
example : decode [0xC0, 0x80] = [.stray 0xC0, .stray 0x80] ∧
    decode [0xED, 0xA0, 0x80] = [.stray 0xED, .stray 0xA0, .stray 0x80] ∧
    decode [0xF4, 0x90, 0x80, 0x80] = [.stray 0xF4, .stray 0x90, .stray 0x80, .stray 0x80] ∧
    decode [0xE2, 0x82, 0x61] = [.stray 0xE2, .stray 0x82, .char 'a'] := by
  decide

theorem decodes_decode (bytes : Bytes) : Decodes bytes (decode bytes) := decode_eq_iff.mp rfl

/-- A byte of ASCII is a character, so that no other byte is read by itself. -/
theorem Decodes.le_of_stray {bytes : Bytes} {text : Glyphs} {b : UInt8} (h : Decodes bytes text)
    (hb : .stray b ∈ text) : 0x80 ≤ b.toNat := by
  induction h with
  | nil => exact nomatch hb
  | char _ ih =>
    rcases List.mem_cons.mp hb with heq | hb
    · exact nomatch heq
    · exact ih hb
  | @stray a rest _ hnone _ ih =>
    rcases List.mem_cons.mp hb with heq | hb
    · cases heq
      refine Nat.not_lt.mp fun hlt => hnone (Char.ofNat b.toNat) ?_
      rw [← encodeChar_eq, encodeChar_one hlt]
      exact List.prefix_append [b] rest
    · exact ih hb

/-! ## Strings of code points -/

/-- The code point that stands for a glyph: that of the character, or the lone surrogate that
escapes the byte. -/
def Glyph.codePoint : Glyph → Nat
  | .char c => c.toNat
  | .stray b => 0xDC00 + b.toNat

/-- The bytes of a code point: those of a character, and the byte that a surrogate escapes. There
are none for the surrogates that escape no byte, or one of ASCII. -/
def pointBytes? (n : Nat) : Option Bytes :=
  if 0xDC80 ≤ n ∧ n ≤ 0xDCFF then some [UInt8.ofNat (n - 0xDC00)]
  else if n.isValidChar then some (String.utf8EncodeChar (Char.ofNat n))
  else none

/-- The bytes of a string of code points, if each of them has bytes. -/
def encodePoints? (points : List Nat) : Option Bytes := (points.mapM pointBytes?).map List.flatten

theorem pointBytes?_codePoint {g : Glyph} (h : ∀ b, g = .stray b → 0x80 ≤ b.toNat) :
    pointBytes? g.codePoint = some g.encode := by
  cases g with
  | char c =>
    have hvalid : c.toNat < 0xD800 ∨ 0xDFFF < c.toNat ∧ c.toNat < 0x110000 := c.valid
    rw [pointBytes?, Glyph.codePoint, if_neg (by omega), if_pos hvalid, Char.ofNat_toNat,
      ← encodeChar_eq]
    rfl
  | stray b =>
    have hlo := h b rfl
    have hhi := b.toNat_lt
    rw [pointBytes?, Glyph.codePoint, if_pos (by omega), Nat.add_sub_cancel_left,
      UInt8.ofNat_toNat]
    rfl

theorem encodePoints?_codePoints {text : Glyphs} (h : ∀ b, .stray b ∈ text → 0x80 ≤ b.toNat) :
    encodePoints? (text.map Glyph.codePoint) = some (encode text) := by
  induction text with
  | nil => rfl
  | cons g rest ih =>
    have hg := pointBytes?_codePoint fun b hb => h b (hb ▸ List.mem_cons_self)
    obtain ⟨parts, hparts, hflatten⟩ :=
      Option.map_eq_some_iff.mp (ih fun b hb => h b (List.mem_cons_of_mem _ hb))
    rw [encodePoints?, List.map_cons, List.mapM_cons, hg, hparts, encode, List.flatMap_cons]
    exact congrArg (some <| g.encode ++ ·) hflatten

/-! ## Text that is put together -/

/-- A part of a text: bytes that were cut out of a source, or words in ASCII. -/
inductive Passage
  | slice (bytes : Bytes)
  | ascii (words : String) (plain : ∀ c ∈ words.toList, c.toNat < 0x80)

/-- The text of a passage. A slice is read by itself. -/
def Passage.text : Passage → Glyphs
  | .slice bytes => decode bytes
  | .ascii words _ => ofString words

/-- The bytes of a passage. In ASCII a character is one byte. -/
def Passage.bytes : Passage → Bytes
  | .slice bytes => bytes
  | .ascii words _ => words.toList.map fun c => UInt8.ofNat c.toNat

theorem encode_ascii {cs : List Char} (h : ∀ c ∈ cs, c.toNat < 0x80) :
    encode (cs.map .char) = cs.map fun c => UInt8.ofNat c.toNat := by
  induction cs with
  | nil => rfl
  | cons c rest ih =>
    have hc := h c List.mem_cons_self
    have hrest := ih fun d hd => h d (List.mem_cons_of_mem _ hd)
    rw [List.map_cons, List.map_cons, ← hrest]
    change encodeChar c ++ encode (rest.map .char) = _
    rw [encodeChar, if_pos hc]
    rfl

theorem Passage.encode_text (passage : Passage) : encode passage.text = passage.bytes := by
  cases passage with
  | slice bytes => exact encode_decode bytes
  | ascii words plain => exact encode_ascii plain

theorem Passage.le_of_stray {passage : Passage} {b : UInt8} (h : .stray b ∈ passage.text) :
    0x80 ≤ b.toNat := by
  cases passage with
  | slice bytes => exact (decodes_decode bytes).le_of_stray h
  | ascii words plain =>
    obtain ⟨c, -, hc⟩ := List.mem_map.mp h
    exact nomatch hc

theorem encode_passages (passages : List Passage) :
    encode (passages.flatMap Passage.text) = passages.flatMap Passage.bytes := by
  rw [encode, List.flatMap_assoc]
  exact List.flatMap_congr fun passage _ => passage.encode_text

/-- Nothing is lost between bytes and text. Bytes are read as the characters whose UTF-8 sequences
are there, and byte by byte where there is none, and what was read is written back as it was. Text
that is put together from slices, wherever they were cut, and from words in ASCII is written as their
bytes, one after the other; it is so as well where text is a string of code points, each of which then
has bytes. -/
theorem passages_keep_bytes :
    (∀ bytes text, decode bytes = text ↔ Decodes bytes text) ∧
    (∀ bytes, encode (decode bytes) = bytes) ∧
    ∀ passages : List Passage,
      encode (passages.flatMap Passage.text) = passages.flatMap Passage.bytes ∧
      encodePoints? ((passages.flatMap Passage.text).map Glyph.codePoint) =
        some (passages.flatMap Passage.bytes) := by
  refine ⟨fun _ _ => decode_eq_iff, encode_decode, fun passages => ⟨encode_passages passages, ?_⟩⟩
  rw [encodePoints?_codePoints, encode_passages]
  intro b hb
  obtain ⟨passage, -, hpassage⟩ := List.mem_flatMap.mp hb
  exact passage.le_of_stray hpassage

/-- A cut through a sequence leaves bytes that are read by themselves, and written back. -/
example : decode [0xC3, 0xA9] = [.char 'é'] ∧
    decode [0xC3] ++ decode [0xA9] = [.stray 0xC3, .stray 0xA9] ∧
    encode (decode [0xC3] ++ decode [0xA9]) = [0xC3, 0xA9] := by
  decide

end Crosscheck.Text
