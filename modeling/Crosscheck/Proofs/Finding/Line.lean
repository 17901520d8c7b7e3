import Crosscheck.Finding.Line
import Crosscheck.Proofs.Number.Numeral
import Crosscheck.Proofs.Text.Blank
import Mathlib.Data.List.Induction
import Mathlib.Data.Nat.Digits.Defs
/-!
# Lines that values give

A `Numeral` is a whole number as it may stand in a text: blanks, a sign or none, decimal digits, and
blanks again. The line that a text tells is the number that it writes in this way, if that fits, and
every other text tells no line that is known (`TellsLine`). That line is read from every text but
the numerals of more digits than are read at all, which end the reading (`lineOf_tells_iff`).

A line that is given as a number is taken as it is. So a number and its decimal text give one line
only as long as the number fits (`lineOf_int_eq_lineOf_text_iff`).
-/

namespace Crosscheck

open Crosscheck.Document Crosscheck.Text

/-! ## Numerals -/

/-- What may stand before the digits of a number. -/
inductive Sign
  | none
  | plus
  | minus

/-- How a sign is written. -/
def Sign.text : Sign → List Char
  | none => []
  | plus => ['+']
  | minus => ['-']

/-- A whole number in a text. -/
structure Numeral where
  before : List Char
  sign : Sign
  digits : List Char
  after : List Char
  before_blank : ∀ c ∈ before, isBlank c = true
  digits_ne_nil : digits ≠ []
  digits_decimal : ∀ c ∈ digits, c.isDigit = true
  after_blank : ∀ c ∈ after, isBlank c = true

namespace Numeral

/-- The sign and the digits. -/
def core (x : Numeral) : List Char := x.sign.text ++ x.digits

/-- The whole text. -/
def text (x : Numeral) : String := String.ofList (x.before ++ x.core ++ x.after)

/-- The number that the digits write, the last of them for the units. -/
def magnitude (x : Numeral) : Nat :=
  Nat.ofDigits 10 (x.digits.reverse.map fun c => c.toNat - '0'.toNat)

/-- The number with its sign. -/
def value (x : Numeral) : Int :=
  match x.sign with
  | .minus => -x.magnitude
  | .none | .plus => x.magnitude

end Numeral

/-- The lines that fit 32 bits with a sign: from -2³¹ to 2³¹ - 1. -/
def lineRange : Set Int := {n | -2147483648 ≤ n ∧ n ≤ 2147483647}

instance (n : Int) : Decidable (n ∈ lineRange) :=
  inferInstanceAs (Decidable (-2147483648 ≤ n ∧ n ≤ 2147483647))

/-- The line that a text tells: the number that it writes, or no line that is known. -/
inductive TellsLine (s : String) : Int → Prop
  | fitting (x : Numeral) (htext : x.text = s) (hfits : x.value ∈ lineRange) : TellsLine s x.value
  | unusable (h : ∀ x : Numeral, x.text = s → x.value ∉ lineRange) : TellsLine s (-1)

theorem fitsLine_iff {n : Int} : fitsLine n = true ↔ n ∈ lineRange := by
  unfold fitsLine
  rw [Bool.and_eq_true, decide_eq_true_iff, decide_eq_true_iff]
  rfl

/-! ## Reading a numeral -/

theorem naturalOf_eq_ofDigits (digits : List Char) :
    naturalOf digits = Nat.ofDigits 10 (digits.reverse.map fun c => c.toNat - '0'.toNat) := by
  induction digits using List.reverseRecOn with
  | nil => rfl
  | append_singleton front last ih =>
    have hread : naturalOf (front ++ [last]) =
        10 * naturalOf front + (last.toNat - '0'.toNat) := by
      simp only [naturalOf, List.foldl_append, List.foldl_cons, List.foldl_nil]
    rw [hread, ih, List.reverse_append, List.reverse_singleton, List.singleton_append,
      List.map_cons, Nat.ofDigits_cons, Nat.add_comm]

/-- Digits have no sign in front. -/
theorem signOf_of_isDigit {digits : List Char} (h : ∀ c ∈ digits, c.isDigit = true) :
    signOf digits = (false, digits) := by
  unfold signOf
  split
  · exact absurd (h '-' List.mem_cons_self) (by decide)
  · exact absurd (h '+' List.mem_cons_self) (by decide)
  · rfl

/-- A text is a sign or none, and what follows it. -/
theorem exists_sign (cs : List Char) : ∃ sign : Sign, cs = sign.text ++ (signOf cs).2 := by
  unfold signOf
  split
  · exact ⟨.minus, rfl⟩
  · exact ⟨.plus, rfl⟩
  · exact ⟨.none, rfl⟩

theorem signedDigits?_eq_some_iff {cs digits : List Char} {negative : Bool} :
    signedDigits? cs = some (negative, digits) ↔
      signOf cs = (negative, digits) ∧ digits ≠ [] ∧ ∀ c ∈ digits, c.isDigit = true := by
  have hdigits (own : List Char) : (own != [] && own.all Char.isDigit) = true ↔
      own ≠ [] ∧ ∀ c ∈ own, c.isDigit = true := by
    rw [Bool.and_eq_true, bne_iff_ne, List.all_eq_true]
  unfold signedDigits?
  obtain ⟨sign, own⟩ := signOf cs
  dsimp only
  split
  · next hown =>
    rw [hdigits] at hown
    refine ⟨?_, ?_⟩
    · rintro ⟨⟩
      exact ⟨rfl, hown⟩
    · rintro ⟨⟨⟩, -⟩
      rfl
  · next hown =>
    rw [hdigits] at hown
    refine iff_of_false (fun h => nomatch h) ?_
    rintro ⟨⟨⟩, h⟩
    exact hown h

namespace Numeral

variable (x : Numeral)

/-- Whether the number has a minus. -/
def isNegative : Bool :=
  match x.sign with
  | .minus => true
  | .none | .plus => false

theorem value_eq : x.value = signed x.isNegative (naturalOf x.digits) := by
  rw [naturalOf_eq_ofDigits]
  unfold value isNegative signed magnitude
  cases x.sign <;> rfl

theorem core_ne_nil : x.core ≠ [] := List.append_ne_nil_of_right_ne_nil _ x.digits_ne_nil

theorem isBlank_of_mem_core {c : Char} (h : c ∈ x.core) : isBlank c = false := by
  rcases List.mem_append.mp h with hsign | hdigit
  · cases hs : x.sign <;> rw [hs] at hsign
    · exact nomatch hsign
    · rw [List.mem_singleton.mp hsign]
      decide
    · rw [List.mem_singleton.mp hsign]
      decide
  · exact isBlank_of_isDigit (x.digits_decimal c hdigit)

/-- Sign and digits are what is left without the blanks. -/
theorem toList_trim_text : (trim x.text).toList = x.core := by
  unfold trim text
  rw [String.toList_ofList, String.toList_ofList]
  exact stripBy_append x.before_blank x.after_blank x.core_ne_nil
    (fun c hc => x.isBlank_of_mem_core (List.mem_of_mem_head? hc))
    fun c hc => x.isBlank_of_mem_core (List.mem_of_getLast? hc)

theorem signedDigits?_core : signedDigits? x.core = some (x.isNegative, x.digits) := by
  refine signedDigits?_eq_some_iff.mpr ⟨?_, x.digits_ne_nil, x.digits_decimal⟩
  unfold core isNegative
  cases x.sign with
  | none => exact signOf_of_isDigit x.digits_decimal
  | plus | minus => rfl

theorem lineOfText_of_long (h : digitLimit < x.digits.length) :
    lineOfText x.text = .error .tooManyDigits := by
  unfold lineOfText
  rw [x.toList_trim_text, x.signedDigits?_core]
  exact if_pos h

theorem lineOfText_of_short (h : x.digits.length ≤ digitLimit) :
    lineOfText x.text = .ok (if fitsLine x.value then x.value else unknownLine) := by
  unfold lineOfText
  rw [x.toList_trim_text, x.signedDigits?_core, x.value_eq]
  exact if_neg (Nat.not_lt.mpr h)

/-- A text from which a sign and digits are read is a numeral with these digits. -/
theorem exists_of_signedDigits? {s : String} {negative : Bool} {digits : List Char}
    (h : signedDigits? (trim s).toList = some (negative, digits)) :
    ∃ x : Numeral, x.text = s ∧ x.digits = digits := by
  obtain ⟨before, after, hs, hbefore, hafter⟩ := exists_stripBy isBlank s.toList
  have hcore : (trim s).toList = stripBy isBlank s.toList := String.toList_ofList
  rw [← hcore] at hs
  obtain ⟨hsign, hne, hdecimal⟩ := signedDigits?_eq_some_iff.mp h
  obtain ⟨sign, hsplit⟩ := exists_sign (trim s).toList
  rw [hsign] at hsplit
  refine ⟨⟨before, sign, digits, after, hbefore, hne, hdecimal, hafter⟩, ?_, rfl⟩
  show String.ofList (before ++ (sign.text ++ digits) ++ after) = s
  rw [← hsplit, ← hs, String.ofList_toList]

/-- A text is a numeral in one way, as far as sign and digits go. -/
theorem eq_of_text_eq {x y : Numeral} (h : x.text = y.text) :
    x.value = y.value ∧ x.digits = y.digits := by
  have hread : some (x.isNegative, x.digits) = some (y.isNegative, y.digits) := by
    rw [← x.signedDigits?_core, ← y.signedDigits?_core, ← x.toList_trim_text, h, y.toList_trim_text]
  obtain ⟨hsign, hdigits⟩ := Prod.mk.inj (Option.some.inj hread)
  exact ⟨by rw [x.value_eq, y.value_eq, hsign, hdigits], hdigits⟩

end Numeral

/-! ## The line of a text -/

section Text

variable {s : String} {n : Int}

/-- Whatever is no numeral tells no line. -/
theorem lineOfText_of_forall_ne (h : ∀ x : Numeral, x.text ≠ s) :
    lineOfText s = .ok unknownLine := by
  unfold lineOfText
  split
  · rfl
  · next hread =>
    obtain ⟨x, htext, -⟩ := Numeral.exists_of_signedDigits? hread
    exact absurd htext (h x)

/-- A text tells one line. -/
theorem TellsLine.unique {m : Int} (hn : TellsLine s n) (hm : TellsLine s m) : n = m := by
  cases hn with
  | fitting x htext hfits =>
    cases hm with
    | fitting y hsame _ => exact (Numeral.eq_of_text_eq (htext.trans hsame.symm)).1
    | unusable hnone => exact absurd hfits (hnone x htext)
  | unusable hnone =>
    cases hm with
    | fitting y hsame hfits => exact absurd hfits (hnone y hsame)
    | unusable => rfl

/-- A numeral that is read tells its number if that fits, and else no line. -/
theorem tellsLine_text (x : Numeral) :
    TellsLine x.text (if fitsLine x.value then x.value else unknownLine) := by
  split
  · next hfits => exact .fitting x rfl (fitsLine_iff.mp hfits)
  · next hfits =>
    refine .unusable fun y hsame hvalue => hfits ?_
    rw [← (Numeral.eq_of_text_eq hsame).1]
    exact fitsLine_iff.mpr hvalue

/-- The line that is read from a text is the one that it tells. -/
theorem tellsLine_of_lineOfText (h : lineOfText s = .ok n) : TellsLine s n := by
  by_cases hnumeral : ∃ x : Numeral, x.text = s
  · obtain ⟨x, rfl⟩ := hnumeral
    rcases Nat.lt_or_ge digitLimit x.digits.length with hlong | hshort
    · exact nomatch (x.lineOfText_of_long hlong).symm.trans h
    · rw [← Except.ok.inj ((x.lineOfText_of_short hshort).symm.trans h)]
      exact tellsLine_text x
  · have hnone : ∀ x : Numeral, x.text ≠ s := fun x htext => hnumeral ⟨x, htext⟩
    rw [← Except.ok.inj ((lineOfText_of_forall_ne hnone).symm.trans h)]
    exact .unusable fun x htext => absurd htext (hnone x)

/-- A line is read from a text unless it is a numeral of too many digits. -/
theorem exists_lineOfText_iff :
    (∃ n, lineOfText s = .ok n) ↔ ∀ x : Numeral, x.text = s → x.digits.length ≤ digitLimit := by
  constructor
  · rintro ⟨n, hn⟩ x rfl
    by_contra hlong
    exact nomatch (x.lineOfText_of_long (Nat.lt_of_not_le hlong)).symm.trans hn
  · intro hshort
    by_cases hnumeral : ∃ x : Numeral, x.text = s
    · obtain ⟨x, htext⟩ := hnumeral
      exact ⟨_, htext ▸ x.lineOfText_of_short (hshort x htext)⟩
    · exact ⟨_, lineOfText_of_forall_ne fun x htext => hnumeral ⟨x, htext⟩⟩

end Text

/-- A text tells one line, and that line is read from it, unless the text is a numeral of more
digits than are read; then reading it fails, whatever its number is. -/
theorem lineOf_tells_iff (s : String) :
    ((∃ n, lineOf (.text s) = .ok n ∧ TellsLine s n) ↔
      ∀ x : Numeral, x.text = s → x.digits.length ≤ digitLimit) ∧
    (∀ x : Numeral, x.text = s → digitLimit < x.digits.length →
      lineOf (.text s) = .error .tooManyDigits) ∧
    ∀ n m, TellsLine s n → TellsLine s m → n = m := by
  refine ⟨⟨?_, fun hshort => ?_⟩, ?_, fun _ _ => TellsLine.unique⟩
  · rintro ⟨n, hread, -⟩
    exact exists_lineOfText_iff.mp ⟨n, hread⟩
  · obtain ⟨n, hread⟩ := exists_lineOfText_iff.mpr hshort
    exact ⟨n, hread, tellsLine_of_lineOfText hread⟩
  · rintro x rfl hlong
    exact x.lineOfText_of_long hlong

/-- Seven behind as many zeros as digits are read. -/
def paddedSeven : Numeral where
  before := []
  sign := .none
  digits := List.replicate digitLimit '0' ++ ['7']
  after := []
  before_blank := fun _ h => nomatch h
  digits_ne_nil := List.concat_ne_nil _ _
  digits_decimal := by
    intro c hc
    rcases List.mem_append.mp hc with hzero | hseven
    · rw [List.eq_of_mem_replicate hzero]
      rfl
    · rw [List.mem_singleton.mp hseven]
      rfl
  after_blank := fun _ h => nomatch h

/-- The text writes a line that fits, and yet no line is read from it. -/
theorem lineOf_paddedSeven :
    paddedSeven.value = 7 ∧ TellsLine paddedSeven.text 7 ∧
      lineOf (.text paddedSeven.text) = .error .tooManyDigits := by
  have hlength : digitLimit < paddedSeven.digits.length := by
    show digitLimit < (List.replicate digitLimit '0' ++ ['7']).length
    rw [List.length_append, List.length_replicate]
    exact Nat.lt_succ_self _
  have hvalue : paddedSeven.value = 7 := by
    have hdigits : paddedSeven.digits.reverse.map (fun c => c.toNat - '0'.toNat) =
        7 :: List.replicate digitLimit 0 := by
      show (List.replicate digitLimit '0' ++ ['7']).reverse.map _ = _
      rw [List.reverse_append, List.reverse_replicate, List.reverse_singleton,
        List.singleton_append, List.map_cons, List.map_replicate]
      rfl
    show ((Nat.ofDigits 10 _ : Nat) : Int) = 7
    rw [hdigits, Nat.ofDigits_cons, Nat.ofDigits_replicate_zero]
    rfl
  refine ⟨hvalue, ?_, paddedSeven.lineOfText_of_long hlength⟩
  have hfits : paddedSeven.value ∈ lineRange := by
    rw [hvalue]
    decide
  exact hvalue ▸ .fitting paddedSeven rfl hfits

/-! ## The line of a value -/

/-- The line that a value gives: a number gives itself and a text the line that it tells, and no
other value gives a line that is known. -/
inductive GivesLine : Value → Int → Prop
  | number (n : Int) : GivesLine (.int n) n
  | text {s : String} {n : Int} (h : TellsLine s n) : GivesLine (.text s) n
  | other {value : Value} (hnumber : ∀ n, value ≠ .int n) (htext : ∀ s, value ≠ .text s) :
    GivesLine value (-1)

theorem givesLine_of_lineOf {value : Value} {n : Int} (h : lineOf value = .ok n) :
    GivesLine value n := by
  unfold lineOf at h
  split at h
  · cases h
    exact .number _
  · exact .text (tellsLine_of_lineOfText h)
  · next hnumber htext =>
    cases h
    exact .other hnumber htext

/-- A value gives a line that does not fit exactly if it is that number. -/
theorem GivesLine.eq_iff_of_wide {value : Value} {line n : Int} (h : GivesLine value line)
    (hwide : n ∉ lineRange) : line = n ↔ value = .int n := by
  cases h with
  | number line => exact ⟨congrArg Value.int, Value.int.inj⟩
  | text htold =>
    refine ⟨fun heq => absurd (heq ▸ ?_) hwide, fun heq => nomatch heq⟩
    cases htold with
    | fitting x htext hfits => exact hfits
    | unusable => decide
  | other hnumber =>
    exact ⟨fun heq => absurd (heq ▸ by decide) hwide, fun heq => absurd heq (hnumber n)⟩

/-- A line is read from every value but a numeral of too many digits. -/
theorem exists_lineOf {value : Value}
    (h : ∀ x : Numeral, value = .text x.text → x.digits.length ≤ digitLimit) :
    ∃ n, lineOf value = .ok n := by
  unfold lineOf
  split
  · exact ⟨_, rfl⟩
  · exact exists_lineOfText_iff.mpr fun x htext => h x (congrArg Value.text htext.symm)
  · exact ⟨_, rfl⟩

/-! ## The text of a number -/

/-- A number as it is written without blanks. -/
def Numeral.ofInt (n : Int) : Numeral where
  before := []
  sign := if n < 0 then .minus else .none
  digits := Nat.toDigits 10 n.natAbs
  after := []
  before_blank := fun _ h => nomatch h
  digits_ne_nil := Nat.toDigits_ne_nil
  digits_decimal := fun _ => isDigit_of_mem_toDigits
  after_blank := fun _ h => nomatch h

theorem Numeral.text_ofInt (n : Int) : (ofInt n).text = toString n := by
  rw [← String.ofList_toList (s := toString n), toList_toString]
  unfold text core ofInt
  dsimp only
  split <;> rw [List.nil_append, List.append_nil] <;> rfl

theorem Numeral.value_ofInt (n : Int) : (ofInt n).value = n := by
  have hmagnitude : (ofInt n).magnitude = n.natAbs :=
    (naturalOf_eq_ofDigits (Nat.toDigits 10 n.natAbs)).symm.trans naturalOf_toDigits
  by_cases hnegative : n < 0
  · have hsign : (ofInt n).sign = .minus := if_pos hnegative
    rw [value, hsign, hmagnitude]
    exact neg_eq_iff_eq_neg.mpr (Int.ofNat_natAbs_of_nonpos hnegative.le)
  · have hsign : (ofInt n).sign = .none := if_neg hnegative
    rw [value, hsign, hmagnitude]
    exact Int.natAbs_of_nonneg (Int.not_lt.mp hnegative)

/-- A line that fits is read back from its decimal text. -/
theorem lineOfText_toString {n : Int} (h : fitsLine n = true) :
    lineOfText (toString n) = .ok n := by
  have hfits : -2147483648 ≤ n ∧ n ≤ 2147483647 := by simpa [fitsLine] using h
  have hlength : (Nat.toDigits 10 n.natAbs).length ≤ 10 :=
    (Nat.length_toDigits_le_iff (by decide) (by decide)).mpr (by omega)
  have hshort : (Numeral.ofInt n).digits.length ≤ digitLimit :=
    hlength.trans (by decide)
  rw [← Numeral.text_ofInt, Numeral.lineOfText_of_short _ hshort, Numeral.value_ofInt, if_pos h]

/-- A number and its decimal text give the same line exactly if the number is a line that fits. -/
theorem lineOf_int_eq_lineOf_text_iff (n : Int) :
    lineOf (.int n) = lineOf (.text (toString n)) ↔ n ∈ lineRange := by
  constructor
  · intro heq
    have htold : TellsLine (toString n) n := tellsLine_of_lineOfText heq.symm
    generalize toString n = s at htold
    cases htold with
    | fitting x htext hfits => exact hfits
    | unusable => decide
  · intro hfits
    exact (lineOfText_toString (fitsLine_iff.mpr hfits)).symm

end Crosscheck
