import Crosscheck.Java.Edit
import Mathlib.Data.List.Induction
/-!
# Offsets and positions

The position of an offset is where the bytes before it lead to from the beginning, a byte at a time:
to the next row behind a line feed, to the next column behind any other byte (`position_eq_after`).
So a later offset has a later position (`position_lt`), and behind bytes that are put in somewhere is
the position that they lead to from there, whatever the source was (`position_splice`).

The positions of a text are the places in its rows, which are what line feeds split it into. Each of
them tells one offset, the start of its row with the column added, and is the position of it
(`positions_tell_offsets`).
-/

namespace Crosscheck.Text

/-! ## Positions in order -/

/-- Positions come row by row, and in a row by their columns. -/
instance : LT Position := ⟨fun p q => p.row < q.row ∨ p.row = q.row ∧ p.column < q.column⟩

instance (p q : Position) : Decidable (p < q) := inferInstanceAs (Decidable (_ ∨ _))

namespace Position

variable {p q r : Position}

theorem lt_iff : p < q ↔ p.row < q.row ∨ p.row = q.row ∧ p.column < q.column := Iff.rfl

theorem lt_trans (h : p < q) (h' : q < r) : p < r := by
  rw [lt_iff] at *
  omega

/-! ## Positions that move over bytes -/

/-- Where a text begins. -/
def origin : Position := ⟨0, 0⟩

/-- The position behind one more byte. -/
def step (p : Position) (b : UInt8) : Position :=
  if b = lineFeed then ⟨p.row + 1, 0⟩ else ⟨p.row, p.column + 1⟩

/-- The position behind some bytes, from the one before them. -/
def after (p : Position) (bytes : Bytes) : Position := bytes.foldl step p

theorem after_append (p : Position) (xs ys : Bytes) : p.after (xs ++ ys) = (p.after xs).after ys :=
  List.foldl_append

theorem lt_step (p : Position) (b : UInt8) : p < p.step b := by
  rw [lt_iff, step]
  split
  · exact .inl (Nat.lt_succ_self _)
  · exact .inr ⟨rfl, Nat.lt_succ_self _⟩

/-- Every byte takes a position further. -/
theorem lt_after (p : Position) (b : UInt8) (bytes : Bytes) : p < p.after (b :: bytes) := by
  induction bytes generalizing p b with
  | nil => exact p.lt_step b
  | cons c rest ih => exact lt_trans (p.lt_step b) (ih (p.step b) c)

/-- Bytes without a line feed stay in the row. -/
theorem after_of_not_mem {line : Bytes} (h : lineFeed ∉ line) (p : Position) :
    p.after line = ⟨p.row, p.column + line.length⟩ := by
  induction line generalizing p with
  | nil => rfl
  | cons b rest ih =>
    rw [List.mem_cons, not_or] at h
    change (p.step b).after rest = _
    rw [ih h.2, step, if_neg (Ne.symm h.1), List.length_cons, Nat.add_right_comm, Nat.add_assoc]

end Position

theorem sinceLineFeed_le (bytes : Bytes) : sinceLineFeed bytes ≤ bytes.length := by
  have hfront := List.takeWhile_prefix (l := bytes.reverse) (· != lineFeed)
  rw [sinceLineFeed, ← bytes.length_reverse]
  exact hfront.length_le

theorem sinceLineFeed_concat (bytes : Bytes) (b : UInt8) :
    sinceLineFeed (bytes ++ [b]) = if b = lineFeed then 0 else sinceLineFeed bytes + 1 := by
  rw [sinceLineFeed, List.reverse_concat, List.takeWhile_cons]
  by_cases hb : b = lineFeed
  · rw [if_pos hb, if_neg (by simpa using hb)]
    rfl
  · rw [if_neg hb, if_pos (by simpa using hb)]
    rfl

/-- What is counted of bytes is where they lead to. -/
theorem origin_after (bytes : Bytes) :
    Position.origin.after bytes = ⟨bytes.count lineFeed, sinceLineFeed bytes⟩ := by
  induction bytes using List.reverseRecOn with
  | nil => rfl
  | append_singleton bytes b ih =>
    rw [Position.after_append, ih]
    change Position.step _ b = _
    rw [Position.step, List.count_append, List.count_singleton, sinceLineFeed_concat]
    by_cases hb : b = lineFeed
    · rw [if_pos hb, if_pos hb, if_pos (by simpa using hb)]
    · rw [if_neg hb, if_neg hb, if_neg (by simpa using hb)]
      rfl

variable {bytes : Bytes} {i j : Nat}

/-- The position of an offset is where the bytes before it lead to. -/
theorem position_eq_after (h : i ≤ bytes.length) :
    position bytes i = Position.origin.after (bytes.take i) := by
  have hlength : (bytes.take i).length = i := List.length_take_of_le h
  have hsince := sinceLineFeed_le (bytes.take i)
  rw [hlength] at hsince
  rw [origin_after, position, lineStart, hlength, Nat.sub_sub_self hsince]

/-- From one offset to a later one, a position moves over the bytes between them. -/
theorem position_eq_after_between (hij : i ≤ j) (hj : j ≤ bytes.length) :
    position bytes j = (position bytes i).after ((bytes.drop i).take (j - i)) := by
  rw [position_eq_after hj, position_eq_after (Nat.le_trans hij hj), ← Position.after_append,
    ← List.take_add, Nat.add_sub_cancel' hij]

/-- A later offset is at a later position. -/
theorem position_lt (hij : i < j) (hj : j ≤ bytes.length) :
    position bytes i < position bytes j := by
  obtain ⟨b, rest, hrest⟩ : ∃ b rest, (bytes.drop i).take (j - i) = b :: rest := by
    refine List.exists_cons_of_ne_nil fun hnil => ?_
    have hlength := congrArg List.length hnil
    rw [List.length_take, List.length_drop, List.length_nil] at hlength
    omega
  rw [position_eq_after_between (Nat.le_of_lt hij) hj, hrest]
  exact Position.lt_after _ b rest

/-- A position is told by the bytes before it. -/
theorem position_congr {bytes' : Bytes} (h : bytes.take i = bytes'.take i) :
    position bytes i = position bytes' i := by
  rw [position, position, lineStart, lineStart, h]

/-- Behind bytes that are put in at an offset is the position that they lead to from there. -/
theorem position_splice (h : i ≤ bytes.length) (r rest : Bytes) :
    position (bytes.take i ++ r ++ rest) (i + r.length) = (position bytes i).after r := by
  have hlength : (bytes.take i).length = i := List.length_take_of_le h
  have htake : (bytes.take i ++ r ++ rest).take i = bytes.take i := by
    rw [List.append_assoc, List.take_left' hlength]
  have hbetween : ((bytes.take i ++ r ++ rest).drop i).take (i + r.length - i) = r := by
    rw [List.append_assoc, List.drop_left' hlength, Nat.add_sub_cancel_left, List.take_left]
  have hend : i + r.length ≤ (bytes.take i ++ r ++ rest).length := by
    rw [List.length_append, List.length_append, hlength]
    exact Nat.le_add_right _ _
  rw [position_eq_after_between (Nat.le_add_right i r.length) hend, hbetween, position_congr htake]

/-! ## Rows -/

/-- The rows of a text, without the line feeds between them. -/
def rowTexts (bytes : Bytes) : List Bytes := bytes.splitOn lineFeed

/-- Rows that are each ended by a line feed. -/
def endRows (lines : List Bytes) : Bytes := lines.flatMap (· ++ [lineFeed])

/-- The offset at which a row starts: behind the rows before it and the line feeds that end them. -/
def rowStart (bytes : Bytes) (row : Nat) : Nat := (endRows ((rowTexts bytes).take row)).length

/-- The offset that a position tells. -/
def Position.offsetIn (p : Position) (bytes : Bytes) : Nat := rowStart bytes p.row + p.column

/-- Whether a position is one in a text: its row is one of the text, and is at least as long as the
column says. -/
def Position.IsIn (p : Position) (bytes : Bytes) : Prop :=
  ∃ line, (rowTexts bytes)[p.row]? = some line ∧ p.column ≤ line.length

theorem not_mem_of_mem_rowTexts {line : Bytes} (h : line ∈ rowTexts bytes) : lineFeed ∉ line := by
  induction bytes generalizing line with
  | nil =>
    rw [List.mem_singleton.mp h]
    exact List.not_mem_nil
  | cons b rest ih =>
    obtain ⟨first, others, hrows⟩ := List.exists_cons_of_ne_nil (List.splitOn_ne_nil lineFeed rest)
    rw [rowTexts, List.splitOn_cons_eq_if_modifyHead, hrows] at h
    have hmem {line : Bytes} (hline : line ∈ first :: others) : lineFeed ∉ line :=
      ih (by rw [rowTexts, hrows]; exact hline)
    by_cases hb : b = lineFeed
    · rw [if_pos (beq_iff_eq.mpr hb)] at h
      rcases List.mem_cons.mp h with rfl | h
      · exact List.not_mem_nil
      · exact hmem h
    · rw [if_neg (by simpa using hb), List.modifyHead_cons] at h
      rcases List.mem_cons.mp h with rfl | h
      · rw [List.mem_cons, not_or]
        exact ⟨Ne.symm hb, hmem List.mem_cons_self⟩
      · exact hmem (List.mem_cons_of_mem _ h)

theorem intercalate_rowTexts (bytes : Bytes) : [lineFeed].intercalate (rowTexts bytes) = bytes :=
  List.intercalate_splitOn _

theorem after_endRows {lines : List Bytes} (h : ∀ line ∈ lines, lineFeed ∉ line) (row : Nat) :
    (⟨row, 0⟩ : Position).after (endRows lines) = ⟨row + lines.length, 0⟩ := by
  induction lines generalizing row with
  | nil => rfl
  | cons line rest ih =>
    have hline := h line List.mem_cons_self
    have hrest := ih fun other hother => h other (List.mem_cons_of_mem _ hother)
    rw [endRows, List.flatMap_cons, Position.after_append, Position.after_append,
      Position.after_of_not_mem hline]
    change Position.after ⟨row + 1, 0⟩ (endRows rest) = _
    rw [hrest, List.length_cons, Nat.add_right_comm, Nat.add_assoc]

/-- A text is the rows before one of its rows, ended, that row, and what is behind it. -/
theorem exists_behind {lines : List Bytes} {row : Nat} {line : Bytes}
    (h : lines[row]? = some line) :
    ∃ behind, [lineFeed].intercalate lines = endRows (lines.take row) ++ line ++ behind := by
  -- Line feeds stand between the rows only, so that the last row is a case of its own.
  induction lines generalizing row with
  | nil => exact nomatch h
  | cons first others ih =>
    cases row with
    | zero =>
      cases h
      cases others with
      | nil => exact ⟨[], by simp [endRows]⟩
      | cons second others => exact ⟨_, by rw [List.intercalate_cons_cons, List.append_assoc]; rfl⟩
    | succ row =>
      rw [List.getElem?_cons_succ] at h
      obtain ⟨behind, hbehind⟩ := ih h
      cases others with
      | nil => exact nomatch h
      | cons second others =>
        refine ⟨behind, ?_⟩
        rw [List.intercalate_cons_cons, hbehind, List.take_succ_cons, endRows, endRows,
          List.flatMap_cons]
        simp only [List.append_assoc]

/-- Every offset is in a row, or on the line feed that ends it, or at the end of the last one. -/
theorem exists_row {lines : List Bytes} (hne : lines ≠ [])
    (hi : i ≤ ([lineFeed].intercalate lines).length) :
    ∃ row line column, lines[row]? = some line ∧ column ≤ line.length ∧
      (endRows (lines.take row)).length + column = i := by
  -- An offset past the first row and its line feed is one in the text of the other rows.
  induction lines generalizing i with
  | nil => exact absurd rfl hne
  | cons first others ih =>
    by_cases hfirst : i ≤ first.length
    · exact ⟨0, first, i, rfl, hfirst, Nat.zero_add i⟩
    cases others with
    | nil =>
      rw [List.intercalate_singleton] at hi
      exact absurd hi hfirst
    | cons second others =>
      rw [List.intercalate_cons_cons, List.length_append, List.length_append] at hi
      obtain ⟨row, line, column, hline, hcolumn, hplace⟩ :=
        ih (i := i - (first.length + 1)) (List.cons_ne_nil _ _)
          (by rw [List.length_singleton] at hi; omega)
      refine ⟨row + 1, line, column, hline, hcolumn, ?_⟩
      rw [List.take_succ_cons, endRows, List.flatMap_cons, List.length_append, List.length_append,
        ← endRows, List.length_singleton]
      omega

/-- Before a position of a text are the rows before its own, ended, and the front of its row. -/
theorem Position.IsIn.exists_front {p : Position} (h : p.IsIn bytes) :
    ∃ front, p.column = front.length ∧ lineFeed ∉ front ∧ p.offsetIn bytes ≤ bytes.length ∧
      bytes.take (p.offsetIn bytes) = endRows ((rowTexts bytes).take p.row) ++ front := by
  obtain ⟨line, hline, hcolumn⟩ := h
  obtain ⟨behind, hbytes⟩ := exists_behind hline
  rw [intercalate_rowTexts] at hbytes
  have hclear : lineFeed ∉ line.take p.column := fun hmem =>
    not_mem_of_mem_rowTexts (List.mem_of_getElem? hline) (List.mem_of_mem_take hmem)
  have hlength : (line.take p.column).length = p.column := List.length_take_of_le hcolumn
  rw [Position.offsetIn, rowStart]
  generalize (rowTexts bytes).take p.row = before at hbytes ⊢
  subst hbytes
  refine ⟨line.take p.column, hlength.symm, hclear, ?_, ?_⟩
  · rw [List.length_append, List.length_append]
    omega
  · rw [List.append_assoc, List.take_length_add_append, List.take_append_of_le_length hcolumn]

/-- A position of a text is that of the offset which it tells. -/
theorem Position.IsIn.position_offsetIn {p : Position} (h : p.IsIn bytes) :
    position bytes (p.offsetIn bytes) = p := by
  obtain ⟨front, hcolumn, hclear, hle, htake⟩ := h.exists_front
  obtain ⟨line, hline, -⟩ := h
  have hrow : ((rowTexts bytes).take p.row).length = p.row :=
    List.length_take_of_le (Nat.le_of_lt (List.getElem?_eq_some_iff.mp hline).1)
  have hended := after_endRows (fun line (hline : line ∈ (rowTexts bytes).take p.row) =>
    not_mem_of_mem_rowTexts (List.mem_of_mem_take hline)) 0
  rw [position_eq_after hle, htake, Position.after_append, Position.origin, hended,
    Position.after_of_not_mem hclear, hrow, Nat.zero_add, Nat.zero_add, ← hcolumn]

/-- The position of an offset is one of the text, and tells the offset. -/
theorem isIn_position (hi : i ≤ bytes.length) :
    (position bytes i).IsIn bytes ∧ (position bytes i).offsetIn bytes = i := by
  rw [← intercalate_rowTexts bytes] at hi
  obtain ⟨row, line, column, hline, hcolumn, hoffset⟩ := exists_row (List.splitOn_ne_nil _ _) hi
  -- A position of the text that tells this offset is the position of it.
  have hisIn : (⟨row, column⟩ : Position).IsIn bytes := ⟨line, hline, hcolumn⟩
  have hplace : (⟨row, column⟩ : Position).offsetIn bytes = i := hoffset
  have hposition := hisIn.position_offsetIn
  rw [hplace] at hposition
  rw [hposition]
  exact ⟨hisIn, hplace⟩

/-- What the position of an offset tells. -/
structure TellsOffset (bytes : Bytes) (offset : Nat) (p : Position) : Prop where
  /-- The row counts the line feeds before the offset. -/
  row : p.row = (bytes.take offset).count lineFeed
  /-- The column does not go back past the beginning. -/
  column_le : p.column ≤ offset
  /-- There is no line feed among as many bytes before the offset as the column counts. -/
  oneRow : lineFeed ∉ (bytes.drop (offset - p.column)).take p.column
  /-- The offset is as far behind the start of the row as the column counts. -/
  recovered : rowStart bytes p.row + p.column = offset

theorem tells_position (hi : i ≤ bytes.length) : TellsOffset bytes i (position bytes i) := by
  obtain ⟨hisIn, hoffset⟩ := isIn_position hi
  obtain ⟨front, hcolumn, hclear, -, htake⟩ := hisIn.exists_front
  have hstart : i - (position bytes i).column = rowStart bytes (position bytes i).row :=
    Nat.sub_eq_of_eq_add hoffset.symm
  have hfront : (bytes.drop (rowStart bytes (position bytes i).row)).take
      (position bytes i).column = front := by
    rw [List.take_drop, ← Position.offsetIn, htake, rowStart, List.drop_left]
  refine ⟨rfl, ?_, ?_, hoffset⟩
  · exact Nat.le_trans (Nat.le_add_left _ _) (Nat.le_of_eq hoffset)
  · rw [hstart, hfront]
    exact hclear

/-! ## Edits -/

section Edits

open Crosscheck.Java

/-- Whether the positions of a change agree, from whichever of the two sources they are taken: the
new text starts where the range did, the range stops where its bytes lead to from there, and the new
text where its own lead to. -/
structure Agrees (source : Bytes) (text : Glyphs) (change : Change) : Prop where
  startAt : position (replaceRange source change.start change.stop text) change.start =
    change.startAt
  stopAt : change.stopAt =
    change.startAt.after ((source.drop change.start).take (change.stop - change.start))
  newStopAt : change.newStopAt = change.startAt.after (encode text)

theorem agrees_change {start stop : Nat} (h : start ≤ stop) (hstop : stop ≤ bytes.length)
    (text : Glyphs) : Agrees bytes text (Change.of bytes start stop text) := by
  have hstart : start ≤ bytes.length := Nat.le_trans h hstop
  refine ⟨position_congr ?_, position_eq_after_between h hstop, ?_⟩
  · rw [Change.of, replaceRange, List.append_assoc, List.take_left' (List.length_take_of_le hstart)]
  · exact position_splice hstart (encode text) (bytes.drop stop)

/-- Offsets and positions correspond in their order. A later offset has a later position; the
position of an offset counts the line feeds before it and the bytes behind the last of them, and tells
the offset; and there is an offset for every position of the text. Where bytes are put in place of a
range, the position behind them in the new text is the one that they lead to from where the range
starts in the old one, and so it is for the positions of a change. -/
theorem positions_tell_offsets (bytes : Bytes) :
    (∀ i j, i < j → j ≤ bytes.length → position bytes i < position bytes j) ∧
    (∀ i, i ≤ bytes.length → TellsOffset bytes i (position bytes i)) ∧
    (∀ p : Position, p.IsIn bytes ↔ ∃ i, i ≤ bytes.length ∧ position bytes i = p) ∧
    ∀ start stop, start ≤ stop → stop ≤ bytes.length →
      (∀ inserted, position (bytes.take start ++ inserted ++ bytes.drop stop)
        (start + inserted.length) = (position bytes start).after inserted) ∧
      ∀ text, Agrees bytes text (Change.of bytes start stop text) := by
  refine ⟨fun _ _ => position_lt, fun _ => tells_position, fun p => ⟨fun h => ?_, ?_⟩,
    fun start stop h hstop => ⟨fun inserted => ?_, agrees_change h hstop⟩⟩
  · obtain ⟨-, -, -, hle, -⟩ := h.exists_front
    exact ⟨_, hle, h.position_offsetIn⟩
  · rintro ⟨i, hi, rfl⟩
    exact (isIn_position hi).1
  · exact position_splice (Nat.le_trans h hstop) inserted _

/-- Three rows, the second one empty. -/
def gappedText : Bytes := utf8 "ab\n\ncd"

/-- An offset on a line feed, the one behind it, which is on another, and an edit that takes both of
them out and puts one in. -/
theorem positions_gappedText :
    (2 < 3 ∧ 3 ≤ gappedText.length) ∧ position gappedText 2 < position gappedText 3 ∧
      TellsOffset gappedText 3 ⟨1, 0⟩ ∧ (⟨2, 2⟩ : Position).IsIn gappedText ∧
      (1 ≤ 5 ∧ 5 ≤ gappedText.length) ∧
      position (gappedText.take 1 ++ utf8 "x\ny" ++ gappedText.drop 5) 4 = ⟨1, 1⟩ ∧
      Agrees gappedText (ofString "x\ny") ⟨1, 5, 4, ⟨0, 1⟩, ⟨2, 1⟩, ⟨1, 1⟩⟩ := by
  obtain ⟨hlt, htells, hisIn, hedit⟩ := positions_tell_offsets gappedText
  have hlength : gappedText.length = 6 := by decide +kernel
  obtain ⟨hinserted, hagrees⟩ := hedit 1 5 (by decide) (by omega)
  have hposition : position gappedText 3 = ⟨1, 0⟩ := by decide +kernel
  have hafter : (position gappedText 1).after (utf8 "x\ny") = ⟨1, 1⟩ := by decide +kernel
  have hchange : Change.of gappedText 1 5 (ofString "x\ny") =
      ⟨1, 5, 4, ⟨0, 1⟩, ⟨2, 1⟩, ⟨1, 1⟩⟩ := by decide +kernel
  refine ⟨⟨by decide, by omega⟩, hlt 2 3 (by decide) (by omega), ?_, ?_, ⟨by decide, by omega⟩,
    ?_, ?_⟩
  · exact hposition ▸ htells 3 (by omega)
  · exact (hisIn ⟨2, 2⟩).mpr ⟨6, by omega, by decide +kernel⟩
  · exact (hinserted (utf8 "x\ny")).trans hafter
  · exact hchange ▸ hagrees (ofString "x\ny")

end Edits

end Crosscheck.Text
