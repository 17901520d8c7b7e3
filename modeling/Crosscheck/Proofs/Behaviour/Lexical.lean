import Crosscheck.Proofs.Text.Blank
/-!
# Words of a text

What a text says is the sequence of its words: layout and comments only keep words apart. Words are
also kept apart by the signs that hold statements together, and each of those is a word by itself; a
literal is part of a word with all that it holds. The scan is a fold over the glyphs, so the words
of a text that is put together from pieces are those of its pieces, wherever a piece does not end in
the middle of something.

A piece that ends within a line comment is such a case: what is put behind it on the same line
becomes part of the comment.
-/

namespace Crosscheck.Behaviour

open Crosscheck.Text

/-- A word of a text. -/
abbrev Word := Glyphs

/-- A word that is written with these characters. -/
def word (s : String) : Word := ofString s

/-! ## The scan -/

/-- In the middle of what a scan stands. -/
inductive Mode
  | code
  /-- After a slash, which may open a comment. -/
  | slash
  | lineComment
  /-- In a comment, after an asterisk or not. -/
  | blockComment (starred : Bool)
  | character (escaped : Bool)
  /-- After one quotation mark, and after two: an empty string, or the opening of a text block. -/
  | quote
  | quotes
  | string (escaped : Bool)
  /-- In a text block, after so many quotation marks. -/
  | textBlock (marks : Nat) (escaped : Bool)
  deriving DecidableEq, Repr

/-- A scan: in the middle of what it stands, the word that it reads, and the words before. -/
structure Scan where
  mode : Mode
  pending : Word
  done : List Word
  deriving DecidableEq, Repr

/-- Whether a glyph is a word by itself. -/
def isSeparator : Glyph → Bool
  | .char c => [';', ',', '(', ')', '\x7b', '\x7d'].contains c
  | .stray _ => false

/-- Whether a glyph ends the word before it. -/
def endsWord (g : Glyph) : Bool := g.isBlank || isSeparator g

namespace Scan

/-- The beginning of a text. -/
def start : Scan := ⟨.code, [], []⟩

/-- The words with the one that is being read. -/
def words (scan : Scan) : List Word :=
  if scan.pending.isEmpty then scan.done else scan.done ++ [scan.pending]

/-- Goes on reading the word with a glyph. -/
def push (scan : Scan) (mode : Mode) (g : Glyph) : Scan :=
  { scan with mode, pending := scan.pending ++ [g] }

/-- Takes the last glyph of the word back. -/
def retract (scan : Scan) : Scan := { scan with pending := scan.pending.dropLast }

/-- Ends the word. -/
def close (scan : Scan) (mode : Mode) : Scan := ⟨mode, [], scan.words⟩

/-- A glyph outside of literals and comments. -/
def plain (scan : Scan) (g : Glyph) : Scan :=
  if g.isBlank then scan.close .code
  else if isSeparator g then ⟨.code, [], scan.words ++ [[g]]⟩
  else if g == .char '/' then scan.push .slash g
  else if g == .char '"' then scan.push .quote g
  else if g == .char '\'' then scan.push (.character false) g
  else scan.push .code g

/-- The next glyph. -/
def step (scan : Scan) (g : Glyph) : Scan :=
  match scan.mode with
  | .code => scan.plain g
  | .slash =>
    if g == .char '/' then scan.retract.close .lineComment
    else if g == .char '*' then scan.retract.close (.blockComment false)
    else scan.plain g
  | .lineComment => if g == .char '\n' then { scan with mode := .code } else scan
  | .blockComment starred =>
    if starred && g == .char '/' then { scan with mode := .code }
    else { scan with mode := .blockComment (g == .char '*') }
  | .character escaped =>
    if !escaped && g == .char '\'' then scan.push .code g
    else scan.push (.character (!escaped && g == .char '\\')) g
  | .quote =>
    if g == .char '"' then scan.push .quotes g else scan.push (.string (g == .char '\\')) g
  | .quotes =>
    if g == .char '"' then scan.push (.textBlock 0 false) g else scan.plain g
  | .string escaped =>
    if !escaped && g == .char '"' then scan.push .code g
    else scan.push (.string (!escaped && g == .char '\\')) g
  | .textBlock marks escaped =>
    if !escaped && g == .char '"' then
      scan.push (if marks == 2 then .code else .textBlock (marks + 1) false) g
    else scan.push (.textBlock 0 (!escaped && g == .char '\\')) g

/-- Whether a scan stands between glyphs that could be parted by layout. -/
def rests (scan : Scan) : Bool := [.code, .slash, .quotes].contains scan.mode

/-- A scan with words before it. -/
def after (scan : Scan) (before : List Word) : Scan := { scan with done := before ++ scan.done }

end Scan

/-- The scan of a text. -/
def scan (text : Glyphs) : Scan := text.foldl Scan.step .start

/-- The words of a text. -/
def words (text : Glyphs) : List Word := (scan text).words

/-- Whether a text ends in the middle of nothing but a word. -/
def closed (text : Glyphs) : Bool := (scan text).rests

/-- Whether a text ends in the middle of nothing. -/
def settled (text : Glyphs) : Bool := (scan text).mode == .code && (scan text).pending.isEmpty

/-- Whether a text begins with something that ends a word. -/
def opensApart (text : Glyphs) : Bool := (text.head?.map endsWord).getD false

/-! ## Pieces of a text -/

namespace Scan

theorem words_after (scan : Scan) (before : List Word) :
    (scan.after before).words = before ++ scan.words := by
  unfold words after
  split <;> simp only [List.append_assoc]

theorem plain_after (scan : Scan) (before : List Word) (g : Glyph) :
    (scan.after before).plain g = (scan.plain g).after before := by
  unfold plain close push
  rw [words_after]
  simp only [after, List.append_assoc]
  split
  · rfl
  · split
    · rfl
    · split
      · rfl
      · split
        · rfl
        · split <;> rfl

theorem close_after (scan : Scan) (before : List Word) (mode : Mode) :
    (scan.after before).close mode = (scan.close mode).after before := by
  unfold close
  rw [words_after]
  rfl

/-- The words before have no part in a step. -/
theorem step_after (scan : Scan) (before : List Word) (g : Glyph) :
    (scan.after before).step g = (scan.step g).after before := by
  obtain ⟨mode, pending, done⟩ := scan
  have hplain := plain_after ⟨mode, pending, done⟩ before g
  cases mode with
  | code => exact hplain
  | slash =>
    show (if g == .char '/' then (after (retract ⟨.slash, pending, done⟩) before).close _
      else if g == .char '*' then (after (retract ⟨.slash, pending, done⟩) before).close _
      else (after ⟨.slash, pending, done⟩ before).plain g) = _
    rw [close_after, close_after, hplain]
    simp only [step]
    split
    · rfl
    · split <;> rfl
  | lineComment => simp only [step, after]; split <;> rfl
  | blockComment starred => simp only [step, after]; split <;> rfl
  | character escaped => simp only [step, after, push]; split <;> rfl
  | quote => simp only [step, after, push]; split <;> rfl
  | quotes =>
    show (if g == .char '"' then _ else (after ⟨.quotes, pending, done⟩ before).plain g) = _
    rw [hplain]
    simp only [step]
    split <;> rfl
  | string escaped => simp only [step, after, push]; split <;> rfl
  | textBlock marks escaped => simp only [step, after, push]; split <;> rfl

theorem foldl_step_after (text : Glyphs) :
    ∀ (scan : Scan) (before : List Word),
      text.foldl step (scan.after before) = (text.foldl step scan).after before := by
  induction text with
  | nil => exact fun _ _ => rfl
  | cons g rest ih =>
    intro scan before
    rw [List.foldl_cons, step_after, ih, List.foldl_cons]

/-- A glyph that ends the word before it starts afresh behind a scan that rests. -/
theorem step_of_endsWord {scan : Scan} {g : Glyph} (hrests : scan.rests = true)
    (hg : endsWord g = true) : scan.step g = (start.step g).after scan.words := by
  have hother : ∀ c, endsWord (.char c) = false → (g == .char c) = false := by
    intro c hc
    rw [beq_eq_false_iff_ne]
    rintro rfl
    exact absurd hg (by rw [hc]; exact Bool.false_ne_true)
  have hplain : scan.step g = scan.plain g := by
    obtain ⟨mode, pending, done⟩ := scan
    cases mode with
    | code => rfl
    | slash =>
      have hslash := hother '/' (by decide)
      have hstar := hother '*' (by decide)
      simp only [step, hslash, hstar, Bool.false_eq_true, if_false]
    | quotes =>
      have hquote := hother '"' (by decide)
      simp only [step, hquote, Bool.false_eq_true, if_false]
    | _ => exact absurd hrests (by simp [rests])
  rw [hplain]
  show scan.plain g = (start.plain g).after scan.words
  have hwords : start.words = [] := rfl
  unfold plain close after
  rw [hwords]
  cases hblank : g.isBlank with
  | true => simp
  | false =>
    have hseparator : isSeparator g = true := by
      unfold endsWord at hg
      rwa [hblank, Bool.false_or] at hg
    simp [hseparator]

end Scan

/-- A text that may stand before another without being read into it. -/
def Joins (left right : Glyphs) : Prop :=
  settled left = true ∨ (closed left = true ∧ opensApart right = true)

theorem scan_of_settled {text : Glyphs} (h : settled text = true) :
    scan text = Scan.start.after (words text) := by
  unfold settled at h
  rw [Bool.and_eq_true, beq_iff_eq] at h
  unfold words Scan.words
  rw [h.2, if_pos rfl]
  rcases hscan : scan text with ⟨mode, pending, done⟩
  rw [hscan] at h
  obtain ⟨rfl, hpending⟩ := h
  obtain rfl : pending = [] := List.isEmpty_iff.mp hpending
  simp only [Scan.start, Scan.after, List.append_nil]

/-- Behind a text that joins, another is scanned as by itself. -/
theorem scan_append {left right : Glyphs} (h : Joins left right) :
    scan (left ++ right) = (scan right).after (words left) := by
  have hfold : scan (left ++ right) = right.foldl Scan.step (scan left) := by
    unfold scan
    rw [List.foldl_append]
  rw [hfold]
  rcases h with hsettled | ⟨hclosed, hopens⟩
  · rw [scan_of_settled hsettled, Scan.foldl_step_after]
    rfl
  · cases right with
    | nil => exact absurd hopens Bool.false_ne_true
    | cons g rest =>
      have hg : endsWord g = true := hopens
      rw [List.foldl_cons, Scan.step_of_endsWord hclosed hg, Scan.foldl_step_after]
      rfl

theorem words_append {left right : Glyphs} (h : Joins left right) :
    words (left ++ right) = words left ++ words right := by
  unfold words
  rw [scan_append h, Scan.words_after]
  rfl

theorem closed_append {left right : Glyphs} (h : Joins left right) :
    closed (left ++ right) = closed right := by
  unfold closed
  rw [scan_append h]
  rfl

theorem opensApart_append {left : Glyphs} (h : opensApart left = true) (right : Glyphs) :
    opensApart (left ++ right) = true := by
  cases left with
  | nil => exact absurd h Bool.false_ne_true
  | cons g rest => exact h

/-! ## Texts that spell words -/

/-- A text that says some words and could go on after layout. -/
structure Spells (text : Glyphs) (said : List Word) : Prop where
  closed : closed text = true
  words : words text = said

namespace Spells

variable {left right : Glyphs} {xs ys : List Word}

/-- Words behind a text that ends in the middle of nothing. -/
theorem prepend (h : settled left = true) (hwords : Behaviour.words left = xs)
    (hright : Spells right ys) : Spells (left ++ right) (xs ++ ys) where
  closed := by rw [closed_append (.inl h), hright.closed]
  words := by rw [words_append (.inl h), hwords, hright.words]

theorem prepend_iff (h : settled left = true) (hwords : Behaviour.words left = xs) :
    Spells (left ++ right) (xs ++ ys) ↔ Spells right ys := by
  refine ⟨fun hwhole => ⟨?_, ?_⟩, prepend h hwords⟩
  · rw [← closed_append (.inl h), hwhole.closed]
  · have hsaid := hwhole.words
    rw [words_append (.inl h), hwords] at hsaid
    exact List.append_cancel_left hsaid

/-- Words before a text that is read apart from them. -/
theorem append (hleft : Spells left xs) (h : opensApart right = true) (hright : Spells right ys) :
    Spells (left ++ right) (xs ++ ys) where
  closed := by rw [closed_append (.inr ⟨hleft.closed, h⟩), hright.closed]
  words := by rw [words_append (.inr ⟨hleft.closed, h⟩), hleft.words, hright.words]

end Spells

/-! ## Blanks -/

theorem scan_of_blanks {text : Glyphs} (h : ∀ g ∈ text, g.isBlank = true) :
    scan text = Scan.start := by
  unfold scan
  induction text with
  | nil => rfl
  | cons g rest ih =>
    have hg : Scan.start.step g = Scan.start := by
      show Scan.start.plain g = Scan.start
      unfold Scan.plain
      rw [h g List.mem_cons_self]
      rfl
    rw [List.foldl_cons, hg]
    exact ih fun other hother => h other (List.mem_cons_of_mem g hother)

theorem settled_of_blanks {text : Glyphs} (h : ∀ g ∈ text, g.isBlank = true) :
    settled text = true := by
  unfold settled
  rw [scan_of_blanks h]
  rfl

theorem words_of_blanks {text : Glyphs} (h : ∀ g ∈ text, g.isBlank = true) : words text = [] := by
  unfold words
  rw [scan_of_blanks h]
  rfl

/-- Blanks before a text say nothing. -/
theorem Spells.blanks_append {blanks text : Glyphs} {said : List Word}
    (h : ∀ g ∈ blanks, g.isBlank = true) (htext : Spells text said) :
    Spells (blanks ++ text) said :=
  htext.prepend (settled_of_blanks h) (words_of_blanks h)

/-! ## Line comments -/

/-- Whether a text ends in the middle of a line comment. -/
def endsInComment (text : Glyphs) : Bool := (scan text).mode == .lineComment

/-- What is behind the first line of a text. -/
def afterLine (text : Glyphs) : Glyphs := (text.dropWhile (· != .char '\n')).drop 1

namespace Scan

/-- In a line comment no word is being read. -/
def IsIdle (scan : Scan) : Prop := scan.mode = .lineComment → scan.pending = []

theorem plain_mode_ne (scan : Scan) (g : Glyph) : (scan.plain g).mode ≠ .lineComment := by
  unfold plain close push
  split
  · exact nofun
  · split
    · exact nofun
    · split
      · exact nofun
      · split
        · exact nofun
        · split <;> exact nofun

theorem isIdle_step {scan : Scan} (h : scan.IsIdle) (g : Glyph) : (scan.step g).IsIdle := by
  have hplain : (scan.plain g).IsIdle := fun hmode => absurd hmode (plain_mode_ne scan g)
  obtain ⟨mode, pending, done⟩ := scan
  cases mode with
  | code => exact hplain
  | slash =>
    simp only [step]
    split
    · exact fun _ => rfl
    · split
      · exact fun _ => rfl
      · exact hplain
  | lineComment => simp only [step]; split <;> exact fun _ => h rfl
  | blockComment starred => simp only [step]; split <;> exact nofun
  | character escaped => simp only [step]; split <;> exact nofun
  | quote => simp only [step]; split <;> exact nofun
  | quotes =>
    simp only [step]
    split
    · exact nofun
    · exact hplain
  | string escaped => simp only [step]; split <;> exact nofun
  | textBlock marks escaped =>
    simp only [step, push]
    split
    · split <;> exact nofun
    · exact nofun

theorem isIdle_foldl (text : Glyphs) :
    ∀ {scan : Scan}, scan.IsIdle → (text.foldl step scan).IsIdle := by
  induction text with
  | nil => exact id
  | cons g rest ih => exact fun h => ih (isIdle_step h g)

/-- A line comment goes on up to the end of the line. -/
theorem foldl_step_lineComment (text : Glyphs) (done : List Word) :
    text.foldl step ⟨.lineComment, [], done⟩ =
      if .char '\n' ∈ text then (scan (afterLine text)).after done
      else ⟨.lineComment, [], done⟩ := by
  induction text with
  | nil => rfl
  | cons g rest ih =>
    rw [List.foldl_cons]
    by_cases hg : g = .char '\n'
    · subst hg
      have hstart : (⟨.code, [], done⟩ : Scan) = start.after done := by
        rw [after, start, List.append_nil]
      show rest.foldl step ⟨.code, [], done⟩ = _
      rw [if_pos List.mem_cons_self, hstart, foldl_step_after]
      rfl
    · have hstep : (⟨.lineComment, [], done⟩ : Scan).step g = ⟨.lineComment, [], done⟩ := by
        simp only [step, beq_eq_false_iff_ne.mpr hg, Bool.false_eq_true, if_false]
      have hafter : afterLine (g :: rest) = afterLine rest := by
        unfold afterLine
        rw [List.dropWhile_cons, if_pos (bne_iff_ne.mpr hg)]
      rw [hstep, ih, hafter]
      simp only [List.mem_cons, or_iff_right (Ne.symm hg)]

/-- Blanks do not end anything but a word or a line comment. -/
theorem rests_of_step {scan : Scan} {g : Glyph} (hg : g.isBlank = true)
    (h : (scan.step g).rests = true ∨ (scan.step g).mode = .lineComment) :
    scan.rests = true ∨ scan.mode = .lineComment := by
  have hother : ∀ c, Glyph.isBlank (.char c) = false → (g == .char c) = false := by
    intro c hc
    rw [beq_eq_false_iff_ne]
    rintro rfl
    exact absurd hg (by rw [hc]; exact Bool.false_ne_true)
  have hslash := hother '/' (by decide)
  have hmark := hother '\'' (by decide)
  have hquote := hother '"' (by decide)
  obtain ⟨mode, pending, done⟩ := scan
  cases mode with
  | code => exact .inl rfl
  | slash => exact .inl rfl
  | quotes => exact .inl rfl
  | lineComment => exact .inr rfl
  | _ =>
    simp only [step, push, hslash, hmark, hquote, Bool.and_false, Bool.false_eq_true,
      if_false] at h
    rcases h with h | h
    · exact nomatch h
    · exact nomatch h

theorem rests_of_foldl {text : Glyphs} (h : ∀ g ∈ text, g.isBlank = true) :
    ∀ {scan : Scan}, (text.foldl step scan).rests = true →
      scan.rests = true ∨ scan.mode = .lineComment := by
  induction text with
  | nil => exact .inl
  | cons g rest ih =>
    intro scan hrests
    have hrest : ∀ g ∈ rest, g.isBlank = true := fun other hother =>
      h other (List.mem_cons_of_mem g hother)
    exact rests_of_step (h g List.mem_cons_self) (ih hrest hrests)

end Scan

/-- The scan of a text that ends in the middle of a line comment. -/
theorem scan_of_endsInComment {text : Glyphs} (h : endsInComment text = true) :
    scan text = ⟨.lineComment, [], words text⟩ := by
  have hmode : (scan text).mode = .lineComment := beq_iff_eq.mp h
  have hpending : (scan text).pending = [] := Scan.isIdle_foldl text nofun hmode
  unfold words Scan.words
  rw [hpending, if_pos (by rfl), ← hmode, ← hpending]

/-- Behind a line comment a text says what is behind its first line. -/
theorem scan_append_of_endsInComment {left right : Glyphs} (h : endsInComment left = true) :
    scan (left ++ right) =
      if .char '\n' ∈ right then (scan (afterLine right)).after (words left)
      else ⟨.lineComment, [], words left⟩ := by
  rw [← Scan.foldl_step_lineComment, ← scan_of_endsInComment h]
  exact List.foldl_append

/-- Without blanks at its end a text says the same words, if it ends in the middle of nothing but
possibly a line comment then. -/
theorem words_append_blanks {text blanks : Glyphs} (h : ∀ g ∈ blanks, g.isBlank = true)
    (hends : closed text = true ∨ endsInComment text = true) :
    words (text ++ blanks) = words text := by
  rcases hends with hclosed | hcomment
  · cases blanks with
    | nil => rw [List.append_nil]
    | cons g rest =>
      have hopens : opensApart (g :: rest) = true := by
        show endsWord g = true
        unfold endsWord
        rw [h g List.mem_cons_self, Bool.true_or]
      rw [words_append (.inr ⟨hclosed, hopens⟩), words_of_blanks h, List.append_nil]
  · have hlater : ∀ g ∈ afterLine blanks, g.isBlank = true := fun g hg =>
      h g ((List.dropWhile_sublist _).subset (List.mem_of_mem_drop hg))
    have hscan : scan (text ++ blanks) = _ := scan_append_of_endsInComment hcomment
    rw [words, hscan, scan_of_blanks hlater]
    split
    · rw [Scan.words_after]
      exact List.append_nil _
    · rfl

/-- A text says the same words without the blanks at its ends, and ends in the middle of nothing
but possibly a line comment. -/
theorem trimGlyphs_of_closed {text : Glyphs} (h : closed text = true) :
    words (trimGlyphs text) = words text ∧
      (closed (trimGlyphs text) = true ∨ endsInComment (trimGlyphs text) = true) := by
  obtain ⟨before, after, htext, hbefore, hafter⟩ := exists_stripBy Glyph.isBlank text
  have hcut : trimGlyphs text = stripBy Glyph.isBlank text := rfl
  rw [← hcut] at htext
  have hwhole : scan text = scan (trimGlyphs text ++ after) := by
    have hscan := congrArg scan htext
    rwa [List.append_assoc, scan_append (.inl (settled_of_blanks hbefore)),
      words_of_blanks hbefore] at hscan
  have hends : closed (trimGlyphs text) = true ∨ endsInComment (trimGlyphs text) = true := by
    unfold closed at h
    rw [hwhole, scan, List.foldl_append] at h
    exact (Scan.rests_of_foldl hafter h).imp_right beq_iff_eq.mpr
  refine ⟨?_, hends⟩
  rw [← words_append_blanks hafter hends]
  exact congrArg Scan.words hwhole.symm

/-- What is behind a line comment is said if what is behind the first line says it. -/
theorem spells_append_of_endsInComment_iff {left right : Glyphs} {ys : List Word}
    (hleft : endsInComment left = true) (hys : ys ≠ []) :
    Spells (left ++ right) (words left ++ ys) ↔ Spells (afterLine right) ys := by
  have hscan : scan (left ++ right) = _ := scan_append_of_endsInComment hleft
  by_cases hline : .char '\n' ∈ right
  · rw [if_pos hline] at hscan
    have hends : closed (left ++ right) = closed (afterLine right) := by
      unfold closed
      rw [hscan]
      rfl
    have hwords : words (left ++ right) = words left ++ words (afterLine right) := by
      rw [words, hscan, Scan.words_after]
      rfl
    refine ⟨fun h => ⟨hends ▸ h.closed, List.append_cancel_left (hwords ▸ h.words)⟩,
      fun h => ⟨hends ▸ h.closed, ?_⟩⟩
    rw [hwords, h.words]
  · rw [if_neg hline] at hscan
    have hall : ∀ g ∈ right, (g != .char '\n') = true := fun g hg =>
      bne_iff_ne.mpr fun heq => hline (heq ▸ hg)
    have hnone : afterLine right = [] := by
      rw [afterLine, List.dropWhile_eq_nil_iff.mpr hall]
      rfl
    refine iff_of_false (fun h => ?_) (fun h => ?_)
    · have hclosed := h.closed
      rw [closed, hscan] at hclosed
      exact nomatch hclosed
    · rw [hnone] at h
      exact hys h.words.symm

/-- Words behind a text that may end in the middle of a line comment are read as they are, unless
they are lost in the comment; what is behind the first line would have to say them all. -/
theorem spells_append_iff {left right : Glyphs} {ys : List Word}
    (hleft : closed left = true ∨ endsInComment left = true) (hopens : opensApart right = true)
    (hright : Spells right ys) (hys : ys ≠ []) :
    Spells (left ++ right) (words left ++ ys) ↔
      closed left = true ∨ Spells (afterLine right) ys := by
  by_cases hclosed : closed left = true
  · exact iff_of_true (Spells.append ⟨hclosed, rfl⟩ hopens hright) (.inl hclosed)
  · rw [or_iff_right hclosed]
    exact spells_append_of_endsInComment_iff (hleft.resolve_left hclosed) hys

end Crosscheck.Behaviour
