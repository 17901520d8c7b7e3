import Crosscheck.Proofs.Configuration.Properties
/-!
# Where a line is cut

A logical line is made of physical ones: a line that says something, and the lines that its
backslashes join to it (`Logical`, which says so by rules and not by a reader). The reader finds
exactly these lines (`logical_iff`), so that only its cut is left to look at.

The cut is made at the first equals sign, wherever it is, and at the first colon only if there is no
equals sign. This is the first separator unless a colon comes first and an equals sign after it
(`ColonFirst`): such a line gives a key with the colon in it, which no cut at the first separator
does (`pair?_eq_firstCut?_iff`).
-/

namespace Crosscheck.Configuration.Properties

open Crosscheck.Text

/-! ## Logical lines -/

/-- A line with those that are joined to it: a backslash gives way to the next line, without the
blanks at its ends. -/
inductive Joined : List Char → List (List Char) → List Char → Prop
  | alone (line : List Char) : Joined line [] line
  | next {line next whole : List Char} {more : List (List Char)}
      (joined : Joined (line ++ stripBy isBlank next) more whole) :
      Joined (line ++ ['\\']) (next :: more) whole

/-- The logical lines of physical ones. Blank lines and comments are none; every other line is
joined with the lines after it until it does not end with a backslash or there are no more. -/
inductive Logical : List (List Char) → List (List Char) → Prop
  | nil : Logical [] []
  | idle {line : List Char} {rest wholes : List (List Char)}
      (idle : isIdle (stripBy isBlank line) = true) (others : Logical rest wholes) :
      Logical (line :: rest) wholes
  | said {line whole : List Char} {more rest wholes : List (List Char)}
      (said : isIdle (stripBy isBlank line) = false)
      (joined : Joined (stripBy isBlank line) more whole)
      (ended : rest ≠ [] → whole.getLast? ≠ some '\\') (others : Logical rest wholes) :
      Logical (line :: (more ++ rest)) (whole :: wholes)

theorem joinLines_of_joined {line whole : List Char} {more rest : List (List Char)}
    (h : Joined line more whole) (hended : rest ≠ [] → whole.getLast? ≠ some '\\') :
    joinLines line (more ++ rest) = (whole, rest) := by
  induction h with
  | alone line =>
    cases rest with
    | nil => rfl
    | cons next rest =>
      have hstop : ¬ (line.getLast? == some '\\') = true := fun h =>
        hended (List.cons_ne_nil _ _) (beq_iff_eq.mp h)
      rw [List.nil_append, joinLines, if_neg hstop]
  | next _ ih =>
    rw [List.cons_append, joinLines, List.getLast?_concat, if_pos (beq_self_eq_true _),
      List.dropLast_concat, ih hended]

/-- The reader joins lines by the rules. -/
theorem joined_joinLines (line : List Char) (lines : List (List Char)) :
    ∃ more, lines = more ++ (joinLines line lines).2 ∧ Joined line more (joinLines line lines).1 ∧
      ((joinLines line lines).2 ≠ [] → (joinLines line lines).1.getLast? ≠ some '\\') := by
  induction lines generalizing line with
  | nil => exact ⟨[], rfl, .alone line, fun h => absurd rfl h⟩
  | cons next rest ih =>
    rw [joinLines]
    split
    · next hlast =>
      obtain ⟨more, hlines, hjoined, hended⟩ := ih (line.dropLast ++ stripBy isBlank next)
      have hline : line.dropLast ++ ['\\'] = line :=
        List.dropLast_append_getLast? '\\' (beq_iff_eq.mp hlast)
      have hnext := Joined.next hjoined
      rw [hline] at hnext
      exact ⟨next :: more, by rw [List.cons_append, ← hlines], hnext, hended⟩
    · next hlast =>
      exact ⟨[], rfl, .alone line, fun _ h => hlast (beq_iff_eq.mpr h)⟩

/-- The reader finds the logical lines of a text, and there are no others. -/
theorem logical_iff {lines wholes : List (List Char)} :
    Logical lines wholes ↔ statements lines = wholes := by
  constructor
  · intro h
    induction h with
    | nil => rw [statements]
    | idle hidle _ ih => rw [statements]; simp only [hidle, if_true, ih]
    | said hsaid hjoined hended _ ih =>
      rw [statements]
      simp only [hsaid, Bool.false_eq_true, if_false, joinLines_of_joined hjoined hended, ih]
  · rintro rfl
    induction lines using statements.induct with
    | case1 => rw [statements]; exact .nil
    | case2 line rest _ hidle ih =>
      change isIdle (stripBy isBlank line) = true at hidle
      rw [statements]
      simp only [hidle, if_true]
      exact .idle hidle ih
    | case3 line rest _ hsaid ih =>
      change ¬ isIdle (stripBy isBlank line) = true at hsaid
      obtain ⟨more, hlines, hjoined, hended⟩ := joined_joinLines (stripBy isBlank line) rest
      have hlogical := Logical.said (Bool.eq_false_iff.mpr hsaid) hjoined hended ih
      rw [← hlines] at hlogical
      rw [statements]
      simp only [hsaid, Bool.false_eq_true, if_false]
      exact hlogical

/-- A text is read as the pairs of its logical lines. -/
theorem parse_of_logical {text : String} {wholes : List (List Char)}
    (h : Logical (text.toList.splitOn '\n') wholes) :
    parse text = .ofList (wholes.filterMap pair?) := by
  rw [parse, lines_eq_splitOn, logical_iff.mp h]

/-! ## The first separator -/

/-- Whether a character separates a key from its value. -/
def isSeparator (c : Char) : Bool := c == '=' || c == ':'

/-- The key and the value of a line that is cut at its first separator, of whichever kind. -/
def firstCut? (line : List Char) : Option (String × String) :=
  match line.dropWhile (!isSeparator ·) with
  | [] => none
  | _ :: after =>
    some (trim (.ofList (line.takeWhile (!isSeparator ·))), trim (.ofList after))

/-- A line whose first separator is a colon, with an equals sign behind it. -/
def ColonFirst (line : List Char) : Prop :=
  ∃ before after, line = before ++ ':' :: after ∧ (∀ c ∈ before, isSeparator c = false) ∧
    '=' ∈ after

section Cut

variable {before after : List Char}

theorem dropWhile_separator {mark : Char} (hbefore : ∀ c ∈ before, isSeparator c = false)
    (hmark : isSeparator mark = true) :
    (before ++ mark :: after).dropWhile (!isSeparator ·) = mark :: after := by
  rw [List.dropWhile_append_of_pos (by simpa using hbefore),
    List.dropWhile_cons_of_neg (by simp [hmark])]

/-- A line that is cut at its first separator gives what stands before it and what stands after
it. -/
theorem firstCut?_append {mark : Char} (hbefore : ∀ c ∈ before, isSeparator c = false)
    (hmark : isSeparator mark = true) :
    firstCut? (before ++ mark :: after) = some (trim (.ofList before), trim (.ofList after)) := by
  have htake : (before ++ mark :: after).takeWhile (!isSeparator ·) = before := by
    rw [List.takeWhile_append_of_pos (by simpa using hbefore),
      List.takeWhile_cons_of_neg (by simp [hmark]), List.append_nil]
  rw [firstCut?, dropWhile_separator hbefore hmark, htake]

theorem cutAt_append {mark : Char} (hbefore : mark ∉ before) :
    cutAt mark (before ++ mark :: after) = (trim (.ofList before), trim (.ofList after)) := by
  have hne : ∀ c ∈ before, (c != mark) = true := fun c hc =>
    bne_iff_ne.mpr fun heq => hbefore (heq ▸ hc)
  rw [cutAt, List.takeWhile_append_of_pos hne, List.dropWhile_append_of_pos hne,
    List.takeWhile_cons_of_neg (by simp), List.dropWhile_cons_of_neg (by simp), List.append_nil,
    trim, trim, String.toList_ofList, String.toList_ofList]
  rfl

/-- An equals sign is the place of the cut if there is none before it. -/
theorem pair?_equals (hbefore : '=' ∉ before) :
    pair? (before ++ '=' :: after) = some (trim (.ofList before), trim (.ofList after)) := by
  rw [pair?, if_pos (by simp), cutAt_append hbefore]

/-- A colon is the place of the cut only in a line without an equals sign. -/
theorem pair?_colon (hbefore : ':' ∉ before) (hline : '=' ∉ before ++ ':' :: after) :
    pair? (before ++ ':' :: after) = some (trim (.ofList before), trim (.ofList after)) := by
  rw [pair?, if_neg (by simpa using hline), if_pos (by simp), cutAt_append hbefore]

theorem not_mem_of_separator (hbefore : ∀ c ∈ before, isSeparator c = false) {mark : Char}
    (hmark : isSeparator mark = true) : mark ∉ before := fun h =>
  absurd (hbefore mark h) (by simp [hmark])

end Cut

/-- A line has no separator, or one that is the first. -/
theorem separator_cases (line : List Char) :
    (∀ c ∈ line, isSeparator c = false) ∨
      ∃ before mark after, line = before ++ mark :: after ∧
        (∀ c ∈ before, isSeparator c = false) ∧ isSeparator mark = true := by
  cases hrest : line.dropWhile (!isSeparator ·) with
  | nil =>
    refine .inl fun c hc => ?_
    simpa using List.dropWhile_eq_nil_iff.mp hrest c hc
  | cons mark after =>
    have hmark := head?_dropWhile (p := (!isSeparator ·)) line mark (by rw [hrest]; rfl)
    refine .inr ⟨line.takeWhile (!isSeparator ·), mark, after, ?_, ?_, by simpa using hmark⟩
    · rw [← hrest, List.takeWhile_append_dropWhile]
    · intro c hc
      simpa using List.mem_takeWhile_imp hc

theorem isSeparator_iff {c : Char} : isSeparator c = true ↔ c = '=' ∨ c = ':' := by
  simp [isSeparator]

/-- What is cut off at the ends of a text is blank, so every other character stays. -/
theorem mem_trim_ofList {text : List Char} {c : Char} (hc : isBlank c = false) :
    c ∈ (trim (.ofList text)).toList ↔ c ∈ text := by
  obtain ⟨before, after, htext, hbefore, hafter⟩ := exists_stripBy isBlank text
  have hnot {blanks : List Char} (hblanks : ∀ x ∈ blanks, isBlank x = true) : c ∉ blanks :=
    fun h => by simp [hblanks c h] at hc
  rw [trim, String.toList_ofList, String.toList_ofList]
  conv_rhs => rw [htext]
  simp [hnot hbefore, hnot hafter]

/-- A key that is cut off at the first separator has no separator in it. -/
theorem not_mem_of_firstCut? {line : List Char} {key value : String}
    (h : firstCut? line = some (key, value)) : ':' ∉ key.toList := by
  rcases separator_cases line with hnone | ⟨before, mark, after, rfl, hbefore, hmark⟩
  · rw [firstCut?, List.dropWhile_eq_nil_iff.mpr (by simpa using hnone)] at h
    exact nomatch h
  · rw [firstCut?_append hbefore hmark] at h
    rw [← (Prod.mk.inj (Option.some.inj h)).1, mem_trim_ofList (by decide)]
    exact not_mem_of_separator hbefore (by decide)

/-- A line with an equals sign behind a first colon gives a key with the colon in it. -/
theorem ColonFirst.exists_pair? {line : List Char} (h : ColonFirst line) :
    ∃ key value, pair? line = some (key, value) ∧ ':' ∈ key.toList := by
  obtain ⟨before, after, rfl, hbefore, hafter⟩ := h
  obtain ⟨mid, rest, rfl, hmid⟩ := List.eq_append_cons_of_mem hafter
  have hnot : '=' ∉ before ++ ':' :: mid := by
    simpa [hmid] using not_mem_of_separator hbefore (by decide : isSeparator '=' = true)
  have hline : before ++ ':' :: (mid ++ '=' :: rest) = (before ++ ':' :: mid) ++ '=' :: rest := by
    simp
  refine ⟨_, _, by rw [hline]; exact pair?_equals hnot, ?_⟩
  rw [mem_trim_ofList (by decide)]
  simp

/-- A line is cut at its first separator unless that is a colon with an equals sign behind it. -/
theorem pair?_eq_firstCut?_iff (line : List Char) :
    pair? line = firstCut? line ↔ ¬ ColonFirst line := by
  constructor
  · intro heq hcolon
    obtain ⟨key, value, hpair, hmem⟩ := hcolon.exists_pair?
    exact not_mem_of_firstCut? (heq.symm.trans hpair) hmem
  · intro hnot
    rcases separator_cases line with hnone | ⟨before, mark, after, rfl, hbefore, hmark⟩
    · have hequals : '=' ∉ line := not_mem_of_separator hnone (by decide)
      have hcolon : ':' ∉ line := not_mem_of_separator hnone (by decide)
      rw [firstCut?, List.dropWhile_eq_nil_iff.mpr (by simpa using hnone), pair?,
        if_neg (by simpa using hequals), if_neg (by simpa using hcolon)]
    · have hequals : '=' ∉ before := not_mem_of_separator hbefore (by decide)
      have hcolon : ':' ∉ before := not_mem_of_separator hbefore (by decide)
      rw [firstCut?_append hbefore hmark]
      rcases isSeparator_iff.mp hmark with rfl | rfl
      · exact pair?_equals hequals
      · have hafter : '=' ∉ after := fun h => hnot ⟨before, after, rfl, hbefore, h⟩
        exact pair?_colon hcolon (by simp [hequals, hafter])

/-! ## Whole texts -/

/-- A text is read with every logical line cut at its first separator exactly if no logical line has
a colon for its first separator and an equals sign behind it. -/
theorem parse_eq_firstCut_iff {text : String} {wholes : List (List Char)}
    (h : Logical (text.toList.splitOn '\n') wholes) :
    parse text = .ofList (wholes.filterMap firstCut?) ↔
      ∀ line ∈ wholes, ¬ ColonFirst line := by
  rw [parse_of_logical h]
  constructor
  · intro heq line hline hcolon
    obtain ⟨key, value, hpair, hmem⟩ := hcolon.exists_pair?
    have hkey : key ∈ (OrderedMap.ofList (wholes.filterMap pair?)).keys :=
      OrderedMap.mem_keys_ofList.mpr
        (List.mem_map.mpr ⟨_, List.mem_filterMap.mpr ⟨line, hline, hpair⟩, rfl⟩)
    rw [heq, OrderedMap.mem_keys_ofList] at hkey
    obtain ⟨⟨_, other⟩, hcut, rfl⟩ := List.mem_map.mp hkey
    obtain ⟨line', -, hcut⟩ := List.mem_filterMap.mp hcut
    exact not_mem_of_firstCut? hcut hmem
  · intro hall
    rw [List.filterMap_congr fun line hline => (pair?_eq_firstCut?_iff line).mpr (hall line hline)]

/-- A comment, an address with a port that goes on in the next line, and one with a query. -/
def addressFile : String :=
  "# HOST=old\nHOST: http://h:9000/\\\n  x:y\nURL = http://h:1/?a=b:c"

theorem parse_addressFile :
    let wholes := ["HOST: http://h:9000/x:y".toList, "URL = http://h:1/?a=b:c".toList]
    Logical (addressFile.toList.splitOn '\n') wholes ∧ (∀ line ∈ wholes, ¬ ColonFirst line) ∧
      (parse addressFile).entries =
        [("HOST", "http://h:9000/x:y"), ("URL", "http://h:1/?a=b:c")] := by
  intro wholes
  have hlogical : Logical (addressFile.toList.splitOn '\n') wholes :=
    logical_iff.mpr (by decide +kernel)
  have hfirst : ∀ line ∈ wholes, ¬ ColonFirst line := by
    intro line hline
    rw [← pair?_eq_firstCut?_iff]
    revert line
    decide
  refine ⟨hlogical, hfirst, ?_⟩
  rw [(parse_eq_firstCut_iff hlogical).mpr hfirst]
  decide

/-- A line whose value is an address with a query. The first separator stands behind `HOST`; what is
read is a key that goes on to the equals sign of the query. -/
theorem parse_query :
    let text := "HOST: http://h/?a=b"
    Logical (text.toList.splitOn '\n') [text.toList] ∧
      firstCut? text.toList = some ("HOST", "http://h/?a=b") ∧
      (parse text).entries = [("HOST: http://h/?a", "b")] := by
  intro text
  have hlogical : Logical (text.toList.splitOn '\n') [text.toList] := logical_iff.mpr (by decide +kernel)
  refine ⟨hlogical, by decide, ?_⟩
  rw [parse_of_logical hlogical]
  decide

end Crosscheck.Configuration.Properties
