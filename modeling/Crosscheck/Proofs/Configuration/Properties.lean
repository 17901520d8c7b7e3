import Crosscheck.Configuration.Properties
import Crosscheck.Proofs.OrderedMap
import Crosscheck.Proofs.Text.Blank
/-!
# Writing properties and reading them back

A pair is written as its key, an equals sign and its value. The value may be cut into chunks: the
first stands behind the equals sign, every other one on a line of its own behind an indentation, and
a backslash ends each line that goes on. Blank lines and comments stand anywhere but between the
lines of one pair.

The loop that joins lines knows nothing of chunks: it strips a whole line and looks at its last
character. `joinLines_goOn` is its invariant: what has been joined so far ends like a first line with
the chunks that are left, so that the reader goes on exactly as long as there are chunks.
`parse_textOf` puts the pairs together.
-/

namespace Crosscheck.Configuration.Properties

open Crosscheck.Text

/-! ## What is written -/

/-- A key that can be told from a comment and from its value. -/
structure IsKey (key : String) : Prop where
  ne_empty : key ≠ ""
  trimmed : trim key = key
  plain : ∀ c ∈ key.toList, c ≠ '\n' ∧ c ≠ '=' ∧ c ≠ ':'
  said : ∀ c ∈ key.toList.head?, c ≠ '#' ∧ c ≠ '!'

/-- A value that does not ask for another line. Anything may stand inside it. -/
structure IsValue (value : String) : Prop where
  trimmed : trim value = value
  oneLine : '\n' ∉ value.toList
  ended : ∀ c ∈ value.toList.getLast?, c ≠ '\\'

/-- A chunk of a value on a line of its own, behind an indentation. -/
structure Piece where
  indent : List Char
  chunk : List Char
  indent_blank : ∀ c ∈ indent, isBlank c = true ∧ c ≠ '\n'
  chunk_ne_nil : chunk ≠ []
  chunk_said : ∀ c ∈ chunk.head?, isBlank c = false

/-- A pair with its value cut into chunks. -/
structure Entry where
  key : String
  value : String
  first : List Char
  more : List Piece
  isKey : IsKey key
  isValue : IsValue value
  cut : value.toList = first ++ more.flatMap Piece.chunk

/-- A line between the pairs: blanks, and behind them nothing or a comment. -/
structure Filler where
  blanks : List Char
  comment : List Char
  blanks_blank : ∀ c ∈ blanks, isBlank c = true
  marked : ∀ c ∈ comment.head?, c = '#' ∨ c = '!'
  oneLine : '\n' ∉ blanks ++ comment

/-- What a file is made of. -/
inductive Block where
  | filler (line : Filler)
  | entry (pair : Entry)

/-- A line with a backslash behind it if there is more. -/
def marked (line : List Char) (more : List Piece) : List Char :=
  if more.isEmpty then line else line ++ ['\\']

@[simp] theorem marked_nil (line : List Char) : marked line [] = line := rfl

@[simp] theorem marked_cons (line : List Char) (piece : Piece) (more : List Piece) :
    marked line (piece :: more) = line ++ ['\\'] := rfl

/-- The lines of the chunks after the first. -/
def goOn : List Piece → List (List Char)
  | [] => []
  | piece :: more => (piece.indent ++ marked piece.chunk more) :: goOn more

/-- The lines of a pair. -/
def Entry.lines (pair : Entry) : List (List Char) :=
  marked (pair.key.toList ++ '=' :: pair.first) pair.more :: goOn pair.more

def Block.lines : Block → List (List Char)
  | .filler line => [line.blanks ++ line.comment]
  | .entry pair => pair.lines

/-- The text of a file. -/
def textOf (blocks : List Block) : String :=
  String.ofList (['\n'].intercalate (blocks.flatMap Block.lines))

def Block.pair? : Block → Option (String × String)
  | .filler _ => none
  | .entry pair => some (pair.key, pair.value)

/-- The pairs of a file, in their order. -/
def pairsOf (blocks : List Block) : List (String × String) := blocks.filterMap Block.pair?

/-! ## Lines -/

theorem lines_eq_splitOn (text : List Char) : lines text = text.splitOn '\n' := by
  induction text with
  | nil => rfl
  | cons c rest ih =>
    rw [lines, ih, List.splitOn_eq_splitOnP, List.splitOn_eq_splitOnP,
      List.splitOnP_cons_eq_if_modifyHead]
    cases h : rest.splitOnP (· == '\n') with
    | nil => exact absurd h (List.splitOnP_ne_nil _ _)
    | cons line more => rfl

/-- Lines that are joined are told apart again. -/
theorem lines_intercalate {ls : List (List Char)} (hne : ls ≠ []) (h : ∀ line ∈ ls, '\n' ∉ line) :
    lines (['\n'].intercalate ls) = ls := by
  rw [lines_eq_splitOn, List.splitOn_intercalate '\n' h hne]

/-! ## Lines that go on -/

/-- What is left of a value ends as the value does. -/
theorem getLast?_chunks (line : List Char) (piece : Piece) (more : List Piece) :
    (line ++ (piece :: more).flatMap Piece.chunk).getLast? =
      (piece.chunk ++ more.flatMap Piece.chunk).getLast? := by
  have hne : piece.chunk ++ more.flatMap Piece.chunk ≠ [] :=
    List.append_ne_nil_of_left_ne_nil piece.chunk_ne_nil _
  rw [List.flatMap_cons, List.getLast?_append_of_ne_nil _ hne]

/-- A line is read without its indentation and with the backslash that ends it. -/
theorem stripBy_marked (indent line : List Char) (more : List Piece)
    (hindent : ∀ c ∈ indent, isBlank c = true) (hne : line ≠ [])
    (hsaid : ∀ c ∈ line.head?, isBlank c = false)
    (hlast : ∀ c ∈ (line ++ more.flatMap Piece.chunk).getLast?, isBlank c = false) :
    stripBy isBlank (indent ++ marked line more) = marked line more := by
  have hends : marked line more ≠ [] ∧ (∀ c ∈ (marked line more).head?, isBlank c = false) ∧
      ∀ c ∈ (marked line more).getLast?, isBlank c = false := by
    cases more with
    | nil =>
      rw [List.flatMap_nil, List.append_nil] at hlast
      exact ⟨hne, hsaid, hlast⟩
    | cons piece more =>
      refine ⟨List.append_ne_nil_of_left_ne_nil hne _, ?_, ?_⟩
      · rwa [marked_cons, List.head?_append_of_ne_nil _ hne]
      · intro c hc
        rw [marked_cons, List.getLast?_concat] at hc
        cases hc
        decide
  rw [← List.append_nil (indent ++ _)]
  exact stripBy_append hindent (by simp) hends.1 hends.2.1 hends.2.2

/-- The reader goes on through the chunks that are left and stops behind the last one. -/
theorem joinLines_goOn (more : List Piece) (line : List Char) (rest : List (List Char))
    (hlast : ∀ c ∈ (line ++ more.flatMap Piece.chunk).getLast?, isBlank c = false ∧ c ≠ '\\') :
    joinLines (marked line more) (goOn more ++ rest) = (line ++ more.flatMap Piece.chunk, rest) := by
  induction more generalizing line with
  | nil =>
    rw [List.flatMap_nil, List.append_nil] at hlast
    have hstop : ¬ line.getLast? = some '\\' := fun h => (hlast _ h).2 rfl
    cases rest with
    | nil => simp [goOn, joinLines]
    | cons next rest => simp [goOn, joinLines, hstop]
  | cons piece more ih =>
    -- The next line, stripped, ends what has been joined like the chunk itself would.
    have hnext := stripBy_marked piece.indent piece.chunk more
      (fun c hc => (piece.indent_blank c hc).1) piece.chunk_ne_nil piece.chunk_said
      fun c hc => (hlast c (by rwa [getLast?_chunks])).1
    have hjoin : line ++ marked piece.chunk more = marked (line ++ piece.chunk) more := by
      cases more with
      | nil => rfl
      | cons _ _ => rw [marked_cons, marked_cons, List.append_assoc]
    rw [goOn, List.cons_append, joinLines, marked_cons, List.getLast?_concat,
      if_pos (beq_self_eq_true _), List.dropLast_concat, hnext, hjoin, ih, List.flatMap_cons, List.append_assoc]
    rwa [List.append_assoc, ← List.flatMap_cons]

/-! ## Pairs and what stands between them -/

theorem isIdle_iff (line : List Char) :
    isIdle line = true ↔ ∀ c ∈ line.head?, c = '#' ∨ c = '!' := by
  cases line with
  | nil => simp [isIdle]
  | cons c rest => simp [isIdle]

namespace Entry

variable (pair : Entry)

/-- The pair on one line. -/
def whole : List Char := pair.key.toList ++ '=' :: pair.value.toList

theorem key_ne_nil : pair.key.toList ≠ [] := fun h =>
  pair.isKey.ne_empty (String.toList_eq_nil_iff.mp h)

theorem whole_eq :
    pair.key.toList ++ '=' :: pair.first ++ pair.more.flatMap Piece.chunk = pair.whole := by
  rw [whole, pair.cut, List.append_assoc, List.cons_append]

theorem getLast?_whole : ∀ c ∈ pair.whole.getLast?, isBlank c = false ∧ c ≠ '\\' := by
  intro c hc
  rw [whole, List.getLast?_append_of_ne_nil _ (List.cons_ne_nil _ _), List.getLast?_cons] at hc
  cases hvalue : pair.value.toList.getLast? with
  | none =>
    rw [hvalue] at hc
    cases hc
    decide
  | some last =>
    rw [hvalue] at hc
    cases hc
    exact ⟨getLast?_of_trim_eq_self pair.isValue.trimmed _ hvalue, pair.isValue.ended _ hvalue⟩

/-- The first line of a pair begins with its key, and so it is not idle. -/
theorem head?_marked (more : List Piece) (rest : List Char) :
    (marked (pair.key.toList ++ rest) more).head? = pair.key.toList.head? := by
  cases more with
  | nil => exact List.head?_append_of_ne_nil _ pair.key_ne_nil
  | cons piece more =>
    rw [marked_cons, List.append_assoc]
    exact List.head?_append_of_ne_nil _ pair.key_ne_nil

theorem pair?_whole : Properties.pair? pair.whole = some (pair.key, pair.value) := by
  have hkey : ∀ c ∈ pair.key.toList, (c != '=') = true := fun c hc =>
    bne_iff_ne.mpr (pair.isKey.plain c hc).2.1
  have hbefore : pair.whole.takeWhile (· != '=') = pair.key.toList := by
    rw [whole, List.takeWhile_append_of_pos hkey, List.takeWhile_cons_of_neg (by decide),
      List.append_nil]
  have hafter : pair.whole.dropWhile (· != '=') = '=' :: pair.value.toList := by
    rw [whole, List.dropWhile_append_of_pos hkey, List.dropWhile_cons_of_neg (by decide)]
  have hmark : pair.whole.contains '=' = true := by simp [whole]
  have htrim : ∀ s : String, String.ofList (stripBy isBlank s.toList) = trim s := fun _ => rfl
  rw [Properties.pair?, if_pos hmark, cutAt, hbefore, hafter, List.drop_one, List.tail_cons, htrim,
    htrim, pair.isKey.trimmed, pair.isValue.trimmed]

/-- The lines of a pair are read as one. -/
theorem statements_lines (rest : List (List Char)) :
    statements (pair.lines ++ rest) = pair.whole :: statements rest := by
  have hwhole := pair.whole_eq
  have hstrip := stripBy_marked [] (pair.key.toList ++ '=' :: pair.first) pair.more (by simp)
    (List.append_ne_nil_of_left_ne_nil pair.key_ne_nil _)
    (by
      rw [List.head?_append_of_ne_nil _ pair.key_ne_nil]
      exact head?_of_trim_eq_self pair.isKey.trimmed)
    (by
      rw [hwhole]
      exact fun c hc => (pair.getLast?_whole c hc).1)
  have hsaid : ¬ isIdle (marked (pair.key.toList ++ '=' :: pair.first) pair.more) = true := by
    rw [isIdle_iff, pair.head?_marked]
    obtain ⟨c, hc⟩ := Option.isSome_iff_exists.mp (List.isSome_head?.mpr pair.key_ne_nil)
    intro hmark
    exact (hmark c hc).elim (pair.isKey.said c hc).1 (pair.isKey.said c hc).2
  have hjoin := joinLines_goOn pair.more (pair.key.toList ++ '=' :: pair.first) rest
    (by rw [hwhole]; exact pair.getLast?_whole)
  rw [List.nil_append] at hstrip
  rw [lines, List.cons_append, statements]
  simp only [hstrip, if_neg hsaid, hjoin, hwhole]

end Entry

/-- A line between the pairs says nothing. -/
theorem statements_filler (line : Filler) (rest : List (List Char)) :
    statements ((line.blanks ++ line.comment) :: rest) = statements rest := by
  have hidle : isIdle (stripBy isBlank (line.blanks ++ line.comment)) = true := by
    rw [isIdle_iff]
    cases hcomment : line.comment with
    | nil =>
      rw [List.append_nil, stripBy_of_all line.blanks_blank]
      exact fun c hc => nomatch hc
    | cons mark rest =>
      have hmark : mark = '#' ∨ mark = '!' := line.marked mark (by rw [hcomment]; rfl)
      have hsaid : isBlank mark = false := by rcases hmark with rfl | rfl <;> decide
      rw [head?_stripBy_append line.blanks_blank hsaid]
      rintro _ ⟨⟩
      exact hmark
  rw [statements]
  simp only [hidle, if_true]

/-- What is said in a file: its pairs, each on one line. -/
theorem filterMap_statements (blocks : List Block) :
    (statements (blocks.flatMap Block.lines)).filterMap pair? = pairsOf blocks := by
  induction blocks with
  | nil => simp [statements, pairsOf]
  | cons block rest ih =>
    rw [List.flatMap_cons]
    cases block with
    | filler line => rw [Block.lines, List.singleton_append, statements_filler, ih]; rfl
    | entry pair =>
      rw [Block.lines, pair.statements_lines, List.filterMap_cons_some pair.pair?_whole, ih]
      rfl

/-! ## The round trip -/

theorem not_mem_marked {line : List Char} (h : '\n' ∉ line) (more : List Piece) :
    '\n' ∉ marked line more := by
  cases more with
  | nil => exact h
  | cons piece more => simpa using h

theorem not_mem_of_mem_goOn {more : List Piece} (h : '\n' ∉ more.flatMap Piece.chunk) :
    ∀ line ∈ goOn more, '\n' ∉ line := by
  induction more with
  | nil => exact fun _ hline => nomatch hline
  | cons piece more ih =>
    rw [List.flatMap_cons, List.mem_append, not_or] at h
    intro line hline
    rcases List.mem_cons.mp hline with rfl | hline
    · rw [List.mem_append, not_or]
      exact ⟨fun hmem => (piece.indent_blank _ hmem).2 rfl, not_mem_marked h.1 more⟩
    · exact ih h.2 line hline

/-- No line of a file has a line feed in it. -/
theorem not_mem_of_mem_lines (block : Block) : ∀ line ∈ block.lines, '\n' ∉ line := by
  intro line hline
  cases block with
  | filler filler =>
    rw [Block.lines, List.mem_singleton] at hline
    exact hline ▸ filler.oneLine
  | entry pair =>
    have hkey : '\n' ∉ pair.key.toList := fun hmem => (pair.isKey.plain _ hmem).1 rfl
    have hvalue := pair.isValue.oneLine
    rw [pair.cut, List.mem_append, not_or] at hvalue
    rcases List.mem_cons.mp hline with rfl | hline
    · exact not_mem_marked (by simp [hkey, hvalue.1]) pair.more
    · exact not_mem_of_mem_goOn hvalue.2 line hline

/-- A file is read as its pairs; of two pairs with one key the later value stays. -/
theorem parse_textOf (blocks : List Block) : parse (textOf blocks) = .ofList (pairsOf blocks) := by
  rw [← filterMap_statements, parse, textOf, String.toList_ofList]
  cases hblocks : blocks.flatMap Block.lines with
  | nil => simp [lines, statements, stripBy, isIdle]
  | cons line more =>
    rw [lines_intercalate (List.cons_ne_nil _ _)]
    intro line' hline
    rw [← hblocks] at hline
    obtain ⟨block, -, hmem⟩ := List.mem_flatMap.mp hline
    exact not_mem_of_mem_lines block line' hmem

/-- A file of pairs with different keys is read as exactly these pairs, in their order, wherever the
values are cut and whatever stands between the pairs. -/
theorem entries_parse_textOf (blocks : List Block) (hkeys : ((pairsOf blocks).map (·.1)).Nodup) :
    (parse (textOf blocks)).entries = pairsOf blocks := by
  rw [parse_textOf, OrderedMap.entries_ofList hkeys]

/-- A file with a comment, a blank line and a value that is cut twice: in a blank and behind a
backslash of its own. Another comment tells of a line to come, and the last value is empty. -/
def settledFile : List Block :=
  [.filler
      { blanks := [' '], comment := "# SEEDS=old \\".toList
        blanks_blank := by simp [isBlank], marked := by simp, oneLine := by decide },
    .entry
      { key := "SEED PATH", value := "C:\\a b\\#c = d"
        first := "C:\\a ".toList
        more :=
          [{ indent := "\t ".toList, chunk := "b\\".toList
             indent_blank := by simp [isBlank], chunk_ne_nil := by decide
             chunk_said := by simp [isBlank] },
            { indent := [], chunk := "#c = d".toList
              indent_blank := by simp, chunk_ne_nil := by decide
              chunk_said := by simp [isBlank] }]
        isKey := ⟨by decide, by decide, by simp, by simp⟩
        isValue := ⟨by decide, by decide, by simp⟩
        cut := by decide },
    .filler
      { blanks := "\t\x0d".toList, comment := []
        blanks_blank := by simp [isBlank], marked := by simp, oneLine := by decide },
    .entry
      { key := "EMPTY", value := "", first := [], more := []
        isKey := ⟨by decide, by decide, by simp, by simp⟩
        isValue := ⟨by decide, by decide, by simp⟩
        cut := by decide }]

theorem entries_parse_settledFile :
    textOf settledFile = " # SEEDS=old \\\nSEED PATH=C:\\a \\\n\t b\\\\\n#c = d\n\t\x0d\nEMPTY=" ∧
      ((pairsOf settledFile).map (·.1)).Nodup ∧
      (parse (textOf settledFile)).entries = [("SEED PATH", "C:\\a b\\#c = d"), ("EMPTY", "")] :=
  ⟨by decide, by decide, entries_parse_textOf settledFile (by decide)⟩

end Crosscheck.Configuration.Properties
