import Crosscheck.Proofs.Behaviour.Equivalence
import Crosscheck.Proofs.Behaviour.Reading
/-!
# What rules write

The texts that rules put in the place of a node spell the words of statements. Every piece of such a
text that is a node's own ends in the middle of nothing, and what is written behind it begins with
something that ends a word. The condition without its parentheses is the one piece that may end in
the middle of something: a line comment behind it loses its line feed with the blanks at the end.
-/

namespace Crosscheck.Behaviour

open Crosscheck.Java Crosscheck.Text Crosscheck.Variation

/-! ## Words of forms -/

open Statement

theorem wordsOf_append (xs ys : List Statement) :
    words.wordsOf (xs ++ ys) = words.wordsOf xs ++ words.wordsOf ys := by
  induction xs with
  | nil => rfl
  | cons s rest ih => simp only [List.cons_append, words.wordsOf, ih]

theorem wordsOf_inits (inits : List Init) :
    words.wordsOf (inits.map Init.statement) = inits.map fun init => terminated init.words := by
  induction inits with
  | nil => rfl
  | cons init rest ih =>
    simp only [List.map_cons, words.wordsOf, ih]
    cases init <;> rfl

theorem wordsOf_updates (updates : List Expression) :
    words.wordsOf (updates.map Statement.expression) = updates.map terminated := by
  induction updates with
  | nil => rfl
  | cons e rest ih =>
    simp only [List.map_cons, words.wordsOf, ih]
    rfl

theorem words_asWhile (inits : List Init) (c : Condition) (updates : List Expression)
    (body : Statement) :
    (asWhile inits c updates body).words =
      ([[word "\x7b"]] ++ inits.map (fun init => terminated init.words)
        ++ [[word "while"] ++ parenthesized c.words ++ [word "\x7b"]]
        ++ words.wordsOf body.asBody ++ updates.map terminated
        ++ [[word "\x7d"], [word "\x7d"]]).flatten := by
  show [word "\x7b"] ++ (words.wordsOf (_ ++ _)).flatten ++ [word "\x7d"] = _
  rw [wordsOf_append, wordsOf_inits]
  show _ ++ (_ ++ [[word "while"] ++ parenthesized c.words
    ++ ([word "\x7b"] ++ (words.wordsOf (_ ++ _)).flatten ++ [word "\x7d"])]).flatten ++ _ = _
  rw [wordsOf_append, wordsOf_updates]
  simp only [List.flatten_append, List.flatten_cons, List.flatten_nil, List.append_nil,
    List.append_assoc, List.cons_append, List.nil_append]

/-! ## Pieces -/

namespace Spells

variable {text : Glyphs} {said : List Word}

/-- A text with a semicolon. -/
theorem terminated (h : Spells text said) :
    Spells (text ++ ofString ";") (Behaviour.terminated said) :=
  h.append (by decide) ⟨by decide, by decide⟩

/-- A text between a text that ends in the middle of nothing and one that is read apart. -/
theorem enclosed {front back : Glyphs} {xs ys : List Word} (h : Spells text said)
    (hfront : settled front = true) (hwords : Behaviour.words front = xs)
    (hopens : opensApart back = true) (hback : Spells back ys) :
    Spells (front ++ text ++ back) (xs ++ said ++ ys) := by
  rw [List.append_assoc, List.append_assoc]
  exact (h.append hopens hback).prepend hfront hwords

/-- A text in braces. -/
theorem braced (h : Spells text said) :
    Spells (ofString "\x7b " ++ text ++ ofString " \x7d")
      ([word "\x7b"] ++ said ++ [word "\x7d"]) :=
  h.enclosed (by decide) (by decide) (by decide) ⟨by decide, by decide⟩

/-- Lines say what each of them says. -/
theorem joinLines {lines : List Glyphs} {saids : List (List Word)}
    (h : List.Forall₂ Spells lines saids) (hne : lines ≠ []) :
    Spells (joinLines lines) saids.flatten := by
  induction h with
  | nil => exact absurd rfl hne
  | @cons line said lines saids hline hlines ih =>
    cases hlines with
    | nil =>
      rwa [List.flatten_singleton, Variation.joinLines, List.intercalate_singleton]
    | @cons next _ rest _ _ _ =>
      have hblank : ∀ g ∈ [Glyph.char '\n'], g.isBlank = true := by decide
      have hrest := (ih (List.cons_ne_nil _ _)).blanks_append hblank
      have hbreak : opensApart ([.char '\n'] ++ Variation.joinLines (next :: rest)) = true :=
        opensApart_append (by decide) _
      exact hline.append hbreak hrest

end Spells

section Texts

variable {source : Bytes} {s : Statement} {node : Node}

theorem spells_blockText (h : reads source s node = true) :
    Spells (blockText source node) s.asBlock.words := by
  have hblock := isOfKind_block_iff (isOfKind_of_reads h)
  unfold blockText
  by_cases hkind : node.kind = "block"
  · obtain ⟨body, rfl⟩ := hblock.mp hkind
    rw [if_pos (beq_iff_eq.mpr hkind)]
    exact spells_of_reads h
  · have hwords : s.asBlock.words = [word "\x7b"] ++ s.words ++ [word "\x7d"] := by
      cases s with
      | block body => exact absurd (hblock.mpr ⟨body, rfl⟩) hkind
      | _ => exact congrArg (_ ++ · ++ _) (List.append_nil _)
    rw [if_neg (fun heq => hkind (beq_iff_eq.mp heq)), hwords]
    exact (spells_of_reads h).braced

/-- The text of a condition without its parentheses. -/
theorem conditionText_of_reads {c : Condition} (h : readsParenthesized source c node = true) :
    ∃ e, c = .given e ∧ words (conditionText source node) = e ∧
      (closed (conditionText source node) = true ∨
        endsInComment (conditionText source node) = true) := by
  cases c with
  | given e =>
    have h := Bool.and_eq_true_iff.mp h
    have hinside := spells_iff.mp h.2
    obtain ⟨hwords, hends⟩ := trimGlyphs_of_closed hinside.closed
    unfold conditionText
    rw [if_pos h.1]
    exact ⟨e, rfl, hwords.trans hinside.words, hends⟩
  | always => exact nomatch h
  | negated e => exact nomatch h

/-! ## A loop line by line -/

theorem spells_init {init : Init} (h : readsInit source init node = true) :
    Spells (if (node.text source).getLast? == some (.char ';') then node.text source
      else node.text source ++ ofString ";") (terminated init.words) := by
  cases init with
  | declaration d =>
    obtain ⟨hends, hspells⟩ := Bool.and_eq_true_iff.mp h
    unfold isTerminated at hends
    rw [if_pos hends]
    exact spells_iff.mp hspells
  | expression e =>
    obtain ⟨hends, hspells⟩ := Bool.and_eq_true_iff.mp h
    rw [Bool.not_eq_true'] at hends
    unfold isTerminated at hends
    rw [if_neg (Bool.eq_false_iff.mp hends)]
    exact (spells_iff.mp hspells).terminated

theorem spells_optional {c : Condition} {part : Option Node}
    (h : readsOptional source c part = true) :
    Spells ((part.map (·.text source)).getD (ofString "true")) c.words := by
  match c, part with
  | .always, none =>
    show Spells (ofString "true") [word "true"]
    exact ⟨by decide, by decide⟩
  | .given e, some part => exact spells_iff.mp h

/-- The first line of a `while` loop. -/
theorem spells_whileLine {text : Glyphs} {said : List Word} (h : Spells text said) :
    Spells (ofString "while (" ++ text ++ ofString ") \x7b")
      ([word "while"] ++ parenthesized said ++ [word "\x7b"]) := by
  have hwords : [word "while"] ++ parenthesized said ++ [word "\x7b"] =
      [word "while", word "("] ++ said ++ [word ")", word "\x7b"] := by
    simp only [parenthesized, List.append_assoc, List.cons_append, List.nil_append]
  rw [hwords]
  exact h.enclosed (by decide) (by decide) (by decide) ⟨by decide, by decide⟩

/-- The lines of the body of a loop. -/
theorem spells_statementLines {indent : Glyphs} (hindent : ∀ g ∈ indent, g.isBlank = true)
    (h : reads source s node = true) :
    List.Forall₂ Spells
      (if node.kind == "block" then [indent ++ blockText source node]
        else if node.kind != ";" then [indent ++ bodyText source node] else [])
      (words.wordsOf s.asBody) := by
  have hkinds := isOfKind_of_reads h
  by_cases hblock : node.kind = "block"
  · obtain ⟨body, rfl⟩ := (isOfKind_block_iff hkinds).mp hblock
    rw [if_pos (beq_iff_eq.mpr hblock)]
    exact .cons ((spells_blockText h).blanks_append hindent) .nil
  · rw [if_neg (fun heq => hblock (beq_iff_eq.mp heq))]
    by_cases hempty : node.kind = ";"
    · obtain rfl := (isOfKind_empty_iff hkinds).mp hempty
      rw [if_neg (fun hne => bne_iff_ne.mp hne hempty)]
      exact .nil
    · have hbody : s.asBody = [s] := by
        cases s with
        | empty => exact absurd ((isOfKind_empty_iff hkinds).mpr rfl) hempty
        | _ => rfl
      have htext : bodyText source node = node.text source :=
        if_neg fun heq => hblock (beq_iff_eq.mp heq)
      rw [if_pos (bne_iff_ne.mpr hempty), hbody, htext]
      exact .cons ((spells_of_reads h).blanks_append hindent) .nil

/-- A `for` loop is written as a `while` loop in a block. -/
theorem spells_loopConversion1 {inits : List Init} {c : Condition} {updates : List Expression}
    {body : Statement} (h : reads source (.forLoop inits c updates body) node = true) :
    ∃ text, loopConversion1.replacement source node = some text ∧
      Spells text (asWhile inits c updates body).words := by
  simp only [reads, Bool.and_eq_true] at h
  obtain ⟨⟨⟨⟨-, hinits⟩, hcondition⟩, hupdates⟩, hbody⟩ := h
  obtain ⟨part, hpart, hreads⟩ := (Option.any_eq_true _ _).mp hbody
  simp only [loopConversion1, hpart, Option.map_some, Option.some.injEq, exists_eq_left']
  generalize hspaces : List.replicate (position source node.start).column (Glyph.char ' ') = indent
  have hindent : ∀ g ∈ indent, g.isBlank = true := by
    intro g hg
    rw [← hspaces] at hg
    rw [List.eq_of_mem_replicate hg]
    decide
  have hfour : ∀ g ∈ indent ++ ofString "    ", g.isBlank = true :=
    List.forall_mem_append.mpr ⟨hindent, by decide⟩
  have height : ∀ g ∈ indent ++ (ofString "    " ++ ofString "    "), g.isBlank = true :=
    List.forall_mem_append.mpr ⟨hindent, by decide⟩
  have hbrace : Spells (ofString "\x7d") [word "\x7d"] := ⟨by decide, by decide⟩
  have hopening : List.Forall₂ Spells [ofString "\x7b"] [[word "\x7b"]] :=
    .cons ⟨by decide, by decide⟩ .nil
  have hinitLines := forall₂_map_of_readsEach
    (fun init part (hinit : readsInit source init part = true) =>
      (spells_init hinit).blanks_append hfour) hinits
  have hwhile := (spells_whileLine (spells_optional hcondition)).blanks_append hfour
  have hstatement := spells_statementLines height hreads
  have hupdateLines := forall₂_map_of_readsEach
    (fun e part (hupdate : readsUpdate source e part = true) =>
      (spells_iff.mp hupdate).terminated.blanks_append height) hupdates
  have hclosing : List.Forall₂ Spells
      [indent ++ ofString "    " ++ ofString "\x7d", indent ++ [] ++ ofString "\x7d"]
      [[word "\x7d"], [word "\x7d"]] := by
    rw [List.append_nil]
    exact .cons (hbrace.blanks_append hfour) (.cons (hbrace.blanks_append hindent) .nil)
  rw [words_asWhile]
  refine Spells.joinLines ?_ (List.append_ne_nil_of_left_ne_nil (List.cons_ne_nil _ _) _)
  exact List.rel_append (List.rel_append (List.rel_append (List.rel_append
    (List.rel_append hopening hinitLines) (.cons hwhile .nil)) hstatement) hupdateLines) hclosing

/-! ## Texts around a statement -/

theorem spells_addBrackets (h : reads source s node = true) :
    ∃ text, addBrackets.replacement source node = some text ∧
      Spells text (Statement.block [s]).words := by
  have hwords : (Statement.block [s]).words = [word "\x7b"] ++ s.words ++ [word "\x7d"] :=
    congrArg (_ ++ · ++ _) (List.append_nil _)
  rw [hwords]
  exact ⟨_, rfl, (spells_of_reads h).braced⟩

theorem spells_wrapInIf (h : reads source s node = true) :
    ∃ text, wrapInIf.replacement source node = some text ∧
      Spells text (Statement.ifThen .always (.block [s])).words := by
  have hwords : (Statement.ifThen .always (.block [s])).words =
      [word "if", word "(", word "true", word ")", word "\x7b"] ++ s.words ++ [word "\x7d"] := by
    simp only [Statement.words, words.wordsOf, Condition.words, parenthesized,
      List.flatten_singleton, List.cons_append, List.nil_append]
  rw [hwords]
  exact ⟨_, rfl, (spells_of_reads h).enclosed (by decide) (by decide) (by decide)
    ⟨by decide, by decide⟩⟩

theorem spells_wrapInWhile (h : reads source s node = true) :
    ∃ text, wrapInWhile.replacement source node = some text ∧
      Spells text (Statement.whileLoop .always (.block [s, .exit none])).words := by
  have hwords : (Statement.whileLoop .always (.block [s, .exit none])).words =
      [word "while", word "(", word "true", word ")", word "\x7b"] ++ s.words
        ++ [word "break", word ";", word "\x7d"] := by
    simp only [Statement.words, words.wordsOf, Condition.words, parenthesized, labelWords,
      Behaviour.terminated, Option.toList_none, List.flatten_cons, List.flatten_nil,
      List.append_nil, List.append_assoc, List.cons_append, List.nil_append]
  rw [hwords]
  exact ⟨_, rfl, (spells_of_reads h).enclosed (by decide) (by decide) (by decide)
    ⟨by decide, by decide⟩⟩

/-! ## Texts behind a condition -/

/-- The text of a condition, and the text that is written behind it on the same line. -/
structure Seam where
  condition : Glyphs
  behind : Glyphs

/-- Whether nothing is lost at a seam. If the condition ends in the middle of a line comment, then
what is behind the first line of the other text would have to say all that the text says. -/
def Seam.Holds (seam : Seam) : Prop :=
  closed seam.condition = true ∨ Spells (afterLine seam.behind) (words seam.behind)

theorem spells_seam_iff {front : Glyphs} {seam : Seam} {xs e ys : List Word}
    (hfront : settled front = true) (hxs : words front = xs)
    (hends : closed seam.condition = true ∨ endsInComment seam.condition = true)
    (he : words seam.condition = e) (hopens : opensApart seam.behind = true)
    (hbehind : Spells seam.behind ys) (hys : ys ≠ []) :
    Spells (front ++ (seam.condition ++ seam.behind)) (xs ++ (e ++ ys)) ↔ seam.Holds := by
  rw [Spells.prepend_iff hfront hxs, ← he, spells_append_iff hends hopens hbehind hys, Seam.Holds,
    hbehind.words]

/-- The seam of a `while` loop that is written as a `for` loop. -/
def loopSeam? (source : Bytes) (node : Node) : Option Seam := do
  let condition ← node.part? .condition
  let body ← node.part? .body
  return ⟨conditionText source condition, ofString "; ) " ++ body.text source⟩

/-- A `while` loop is written as a `for` loop, if nothing is lost. -/
theorem spells_loopConversion2_iff {c : Condition} {body : Statement}
    (h : reads source (.whileLoop c body) node = true) :
    ∃ text seam, loopConversion2.replacement source node = some text ∧
      loopSeam? source node = some seam ∧
      (Spells text (Statement.forLoop [] c [] body).words ↔ seam.Holds) := by
  simp only [reads, Bool.and_eq_true] at h
  obtain ⟨⟨-, hcondition⟩, hbody⟩ := h
  obtain ⟨condition, hcpart, hcreads⟩ := (Option.any_eq_true _ _).mp hcondition
  obtain ⟨part, hpart, hreads⟩ := (Option.any_eq_true _ _).mp hbody
  obtain ⟨e, rfl, hwords, hends⟩ := conditionText_of_reads hcreads
  let seam : Seam := ⟨conditionText source condition, ofString "; ) " ++ part.text source⟩
  have htext : loopConversion2.replacement source node =
      some (ofString "for (; " ++ (seam.condition ++ seam.behind)) := by
    simp only [loopConversion2, hcpart, hpart, seam, Option.pure_def, Option.bind_eq_bind,
      Option.bind_some, List.append_assoc]
  have hseam : loopSeam? source node = some seam := by
    simp only [loopSeam?, hcpart, hpart, seam, Option.pure_def, Option.bind_eq_bind,
      Option.bind_some]
  have hbehind : Spells seam.behind ([word ";", word ")"] ++ body.words) :=
    (spells_of_reads hreads).prepend (by decide) (by decide)
  have hform : (Statement.forLoop [] (.given e) [] body).words =
      [word "for", word "(", word ";"] ++ (e ++ ([word ";", word ")"] ++ body.words)) := by
    simp [Statement.words, parenthesized, Behaviour.terminated, separated, Condition.optionalWords,
      Condition.words]
  refine ⟨_, seam, htext, hseam, ?_⟩
  rw [hform]
  exact spells_seam_iff (by decide) (by decide) hends hwords (opensApart_append (by decide) _)
    hbehind (List.cons_ne_nil _ _)

/-- The seam of a choice whose branches are exchanged. -/
def choiceSeam? (source : Bytes) (node : Node) : Option Seam := do
  let condition ← node.part? .condition
  let consequence ← node.part? .consequence
  let alternative ← node.part? .alternative
  return ⟨conditionText source condition, ofString ")) " ++ blockText source alternative
    ++ ofString " else " ++ blockText source consequence⟩

/-- A choice is written with its branches exchanged, if nothing is lost. -/
theorem spells_swapBranches_iff {c : Condition} {a b : Statement}
    (h : reads source (.ifElse c a b) node = true) :
    ∃ e text seam, c = .given e ∧ swapBranches.replacement source node = some text ∧
      choiceSeam? source node = some seam ∧
      (Spells text (Statement.ifElse (.negated e) b.asBlock a.asBlock).words ↔ seam.Holds) := by
  simp only [reads, Bool.and_eq_true] at h
  obtain ⟨⟨⟨-, hcondition⟩, hconsequence⟩, halternative⟩ := h
  obtain ⟨condition, hcpart, hcreads⟩ := (Option.any_eq_true _ _).mp hcondition
  obtain ⟨yes, hypart, hyreads⟩ := (Option.any_eq_true _ _).mp hconsequence
  obtain ⟨no, hnpart, hnreads⟩ := (Option.any_eq_true _ _).mp halternative
  obtain ⟨e, rfl, hwords, hends⟩ := conditionText_of_reads hcreads
  let seam : Seam := ⟨conditionText source condition,
    ofString ")) " ++ blockText source no ++ ofString " else " ++ blockText source yes⟩
  have htext : swapBranches.replacement source node =
      some (ofString "if (!(" ++ (seam.condition ++ seam.behind)) := by
    simp only [swapBranches, hcpart, hypart, hnpart, seam, Option.pure_def, Option.bind_eq_bind,
      Option.bind_some, List.append_assoc]
  have hseam : choiceSeam? source node = some seam := by
    simp only [choiceSeam?, hcpart, hypart, hnpart, seam, Option.pure_def, Option.bind_eq_bind,
      Option.bind_some]
  have helse : Spells (ofString " else " ++ blockText source yes)
      ([word "else"] ++ a.asBlock.words) :=
    (spells_blockText hyreads).prepend (by decide) (by decide)
  have hbehind : Spells seam.behind
      ([word ")", word ")"] ++ b.asBlock.words ++ ([word "else"] ++ a.asBlock.words)) := by
    show Spells (_ ++ _ ++ _ ++ _) _
    rw [List.append_assoc]
    exact (spells_blockText hnreads).enclosed (by decide) (by decide)
      (opensApart_append (by decide) _) helse
  have hform : (Statement.ifElse (.negated e) b.asBlock a.asBlock).words =
      [word "if", word "(", word "!", word "("] ++ (e ++ ([word ")", word ")"] ++ b.asBlock.words
        ++ ([word "else"] ++ a.asBlock.words))) := by
    simp [Statement.words, parenthesized, Condition.words]
  refine ⟨e, _, seam, rfl, htext, hseam, ?_⟩
  rw [hform]
  refine spells_seam_iff (by decide) (by decide) hends hwords ?_ hbehind (List.cons_ne_nil _ _)
  show opensApart (_ ++ _ ++ _ ++ _) = true
  rw [List.append_assoc, List.append_assoc]
  exact opensApart_append (by decide) _

end Texts

end Crosscheck.Behaviour
