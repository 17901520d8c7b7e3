import Crosscheck.Files.Wildcard
import Mathlib.Data.List.Basic
/-!
# Patterns without brackets

A pattern without an opening bracket is read character by character, and most characters stand for
themselves. Text without one is in its own pattern, whatever stands in the place of an asterisk. A
pattern is refused for two asterisks side by side, whatever else is in it.
-/

namespace Crosscheck.Files.Wildcard

/-- Text in which every character stands for itself. -/
def Plain (cs : List Char) : Prop := ∀ c ∈ cs, c ∉ ['*', '?', '[']

instance (cs : List Char) : Decidable (Plain cs) := List.decidableBAll _ cs

variable {front back rest cs : List Char} {elements : List Wildcard}

/-! ## Reading a pattern -/

/-- The element that a character other than an opening bracket is read as. -/
def elementOf (c : Char) : Wildcard :=
  if c = '*' then .anyText else if c = '?' then .anyChar else .exactly c

theorem parseFrom_cons {c : Char} (h : c ≠ '[') (fuel : Nat) (rest : List Char) :
    parseFrom (fuel + 1) (c :: rest) = elementOf c :: parseFrom fuel rest := by
  by_cases hstar : c = '*'
  · subst hstar; rfl
  · by_cases hmark : c = '?'
    · subst hmark; rfl
    · rw [elementOf, if_neg hstar, if_neg hmark, parseFrom]
      · exact hstar
      · exact hmark
      · exact h

/-- A pattern without brackets is read character by character. -/
theorem parse_of_unbracketed (h : '[' ∉ cs) :
    parse (String.ofList cs) = cs.map elementOf := by
  unfold parse
  rw [String.toList_ofList]
  induction cs with
  | nil => rfl
  | cons c rest ih =>
    rw [List.mem_cons, not_or] at h
    rw [List.length_cons, parseFrom_cons (Ne.symm h.1), ih h.2, List.map_cons]

theorem Plain.unbracketed (h : Plain cs) : '[' ∉ cs := fun hmem => h '[' hmem (by simp)

/-! ## Two asterisks -/

/-- Two asterisks stand side by side on one of the sides of any other character. -/
theorem isRecursive_append_cons {c : Char} (h : c ≠ '*') (front back : List Char) :
    isRecursive (front ++ c :: back) = (isRecursive front || isRecursive back) := by
  have hback : isRecursive (c :: back) = isRecursive back := by
    rw [isRecursive]
    exact fun more hstar _ => h hstar
  induction front with
  | nil => exact hback
  | cons a more ih =>
    by_cases hstars : a = '*' ∧ more.head? = some '*'
    · obtain ⟨rfl, hhead⟩ := hstars
      obtain ⟨rest, rfl⟩ := List.head?_eq_some_iff.mp hhead
      rfl
    · have hstep {cs : List Char} (hcs : cs.head? = more.head? ∨ cs.head? ≠ some '*') :
          isRecursive (a :: cs) = isRecursive cs := by
        rw [isRecursive]
        rintro rest rfl rfl
        rcases hcs with heq | hne
        · exact hstars ⟨rfl, heq.symm⟩
        · exact hne rfl
      have hwhole : (more ++ c :: back).head? = more.head? ∨
          (more ++ c :: back).head? ≠ some '*' := by
        cases more with
        | nil => exact .inr (by simpa using h)
        | cons b others => exact .inl rfl
      rw [List.cons_append, hstep hwhole, ih, hstep (.inl rfl)]

/-- An asterisk before any other character, or at the end, has none at its side. -/
theorem isRecursive_star_cons (h : back.head? ≠ some '*') :
    isRecursive ('*' :: back) = isRecursive back := by
  rw [isRecursive]
  rintro rest - rfl
  exact h rfl

/-- Plain text has no two asterisks side by side. -/
theorem Plain.isRecursive (h : Plain cs) : isRecursive cs = false := by
  induction cs with
  | nil => rfl
  | cons c rest ih =>
    obtain ⟨hc, hrest⟩ := List.forall_mem_cons.mp h
    rw [Wildcard.isRecursive, ih hrest]
    rintro _ rfl
    exact absurd List.mem_cons_self hc

/-! ## What a pattern stands for -/

theorem anySuffix_iff {p : List Char → Bool} :
    anySuffix p cs = true ↔ ∃ middle rest, cs = middle ++ rest ∧ p rest = true := by
  induction cs with
  | nil => simp [anySuffix]
  | cons c more ih =>
    rw [anySuffix, Bool.or_eq_true, ih]
    constructor
    · rintro (hall | ⟨middle, rest, rfl, hrest⟩)
      · exact ⟨[], _, rfl, hall⟩
      · exact ⟨c :: middle, rest, rfl, hrest⟩
    · rintro ⟨_ | ⟨d, middle⟩, rest, heq, hrest⟩
      · exact .inl (heq ▸ hrest)
      · exact .inr ⟨middle, rest, (List.cons.inj heq).2, hrest⟩

/-- Text without brackets is in its own pattern. -/
theorem accept_elements (h : '[' ∉ front) (hrest : accept elements cs = true) :
    accept (front.map elementOf ++ elements) (front ++ cs) = true := by
  induction front with
  | nil => exact hrest
  | cons c more ih =>
    rw [List.mem_cons, not_or] at h
    have hmore := ih h.2
    by_cases hstar : c = '*'
    · subst hstar
      exact anySuffix_iff.mpr ⟨['*'], _, rfl, hmore⟩
    · by_cases hmark : c = '?'
      · subst hmark
        exact hmore
      · simpa [elementOf, hstar, hmark, accept, accepts] using hmore

/-- Text without brackets is in its own pattern, whatever stands in the place of an asterisk. -/
theorem accept_parse_of_unbracketed (hfront : '[' ∉ front) (hback : '[' ∉ back)
    (middle : List Char) :
    accept (parse (String.ofList (front ++ '*' :: back))) (front ++ (middle ++ back)) = true := by
  have hopen : '[' ∉ front ++ '*' :: back := by simp [hfront, hback]
  rw [parse_of_unbracketed hopen, List.map_append, List.map_cons]
  have hend : accept (back.map elementOf ++ []) (back ++ []) = true := accept_elements hback rfl
  rw [List.append_nil, List.append_nil] at hend
  exact accept_elements hfront (anySuffix_iff.mpr ⟨middle, back, rfl, hend⟩)

end Crosscheck.Files.Wildcard
