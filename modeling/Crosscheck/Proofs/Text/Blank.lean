import Crosscheck.Text.Blank
import Mathlib.Data.List.TakeWhile
/-!
# Blanks at the ends of a text

A text falls into the blanks before it, what is left when they are cut off, and the blanks behind it.
The middle part is told by its ends: they are not blank, or there is no middle part.
-/

namespace Crosscheck.Text

section Strip

variable {α : Type} {p : α → Bool}

/-- A text without the blanks at its ends, and those blanks. -/
theorem exists_stripBy (p : α → Bool) (xs : List α) :
    ∃ before after, xs = before ++ stripBy p xs ++ after ∧ (∀ x ∈ before, p x = true) ∧
      ∀ x ∈ after, p x = true := by
  refine ⟨xs.takeWhile p, ((xs.dropWhile p).reverse.takeWhile p).reverse, ?_,
    List.all_eq_true.mp List.all_takeWhile, ?_⟩
  · have hback := List.takeWhile_append_dropWhile (p := p) (l := (xs.dropWhile p).reverse)
    unfold stripBy
    rw [List.append_assoc, ← List.reverse_append, hback, List.reverse_reverse,
      List.takeWhile_append_dropWhile]
  · intro x hx
    exact List.all_eq_true.mp List.all_takeWhile x (List.mem_reverse.mp hx)

/-- What begins with something else than a blank keeps its beginning. -/
theorem dropWhile_eq_self {xs : List α} (h : ∀ x ∈ xs.head?, p x = false) : xs.dropWhile p = xs := by
  cases xs with
  | nil => rfl
  | cons x rest => rw [List.dropWhile_cons_of_neg (by simpa using h x rfl)]

/-- What is left when blanks are cut off in front does not begin with one. -/
theorem head?_dropWhile (xs : List α) : ∀ x ∈ (xs.dropWhile p).head?, p x = false := by
  intro x hx
  have h := List.head?_dropWhile_not p xs
  rw [Option.mem_def.mp hx] at h
  exact h

theorem head?_stripBy (xs : List α) : ∀ x ∈ (stripBy p xs).head?, p x = false := by
  intro x hx
  obtain ⟨cut, hcut⟩ := List.dropWhile_suffix p (l := (xs.dropWhile p).reverse)
  have hfront : xs.dropWhile p = stripBy p xs ++ cut.reverse := by
    rw [stripBy, ← List.reverse_append, hcut, List.reverse_reverse]
  apply head?_dropWhile xs x
  rw [hfront, Option.mem_def, List.head?_append, Option.mem_def.mp hx]
  rfl

theorem getLast?_stripBy (xs : List α) : ∀ x ∈ (stripBy p xs).getLast?, p x = false := by
  rw [stripBy, List.getLast?_reverse]
  exact head?_dropWhile _

/-- A list whose ends do not satisfy the test stays as it is. -/
theorem stripBy_eq_self {xs : List α} (hfirst : ∀ x ∈ xs.head?, p x = false)
    (hlast : ∀ x ∈ xs.getLast?, p x = false) : stripBy p xs = xs := by
  unfold stripBy
  rw [dropWhile_eq_self hfirst, dropWhile_eq_self (by rwa [List.head?_reverse]),
    List.reverse_reverse]

/-- What satisfies the test is cut off before and behind. -/
theorem stripBy_append {before xs after : List α} (hbefore : ∀ x ∈ before, p x = true)
    (hafter : ∀ x ∈ after, p x = true) (hne : xs ≠ []) (hfirst : ∀ x ∈ xs.head?, p x = false)
    (hlast : ∀ x ∈ xs.getLast?, p x = false) : stripBy p (before ++ xs ++ after) = xs := by
  have hfront : (before ++ xs ++ after).dropWhile p = xs ++ after := by
    rw [List.append_assoc, List.dropWhile_append_of_pos hbefore]
    obtain ⟨x, rest, rfl⟩ := List.exists_cons_of_ne_nil hne
    exact dropWhile_eq_self hfirst
  have hback : (xs ++ after).reverse.dropWhile p = xs.reverse := by
    rw [List.reverse_append,
      List.dropWhile_append_of_pos fun x hx => hafter x (List.mem_reverse.mp hx)]
    exact dropWhile_eq_self (by rwa [List.head?_reverse])
  unfold stripBy
  rw [hfront, hback, List.reverse_reverse]

/-- What begins a text behind its blanks still begins it when its ends are cut off. -/
theorem head?_stripBy_append {before : List α} {x : α} (hbefore : ∀ y ∈ before, p y = true)
    (hx : p x = false) (rest : List α) : (stripBy p (before ++ x :: rest)).head? = some x := by
  have hfront : (before ++ x :: rest).dropWhile p = x :: rest := by
    rw [List.dropWhile_append_of_pos hbefore, List.dropWhile_cons_of_neg (by simp [hx])]
  rw [stripBy, hfront, List.reverse_cons, List.dropWhile_append]
  split
  · rw [List.dropWhile_cons_of_neg (by simp [hx])]
    rfl
  · rw [List.reverse_concat, List.head?_cons]

/-- Nothing is left of what satisfies the test throughout. -/
theorem stripBy_of_all {xs : List α} (h : ∀ x ∈ xs, p x = true) : stripBy p xs = [] := by
  unfold stripBy
  rw [List.dropWhile_eq_nil_iff.mpr h]
  rfl

end Strip

theorem trim_eq_self {s : String} (hfirst : ∀ c ∈ s.toList.head?, isBlank c = false)
    (hlast : ∀ c ∈ s.toList.getLast?, isBlank c = false) : trim s = s := by
  rw [trim, stripBy_eq_self hfirst hlast, String.ofList_toList]

theorem head?_of_trim_eq_self {s : String} (h : trim s = s) :
    ∀ c ∈ s.toList.head?, isBlank c = false := by
  rw [← h, trim, String.toList_ofList]
  exact head?_stripBy _

theorem getLast?_of_trim_eq_self {s : String} (h : trim s = s) :
    ∀ c ∈ s.toList.getLast?, isBlank c = false := by
  rw [← h, trim, String.toList_ofList]
  exact getLast?_stripBy _

theorem isBlank_of_isDigit {c : Char} (h : c.isDigit = true) : isBlank c = false := by
  have hrange : 48 ≤ c.toNat ∧ c.toNat ≤ 57 := by
    simp only [Char.isDigit, Bool.and_eq_true, decide_eq_true_eq] at h
    exact ⟨h.1, h.2⟩
  unfold isBlank
  simp only [Bool.or_eq_false_iff, Bool.and_eq_false_iff, decide_eq_false_iff_not, beq_eq_false_iff_ne]
  omega

end Crosscheck.Text
