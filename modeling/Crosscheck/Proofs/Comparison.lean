import Crosscheck.Comparison
/-!
# When kinds of findings have an order

A comparison sorts the kinds that come up in a seed or in its mutant. Text is sorted with text, and
numbers with numbers; kinds that are neither all text nor all numbers have no common order, unless
there is only one.
-/

namespace Crosscheck

open Crosscheck.Document

/-! ## Traversals -/

/-- Two steps give an answer if the first does, and the second after that answer. -/
theorem bind_eq_ok_iff {ε α β : Type} {result : Except ε α} {next : α → Except ε β} {b : β} :
    result >>= next = .ok b ↔ ∃ a, result = .ok a ∧ next a = .ok b := by
  cases result with
  | error e => exact iff_of_false (fun h => nomatch h) fun ⟨_, h, _⟩ => nomatch h
  | ok a =>
    refine ⟨fun h => ⟨a, rfl, h⟩, ?_⟩
    rintro ⟨_, ⟨⟩, h⟩
    exact h

/-- A traversal gives an answer if every step does. -/
theorem mapM_ok_iff {ε α β : Type} (f : α → Except ε β) (items : List α) :
    (∃ answers, items.mapM f = .ok answers) ↔ ∀ item ∈ items, ∃ answer, f item = .ok answer := by
  induction items with
  | nil => exact iff_of_true ⟨[], rfl⟩ fun item hitem => nomatch hitem
  | cons item rest ih =>
    rw [List.forall_mem_cons, ← ih]
    simp only [List.mapM_cons]
    cases f item with
    | error fault => exact iff_of_false (fun ⟨_, h⟩ => nomatch h) fun ⟨⟨_, h⟩, _⟩ => nomatch h
    | ok answer =>
      cases rest.mapM f with
      | error fault => exact iff_of_false (fun ⟨_, h⟩ => nomatch h) fun ⟨_, _, h⟩ => nomatch h
      | ok answers => exact iff_of_true ⟨_, rfl⟩ ⟨⟨_, rfl⟩, _, rfl⟩

/-- A traversal gives the answers of its steps. -/
theorem mapM_eq_ok {ε α β : Type} {f : α → Except ε β} {items : List α} {answers : List β}
    (h : items.mapM f = .ok answers) (default : β) :
    answers = items.map fun item => (f item).toOption.getD default := by
  induction items generalizing answers with
  | nil => cases h; rfl
  | cons item rest ih =>
    rw [List.mapM_cons] at h
    obtain ⟨answer, hitem, h⟩ := bind_eq_ok_iff.mp h
    obtain ⟨others, hrest, ⟨⟩⟩ := bind_eq_ok_iff.mp h
    rw [List.map_cons, hitem, ← ih hrest]
    rfl

/-- A traversal gives what its steps are known to give. -/
theorem mapM_eq_ok_map {ε α β : Type} {f : α → Except ε β} {g : α → β} {items : List α}
    (h : ∀ item ∈ items, f item = .ok (g item)) : items.mapM f = .ok (items.map g) := by
  induction items with
  | nil => rfl
  | cons item rest ih =>
    rw [List.mapM_cons, h item List.mem_cons_self,
      ih fun other hother => h other (List.mem_cons_of_mem _ hother)]
    rfl

/-- A traversal fails with the fault of one of its steps. -/
theorem mapM_eq_error {ε α β : Type} {f : α → Except ε β} {items : List α} {fault : ε}
    (h : items.mapM f = .error fault) : ∃ item ∈ items, f item = .error fault := by
  induction items with
  | nil => exact nomatch h
  | cons item rest ih =>
    rw [List.mapM_cons] at h
    cases hitem : f item with
    | error first =>
      rw [hitem] at h
      cases h
      exact ⟨item, List.mem_cons_self, hitem⟩
    | ok answer =>
      cases hrest : rest.mapM f with
      | error later =>
        rw [hitem, hrest] at h
        cases h
        obtain ⟨other, hother, hfault⟩ := ih hrest
        exact ⟨other, List.mem_cons_of_mem item hother, hfault⟩
      | ok answers => rw [hitem, hrest] at h; exact nomatch h

theorem mapM_isSome_iff {α β : Type} (f : α → Option β) (items : List α) :
    (items.mapM f).isSome = true ↔ ∀ item ∈ items, (f item).isSome = true := by
  induction items with
  | nil => exact iff_of_true rfl fun item hitem => nomatch hitem
  | cons item rest ih =>
    rw [List.forall_mem_cons, ← ih]
    simp only [List.mapM_cons]
    cases f item with
    | none => exact iff_of_false Bool.false_ne_true fun h => Bool.false_ne_true h.1
    | some answer => cases rest.mapM f <;> simp

/-! ## Kinds -/

/-- Whether kinds can be put in order. -/
def HaveOrder (kinds : List Value) : Prop :=
  (∀ kind ∈ kinds, (textOf? kind).isSome = true) ∨ kinds.length ≤ 1 ∨
    ∀ kind ∈ kinds, (exactNumber? kind).isSome = true

theorem sortKinds_ok_iff (kinds : List Value) :
    (∃ sorted, sortKinds kinds = .ok sorted) ↔ HaveOrder kinds := by
  unfold HaveOrder
  rw [← mapM_isSome_iff]
  unfold sortKinds
  cases htexts : kinds.mapM textOf? with
  | some texts => exact iff_of_true ⟨_, rfl⟩ (.inl rfl)
  | none =>
    by_cases hlength : kinds.length ≤ 1
    · simp only [hlength, if_true]
      exact iff_of_true ⟨_, rfl⟩ (.inr (.inl trivial))
    · simp only [hlength, if_false, false_or]
      have hkeyed : (kinds.mapM fun kind => (exactNumber? kind).map (·, kind)).isSome = true ↔
          ∀ kind ∈ kinds, (exactNumber? kind).isSome = true := by
        rw [mapM_isSome_iff]
        simp only [Option.isSome_map]
      rw [← hkeyed]
      cases kinds.mapM fun kind => (exactNumber? kind).map (·, kind) with
      | some numbers => exact iff_of_true ⟨_, rfl⟩ (.inr rfl)
      | none => exact iff_of_false (fun ⟨_, h⟩ => nomatch h) (by simp)

theorem sortKinds_eq_error {kinds : List Value} {fault : Fault}
    (h : sortKinds kinds = .error fault) : fault = .notOrdered := by
  unfold sortKinds at h
  split at h
  · exact nomatch h
  · split at h
    · exact nomatch h
    · split at h
      · exact nomatch h
      · cases h; rfl

/-! ## Comparisons -/

/-- Whether a seed and a mutant can be compared. -/
def Comparable (index : Index) (seed mutant : String) : Prop :=
  HaveOrder (kindsOf (index.bugCounts seed) (index.bugCounts mutant))

theorem compare_ok_iff (index : Index) (seed mutant : String) :
    (∃ found, compare index seed mutant = .ok found) ↔ Comparable index seed mutant := by
  unfold Comparable
  rw [← sortKinds_ok_iff]
  unfold compare
  dsimp only
  cases sortKinds (kindsOf (index.bugCounts seed) (index.bugCounts mutant)) with
  | error fault => exact iff_of_false (fun ⟨_, h⟩ => nomatch h) fun ⟨_, h⟩ => nomatch h
  | ok sorted => exact iff_of_true ⟨_, rfl⟩ ⟨_, rfl⟩

/-- The inconsistencies of a seed and a mutant that can be compared. -/
def inconsistenciesOf (index : Index) (seed mutant : String) : List Inconsistency :=
  (compare index seed mutant).toOption.getD []

/-- An inconsistency is between the files that are compared, and one of them has findings. -/
theorem exists_of_mem_inconsistenciesOf {index : Index} {seed mutant : String} {i : Inconsistency}
    (h : i ∈ inconsistenciesOf index seed mutant) :
    i.seed = seed ∧ i.mutant = mutant ∧
      (index.bugsOf i.seed ≠ .empty ∨ index.bugsOf i.mutant ≠ .empty) := by
  unfold inconsistenciesOf compare at h
  dsimp only at h
  cases hsorted : sortKinds (kindsOf (index.bugCounts seed) (index.bugCounts mutant)) with
  | error fault =>
    rw [hsorted] at h
    exact absurd h List.not_mem_nil
  | ok sorted =>
    rw [hsorted] at h
    obtain ⟨kind, hkind, hlisted⟩ := List.mem_filterMap.mp h
    split at hlisted
    · exact nomatch hlisted
    · obtain rfl := Option.some.inj hlisted
      refine ⟨rfl, rfl, Classical.not_and_iff_not_or_not.mp fun hempty => ?_⟩
      -- Without findings on either side there are no kinds to sort.
      have hnone : kindsOf (index.bugCounts seed) (index.bugCounts mutant) = [] := by
        unfold Index.bugCounts
        rw [hempty.1, hempty.2]
        rfl
      rw [hnone] at hsorted
      obtain rfl := Except.ok.inj hsorted
      simp at hkind

/-- Mutants can be compared if each can be with its seed. -/
theorem inconsistencies_ok_iff (index : Index) (paths : List String) :
    (∃ found, inconsistencies index paths = .ok found) ↔
      ∀ pair ∈ pairs paths, Comparable index pair.1 pair.2 := by
  have hsteps := mapM_ok_iff (fun pair : String × String => compare index pair.1 pair.2)
    (pairs paths)
  simp only [compare_ok_iff] at hsteps
  rw [← hsteps]
  unfold inconsistencies
  cases (pairs paths).mapM fun pair => compare index pair.1 pair.2 with
  | error fault => exact iff_of_false (fun ⟨_, h⟩ => nomatch h) fun ⟨_, h⟩ => nomatch h
  | ok found => exact iff_of_true ⟨_, rfl⟩ ⟨_, rfl⟩

/-- Mutants that cannot be compared have kinds without an order. -/
theorem inconsistencies_eq_error {index : Index} {paths : List String} {fault : Fault}
    (h : inconsistencies index paths = .error fault) : fault = .notOrdered := by
  unfold inconsistencies at h
  cases hsteps : (pairs paths).mapM fun pair => compare index pair.1 pair.2 with
  | ok answers => rw [hsteps] at h; exact nomatch h
  | error first =>
    rw [hsteps] at h
    cases h
    obtain ⟨⟨seed, mutant⟩, -, hpair⟩ := mapM_eq_error hsteps
    dsimp only at hpair
    unfold compare at hpair
    dsimp only at hpair
    cases hsorted : sortKinds (kindsOf (index.bugCounts seed) (index.bugCounts mutant)) with
    | ok sorted => rw [hsorted] at hpair; exact nomatch hpair
    | error fault =>
      rw [hsorted] at hpair
      cases hpair
      exact sortKinds_eq_error hsorted

/-- What is found is found pair by pair. -/
theorem inconsistencies_eq_ok {index : Index} {paths : List String}
    {found : List Inconsistency} (h : inconsistencies index paths = .ok found) :
    found = (pairs paths).flatMap fun pair => inconsistenciesOf index pair.1 pair.2 := by
  unfold inconsistencies at h
  cases hsteps : (pairs paths).mapM fun pair => compare index pair.1 pair.2 with
  | error fault => rw [hsteps] at h; exact nomatch h
  | ok answers =>
    rw [hsteps] at h
    cases h
    rw [List.flatMap_def, mapM_eq_ok hsteps []]
    rfl

end Crosscheck
