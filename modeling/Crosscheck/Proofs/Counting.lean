import Crosscheck.Proofs.Comparison
import Crosscheck.Proofs.Finding.Representation
import Crosscheck.Proofs.Native.Intake
import Mathlib.Data.List.Perm.Basic
import Mathlib.Data.String.Basic
/-!
# A comparison is a comparison of numbers

What reports say about a file comes down to how often each kind is found in it. A comparison of two
files lists, in strictly increasing order, the kinds whose numbers differ, each with both numbers
(`compare_of_reports`), and nothing else of the reports reaches it: not their order, not how the
findings are shared out among them, not the lines (`comparison_exact`).
-/

namespace Crosscheck

open Crosscheck.Document Crosscheck.Files Crosscheck.Mutation

/-! ## Numbers of findings -/

/-- What of reports counts: the file and the kind of every finding. -/
def occurrences (reports : List Report) : List (String × Value) :=
  reports.flatMap fun report => report.violations.map fun v => (report.path, v.bugType)

/-- The number of findings of a kind in a file. -/
def countOf (reports : List Report) (path kind : String) : Nat :=
  (occurrences reports).countP fun found => found.1 == path && found.2 == .text kind

/-- Whether the kinds of all findings are text. -/
def NameKinds (reports : List Report) : Prop :=
  ∀ report ∈ reports, ∀ v ∈ report.violations, ∃ kind : String, v.bugType = .text kind

/-- The findings that reports have in a file, in order. -/
def foundIn (reports : List Report) (path : String) : List Violation :=
  reports.flatMap fun report => if report.path == path then report.violations else []

section Numbers

variable {reports others : List Report}

theorem nameKinds_iff :
    NameKinds reports ↔ ∀ found ∈ occurrences reports, ∃ kind : String, found.2 = .text kind := by
  unfold NameKinds occurrences
  constructor
  · intro h found hfound
    obtain ⟨report, hreport, hmem⟩ := List.mem_flatMap.mp hfound
    obtain ⟨v, hv, rfl⟩ := List.mem_map.mp hmem
    exact h report hreport v hv
  · intro h report hreport v hv
    exact h (report.path, v.bugType)
      (List.mem_flatMap.mpr ⟨report, hreport, List.mem_map.mpr ⟨v, hv, rfl⟩⟩)

theorem NameKinds.perm (h : NameKinds reports)
    (hperm : (occurrences others).Perm (occurrences reports)) : NameKinds others :=
  nameKinds_iff.mpr fun found hfound => nameKinds_iff.mp h found (hperm.subset hfound)

theorem countOf_congr (hperm : (occurrences others).Perm (occurrences reports)) :
    countOf others = countOf reports := by
  funext path kind
  exact hperm.countP_eq _

/-- The findings of a kind in a file are as many as its lines. -/
theorem length_linesOfKind (reports : List Report) (path kind : String) :
    (linesOfKind kind (foundIn reports path)).length = countOf reports path kind := by
  unfold linesOfKind countOf foundIn occurrences
  rw [List.length_map, ← List.countP_eq_length_filter]
  induction reports with
  | nil => rfl
  | cons report rest ih =>
    rw [List.flatMap_cons, List.flatMap_cons, List.countP_append, List.countP_append, ih,
      List.countP_map]
    congr 1
    cases hpath : report.path == path <;> simp [Function.comp_def, hpath]

theorem NameKinds.foundIn (h : NameKinds reports) (path : String) :
    ∀ v ∈ foundIn reports path, ∃ kind : String, v.bugType = .text kind := by
  intro v hv
  obtain ⟨report, hreport, hmem⟩ := List.mem_flatMap.mp hv
  split at hmem
  · exact h report hreport v hmem
  · exact nomatch hmem

end Numbers

/-! ## Numbers in the index -/

/-- The kinds of a file after some reports are those of the findings that the reports have in it. -/
theorem Index.bugsOf_foldl_absorb (reports : List Report) (path : String) (index : Index) :
    (reports.foldl Index.absorb index).bugsOf path =
      Index.tally (index.bugsOf path) (foundIn reports path) := by
  induction reports generalizing index with
  | nil => rfl
  | cons report rest ih =>
    rw [List.foldl_cons, ih, Index.bugsOf_absorb, ← Index.tally_append]
    rfl

/-- Reports whose kinds are text are merged as wholes. -/
theorem Index.mergeReports_of_nameKinds {reports : List Report} (h : NameKinds reports)
    (index : Index) :
    Index.mergeReports reports index = (reports.foldl Index.absorb index, none) :=
  Index.mergeReports_of_sound
    (List.all_eq_true.mpr fun report hreport => Report.isSound_of_text (h report hreport)) index

/-- What counts as the numbers of a file: each kind once, and only kinds with findings. -/
structure Numbers (counts : OrderedMap Value Nat) (number : String → Nat) : Prop where
  getD_get? : ∀ kind, (counts.get? (.text kind)).getD 0 = number kind
  contains : ∀ kind, counts.contains (.text kind) = true ↔ number kind ≠ 0
  text : ∀ kind ∈ counts.keys, ∃ name : String, kind = .text name
  once : counts.keys.Nodup

/-- The index has the numbers of the reports that it was made of. -/
theorem numbers_bugCounts {reports : List Report} (h : NameKinds reports) (path : String) :
    Numbers ((reports.foldl Index.absorb .empty).bugCounts path) (countOf reports path) := by
  have hbugs : (reports.foldl Index.absorb .empty).bugsOf path =
      Index.tally .empty (foundIn reports path) := Index.bugsOf_foldl_absorb reports path .empty
  have hfound := h.foundIn path
  have hget : ∀ kind, ((reports.foldl Index.absorb .empty).bugCounts path).get? (.text kind) =
      if countOf reports path kind = 0 then none else some (countOf reports path kind) := by
    intro kind
    unfold Index.bugCounts
    rw [hbugs, OrderedMap.get?_mapValues, get?_tally hfound, ← length_linesOfKind]
    cases linesOfKind kind (foundIn reports path) <;> rfl
  have hkeys : ((reports.foldl Index.absorb .empty).bugCounts path).keys =
      (Index.tally .empty (foundIn reports path)).keys := by
    unfold Index.bugCounts
    rw [hbugs, OrderedMap.keys_mapValues]
  refine ⟨?getD, ?contains, ?text, hkeys ▸ nodup_keys_tally hfound⟩
  case getD =>
    intro kind
    rw [hget]
    split
    · next hzero => exact hzero.symm
    · rfl
  case contains =>
    intro kind
    unfold OrderedMap.contains
    rw [hget]
    split
    · next hzero => simp [hzero]
    · next hsome => simp [hsome]
  case text =>
    intro kind hkind
    rw [hkeys] at hkind
    obtain ⟨entry, hentry, rfl⟩ := List.mem_map.mp hkind
    exact (entries_tally hfound entry hentry).1

/-! ## The kinds of two files -/

section Kinds

variable {left right : OrderedMap Value Nat} {here there : String → Nat}
  (hleft : Numbers left here) (hright : Numbers right there)

include hleft hright in
/-- The kinds of two files are texts, each once: those that either file has findings of. -/
theorem exists_names_kindsOf :
    ∃ names : List String, kindsOf left right = names.map .text ∧ names.Nodup ∧
      ∀ kind, kind ∈ names ↔ here kind ≠ 0 ∨ there kind ≠ 0 := by
  have htext : ∀ kind ∈ kindsOf left right, ∃ name : String, kind = .text name := by
    intro kind hkind
    rcases List.mem_append.mp hkind with hold | hnew
    · exact hleft.text kind hold
    · exact hright.text kind (List.mem_of_mem_filter hnew)
  have honce : (kindsOf left right).Nodup := by
    refine List.nodup_append.mpr ⟨hleft.once, hright.once.filter _, ?_⟩
    intro kind hkind other hother heq
    subst heq
    obtain ⟨name, rfl⟩ := hleft.text kind hkind
    have hthere := (OrderedMap.contains_iff_mem_keys (sharp_text name)).mpr hkind
    have hapart := (List.mem_filter.mp hother).2
    simp [hthere] at hapart
  have hmem : ∀ kind, Value.text kind ∈ kindsOf left right ↔ here kind ≠ 0 ∨ there kind ≠ 0 := by
    intro kind
    rw [← hleft.contains, ← hright.contains, OrderedMap.contains_iff_mem_keys (sharp_text kind),
      OrderedMap.contains_iff_mem_keys (sharp_text kind)]
    unfold kindsOf
    rw [List.mem_append, List.mem_filter]
    constructor
    · exact fun h => h.imp_right And.left
    · intro h
      by_cases hkey : Value.text kind ∈ left.keys
      · exact .inl hkey
      · refine .inr ⟨h.resolve_left hkey, ?_⟩
        rw [← OrderedMap.contains_iff_mem_keys (sharp_text kind)] at hkey
        simpa using hkey
  obtain ⟨names, hnames⟩ : ∃ names : List String, kindsOf left right = names.map .text := by
    clear honce hmem
    generalize kindsOf left right = kinds at htext
    induction kinds with
    | nil => exact ⟨[], rfl⟩
    | cons kind rest ih =>
      obtain ⟨name, rfl⟩ := htext kind List.mem_cons_self
      obtain ⟨names, rfl⟩ := ih fun other hother => htext other (List.mem_cons_of_mem _ hother)
      exact ⟨name :: names, rfl⟩
  rw [hnames] at honce hmem
  have hapart : names.Nodup :=
    (List.pairwise_map.mp honce).imp fun hne heq => hne (congrArg Value.text heq)
  refine ⟨names, hnames, hapart, fun kind => ?_⟩
  rw [← hmem]
  simp

end Kinds

/-- Names are sorted by their characters. -/
theorem sortKinds_texts (names : List String) :
    sortKinds (names.map .text) = .ok ((names.mergeSort (· ≤ ·)).map .text) := by
  have htexts : (names.map Value.text).mapM textOf? = some names := by
    induction names with
    | nil => rfl
    | cons name rest ih => rw [List.map_cons, List.mapM_cons, ih]; rfl
  unfold sortKinds
  rw [htexts]

/-- Names that stand once each are sorted strictly. -/
theorem pairwise_lt_mergeSort {names : List String} (h : names.Nodup) :
    (names.mergeSort (· ≤ ·)).Pairwise (· < ·) := by
  have hsorted : (names.mergeSort (· ≤ ·)).Pairwise (· ≤ ·) := by
    have hpairwise : (names.mergeSort fun a b => decide (a ≤ b)).Pairwise
        fun a b => decide (a ≤ b) = true := by
      refine List.pairwise_mergeSort (fun a b c hab hbc => ?_) (fun a b => ?_) names
      · exact decide_eq_true (le_trans (of_decide_eq_true hab) (of_decide_eq_true hbc))
      · simpa using le_total a b
    exact hpairwise.imp of_decide_eq_true
  have honce : (names.mergeSort (· ≤ ·)).Nodup := (List.mergeSort_perm names _).nodup_iff.mpr h
  exact (List.Pairwise.and hsorted honce).imp fun hpair => lt_of_le_of_ne hpair.1 hpair.2

/-! ## Comparisons -/

/-- The kinds that two files have a different number of, in strictly increasing order. -/
structure Differing (here there : String → Nat) (kinds : List String) : Prop where
  ordered : kinds.Pairwise (· < ·)
  mem_iff : ∀ kind, kind ∈ kinds ↔ here kind ≠ there kind

/-- There is one list of the kinds that differ. -/
theorem Differing.unique {here there : String → Nat} {kinds others : List String}
    (h : Differing here there kinds) (h' : Differing here there others) : kinds = others := by
  have hsame : kinds.Perm others :=
    (List.perm_ext_iff_of_nodup (h.ordered.imp ne_of_lt) (h'.ordered.imp ne_of_lt)).mpr
      fun kind => (h.mem_iff kind).trans (h'.mem_iff kind).symm
  exact hsame.eq_of_pairwise (fun _ _ _ _ hlt hgt => absurd hgt (lt_asymm hlt))
    h.ordered h'.ordered

/-- The inconsistency that a kind is in two files. -/
def inconsistencyOf (reports : List Report) (seed mutant kind : String) : Inconsistency :=
  ⟨seed, mutant, .text kind, countOf reports seed kind, countOf reports mutant kind⟩

/-- A comparison lists the kinds that differ, with both numbers. -/
theorem compare_of_reports {reports : List Report} (h : NameKinds reports)
    (seed mutant : String) :
    ∃ kinds, Differing (countOf reports seed) (countOf reports mutant) kinds ∧
      compare (reports.foldl Index.absorb .empty) seed mutant =
        .ok (kinds.map (inconsistencyOf reports seed mutant)) := by
  have hseed := numbers_bugCounts h seed
  have hmutant := numbers_bugCounts h mutant
  obtain ⟨names, hnames, honce, hmem⟩ := exists_names_kindsOf hseed hmutant
  let sorted := names.mergeSort (· ≤ ·)
  have hsorted : sorted.Pairwise (· < ·) := pairwise_lt_mergeSort honce
  refine ⟨sorted.filter fun kind => countOf reports seed kind ≠ countOf reports mutant kind,
    ⟨hsorted.filter _, ?mem⟩, ?compare⟩
  case mem =>
    intro kind
    rw [List.mem_filter, (List.mergeSort_perm names _).mem_iff, hmem, decide_eq_true_eq]
    omega
  case compare =>
    unfold compare
    dsimp only
    rw [hnames, sortKinds_texts]
    show Except.ok ((sorted.map Value.text).filterMap _) = _
    rw [List.filterMap_map, ← List.filterMap_eq_map, List.filterMap_filter]
    congr 2
    funext kind
    simp only [Function.comp_apply, hseed.getD_get?, hmutant.getD_get?, inconsistencyOf]
    by_cases hsame : countOf reports seed kind = countOf reports mutant kind <;> simp [hsame]

/-- What is found in mutants is what is found in each of those that have a seed, in their order. -/
theorem inconsistencies_eq_flatMap (index : Index) (paths : List String)
    (h : ∀ seed mutant, ∃ found, compare index seed mutant = .ok found) :
    inconsistencies index paths = .ok (paths.flatMap fun text =>
      match seedOf (Path.ofString text) with
      | none => []
      | some seed => inconsistenciesOf index seed.render (Path.ofString text).render) := by
  have hcomparable : ∀ pair ∈ pairs paths, Comparable index pair.1 pair.2 :=
    fun pair _ => (compare_ok_iff index pair.1 pair.2).mp (h pair.1 pair.2)
  obtain ⟨found, hfound⟩ := (inconsistencies_ok_iff index paths).mpr hcomparable
  rw [hfound, inconsistencies_eq_ok hfound]
  congr 1
  clear hcomparable hfound
  induction paths with
  | nil => rfl
  | cons text rest ih =>
    rw [List.flatMap_cons, ← ih]
    unfold pairs
    cases hseed : seedOf (Path.ofString text) with
    | none => simp only [List.filterMap_cons, hseed, Option.map_none, List.nil_append]
    | some seed => simp only [List.filterMap_cons, hseed, Option.map_some, List.flatMap_cons]

/-- Reports whose kinds are text can all be merged; from then on a comparison of any two files lists
in strictly increasing order exactly the kinds whose numbers differ, with both numbers, as suspected
false alarms where the mutant has more of them, and the inconsistencies of mutants are those of each
in turn. Reports that have the same findings, shared out and ordered in any way and on any lines,
lead to the same comparisons. -/
theorem comparison_exact (reports : List Report) (h : NameKinds reports) :
    ∃ index, Index.mergeReports reports .empty = (index, none) ∧
      (∀ seed mutant, ∃ kinds,
        Differing (countOf reports seed) (countOf reports mutant) kinds ∧
        compare index seed mutant = .ok (kinds.map (inconsistencyOf reports seed mutant)) ∧
        ∀ kind ∈ kinds,
          ((inconsistencyOf reports seed mutant kind).kind = "false_positive" ↔
            countOf reports seed kind < countOf reports mutant kind) ∧
          ((inconsistencyOf reports seed mutant kind).kind = "false_negative" ↔
            countOf reports mutant kind < countOf reports seed kind)) ∧
      (∀ paths, inconsistencies index paths = .ok (paths.flatMap fun text =>
        match seedOf (Path.ofString text) with
        | none => []
        | some seed => inconsistenciesOf index seed.render (Path.ofString text).render)) ∧
      ∀ others, (occurrences others).Perm (occurrences reports) →
        ∃ index', Index.mergeReports others .empty = (index', none) ∧
          (∀ seed mutant, compare index' seed mutant = compare index seed mutant) ∧
          ∀ paths, inconsistencies index' paths = inconsistencies index paths := by
  have hcompare := compare_of_reports h
  refine ⟨_, Index.mergeReports_of_nameKinds h .empty, ?exact, ?mutants, ?others⟩
  case exact =>
    intro seed mutant
    obtain ⟨kinds, hdiffer, hfound⟩ := hcompare seed mutant
    refine ⟨kinds, hdiffer, hfound, fun kind hkind => ?_⟩
    have hne := (hdiffer.mem_iff kind).mp hkind
    unfold Inconsistency.kind inconsistencyOf
    dsimp only
    split
    · next hmore => exact ⟨by simpa using hmore, by simpa using Nat.le_of_lt hmore⟩
    · next hless =>
      refine ⟨by simpa using hless, ?_⟩
      simp only [true_iff]
      omega
  case mutants =>
    intro paths
    refine inconsistencies_eq_flatMap _ paths fun seed mutant => ?_
    obtain ⟨kinds, -, hfound⟩ := hcompare seed mutant
    exact ⟨_, hfound⟩
  case others =>
    intro others hperm
    have hothers : NameKinds others := h.perm hperm
    have hsame : ∀ seed mutant, compare (others.foldl Index.absorb .empty) seed mutant =
        compare (reports.foldl Index.absorb .empty) seed mutant := by
      intro seed mutant
      obtain ⟨kinds, hdiffer, hfound⟩ := hcompare seed mutant
      obtain ⟨kinds', hdiffer', hfound'⟩ := compare_of_reports hothers seed mutant
      rw [countOf_congr hperm] at hdiffer'
      rw [hfound, hfound', hdiffer.unique hdiffer']
      unfold inconsistencyOf
      rw [countOf_congr hperm]
    refine ⟨_, Index.mergeReports_of_nameKinds hothers .empty, hsame, fun paths => ?_⟩
    unfold inconsistencies
    simp only [hsame]

/-- Two reports on a seed and one on its mutant: one kind is gained, one lost, one kept. -/
def threeReports : List Report :=
  [⟨"A.java", .pmd, [⟨"A.java", 1, .text "LEAK", .pmd⟩, ⟨"A.java", 2, .text "NULL", .pmd⟩]⟩,
    ⟨"A_iter1.java", .pmd, [⟨"A_iter1.java", 5, .text "NULL", .pmd⟩,
      ⟨"A_iter1.java", 4, .text "RACE", .pmd⟩, ⟨"A_iter1.java", 9, .text "RACE", .pmd⟩]⟩,
    ⟨"A.java", .pmd, [⟨"A.java", 7, .text "RACE", .pmd⟩]⟩]

/-- The kind that both have one of is not listed. -/
theorem comparison_threeReports :
    NameKinds threeReports ∧ ∃ index, Index.mergeReports threeReports .empty = (index, none) ∧
      compare index "A.java" "A_iter1.java" = .ok
        [⟨"A.java", "A_iter1.java", .text "LEAK", 1, 0⟩,
          ⟨"A.java", "A_iter1.java", .text "RACE", 1, 2⟩] := by
  have hkinds : NameKinds threeReports := by simp [NameKinds, threeReports]
  obtain ⟨index, hmerge, hexact, -, -⟩ := comparison_exact threeReports hkinds
  obtain ⟨kinds, hdiffer, hfound, -⟩ := hexact "A.java" "A_iter1.java"
  refine ⟨hkinds, index, hmerge, ?_⟩
  have hlisted : Differing (countOf threeReports "A.java") (countOf threeReports "A_iter1.java")
      ["LEAK", "RACE"] := by
    refine ⟨by decide, fun kind => ?_⟩
    have hsame : ∀ name : String, (Value.text name == .text kind) = (name == kind) := fun _ => rfl
    simp only [countOf, occurrences, threeReports, List.flatMap_cons, List.flatMap_nil,
      List.map_cons, List.map_nil, List.append_nil, List.cons_append, List.nil_append,
      List.countP_cons, List.countP_nil, hsame]
    by_cases hleak : kind = "LEAK"
    · subst hleak; decide
    · by_cases hrace : kind = "RACE"
      · subst hrace; decide
      · simp [hleak, hrace, Ne.symm hleak, Ne.symm hrace]
  rw [hfound, hdiffer.unique hlisted]
  rfl

end Crosscheck
