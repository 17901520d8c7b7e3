import Crosscheck.Finding.Index
import Crosscheck.Proofs.OrderedMap
/-!
# What a merge does to the index

A merge goes through the findings of a report one by one and stops at the first whose kind cannot be
a key. `absorb` is the index that a whole report leaves, all of its findings taken at once, and
`midway` is the index in the middle of a merge. A merge of a report whose kinds are all keys is
`absorb`; every other merge stops with a fault, midway, at the first kind that is no key.
-/

namespace Crosscheck

open Crosscheck.Document

/-- Whether the kinds of all findings of a report can be keys. -/
def Report.isSound (report : Report) : Bool := report.violations.all (·.bugType.isKey)

/-- The findings of a report with a kind that is no key, up to the first such kind. -/
theorem Report.exists_stop {report : Report} (h : report.isSound = false) :
    ∃ before v after, report.violations = before ++ v :: after ∧
      (∀ u ∈ before, u.bugType.isKey = true) ∧ v.bugType.isKey = false := by
  obtain ⟨v, hmem, hv⟩ := List.all_eq_false.mp h
  have hsome : (report.violations.find? fun u => !u.bugType.isKey).isSome = true :=
    List.find?_isSome.mpr ⟨v, hmem, by simpa using hv⟩
  obtain ⟨w, hw⟩ := Option.isSome_iff_exists.mp hsome
  obtain ⟨hkey, before, after, hfound, hbefore⟩ := List.find?_eq_some_iff_append.mp hw
  refine ⟨before, w, after, hfound, ?_, by simpa using hkey⟩
  intro u hu
  simpa using hbefore u hu

theorem Report.length_pos_of_not_isSound {report : Report} (h : report.isSound = false) :
    0 < report.violations.length := by
  obtain ⟨v, hmem, -⟩ := List.all_eq_false.mp h
  exact List.length_pos_of_mem hmem

namespace Index

/-- Adds findings to the lines of their kinds, one after the other. -/
def tally (kinds : OrderedMap Value (List Int)) (found : List Violation) :
    OrderedMap Value (List Int) :=
  found.foldl (fun kinds v => kinds.push v.bugType [v.line]) kinds

/-- The index in the middle of a merge: the findings of the report are in, the lines of some of
them, and the kinds of some. -/
def midway (index : Index) (report : Report) (lined counted : List Violation) : Index :=
  { index with
    rows := index.rows.push report.path (lined.map (·.line))
    bugs := index.bugs.alter report.path fun old => tally (old.getD .empty) counted
    violations := index.violations.push report.path report.violations }

/-- The index with a whole report. -/
def absorb (index : Index) (report : Report) : Index :=
  index.midway report report.violations report.violations

theorem tally_concat (kinds : OrderedMap Value (List Int)) (found : List Violation)
    (v : Violation) :
    tally kinds (found ++ [v]) = (tally kinds found).push v.bugType [v.line] := by
  simp only [tally, List.foldl_append, List.foldl_cons, List.foldl_nil]

theorem tally_append (kinds : OrderedMap Value (List Int)) (xs ys : List Violation) :
    tally kinds (xs ++ ys) = tally (tally kinds xs) ys := by
  simp only [tally, List.foldl_append]

/-! ## One finding -/

theorem makeRoom_eq_midway (index : Index) (report : Report) :
    index.makeRoom report = index.midway report [] [] := rfl

theorem addRow_midway (index : Index) (report : Report) (lined counted : List Violation)
    (v : Violation) :
    (index.midway report lined counted).addRow report.path v =
      index.midway report (lined ++ [v]) counted := by
  unfold addRow midway
  simp only [OrderedMap.push_push, List.map_append, List.map_cons, List.map_nil]

theorem addBug_midway (index : Index) (report : Report) (lined counted : List Violation)
    (v : Violation) :
    (index.midway report lined counted).addBug report.path v =
      index.midway report lined (counted ++ [v]) := by
  unfold addBug midway
  simp only [OrderedMap.alter_alter, Option.getD_some, tally_concat]

/-! ## All findings of a report -/

/-- Findings whose kinds are keys are all added. -/
theorem addLines_of_keys (index : Index) (report : Report) (found : List Violation)
    (h : ∀ v ∈ found, v.bugType.isKey = true) :
    ∀ seen : List Violation,
      addLines report.path found (index.midway report seen seen) =
        (index.midway report (seen ++ found) (seen ++ found), none) := by
  induction found with
  | nil => intro seen; simp only [addLines, List.append_nil]
  | cons v rest ih =>
    intro seen
    have hv : v.bugType.isKey = true := h v List.mem_cons_self
    have hrest := ih (fun u hu => h u (List.mem_cons_of_mem v hu)) (seen ++ [v])
    simp only [addLines, addRow_midway, addBug_midway, hv, if_true, hrest, List.append_assoc,
      List.singleton_append]

/-- Findings up to one whose kind is no key are added, and of that one the line. -/
theorem addLines_of_stop (index : Index) (report : Report) (before after : List Violation)
    (v : Violation) (h : ∀ u ∈ before, u.bugType.isKey = true) (hv : v.bugType.isKey = false) :
    ∀ seen : List Violation,
      addLines report.path (before ++ v :: after) (index.midway report seen seen) =
        (index.midway report (seen ++ before ++ [v]) (seen ++ before), some .notKey) := by
  induction before with
  | nil =>
    intro seen
    simp only [List.nil_append, addLines, addRow_midway, hv, Bool.false_eq_true, if_false,
      List.append_nil]
  | cons u rest ih =>
    intro seen
    have hu : u.bugType.isKey = true := h u List.mem_cons_self
    have hrest := ih (fun w hw => h w (List.mem_cons_of_mem u hw)) (seen ++ [u])
    simp only [List.cons_append, addLines, addRow_midway, addBug_midway, hu, if_true, hrest,
      List.append_assoc, List.nil_append]

/-- A report whose kinds are all keys is merged as a whole. -/
theorem merge_of_isSound {report : Report} (h : report.isSound = true) (index : Index) :
    index.merge report = (index.absorb report, none) := by
  have hkeys : ∀ v ∈ report.violations, v.bugType.isKey = true := List.all_eq_true.mp h
  exact addLines_of_keys index report report.violations hkeys []

/-- A merge stops with a fault at the first kind that is no key: the line of that finding is in, and
its kind is not. -/
theorem merge_of_stop {report : Report} {before after : List Violation} {v : Violation}
    (hfound : report.violations = before ++ v :: after) (h : ∀ u ∈ before, u.bugType.isKey = true)
    (hv : v.bugType.isKey = false) (index : Index) :
    index.merge report = (index.midway report (before ++ [v]) before, some .notKey) := by
  have hstop := addLines_of_stop index report before after v h hv []
  unfold merge
  rw [makeRoom_eq_midway, hfound, hstop, List.nil_append]

/-- A merge of any other report stops with a fault, midway. -/
theorem merge_of_not_isSound {report : Report} (h : report.isSound = false) (index : Index) :
    ∃ lined counted : List Violation,
      index.merge report = (index.midway report lined counted, some .notKey) := by
  obtain ⟨before, v, after, hfound, hbefore, hv⟩ := Report.exists_stop h
  exact ⟨before ++ [v], before, merge_of_stop hfound hbefore hv index⟩

/-- The number of findings that are in. -/
def stored (index : Index) : Nat := index.violations.values.flatten.length

/-- All findings of a report are in, whether its merge ends or stops. -/
theorem stored_midway (index : Index) (report : Report) (lined counted : List Violation) :
    (index.midway report lined counted).stored = index.stored + report.violations.length := by
  have hperm := OrderedMap.values_push_perm index.violations report.path report.violations
  have hlength := hperm.length_eq
  rwa [List.length_append] at hlength

/-! ## Registrations -/

/-- Enters a report as the one of its file, and merges nothing. -/
def enter (index : Index) (report : Report) : Index :=
  { index with reports := index.reports.insert report.path report }

theorem stored_enter (index : Index) (report : Report) :
    (index.enter report).stored = index.stored := rfl

theorem register_of_new {index : Index} (report : Report)
    (h : index.isRegistered report.path = false) (source : String) :
    index.register report source = (index.enter report).merge report := by
  unfold register
  rw [h]
  rfl

/-! ## The lines that are stored -/

/-- The lines by file. -/
def rowLines (index : Index) : List Int := index.rows.values.flatten

/-- The lines by kind. -/
def kindLines (index : Index) : List Int := index.bugs.values.flatMap (·.values.flatten)

/-- The lines of the findings. -/
def foundLines (index : Index) : List Int := index.violations.values.flatten.map (·.line)

/-- The lines of the findings in the reports that are registered. -/
def registeredLines (index : Index) : List Int :=
  (index.reports.values.flatMap (·.violations)).map (·.line)

/-- All lines that an index holds. -/
def lines (index : Index) : List Int :=
  index.rowLines ++ index.kindLines ++ index.foundLines ++ index.registeredLines

section Lines

variable {index : Index} {report : Report} {n : Int}

/-- The lines of a tally are added to those of the kinds, file by file. -/
theorem kindLines_midway_perm (index : Index) (report : Report) (lined counted : List Violation) :
    (index.midway report lined counted).kindLines.Perm
      (index.kindLines ++ counted.map (·.line)) :=
  OrderedMap.flatMap_values_alter_perm
    (OrderedMap.values_foldl_push_perm Violation.bugType Violation.line counted .empty)
    (fun kinds => OrderedMap.values_foldl_push_perm Violation.bugType Violation.line counted kinds)
    index.bugs report.path

theorem foundLines_midway_perm (index : Index) (report : Report) (lined counted : List Violation) :
    (index.midway report lined counted).foundLines.Perm
      (index.foundLines ++ report.violations.map (·.line)) := by
  have hperm := OrderedMap.values_push_perm index.violations report.path report.violations
  rw [foundLines, foundLines, ← List.map_append]
  exact hperm.map _

/-- In the middle of a merge the lines of all findings of the report are stored. -/
theorem mem_lines_midway {lined counted : List Violation} (hlined : lined ⊆ report.violations)
    (hcounted : counted ⊆ report.violations) :
    n ∈ (index.midway report lined counted).lines ↔
      n ∈ index.lines ∨ n ∈ report.violations.map (·.line) := by
  have hrows : n ∈ (index.midway report lined counted).rowLines ↔
      n ∈ index.rowLines ++ lined.map (·.line) :=
    (OrderedMap.values_push_perm index.rows report.path _).mem_iff
  have hkinds := (kindLines_midway_perm index report lined counted).mem_iff (a := n)
  have hfound := (foundLines_midway_perm index report lined counted).mem_iff (a := n)
  have hregistered :
      (index.midway report lined counted).registeredLines = index.registeredLines := rfl
  simp only [lines, List.mem_append, hregistered] at hrows hkinds hfound ⊢
  rw [hrows, hkinds, hfound]
  by_cases h : n ∈ report.violations.map (·.line)
  · simp only [h, or_true, true_or]
  · -- What is in already is of the report, and so it adds no line of its own.
    have hnotLined : n ∉ lined.map (·.line) := fun hmem => h (List.map_subset _ hlined hmem)
    have hnotCounted : n ∉ counted.map (·.line) := fun hmem => h (List.map_subset _ hcounted hmem)
    simp only [h, hnotLined, hnotCounted, or_false]

/-- A merge stores the lines of all findings of the report, whether it ends or stops. -/
theorem mem_lines_merge (index : Index) (report : Report) :
    n ∈ (index.merge report).1.lines ↔ n ∈ index.lines ∨ n ∈ report.violations.map (·.line) := by
  cases hsound : report.isSound with
  | true =>
    rw [merge_of_isSound hsound]
    exact mem_lines_midway (List.Subset.refl _) (List.Subset.refl _)
  | false =>
    obtain ⟨before, v, after, hfound, hbefore, hv⟩ := Report.exists_stop hsound
    rw [merge_of_stop hfound hbefore hv]
    refine mem_lines_midway ?_ ?_ <;> rw [hfound]
    · rw [List.append_cons before v after]
      exact List.subset_append_left _ _
    · exact List.subset_append_left _ _

/-- The report of a file that has none is stored with its lines. -/
theorem mem_lines_enter (hnew : index.isRegistered report.path = false) :
    n ∈ (index.enter report).lines ↔ n ∈ index.lines ∨ n ∈ report.violations.map (·.line) := by
  have hkey : report.path ∉ index.reports.keys := by
    rw [← OrderedMap.contains_iff_mem_keys (OrderedMap.sharp _)]
    exact Bool.eq_false_iff.mp hnew
  have hreports : (index.enter report).registeredLines =
      index.registeredLines ++ report.violations.map (·.line) := by
    unfold registeredLines enter OrderedMap.values
    rw [OrderedMap.entries_insert_of_not_mem hkey, List.map_append, List.flatMap_append,
      List.map_append]
    simp
  have hrest : (index.enter report).rowLines = index.rowLines ∧
      (index.enter report).kindLines = index.kindLines ∧
      (index.enter report).foundLines = index.foundLines := ⟨rfl, rfl, rfl⟩
  simp only [lines, hreports, hrest, List.mem_append, or_assoc]

end Lines

/-! ## What a report adds, file by file -/

/-- What is pushed on the list of one key is found there. -/
private theorem getD_get?_push {γ : Type} (map : OrderedMap String (List γ)) (key other : String)
    (items : List γ) :
    ((map.push key items).get? other).getD [] =
      (map.get? other).getD [] ++ if key == other then items else [] := by
  unfold OrderedMap.push
  rw [OrderedMap.get?_alter]
  by_cases h : key = other
  · subst h
    simp
  · simp [h]

/-- A report adds the lines of its findings to those of its file. -/
theorem rowsOf_absorb (index : Index) (report : Report) (path : String) :
    (index.absorb report).rowsOf path =
      index.rowsOf path ++ if report.path == path then report.violations.map (·.line) else [] :=
  getD_get?_push index.rows report.path path _

/-- A report adds its findings to those of its file. -/
theorem violationsOf_absorb (index : Index) (report : Report) (path : String) :
    (index.absorb report).violationsOf path =
      index.violationsOf path ++ if report.path == path then report.violations else [] :=
  getD_get?_push index.violations report.path path _

/-- A report adds its findings to the kinds of its file. -/
theorem bugsOf_absorb (index : Index) (report : Report) (path : String) :
    (index.absorb report).bugsOf path =
      tally (index.bugsOf path) (if report.path == path then report.violations else []) := by
  show ((index.bugs.alter report.path _).get? path).getD .empty = _
  rw [OrderedMap.get?_alter]
  by_cases h : report.path = path
  · subst h
    simp only [beq_self_eq_true, if_true, Option.getD_some]
    rfl
  · simp only [beq_eq_false_iff_ne.mpr h, Bool.false_eq_true, if_false]
    rfl

/-- A report adds as many lines as it has findings. -/
theorem total_absorb (index : Index) (report : Report) :
    (index.absorb report).total = index.total + report.violations.length := by
  have hperm := OrderedMap.values_push_perm index.rows report.path
    (report.violations.map (·.line))
  have hlength := hperm.length_eq
  rw [List.length_append, List.length_map] at hlength
  exact hlength

end Index

end Crosscheck
