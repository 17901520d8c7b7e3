import Crosscheck.Proofs.Finding.Merge
import Mathlib.Algebra.GroupWithZero.Nat
import Mathlib.Data.List.Induction
/-!
# What the index represents

The index is four maps written one after the other. An `Account` is what they stand for: the
reports that were merged since the last reset, in order, and those that were accepted for a single
file. `replay` runs a history of operations on an index and keeps the account beside it, from the
answers alone; `represents_replay` says that after every history the maps are read off the account.
-/

namespace Crosscheck

open Crosscheck.Document

/-! ## Operations and their account -/

/-- What may be done to an index. -/
inductive Operation
  | merge (report : Report)
  | register (report : Report) (source : String)
  | reset
  deriving Repr

namespace Operation

/-- Runs an operation on an index. -/
def run : Operation → Index → Index × Option Fault
  | .merge report, index => index.merge report
  | .register report source, index => index.register report source
  | .reset, _ => (.empty, none)

/-- Whether the kinds of all findings that an operation brings are text. -/
def NamesKinds : Operation → Prop
  | .merge report | .register report _ =>
    ∀ v ∈ report.violations, ∃ kind : String, v.bugType = .text kind
  | .reset => True

end Operation

/-- What the operations since the last reset amount to. -/
structure Account where
  /-- The reports that were merged, registered ones among them. -/
  merged : List Report
  /-- The reports that were accepted for a single file. -/
  registered : List Report

namespace Account

/-- Nothing merged. -/
def empty : Account := ⟨[], []⟩

/-- The account after an operation that gave an answer. A registration counts if it was accepted. -/
def note (account : Account) : Operation → Option Fault → Account
  | .merge report, _ => { account with merged := account.merged ++ [report] }
  | .register report _, none =>
    ⟨account.merged ++ [report], account.registered ++ [report]⟩
  | .register _ _, some _ => account
  | .reset, _ => .empty

/-- The findings in a file, in the order in which their reports were merged. -/
def found (account : Account) (path : String) : List Violation :=
  (account.merged.filter fun report => report.path == path).flatMap (·.violations)

end Account

/-- An index and its account after one more operation. -/
def Operation.step (state : Index × Account) (operation : Operation) : Index × Account :=
  let (index, answer) := operation.run state.1
  (index, state.2.note operation answer)

/-- The index and its account after a history of operations. -/
def replay (history : List Operation) : Index × Account :=
  history.foldl Operation.step (.empty, .empty)

/-- The lines of the findings of a kind, in order. -/
def linesOfKind (kind : String) (found : List Violation) : List Int :=
  (found.filter fun v => v.bugType == .text kind).map (·.line)

/-- An index says what an account says. -/
structure Represents (index : Index) (account : Account) : Prop where
  /-- The three maps by file have the same keys. -/
  bugKeys : index.bugs.keys = index.rows.keys
  violationKeys : index.violations.keys = index.rows.keys
  /-- The files are those of the merged reports. -/
  keys : ∀ path, path ∈ index.rows.keys ↔ ∃ report ∈ account.merged, report.path = path
  /-- The registered reports are the accepted ones. -/
  registered : index.reports.entries = account.registered.map fun report => (report.path, report)
  /-- Every registered file has an entry. -/
  registeredKeys : ∀ path ∈ index.reports.keys, path ∈ index.rows.keys
  /-- No file was accepted twice. -/
  once : (account.registered.map (·.path)).Nodup
  /-- The findings in a file are those of the merged reports, in their order. -/
  violations : ∀ path, index.violationsOf path = account.found path
  /-- The lines of a file are those of its findings. -/
  rows : ∀ path, index.rowsOf path = (index.violationsOf path).map (·.line)
  /-- A kind has the lines of its findings, in order, and none without findings. -/
  kinds : ∀ path kind, (index.bugsOf path).get? (.text kind) =
    if linesOfKind kind (index.violationsOf path) = [] then none
    else some (linesOfKind kind (index.violationsOf path))
  /-- There are no other kinds, and none without lines. -/
  named : ∀ path, ∀ entry ∈ (index.bugsOf path).entries,
    (∃ kind, entry.1 = .text kind) ∧ entry.2 ≠ []
  /-- Each kind stands once. -/
  kindsOnce : ∀ path, (index.bugsOf path).keys.Nodup
  /-- The kinds of a file share its lines out. -/
  shared : ∀ path, (index.bugsOf path).values.flatten.Perm (index.rowsOf path)
  /-- The findings are counted over all merged reports. -/
  total : index.total = (account.merged.map fun report => report.violations.length).sum

/-! ## The kinds of a file -/

section Kinds

/-- A text key is the same as itself only. -/
theorem sharp_text (s : String) : OrderedMap.Sharp (Value.text s) := by
  intro other
  show Value.sameKey other (.text s) = true ↔ other = .text s
  cases other <;> simp [Value.sameKey, Value.integer?]

variable {found : List Violation} (h : ∀ v ∈ found, ∃ kind : String, v.bugType = .text kind)

theorem linesOfKind_concat (kind : String) (found : List Violation) (v : Violation) :
    linesOfKind kind (found ++ [v]) =
      linesOfKind kind found ++ if v.bugType == .text kind then [v.line] else [] := by
  unfold linesOfKind
  rw [List.filter_append, List.map_append]
  congr 1
  cases hv : v.bugType == .text kind <;> simp [hv]

include h in
/-- A kind has the lines of its findings. -/
theorem get?_tally (kind : String) :
    (Index.tally .empty found).get? (.text kind) =
      if linesOfKind kind found = [] then none else some (linesOfKind kind found) := by
  induction found using List.reverseRecOn with
  | nil => rfl
  | append_singleton found v ih =>
    have hfound := ih fun u hu => h u (List.mem_append_left [v] hu)
    obtain ⟨name, hname⟩ := h v (List.mem_append_right found List.mem_cons_self)
    rw [Index.tally_concat, hname]
    unfold OrderedMap.push
    rw [OrderedMap.get?_alter_of_sharp (sharp_text name) (sharp_text kind), linesOfKind_concat,
      hname]
    by_cases heq : name = kind
    · subst heq
      rw [hfound]
      by_cases hnone : linesOfKind name found = [] <;>
        simp [(sharp_text name).refl, hnone]
    · have hne : Value.text name ≠ .text kind := fun hv => heq (Value.text.inj hv)
      simp only [(sharp_text kind).apart hne, Bool.false_eq_true, if_false, List.append_nil,
        hfound]

include h in
/-- Every entry is for a kind and has lines. -/
theorem entries_tally :
    ∀ entry ∈ (Index.tally .empty found).entries,
      (∃ kind, entry.1 = .text kind) ∧ entry.2 ≠ [] := by
  induction found using List.reverseRecOn with
  | nil => exact fun entry hentry => nomatch hentry
  | append_singleton found v ih =>
    have hfound := ih fun u hu => h u (List.mem_append_left [v] hu)
    obtain ⟨name, hname⟩ := h v (List.mem_append_right found List.mem_cons_self)
    rw [Index.tally_concat, hname]
    intro entry hentry
    rcases OrderedMap.mem_alter hentry with hold | rfl | ⟨old, hmem, -, rfl⟩
    · exact hfound entry hold
    · exact ⟨⟨name, rfl⟩, List.cons_ne_nil _ _⟩
    · exact ⟨(hfound old hmem).1, by simp⟩

include h in
/-- No kind stands twice. -/
theorem nodup_keys_tally : (Index.tally .empty found).keys.Nodup := by
  induction found using List.reverseRecOn with
  | nil => exact List.nodup_nil
  | append_singleton found v ih =>
    obtain ⟨name, hname⟩ := h v (List.mem_append_right found List.mem_cons_self)
    rw [Index.tally_concat, hname]
    unfold OrderedMap.push
    rw [OrderedMap.keys_alter]
    exact OrderedMap.nodup_withKey (sharp_text name)
      (ih fun u hu => h u (List.mem_append_left [v] hu))

/-- The kinds share the lines out, whatever the kinds are. -/
theorem values_tally_perm (found : List Violation) :
    (Index.tally .empty found).values.flatten.Perm (found.map (·.line)) :=
  OrderedMap.values_foldl_push_perm Violation.bugType Violation.line found .empty

end Kinds

/-! ## One operation -/

/-- What each operation keeps: every map in closed form over the account. -/
structure Kept (index : Index) (account : Account) : Prop where
  bugKeys : index.bugs.keys = index.rows.keys
  violationKeys : index.violations.keys = index.rows.keys
  keys : ∀ path, path ∈ index.rows.keys ↔ ∃ report ∈ account.merged, report.path = path
  registered : index.reports.entries = account.registered.map fun report => (report.path, report)
  registeredMerged : account.registered ⊆ account.merged
  once : (account.registered.map (·.path)).Nodup
  violations : ∀ path, index.violationsOf path = account.found path
  rows : ∀ path, index.rowsOf path = (account.found path).map (·.line)
  kinds : ∀ path, index.bugsOf path = Index.tally .empty (account.found path)
  total : index.total = (account.merged.map fun report => report.violations.length).sum
  texts : ∀ report ∈ account.merged, ∀ v ∈ report.violations, ∃ kind : String,
    v.bugType = .text kind

theorem Account.found_concat (account : Account) (report : Report) (path : String) :
    Account.found ⟨account.merged ++ [report], account.registered⟩ path =
      account.found path ++ if report.path == path then report.violations else [] := by
  unfold Account.found
  rw [List.filter_append, List.flatMap_append]
  congr 1
  cases h : report.path == path <;> simp [h]

/-- A report whose kinds are text can be merged. -/
theorem Report.isSound_of_text {report : Report}
    (h : ∀ v ∈ report.violations, ∃ kind : String, v.bugType = .text kind) :
    report.isSound = true := by
  refine List.all_eq_true.mpr fun v hv => ?_
  obtain ⟨kind, hkind⟩ := h v hv
  rw [hkind]
  rfl

namespace Kept

variable {index : Index} {account : Account} {report : Report}

theorem empty : Kept .empty .empty where
  bugKeys := rfl
  violationKeys := rfl
  keys := fun _ => ⟨fun h => (nomatch h), fun ⟨_, h, _⟩ => (nomatch h)⟩
  registered := rfl
  registeredMerged := List.Subset.refl _
  once := List.nodup_nil
  violations := fun _ => rfl
  rows := fun _ => rfl
  kinds := fun _ => rfl
  total := rfl
  texts := fun _ h => nomatch h

/-- A whole report keeps the maps together. -/
theorem absorb (h : Kept index account)
    (htext : ∀ v ∈ report.violations, ∃ kind : String, v.bugType = .text kind) :
    Kept (index.absorb report) ⟨account.merged ++ [report], account.registered⟩ where
  bugKeys := by
    show (index.bugs.alter _ _).keys = (index.rows.alter _ _).keys
    rw [OrderedMap.keys_alter, OrderedMap.keys_alter, h.bugKeys]
  violationKeys := by
    show (index.violations.alter _ _).keys = (index.rows.alter _ _).keys
    rw [OrderedMap.keys_alter, OrderedMap.keys_alter, h.violationKeys]
  keys := by
    intro path
    show path ∈ (index.rows.alter _ _).keys ↔ _
    rw [OrderedMap.keys_alter, OrderedMap.mem_withKey (OrderedMap.sharp _), h.keys path]
    simp only [List.mem_append, List.mem_singleton, or_and_right, exists_or, exists_eq_left]
    rw [or_comm, eq_comm]
  registered := h.registered
  registeredMerged := fun _ hr => List.mem_append_left _ (h.registeredMerged hr)
  once := h.once
  violations := by
    intro path
    rw [Index.violationsOf_absorb, Account.found_concat, h.violations path]
  rows := by
    intro path
    rw [Index.rowsOf_absorb, Account.found_concat, h.rows path, List.map_append]
    congr 1
    split <;> rfl
  kinds := by
    intro path
    rw [Index.bugsOf_absorb, Account.found_concat, h.kinds path, Index.tally_append]
  total := by
    rw [Index.total_absorb, h.total, List.map_append, List.sum_append]
    simp
  texts := by
    intro other hother
    rcases List.mem_append.mp hother with hold | hnew
    · exact h.texts other hold
    · exact List.mem_singleton.mp hnew ▸ htext

/-- The keys of the registrations are the files of the accepted reports. -/
theorem reportKeys (h : Kept index account) :
    index.reports.keys = account.registered.map (·.path) := by
  unfold OrderedMap.keys
  rw [h.registered, List.map_map]
  rfl

/-- A registration of a file that is not registered keeps the maps together. -/
theorem accept (h : Kept index account) (hnew : report.path ∉ index.reports.keys)
    (htext : ∀ v ∈ report.violations, ∃ kind : String, v.bugType = .text kind) :
    Kept ((index.enter report).absorb report)
      ⟨account.merged ++ [report], account.registered ++ [report]⟩ where
  __ := h.absorb htext
  registered := by
    show (index.reports.insert _ _).entries = _
    rw [OrderedMap.entries_insert_of_not_mem hnew, h.registered, List.map_append]
    rfl
  registeredMerged := by
    intro other hother
    rcases List.mem_append.mp hother with hold | hlast
    · exact List.mem_append_left _ (h.registeredMerged hold)
    · exact List.mem_append_right _ hlast
  once := by
    rw [h.reportKeys] at hnew
    rw [List.map_append, List.map_cons, List.map_nil]
    exact List.nodup_append.mpr ⟨h.once, List.pairwise_singleton _ _, fun a ha b hb heq =>
      hnew (List.mem_singleton.mp hb ▸ heq ▸ ha)⟩

/-- Every operation keeps the maps together. -/
theorem step {state : Index × Account} (h : Kept state.1 state.2) {operation : Operation}
    (hnames : operation.NamesKinds) :
    Kept (operation.step state).1 (operation.step state).2 := by
  obtain ⟨index, account⟩ := state
  cases operation with
  | reset => exact Kept.empty
  | merge report =>
    have hmerge := Index.merge_of_isSound (Report.isSound_of_text hnames) index
    simp only [Operation.step, Operation.run, hmerge, Account.note]
    exact h.absorb hnames
  | register report source =>
    cases hthere : index.isRegistered report.path with
    | true =>
      simp only [Operation.step, Operation.run, Index.register, hthere, if_true, Account.note]
      exact h
    | false =>
      have hmerge := Index.merge_of_isSound (Report.isSound_of_text hnames) (index.enter report)
      simp only [Operation.step, Operation.run, Index.register_of_new report hthere, hmerge, Account.note]
      have hnew : report.path ∉ index.reports.keys := by
        rw [OrderedMap.mem_keys_iff]
        exact fun hsome => Bool.false_ne_true (hthere.symm.trans hsome)
      exact h.accept hnew hnames

/-- What the operations keep is what the index has to represent. -/
theorem represents (h : Kept index account) : Represents index account := by
  have htext : ∀ path, ∀ v ∈ account.found path, ∃ kind : String, v.bugType = .text kind := by
    intro path v hv
    obtain ⟨report, hreport, hmem⟩ := List.mem_flatMap.mp hv
    exact h.texts report (List.mem_of_mem_filter hreport) v hmem
  refine ⟨h.bugKeys, h.violationKeys, h.keys, h.registered, ?registeredKeys, h.once, h.violations,
    ?rows, ?kinds, ?named, ?kindsOnce, ?shared, h.total⟩
  case registeredKeys =>
    intro path hpath
    rw [h.reportKeys] at hpath
    obtain ⟨report, hreport, hsame⟩ := List.mem_map.mp hpath
    exact (h.keys path).mpr ⟨report, h.registeredMerged hreport, hsame⟩
  case rows => intro path; rw [h.rows path, h.violations path]
  case kinds => intro path kind; rw [h.kinds path, h.violations path, get?_tally (htext path)]
  case named => intro path; rw [h.kinds path]; exact entries_tally (htext path)
  case kindsOnce => intro path; rw [h.kinds path]; exact nodup_keys_tally (htext path)
  case shared => intro path; rw [h.kinds path, h.rows path]; exact values_tally_perm _

end Kept

/-! ## A history of operations -/

/-- Operations keep the maps together, however many there are. -/
theorem kept_foldl (history : List Operation) (h : ∀ operation ∈ history, operation.NamesKinds) :
    ∀ state : Index × Account, Kept state.1 state.2 →
      Kept (history.foldl Operation.step state).1 (history.foldl Operation.step state).2 := by
  induction history with
  | nil => exact fun _ hstate => hstate
  | cons operation rest ih =>
    intro state hstate
    exact ih (fun other hother => h other (List.mem_cons_of_mem _ hother)) _
      (hstate.step (h operation List.mem_cons_self))

/-- After every history of merges, registrations and resets with kinds that are text, the index
says what the history amounts to. -/
theorem represents_replay (history : List Operation)
    (h : ∀ operation ∈ history, operation.NamesKinds) :
    Represents (replay history).1 (replay history).2 :=
  (kept_foldl history h (.empty, .empty) Kept.empty).represents

/-- A report about one file that is merged once, registered once and refused once. -/
def refusedHistory : List Operation :=
  let report : Report := ⟨"A.java", .infer,
    [⟨"A.java", 3, .text "NULL", .infer⟩, ⟨"A.java", 1, .text "LEAK", .infer⟩,
      ⟨"A.java", 7, .text "NULL", .infer⟩]⟩
  [.merge report, .register report "first.json", .register report "second.json"]

/-- The refused report adds nothing. -/
theorem represents_refusedHistory :
    (∀ operation ∈ refusedHistory, operation.NamesKinds) ∧
      Represents (replay refusedHistory).1 (replay refusedHistory).2 ∧
      (replay refusedHistory).1.rowsOf "A.java" = [3, 1, 7, 3, 1, 7] := by
  have hnames : ∀ operation ∈ refusedHistory, operation.NamesKinds := by
    simp [refusedHistory, Operation.NamesKinds]
  exact ⟨hnames, represents_replay refusedHistory hnames, by decide⟩

end Crosscheck
