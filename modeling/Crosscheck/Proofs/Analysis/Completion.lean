import Crosscheck.Proofs.Analysis.Pool
import Crosscheck.Proofs.Comparison
import Crosscheck.Proofs.Native.Intake
/-!
# When a campaign comes to its end

A campaign does its fieldwork, which no fault ends, and then evaluates it: it reads the reports and
compares mutants with seeds. Whether the evaluation ends well depends on the reports alone. Each is
taken in as a whole, passed over, or recorded as a failure, unless it holds something that ends the
reading or a kind that cannot be a key; and each mutant is compared with its seed, unless the kinds
found in them have no common order.
-/

namespace Crosscheck.Analysis

open Crosscheck.Configuration Crosscheck.Files

/-- What a campaign has before it reads the first report. -/
structure Fieldwork where
  folders : List Path
  seeds : Nat
  mutants : Nat
  results : List Result

namespace Campaign

variable (campaign : Campaign) (schedule : Nat → List Turn) (tool : Tool) (corpus : String)

/-- Generates the mutants in folders and runs the analyzer over them. -/
def workFolders (folders : List Path) : Action Fieldwork := do
  let (seeds, mutants) ← campaign.prepareSeeds folders
  let tasks := campaign.tasks tool folders
  let results ← invokeAll (campaign.adapter tool) campaign.cancelled tasks (schedule tasks.length)
  return ⟨folders, seeds, mutants, results⟩

/-- Everything before the first report. -/
def carryOut : Action Fieldwork := do
  let folders := Corpus.folders (← Action.files) (Path.ofString corpus)
  if folders.isEmpty then Action.note .warning s!"No seed folders found under {corpus}"
  campaign.workFolders schedule tool folders

end Campaign

/-- Reads the reports and compares mutants with seeds. -/
def Fieldwork.evaluate (work : Fieldwork) (tool : Tool) : Action Summary := do
  Campaign.readReports tool work.results
  let found ← Campaign.compareMutants work.folders
  let w ← get
  return {
    tool
    folders := work.folders.length
    seeds := work.seeds
    mutants := work.mutants
    invocations := work.results.length
    launched := work.results.countP (·.launched)
    skipped := work.results.countP (·.skipped)
    filesWithViolations := w.index.size
    totalViolations := w.index.total
    failures := w.ledger
    inconsistencies := found }

namespace Campaign

variable (campaign : Campaign) (schedule : Nat → List Turn) (tool : Tool) (corpus : String)

theorem executeBy_eq :
    campaign.executeBy schedule tool corpus =
      campaign.carryOut schedule tool corpus >>= fun work => work.evaluate tool := by
  unfold executeBy carryOut workFolders Fieldwork.evaluate
  simp only [bind_assoc]
  congr 1
  funext fs
  split <;> simp only [bind_assoc, pure_bind]

theorem exec_workFolders (folders : List Path) (w : World) :
    ∃ work after, (campaign.workFolders schedule tool folders).exec w = (.ok work, after) ∧
      after.index = w.index ∧ after.ledger.reports = w.ledger.reports ∧
      work.folders = folders ∧
      ((∀ tasks, Covers tasks (schedule tasks)) →
        work.results.map (·.task) = campaign.tasks tool folders) := by
  obtain ⟨counts, w', hprepare⟩ := campaign.total_prepareSeeds folders w
  obtain ⟨results, w'', hinvoke, htasks⟩ := exec_invokeAll (campaign.adapter tool)
    campaign.cancelled (campaign.tasks tool folders)
    (schedule (campaign.tasks tool folders).length) w'
  have hfirst := (campaign.outward_prepareSeeds folders).quiet w
  have hsecond := quiet_invokeAll (campaign.adapter tool) campaign.cancelled
    (campaign.tasks tool folders) (schedule (campaign.tasks tool folders).length) w'
  rw [hprepare] at hfirst
  rw [hinvoke] at hsecond
  refine ⟨⟨folders, counts.1, counts.2, results⟩, w'', ?_, hsecond.1.trans hfirst.1,
    hsecond.2.trans hfirst.2, rfl, fun hcovers =>
      htasks (campaign.nodup_identities tool folders) (hcovers _)⟩
  unfold workFolders
  rw [Action.exec_bind_of_ok hprepare]
  dsimp only
  rw [Action.exec_bind_of_ok hinvoke]
  rfl

/-- Everything before the first report is done in any world, and finds nothing. -/
theorem exec_carryOut (w : World) :
    ∃ work after, (campaign.carryOut schedule tool corpus).exec w = (.ok work, after) ∧
      after.index = w.index ∧ after.ledger.reports = w.ledger.reports ∧
      work.folders = Corpus.folders w.files (Path.ofString corpus) ∧
      ((∀ tasks, Covers tasks (schedule tasks)) →
        work.results.map (·.task) = campaign.tasks tool work.folders) := by
  unfold carryOut
  rw [Action.exec_bind_of_ok (Action.exec_files w)]
  dsimp only
  split
  · rw [Action.exec_bind_of_ok (Action.exec_note w _ _)]
    obtain ⟨work, after, hwork, hindex, hreports, hfolders, htasks⟩ :=
      campaign.exec_workFolders schedule tool (Corpus.folders w.files (Path.ofString corpus))
        { w with journal := w.journal ++ [⟨.warning, s!"No seed folders found under {corpus}"⟩] }
    exact ⟨work, after, hwork, hindex, hreports, hfolders, hfolders ▸ htasks⟩
  · obtain ⟨work, after, hwork, hindex, hreports, hfolders, htasks⟩ :=
      campaign.exec_workFolders schedule tool (Corpus.folders w.files (Path.ofString corpus)) w
    exact ⟨work, after, hwork, hindex, hreports, hfolders, hfolders ▸ htasks⟩

end Campaign

/-! ## Reading the reports -/

/-- What the report of a task comes to. -/
def Result.digest (result : Result) (fs : FileSystem) (tool : Tool) : Native.Digest :=
  Native.digest fs tool result.task.folder result.task.report

/-- The results of the tasks that were not skipped. -/
def unskipped (results : List Result) : List Result := results.filter fun result => !result.skipped

/-- The findings of reports on top of those in an index. -/
def settleAll (fs : FileSystem) (tool : Tool) (index : Index) (results : List Result) : Index :=
  (unskipped results).foldl (fun index result => (result.digest fs tool).settle tool index) index

/-- The reports that are recorded as failures. -/
def unreadable (fs : FileSystem) (tool : Tool) (results : List Result) : List String :=
  ((unskipped results).filter fun result => (result.digest fs tool).isUnreadable).map
    fun result => result.task.report.render

/-- Whether all reports can be taken in. -/
def AllSound (fs : FileSystem) (tool : Tool) (results : List Result) : Prop :=
  ∀ result ∈ unskipped results, (result.digest fs tool).isSound = true

namespace Campaign

variable {tool : Tool}

theorem readReports_cons_of_skipped {result : Result} (h : result.skipped = true)
    (rest : List Result) : readReports tool (result :: rest) = readReports tool rest := by
  simp only [readReports, h, Bool.not_true, Bool.false_eq_true, if_false]

theorem exec_readReports_cons {result : Result} (h : result.skipped = false)
    (rest : List Result) (w : World) :
    (readReports tool (result :: rest)).exec w =
      (Native.readMany tool result.task.folder result.task.report >>= fun _ =>
        readReports tool rest).exec w := by
  simp only [readReports, h, Bool.not_false, if_true]

/-- Reports that can all be taken in are all taken in. -/
theorem exec_readReports_of_sound {results : List Result} :
    ∀ w : World, AllSound w.files tool results →
      ∃ after, (readReports tool results).exec w = (.ok ⟨⟩, after) ∧ after.files = w.files ∧
        after.index = settleAll w.files tool w.index results ∧
        after.ledger.reports = w.ledger.reports ++ unreadable w.files tool results := by
  induction results with
  | nil => exact fun w _ => ⟨w, rfl, rfl, rfl, (List.append_nil _).symm⟩
  | cons result rest ih =>
    intro w hsound
    cases hskipped : result.skipped with
    | true =>
      have hdrop : unskipped (result :: rest) = unskipped rest := by simp [unskipped, hskipped]
      unfold AllSound settleAll unreadable at *
      rw [hdrop] at hsound ⊢
      rw [readReports_cons_of_skipped hskipped]
      exact ih w hsound
    | false =>
      have hkeep : unskipped (result :: rest) = result :: unskipped rest := by
        simp [unskipped, hskipped]
      unfold AllSound settleAll unreadable at *
      rw [hkeep, List.forall_mem_cons] at hsound
      obtain ⟨reports, w', hread, hfiles, hindex, hledger⟩ :=
        Native.exec_readMany_of_isSound hsound.1
      obtain ⟨after, hrest, hfiles', hindex', hledger'⟩ := ih w' (hfiles ▸ hsound.2)
      refine ⟨after, ?_, hfiles'.trans hfiles, ?_, ?_⟩
      · rw [exec_readReports_cons hskipped, Action.exec_bind_of_ok hread, hrest]
      · rw [hindex', hindex, hfiles, hkeep]
        rfl
      · rw [hledger', hledger, hfiles, hkeep, List.append_assoc]
        congr 1
        show (if (result.digest w.files tool).isUnreadable then _ else _) ++ _ = _
        cases hunreadable : (result.digest w.files tool).isUnreadable <;> simp [hunreadable]

/-- A report that cannot be taken in ends the campaign. -/
theorem exec_readReports_of_not_sound {results : List Result} :
    ∀ w : World, ¬ AllSound w.files tool results →
      ∃ fault after, (readReports tool results).exec w = (.error fault, after) ∧
        (fault = .notKey ∨ Native.EndsReading fault) := by
  induction results with
  | nil => exact fun w hnot => absurd (fun result hresult => nomatch hresult) hnot
  | cons result rest ih =>
    intro w hnot
    cases hskipped : result.skipped with
    | true =>
      have hdrop : unskipped (result :: rest) = unskipped rest := by simp [unskipped, hskipped]
      unfold AllSound at *
      rw [hdrop] at hnot
      rw [readReports_cons_of_skipped hskipped]
      exact ih w hnot
    | false =>
      have hkeep : unskipped (result :: rest) = result :: unskipped rest := by
        simp [unskipped, hskipped]
      unfold AllSound at *
      rw [hkeep, List.forall_mem_cons, not_and] at hnot
      rw [exec_readReports_cons hskipped]
      cases hfirst : (result.digest w.files tool).isSound with
      | false =>
        obtain ⟨fault, after, hread, hcause⟩ := Native.exec_readMany_of_not_isSound hfirst
        exact ⟨fault, after, Action.exec_bind_of_error hread, hcause⟩
      | true =>
        obtain ⟨reports, w', hread, hfiles, -, -⟩ := Native.exec_readMany_of_isSound hfirst
        obtain ⟨fault, after, hrest, hcause⟩ := ih w' (hfiles ▸ hnot hfirst)
        exact ⟨fault, after, (Action.exec_bind_of_ok hread).trans hrest, hcause⟩

end Campaign

/-! ## Evaluating the fieldwork -/

/-- The mutants in folders. -/
def mutantPaths (fs : FileSystem) (folders : List Path) : List String :=
  (folders.flatMap (Corpus.mutants fs)).map Path.render

namespace Fieldwork

/-- Whether fieldwork can be evaluated in a world: every report can be taken in, and every mutant
can be compared with its seed. -/
def Evaluable (work : Fieldwork) (tool : Tool) (w : World) : Prop :=
  AllSound w.files tool work.results ∧
    ∀ pair ∈ pairs (mutantPaths w.files work.folders),
      Comparable (settleAll w.files tool w.index work.results) pair.1 pair.2

/-- What a summary and the world at the end say about fieldwork: all reports are taken in, all
mutants are compared, and what could not be read is told. -/
structure Evaluated (work : Fieldwork) (tool : Tool) (w : World) (summary : Summary)
    (after : World) : Prop where
  index : after.index = settleAll w.files tool w.index work.results
  unreadable : after.ledger.reports = w.ledger.reports ++ unreadable w.files tool work.results
  failures : summary.failures = after.ledger
  inconsistencies : summary.inconsistencies =
    (pairs (mutantPaths w.files work.folders)).flatMap fun pair =>
      inconsistenciesOf after.index pair.1 pair.2
  folders : summary.folders = work.folders.length
  invocations : summary.invocations = work.results.length
  files : summary.filesWithViolations = after.index.size
  total : summary.totalViolations = after.index.total

theorem exec_compareMutants (folders : List Path) (w : World) :
    (Campaign.compareMutants folders).exec w =
      (inconsistencies w.index (mutantPaths w.files folders), w) := by
  unfold Campaign.compareMutants
  rw [Action.exec_bind_of_ok (Action.exec_get w)]
  exact Action.exec_lift w _

variable {work : Fieldwork} {tool : Tool} {w : World}

/-- Fieldwork that can be evaluated is. -/
theorem exec_evaluate_of_evaluable (h : work.Evaluable tool w) :
    ∃ summary after, (work.evaluate tool).exec w = (.ok summary, after) ∧
      work.Evaluated tool w summary after := by
  obtain ⟨after, hread, hfiles, hindex, hledger⟩ :=
    Campaign.exec_readReports_of_sound w h.1
  obtain ⟨found, hfound⟩ := (inconsistencies_ok_iff after.index
    (mutantPaths after.files work.folders)).mpr (by rw [hfiles, hindex]; exact h.2)
  have hcompare := exec_compareMutants work.folders after
  rw [hfound] at hcompare
  unfold evaluate
  rw [Action.exec_bind_of_ok hread, Action.exec_bind_of_ok hcompare,
    Action.exec_bind_of_ok (Action.exec_get after)]
  refine ⟨_, after, rfl, hindex, hledger, rfl, ?_, rfl, rfl, rfl, rfl⟩
  rw [← hfiles]
  exact inconsistencies_eq_ok hfound

/-- A fault that ends an evaluation: a kind that is no key, kinds without an order, or what ends
the reading of a report. -/
def EndsEvaluation (fault : Fault) : Prop :=
  fault = .notKey ∨ fault = .notOrdered ∨ Native.EndsReading fault

/-- Any other fieldwork ends early. -/
theorem exec_evaluate_of_not_evaluable (h : ¬ work.Evaluable tool w) :
    ∃ fault after, (work.evaluate tool).exec w = (.error fault, after) ∧ EndsEvaluation fault := by
  unfold evaluate
  by_cases hsound : AllSound w.files tool work.results
  · obtain ⟨after, hread, hfiles, hindex, -⟩ := Campaign.exec_readReports_of_sound w hsound
    have hcompare := exec_compareMutants work.folders after
    rw [Action.exec_bind_of_ok hread]
    cases hfound : inconsistencies after.index (mutantPaths after.files work.folders) with
    | error fault =>
      rw [hfound] at hcompare
      exact ⟨fault, after, Action.exec_bind_of_error hcompare,
        .inr (.inl (inconsistencies_eq_error hfound))⟩
    | ok found =>
      refine absurd ⟨hsound, ?_⟩ h
      rw [← hindex, ← hfiles]
      exact (inconsistencies_ok_iff _ _).mp ⟨found, hfound⟩
  · obtain ⟨fault, after, hread, hcause⟩ := Campaign.exec_readReports_of_not_sound w hsound
    exact ⟨fault, after, Action.exec_bind_of_error hread, hcause.imp_right .inr⟩

end Fieldwork

/-! ## Campaigns -/

namespace Campaign

/-- A campaign gives a summary if what its fieldwork leaves can be evaluated, and only then; and
then every report was taken in and every mutant compared. The fieldwork itself is always carried
out, whatever the files, the processes and the schedule, so nothing else ends a campaign early. -/
theorem executeBy_completes_iff (campaign : Campaign) (schedule : Nat → List Turn) (tool : Tool)
    (corpus : String) (w : World) :
    ∃ work field, (campaign.carryOut schedule tool corpus).exec w = (.ok work, field) ∧
      field.index = w.index ∧ field.ledger.reports = w.ledger.reports ∧
      work.folders = Corpus.folders w.files (Path.ofString corpus) ∧
      ((∀ tasks, Covers tasks (schedule tasks)) →
        work.results.map (·.task) = campaign.tasks tool work.folders) ∧
      ((∃ summary, ((campaign.executeBy schedule tool corpus).exec w).1 = .ok summary) ↔
        work.Evaluable tool field) ∧
      (∀ summary after, (campaign.executeBy schedule tool corpus).exec w = (.ok summary, after) →
        work.Evaluated tool field summary after) ∧
      ∀ fault after, (campaign.executeBy schedule tool corpus).exec w = (.error fault, after) →
        Fieldwork.EndsEvaluation fault := by
  obtain ⟨work, field, hwork, hindex, hledger, hfolders, htasks⟩ :=
    campaign.exec_carryOut schedule tool corpus w
  have hexecute : (campaign.executeBy schedule tool corpus).exec w =
      (work.evaluate tool).exec field := by
    rw [executeBy_eq, Action.exec_bind_of_ok hwork]
  refine ⟨work, field, hwork, hindex, hledger, hfolders, htasks, ?_⟩
  rw [hexecute]
  by_cases hevaluable : work.Evaluable tool field
  · obtain ⟨summary, after, hevaluate, hevaluated⟩ :=
      Fieldwork.exec_evaluate_of_evaluable hevaluable
    rw [hevaluate]
    refine ⟨iff_of_true ⟨summary, rfl⟩ hevaluable, fun other last hsame => ?_,
      fun _ _ hsame => nomatch hsame⟩
    cases hsame
    exact hevaluated
  · obtain ⟨fault, after, hevaluate, hcause⟩ :=
      Fieldwork.exec_evaluate_of_not_evaluable hevaluable
    rw [hevaluate]
    refine ⟨iff_of_false (fun ⟨_, h⟩ => nomatch h) hevaluable,
      fun _ _ hsame => (nomatch hsame), fun other last hsame => ?_⟩
    cases hsame
    exact hcause

/-- A corpus of one file, and an analyzer that reports a finding with a list for its kind. -/
def oddWorld : World :=
  let files := do
    let fs ← FileSystem.initial.ensureDirectories (Path.ofString "/tmp/w/seeds")
    fs.write (Path.ofString "/tmp/w/seeds/A.java") "class A \x7b\x7d".toUTF8.data.toList
  let report :=
    "[\x7b\"file\": \"A.java\", \"line\": 1, \"bug_type\": [1]\x7d]".toUTF8.data.toList
  { World.initial with
    files := files.toOption.getD .initial
    script := [⟨[(Path.ofString "/tmp/w/results/infer/seeds/report.json", report)], .exited 0⟩] }

/-- The campaign ends with a fault and gives no summary. -/
theorem execute_oddWorld :
    let campaign : Campaign := ⟨{ Settings.initial with mutation := false }, false⟩
    ¬ ∃ summary, ((campaign.execute .infer "/tmp/w/seeds").exec oddWorld).1 = .ok summary := by
  rintro campaign ⟨summary, hsummary⟩
  have hfault :
      ((campaign.execute .infer "/tmp/w/seeds").exec oddWorld).1.toOption.isNone = true := by
    decide +kernel
  rw [hsummary] at hfault
  exact nomatch hfault

end Campaign

end Crosscheck.Analysis
