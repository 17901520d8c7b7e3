import Crosscheck.Proofs.Analysis.Evaluation
import Crosscheck.Proofs.Analysis.Independence
import Crosscheck.Proofs.Counting
/-!
# A folder without a report is silent

The findings that a campaign compares come from the reports of its tasks. As long as every report
keeps to the folder of its task, a folder whose report is missing, for whatever reason, has no
findings, so its mutants and their seeds are never told apart (`silent_folder`): nothing that could
not be found out is taken for nothing found.
-/

namespace Crosscheck.Native

/-! ## Where findings are filed -/

/-- The findings that are filed under a file are findings in that file. -/
theorem mem_byFile {tool : Tool} {found : List Violation} {report : Report}
    (h : report ∈ byFile tool found) :
    ∀ v ∈ report.violations, v ∈ found ∧ v.path = report.path := by
  unfold byFile at h
  obtain ⟨entry, hentry, rfl⟩ := List.mem_map.mp h
  induction found using List.reverseRecOn generalizing entry with
  | nil => exact absurd hentry List.not_mem_nil
  | append_singleton front last ih =>
    rw [List.foldl_append] at hentry
    have hfront (entry : String × List Violation)
        (hentry : entry ∈ (front.foldl (fun map v => OrderedMap.push map v.path [v])
          OrderedMap.empty).entries) :
        ∀ v ∈ entry.2, v ∈ front ++ [last] ∧ v.path = entry.1 := fun v hv =>
      (ih entry hentry (List.mem_map_of_mem hentry) v hv).imp_left (List.mem_append_left _)
    have hlast : last ∈ front ++ [last] := List.mem_append_right _ List.mem_cons_self
    rcases OrderedMap.mem_alter hentry with hold | rfl | ⟨old, hold, hkey, rfl⟩
    · exact hfront entry hold
    · intro v hv
      obtain rfl := List.mem_singleton.mp hv
      exact ⟨hlast, rfl⟩
    · intro v hv
      rcases List.mem_append.mp hv with hv | hv
      · exact hfront old hold v hv
      · obtain rfl := List.mem_singleton.mp hv
        exact ⟨hlast, (beq_iff_eq.mp hkey).symm⟩

/-- The reports that a digest is merged as. -/
def Digest.reports (tool : Tool) : Digest → List Report
  | .found violations => byFile tool violations
  | _ => []

theorem Digest.settle_eq (tool : Tool) (index : Index) (digest : Digest) :
    digest.settle tool index = (digest.reports tool).foldl Index.absorb index := by
  cases digest <;> rfl

end Crosscheck.Native

namespace Crosscheck.Analysis

open Crosscheck.Configuration Crosscheck.Files Crosscheck.Mutation

/-- Findings in a file come from the report of a task that was not skipped. -/
theorem exists_finding {fs : FileSystem} {tool : Tool} {results : List Result} {path : String}
    (h : (settleAll fs tool .empty results).bugsOf path ≠ .empty) :
    ∃ result ∈ unskipped results, ∃ found, result.digest fs tool = .found found ∧
      ∃ v ∈ found, v.path = path := by
  have hfold (index : Index) (results : List Result) :
      results.foldl (fun index result => (result.digest fs tool).settle tool index) index =
        (results.flatMap fun result => (result.digest fs tool).reports tool).foldl Index.absorb
          index := by
    simp only [List.foldl_flatMap, Native.Digest.settle_eq]
  unfold settleAll at h
  rw [hfold, Index.bugsOf_foldl_absorb] at h
  have hany : foundIn ((unskipped results).flatMap fun result =>
      (result.digest fs tool).reports tool) path ≠ [] := by
    intro hnone
    rw [hnone] at h
    exact h rfl
  obtain ⟨v, hv⟩ := List.exists_mem_of_ne_nil _ hany
  obtain ⟨report, hreport, hmem⟩ := List.mem_flatMap.mp hv
  split at hmem
  · next hpath =>
    obtain ⟨result, hresult, hlisted⟩ := List.mem_flatMap.mp hreport
    cases hdigest : result.digest fs tool with
    | found found =>
      rw [hdigest] at hlisted
      obtain ⟨hfound, hfiled⟩ := Native.mem_byFile hlisted v hmem
      exact ⟨result, hresult, found, hdigest, v, hfound, hfiled.trans (beq_iff_eq.mp hpath)⟩
    | empty => rw [hdigest] at hlisted; exact absurd hlisted List.not_mem_nil
    | unreadable => rw [hdigest] at hlisted; exact absurd hlisted List.not_mem_nil
    | stuck fault => rw [hdigest] at hlisted; exact absurd hlisted List.not_mem_nil
  · exact absurd hmem List.not_mem_nil

/-! ## Reports that are missing -/

/-- The ways in which a task can end without a report that has a place for findings. -/
inductive Result.Missing (fs : FileSystem) (tool : Tool) (result : Result) : Prop
  | skipped : result.skipped = true → Missing fs tool result
  | absent : fs.isFile result.task.report = false → Missing fs tool result
  | empty : fs.entry? result.task.report = some (.file []) → Missing fs tool result
  /-- The report is malformed. -/
  | malformed (e : ReportFault) :
    Native.parse fs tool result.task.folder result.task.report = .error (.report e) →
      Missing fs tool result
  | unopened (e : AccessError) :
    Native.parse fs tool result.task.folder result.task.report = .error (.access e) →
      Missing fs tool result
  /-- The report is well formed, but what would hold the findings is not in it. -/
  | containerless : Native.parse fs tool result.task.folder result.task.report = .ok none →
    Missing fs tool result

/-- A report that is missing has no findings. -/
theorem Result.Missing.not_found {fs : FileSystem} {tool : Tool} {result : Result}
    (h : result.Missing fs tool) (hrun : result.skipped = false) (found : List Violation) :
    result.digest fs tool ≠ .found found := by
  unfold Result.digest Native.digest
  cases h with
  | skipped hskipped => exact absurd (hskipped.symm.trans hrun) Bool.noConfusion
  | absent habsent =>
    have hunreadable : Native.isReadable fs result.task.report = false := by
      unfold FileSystem.isFile at habsent
      unfold Native.isReadable
      cases hentry : fs.entry? result.task.report with
      | none => rfl
      | some entry =>
        cases entry with
        | directory => rfl
        | file content => simp [hentry, Entry.isFile] at habsent
    simp [hunreadable]
  | empty hempty => simp [Native.isReadable, hempty]
  | malformed e hparse => split <;> simp [hparse]
  | unopened e hparse => split <;> simp [hparse]
  | containerless hparse => split <;> simp [hparse]

/-! ## The index of a run -/

/-- A crew leaves the findings, if nobody else touches them. -/
theorem index_of_run {adapter : Adapter} {tasks : List Task} {workers : Nat}
    {s s' : Crew × World} {trace : List Event} (hrun : Crew.Run adapter tasks workers s trace s')
    (h : ∀ before after, Event.interfere before after ∈ trace → after.index = before.index) :
    s'.2.index = s.2.index := by
  induction hrun with
  | nil => rfl
  | @snoc s₁ s₂ trace event _ hstep ih =>
    have hbefore := ih fun before after hmem => h before after (List.mem_append_left _ hmem)
    rw [← hbefore]
    cases hstep with
    | @work crew number task stage next w w' _ _ _ _ hadvance =>
      have hquiet := (quiet_advance adapter crew.cancelled task stage w).1
      rwa [hadvance] at hquiet
    | collect => rfl
    | cancel => rfl
    | interfere => exact h _ _ (List.mem_append_right _ List.mem_cons_self)

/-! ## Silent folders -/

namespace Campaign

variable {campaign : Campaign} {workers : Nat} {called : Bool} {tool : Tool} {corpus : String}
  {w field : World} {trace : List Event} {work : Fieldwork}

/-- Fieldwork finds nothing by itself. -/
theorem Fielded.index_eq (h : campaign.Fielded workers called tool corpus w trace work field)
    (halone : ∀ before after, Event.interfere before after ∈ trace →
      after.index = before.index) : field.index = w.index := by
  obtain ⟨counts, ready, crew, hprepare, hcrew, -, -⟩ := h
  have hready := ((outward_announce corpus (Corpus.folders w.files (Path.ofString corpus))).bind
    fun _ => campaign.outward_prepareSeeds (Corpus.folders w.files (Path.ofString corpus))) w
  rw [hprepare] at hready
  have hrun := index_of_run hcrew halone
  exact hrun.trans hready.1

end Campaign

/-- Where reports keep to the folders of their tasks, findings in a folder of the corpus come from a
report on that folder. -/
theorem exists_report_on_folder {fs found : FileSystem} {tool : Tool} {corpus folder : Path}
    {results : List Result} {path : String}
    (hhome : ∀ result ∈ results, result.task.folder ∈ Corpus.folders found corpus)
    (hinside : ∀ result ∈ unskipped results, ∀ violations,
      result.digest fs tool = .found violations →
        ∀ v ∈ violations, Corpus.Encloses result.task.folder v.path)
    (hfolder : folder ∈ Corpus.folders found corpus) (hpath : Corpus.Encloses folder path)
    (h : (settleAll fs tool .empty results).bugsOf path ≠ .empty) :
    ∃ result ∈ unskipped results, result.task.folder = folder ∧
      ∃ violations, result.digest fs tool = .found violations := by
  obtain ⟨result, hresult, violations, hdigest, v, hv, rfl⟩ := exists_finding h
  have hkept := hinside result hresult violations hdigest v hv
  have hlisted := hhome result (List.mem_of_mem_filter hresult)
  exact ⟨result, hresult, Corpus.eq_of_encloses hlisted hfolder hkept hpath, violations, hdigest⟩

/-- In a campaign that begins without findings, and whose reports keep to the folders of their
tasks, a folder whose task was skipped or whose report is missing has no part in any inconsistency,
whatever the other folders report, and whatever it holds: neither its mutants nor anything else in
it is told apart from a seed. -/
theorem silent_folder {campaign : Campaign} {workers : Nat} {called : Bool} {tool : Tool}
    {corpus : String} {w field : World} {trace : List Event} {work : Fieldwork}
    (hfielded : campaign.Fielded workers called tool corpus w trace work field)
    (hfresh : w.index = .empty)
    (halone : ∀ before after, Event.interfere before after ∈ trace → after.index = before.index)
    (hinside : ∀ result ∈ unskipped work.results, ∀ found,
      result.digest field.files tool = .found found →
        ∀ v ∈ found, Corpus.Encloses result.task.folder v.path)
    {summary : Summary} {after : World}
    (hevaluate : (work.evaluate tool).exec field = (.ok summary, after)) :
    ∀ result ∈ work.results, result.Missing field.files tool →
      ∀ i ∈ summary.inconsistencies,
        ¬ Corpus.Encloses result.task.folder i.seed ∧
        ¬ Corpus.Encloses result.task.folder i.mutant ∧
        i.mutant ∉ mutantPaths field.files [result.task.folder] := by
  obtain ⟨hfolders, hresults⟩ := hfielded.folders_eq
  have hindex : field.index = .empty := (hfielded.index_eq halone).trans hfresh
  have honce : work.folders.Nodup := hfolders ▸ Corpus.nodup_folders w.files _
  intro result hresult hmissing i hi
  obtain ⟨folder, hfolder, mutant, hmutant, seed, hseed, hseedText, hmutantText, hfindings⟩ :=
    exists_of_mem_inconsistencies hfolders hevaluate hi
  rw [hfolders] at hfolder
  obtain ⟨hseedIn, hmutantIn⟩ := Corpus.encloses_of_mem_mutants hfolder hmutant hseed
  rw [← hseedText] at hseedIn
  rw [← hmutantText] at hmutantIn
  have hhome : ∀ other ∈ work.results, other.task.folder ∈
      Corpus.folders w.files (Path.ofString corpus) := fun other hother =>
    hfolders ▸ hresults ▸ List.mem_map_of_mem hother
  rw [hindex] at hfindings
  obtain ⟨other, hother, rfl, found, hdigest⟩ : ∃ other ∈ unskipped work.results,
      other.task.folder = folder ∧ ∃ found, other.digest field.files tool = .found found := by
    rcases hfindings with hseedFound | hmutantFound
    · exact exists_report_on_folder hhome hinside hfolder hseedIn hseedFound
    · exact exists_report_on_folder hhome hinside hfolder hmutantIn hmutantFound
  have hapart : result.task.folder ≠ other.task.folder := by
    intro hsame
    rw [← hresults] at honce
    obtain rfl := List.inj_on_of_nodup_map honce hresult (List.mem_of_mem_filter hother) hsame
    have hrun : result.skipped = false := by simpa using (List.mem_filter.mp hother).2
    exact hmissing.not_found hrun found hdigest
  have houtside : ∀ text, Corpus.Encloses other.task.folder text →
      ¬ Corpus.Encloses result.task.folder text := fun text hin hout =>
    hapart (Corpus.eq_of_encloses (hhome result hresult) hfolder hout hin)
  refine ⟨houtside _ hseedIn, houtside _ hmutantIn, fun hlisted => ?_⟩
  obtain ⟨stray, hstray, htext⟩ := List.mem_map.mp hlisted
  rw [List.flatMap_singleton] at hstray
  obtain ⟨origin, horigin⟩ := Option.isSome_iff_exists.mp (List.mem_filter.mp hstray).2
  have hstrayIn := (Corpus.encloses_of_mem_mutants (hhome result hresult) hstray horigin).2
  rw [htext] at hstrayIn
  exact houtside _ hmutantIn hstrayIn

/-! ## An analyzer that fails in one folder -/

instance (folder : Path) (text : String) : Decidable (Corpus.Encloses folder text) :=
  inferInstanceAs (Decidable (_ <+: _))

/-- Whether the findings in the reports of tasks lie in the folders of the tasks. -/
def keepInside (fs : FileSystem) (tool : Tool) (results : List Result) : Bool :=
  results.all fun result =>
    match result.digest fs tool with
    | .found found => found.all fun v => decide (Corpus.Encloses result.task.folder v.path)
    | _ => true

theorem encloses_of_keepInside {fs : FileSystem} {tool : Tool} {results : List Result}
    (h : keepInside fs tool results = true) :
    ∀ result ∈ unskipped results, ∀ found, result.digest fs tool = .found found →
      ∀ v ∈ found, Corpus.Encloses result.task.folder v.path := by
  intro result hresult found hdigest v hv
  have hkept := List.all_eq_true.mp h result (List.mem_of_mem_filter hresult)
  rw [hdigest] at hkept
  exact of_decide_eq_true (List.all_eq_true.mp hkept v hv)

/-- Two folders with a seed and a mutant each. -/
def twinWorld : World :=
  let files := do
    let fs ← FileSystem.initial.ensureDirectories (Path.ofString "/tmp/w/seeds/a")
    let fs ← fs.ensureDirectories (Path.ofString "/tmp/w/seeds/b")
    let fs ← fs.write (Path.ofString "/tmp/w/seeds/a/A.java") []
    let fs ← fs.write (Path.ofString "/tmp/w/seeds/a/A_iter1.java") []
    let fs ← fs.write (Path.ofString "/tmp/w/seeds/b/A.java") []
    fs.write (Path.ofString "/tmp/w/seeds/b/A_iter1.java") []
  { World.initial with files := files.toOption.getD .initial }

/-- The analyzer finds something in the seed of the first folder and is gone for the second. The
first seed is told apart from its mutant, and the second folder is silent. -/
theorem silent_twinWorld :
    let campaign : Campaign := ⟨{ Settings.initial with mutation := false }, false⟩
    ∃ trace work field summary after,
      campaign.Fielded 1 false .pmd "seeds" twinWorld trace work field ∧
      twinWorld.index = .empty ∧
      (∀ before after, Event.interfere before after ∈ trace → after.index = before.index) ∧
      (∀ result ∈ unskipped work.results, ∀ found,
        result.digest field.files .pmd = .found found →
          ∀ v ∈ found, Corpus.Encloses result.task.folder v.path) ∧
      (work.evaluate .pmd).exec field = (.ok summary, after) ∧
      summary.inconsistencies.map (·.seed) = ["/tmp/w/seeds/a/A.java"] ∧
      ∃ result ∈ work.results, result.task.folder.render = "/tmp/w/seeds/b" ∧
        result.Missing field.files .pmd ∧
        ∀ i ∈ summary.inconsistencies,
          ¬ Corpus.Encloses result.task.folder i.seed ∧
          ¬ Corpus.Encloses result.task.folder i.mutant ∧
          i.mutant ∉ mutantPaths field.files [result.task.folder] := by
  intro campaign
  have hplayed : (campaign.playOut .pmd "seeds" 1 (alone 0 telling ++ alone 1 gone) twinWorld).map
      (fun played =>
        let work := played.2.1
        let field := played.2.2
        (played.1.all (Event.writesOwn (campaign.tasks .pmd work.folders)),
          keepInside field.files .pmd work.results,
          work.results.map fun result =>
            (result.task.folder.render, field.files.isFile result.task.report),
          ((work.evaluate .pmd).exec field).1.toOption.map fun summary =>
            summary.inconsistencies.map (·.seed))) =
      some (true, true, [("/tmp/w/seeds/a", true), ("/tmp/w/seeds/b", false)],
        some ["/tmp/w/seeds/a/A.java"]) := by
    decide +kernel
  obtain ⟨⟨trace, work, field⟩, hplay, hresult⟩ := Option.map_eq_some_iff.mp hplayed
  simp only [Prod.mk.injEq] at hresult
  obtain ⟨hown, hkept, hlisted, hfound⟩ := hresult
  obtain ⟨summary, hanswer, hseeds⟩ := Option.map_eq_some_iff.mp hfound
  obtain ⟨hfielded, hregular⟩ := Campaign.fielded_of_playOut hplay
  have halone : ∀ before after, Event.interfere before after ∈ trace →
      after.index = before.index := fun before after hmem => (hregular hown _ hmem).2.1
  have hinside := encloses_of_keepInside hkept
  have hevaluate := Action.exec_of_toOption hanswer
  have hsecond : ("/tmp/w/seeds/b", false) ∈ work.results.map fun result =>
      (result.task.folder.render, field.files.isFile result.task.report) := by
    rw [hlisted]
    exact List.mem_cons_of_mem _ List.mem_cons_self
  obtain ⟨result, hresult, hpair⟩ := List.mem_map.mp hsecond
  obtain ⟨hfolder, hfile⟩ := Prod.mk.inj hpair
  exact ⟨trace, work, field, summary, _, hfielded, rfl, halone, hinside, hevaluate, hseeds,
    result, hresult, hfolder, .absent hfile,
    silent_folder hfielded rfl halone hinside hevaluate result hresult (.absent hfile)⟩

end Crosscheck.Analysis
