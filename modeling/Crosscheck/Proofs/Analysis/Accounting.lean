import Crosscheck.Proofs.Analysis.Completion
import Crosscheck.Proofs.Analysis.Crew
/-!
# Every task is accounted for

Campaigns whose tasks are worked off by a crew. Whatever the interleaving, what the processes do and
when the run is cancelled, each task of a list has one result, the results stand in the order of the
tasks, and each task is launched, skipped, or has one entry of its own in the ledger
(`crew_accounts`). A pool that works off its tasks one at a time is a crew in which nobody waits
(`run_invokeAll`).
-/

namespace Crosscheck.Analysis

open Crosscheck.Configuration Crosscheck.Files

/-! ## A pool is a crew -/

/-- A worker of a crew may take its steps without a pause. -/
theorem run_of_carries {adapter : Adapter} {tasks : List Task} {workers number : Nat} {task : Task}
    {stage last : Stage} {w w' : World} {cancelled : Bool}
    (h : Carries adapter cancelled task stage w last w') (htask : tasks[number]? = some task) :
    ∀ crew : Crew, crew.cancelled = cancelled → crew.stages[number]? = some stage →
      stage.left ≤ 9 → (stage = .queued → crew.busy < workers) →
        ∃ trace, Crew.Run adapter tasks workers (crew, w) trace
          ({ crew with stages := crew.stages.set number last }, w') := by
  induction h with
  | refl stage w =>
    intro crew _ hstage _ _
    have hsame : crew.stages.set number stage = crew.stages := by
      obtain ⟨hbound, rfl⟩ := List.getElem?_eq_some_iff.mp hstage
      exact List.set_getElem_self hbound
    exact ⟨[], by rw [hsame]; exact .nil _⟩
  | @step stage next last w w' w'' hopen hrun _ ih =>
    intro crew hcancelled hstage hleft hfree
    have hnearer := (Advanced.of_exec hopen hrun).nearer
    have hbound : number < crew.stages.length := (List.getElem?_eq_some_iff.mp hstage).1
    have hfirst : Crew.Step adapter tasks workers (crew, w)
        (.work number stage crew.cancelled w w')
        ({ crew with stages := crew.stages.set number next }, w') :=
      .work htask hstage hopen hfree (hcancelled ▸ hrun)
    have hbegun : next ≠ .queued := by
      rintro rfl
      have hfirst : Stage.queued.left = 9 := rfl
      omega
    obtain ⟨trace, hrest⟩ := ih { crew with stages := crew.stages.set number next } hcancelled
      (List.getElem?_set_self hbound) (by omega) fun hqueued => absurd hqueued hbegun
    simp only [List.set_set] at hrest
    exact ⟨_, (Crew.Run.single hfirst).trans hrest⟩

/-- Of entries with distinct numbers one has the number of one of them. -/
theorem filter_fst_eq_singleton {number : Nat} {result : Result} {entries : List (Nat × Result)}
    (hnodup : (entries.map Prod.fst).Nodup) (hmem : (number, result) ∈ entries) :
    entries.filter (·.1 == number) = [(number, result)] := by
  obtain ⟨front, back, rfl⟩ := List.append_of_mem hmem
  have hothers : ∀ entry ∈ front ++ back, ¬ (entry.1 == number) = true := by
    rw [(List.perm_middle.map Prod.fst).nodup_iff, List.map_cons, List.nodup_cons] at hnodup
    rintro ⟨other, result'⟩ hentry hsame
    obtain rfl : other = number := beq_iff_eq.mp hsame
    exact hnodup.1 (List.mem_map.mpr ⟨_, hentry, rfl⟩)
  obtain ⟨hfront, hback⟩ := List.forall_mem_append.mp hothers
  rw [List.filter_append, List.filter_cons_of_pos (by simp), List.filter_eq_nil_iff.mpr hfront,
    List.filter_eq_nil_iff.mpr hback]
  rfl

/-- The task that a turn takes up. -/
def Turn.taken? : Turn → Option Nat
  | .work number => some number
  | _ => none

/-- A crew in which nobody is on the way stands like a pool, and has yet to begin some tasks. -/
structure Mirrors (tasks : List Task) (pool : Pool) (crew : Crew) (later : List Nat) : Prop where
  cancelled : crew.cancelled = pool.cancelled
  collected : crew.collected = pool.finished
  length : crew.stages.length = tasks.length
  idle : crew.busy = 0
  done : ∀ entry ∈ pool.running ++ pool.finished, crew.stages[entry.1]? = some (.done entry.2)
  nodup : ((pool.running ++ pool.finished).map Prod.fst).Nodup
  fresh : ∀ number ∈ later, number < tasks.length → crew.stages[number]? = some .queued

namespace Mirrors

variable {adapter : Adapter} {tasks : List Task} {pool pool' : Pool} {crew : Crew}
  {later : List Nat} {workers : Nat} {w w' : World}

/-- A task that is taken up is worked off without a pause. -/
theorem work {number : Nat} (hworkers : 0 < workers)
    (h : Mirrors tasks pool crew (number :: later)) (hlater : number ∉ later)
    (hrun : (pool.turn adapter tasks (.work number)).exec w = (.ok pool', w')) :
    ∃ trace crew', Crew.Run adapter tasks workers (crew, w) trace (crew', w') ∧
      Mirrors tasks pool' crew' later := by
  unfold Pool.turn at hrun
  cases hopen : pool.open? tasks number with
  | none =>
    simp only [hopen] at hrun
    obtain ⟨rfl, rfl⟩ := Action.answer_inj hrun
    exact ⟨[], crew, .nil _, h.cancelled, h.collected, h.length, h.idle, h.done, h.nodup,
      fun other hother => h.fresh other (List.mem_cons_of_mem _ hother)⟩
  | some task =>
    obtain ⟨result, w'', hwork, hcarries⟩ := carries_workOff adapter pool.cancelled task w
    simp only [hopen] at hrun
    rw [Action.exec_bind_of_ok hwork] at hrun
    obtain ⟨rfl, rfl⟩ := Action.answer_inj hrun
    obtain ⟨hnew, htask⟩ := Pool.open?_eq_some_iff.mp hopen
    have hnumber : number < tasks.length := (List.getElem?_eq_some_iff.mp htask).1
    have hstage := h.fresh number List.mem_cons_self hnumber
    obtain ⟨trace, hrun⟩ := run_of_carries hcarries htask crew h.cancelled hstage
      (Nat.le_refl 9) fun _ => h.idle.symm ▸ hworkers
    have hperm : ((pool.running ++ [(number, result)] ++ pool.finished)).Perm
        ((number, result) :: (pool.running ++ pool.finished)) := by
      rw [List.append_assoc]
      exact List.perm_middle
    refine ⟨trace, _, hrun, h.cancelled, h.collected, by simpa using h.length, ?_, ?_, ?_, ?_⟩
    · have hidle : crew.stages.countP Crew.isBusy = 0 := h.idle
      refine (countP_set hstage rfl).trans ?_
      rw [hidle]
      rfl
    · intro entry hentry
      rcases List.mem_cons.mp (hperm.mem_iff.mp hentry) with rfl | hold
      · exact List.getElem?_set_self (h.length.symm ▸ hnumber)
      · rw [List.getElem?_set_ne fun hsame => hnew (List.mem_map.mpr ⟨entry, hold, hsame.symm⟩)]
        exact h.done entry hold
    · rw [(hperm.map Prod.fst).nodup_iff, List.map_cons, List.nodup_cons]
      exact ⟨hnew, h.nodup⟩
    · intro other hother hbound
      have hne : number ≠ other := by
        rintro rfl
        exact hlater hother
      rw [List.getElem?_set_ne hne]
      exact h.fresh other (List.mem_cons_of_mem _ hother) hbound

/-- A result that comes in of a pool comes in of the crew. -/
theorem finish {number : Nat} (h : Mirrors tasks pool crew later)
    (hrun : (pool.turn adapter tasks (.finish number)).exec w = (.ok pool', w')) :
    ∃ trace crew', Crew.Run adapter tasks workers (crew, w) trace (crew', w') ∧
      Mirrors tasks pool' crew' later := by
  obtain ⟨rfl, rfl⟩ := Action.answer_inj hrun
  by_cases hmem : ∃ result, (number, result) ∈ pool.running
  · obtain ⟨result, hmem⟩ := hmem
    have hperm := pool.finish_perm number
    have hkeys := h.nodup
    rw [List.map_append, List.nodup_append] at hkeys
    obtain ⟨hrunning, -, hapart⟩ := hkeys
    have hnew : number ∉ crew.collected.map Prod.fst := by
      rw [h.collected]
      exact fun hin => hapart number (List.mem_map_of_mem hmem) number hin rfl
    rw [filter_fst_eq_singleton hrunning hmem] at hperm ⊢
    exact ⟨_, _, .single (.collect (h.done _ (List.mem_append_left _ hmem)) hnew), h.cancelled,
      by rw [h.collected], h.length, h.idle, fun entry hentry => h.done entry
        (hperm.mem_iff.mp hentry), (hperm.map Prod.fst).nodup_iff.mpr h.nodup, h.fresh⟩
  · have hothers : ∀ entry ∈ pool.running, entry.1 ≠ number := by
      rintro ⟨other, result⟩ hentry rfl
      exact hmem ⟨result, hentry⟩
    have hkept : pool.running.filter (·.1 != number) = pool.running :=
      List.filter_eq_self.mpr fun entry hentry => by simpa using hothers entry hentry
    have htaken : pool.running.filter (·.1 == number) = [] :=
      List.filter_eq_nil_iff.mpr fun entry hentry => by simpa using hothers entry hentry
    rw [hkept, htaken, List.append_nil]
    exact ⟨[], crew, .nil _, h⟩

/-- A turn of a pool is a part of a run. -/
theorem turn {next : Turn} (hworkers : 0 < workers)
    (h : Mirrors tasks pool crew (next.taken?.toList ++ later))
    (hnodup : (next.taken?.toList ++ later).Nodup)
    (hrun : (pool.turn adapter tasks next).exec w = (.ok pool', w')) :
    ∃ trace crew', Crew.Run adapter tasks workers (crew, w) trace (crew', w') ∧
      Mirrors tasks pool' crew' later := by
  cases next with
  | work number => exact h.work hworkers (List.nodup_cons.mp hnodup).1 hrun
  | finish number => exact h.finish hrun
  | cancel =>
    obtain ⟨rfl, rfl⟩ := Action.answer_inj hrun
    exact ⟨_, _, .single .cancel, rfl, h.collected, h.length, h.idle, h.done, h.nodup, h.fresh⟩

/-- Turns of a pool, no two of which take up the same task, are a run. -/
theorem follow (hworkers : 0 < workers) (schedule : List Turn) :
    ∀ {pool crew w}, Mirrors tasks pool crew (schedule.filterMap Turn.taken?) →
      (schedule.filterMap Turn.taken?).Nodup →
        (pool.follow adapter tasks schedule).exec w = (.ok pool', w') →
          ∃ trace crew', Crew.Run adapter tasks workers (crew, w) trace (crew', w') ∧
            Mirrors tasks pool' crew' [] := by
  induction schedule with
  | nil =>
    intro pool crew w h _ hrun
    obtain ⟨rfl, rfl⟩ := Action.answer_inj hrun
    exact ⟨[], crew, .nil _, h⟩
  | cons next rest ih =>
    intro pool crew w h hnodup hrun
    have hcons : (next :: rest).filterMap Turn.taken? =
        next.taken?.toList ++ rest.filterMap Turn.taken? := by
      cases htaken : next.taken? <;> simp [htaken]
    rw [hcons] at h hnodup
    obtain ⟨pool₁, w₁, hturn, -⟩ := Pool.exec_turn adapter tasks pool next w
    unfold Pool.follow at hrun
    rw [Action.exec_bind_of_ok hturn] at hrun
    obtain ⟨trace, crew₁, hfirst, hmirrors⟩ := h.turn hworkers hnodup hturn
    obtain ⟨more, crew₂, hrest, hlast⟩ := ih hmirrors (List.nodup_append.mp hnodup).2.1 hrun
    exact ⟨trace ++ more, crew₂, hfirst.trans hrest, hlast⟩

end Mirrors

/-- A schedule that takes up no task twice, and lets all results come in. -/
structure Orderly (tasks : Nat) (schedule : List Turn) : Prop where
  covers : Covers tasks schedule
  once : (schedule.filterMap Turn.taken?).Nodup

theorem orderly_inOrder (tasks : Nat) : Orderly tasks (inOrder tasks) where
  covers := covers_inOrder tasks
  once := by
    have htaken : (inOrder tasks).filterMap Turn.taken? = List.range tasks := by
      unfold inOrder
      rw [List.filterMap_flatMap]
      exact (List.flatMap_singleton' _)
    rw [htaken]
    exact List.nodup_range

/-- Working off tasks by an orderly schedule is a run of a crew that finishes. -/
theorem run_invokeAll {adapter : Adapter} {tasks : List Task} {workers : Nat} {cancelled : Bool}
    {schedule : List Turn} {results : List Result} {w w' : World} (hworkers : 0 < workers)
    (horderly : Orderly tasks.length schedule)
    (hrun : (invokeAll adapter cancelled tasks schedule).exec w = (.ok results, w')) :
    ∃ trace crew, Crew.Run adapter tasks workers (Crew.start cancelled tasks, w) trace (crew, w') ∧
      crew.Finished ∧ results = crew.results tasks := by
  obtain ⟨pool, w₁, hfollow, hreaches⟩ :=
    Pool.exec_follow adapter tasks schedule (Pool.start cancelled) w
  unfold invokeAll at hrun
  rw [Action.exec_bind_of_ok hfollow] at hrun
  obtain ⟨rfl, rfl⟩ := Action.answer_inj hrun
  have hstart : Mirrors tasks (Pool.start cancelled) (Crew.start cancelled tasks)
      (schedule.filterMap Turn.taken?) := by
    refine ⟨rfl, rfl, List.length_replicate, ?_, by simp [Pool.start], by simp [Pool.start],
      fun number _ hnumber => ?_⟩
    · exact (List.countP_replicate).trans rfl
    · exact (List.getElem?_replicate).trans (if_pos hnumber)
  obtain ⟨trace, crew, hcrew, hmirrors⟩ := hstart.follow hworkers schedule horderly.once hfollow
  refine ⟨trace, crew, hcrew, fun number hnumber => ?_, by rw [Crew.results, hmirrors.collected]⟩
  rw [hmirrors.length] at hnumber
  rw [hmirrors.collected]
  exact hreaches.has_of_sublist hnumber (horderly.covers number hnumber)

/-! ## Campaigns with a crew -/

namespace Campaign

variable (campaign : Campaign) (workers : Nat) (called : Bool) (tool : Tool) (corpus : String)

/-- Notes if there is no folder to scan. -/
def announce (folders : List Path) : Action Unit :=
  if folders.isEmpty then Action.note .warning s!"No seed folders found under {corpus}"
  else pure ()

/-- Fieldwork with a crew: mutants are generated, then the crew works off the tasks to its end.
`called` says whether the run is cancelled when the crew starts. -/
def Fielded (w : World) (trace : List Event) (work : Fieldwork) (field : World) : Prop :=
  let folders := Corpus.folders w.files (Path.ofString corpus)
  let tasks := campaign.tasks tool folders
  ∃ counts ready crew,
    (announce corpus folders >>= fun _ => campaign.prepareSeeds folders).exec w =
        (.ok counts, ready) ∧
      Crew.Run (campaign.adapter tool) tasks workers (Crew.start called tasks, ready) trace
        (crew, field) ∧
      crew.Finished ∧
      work = ⟨folders, counts.1, counts.2, crew.results tasks⟩

theorem exec_carryOut_eq (schedule : Nat → List Turn) (w : World) :
    (campaign.carryOut schedule tool corpus).exec w =
      (announce corpus (Corpus.folders w.files (Path.ofString corpus)) >>= fun _ =>
        campaign.workFolders schedule tool
          (Corpus.folders w.files (Path.ofString corpus))).exec w := by
  unfold carryOut announce
  rw [Action.exec_bind_of_ok (Action.exec_files w)]
  dsimp only
  split
  · rfl
  · rfl

/-- After the generation of mutants, the tasks are worked off. -/
theorem exec_carryOut_of_ready (schedule : Nat → List Turn) {w ready : World} {counts : Nat × Nat}
    (h : (announce corpus (Corpus.folders w.files (Path.ofString corpus)) >>= fun _ =>
      campaign.prepareSeeds (Corpus.folders w.files (Path.ofString corpus))).exec w =
        (.ok counts, ready)) :
    (campaign.carryOut schedule tool corpus).exec w =
      (invokeAll (campaign.adapter tool) campaign.cancelled
        (campaign.tasks tool (Corpus.folders w.files (Path.ofString corpus)))
        (schedule (campaign.tasks tool (Corpus.folders w.files (Path.ofString corpus))).length) >>=
          fun results => pure ⟨Corpus.folders w.files (Path.ofString corpus), counts.1, counts.2,
            results⟩ : Action Fieldwork).exec ready := by
  rw [exec_carryOut_eq]
  unfold workFolders
  rw [← bind_assoc, Action.exec_bind_of_ok h]

/-- What a campaign does with an orderly schedule is fieldwork with a crew. -/
theorem fielded_carryOut {schedule : Nat → List Turn} {work : Fieldwork} {w field : World}
    (hworkers : 0 < workers) (horderly : ∀ tasks, Orderly tasks (schedule tasks))
    (hrun : (campaign.carryOut schedule tool corpus).exec w = (.ok work, field)) :
    ∃ trace, campaign.Fielded workers campaign.cancelled tool corpus w trace work field := by
  have htotal : (announce corpus (Corpus.folders w.files (Path.ofString corpus))).Total := by
    unfold announce
    split
    · exact .note _ _
    · exact .pure ()
  obtain ⟨⟨⟩, w₀, hannounce⟩ := htotal w
  obtain ⟨counts, ready, hprepare⟩ :=
    campaign.total_prepareSeeds (Corpus.folders w.files (Path.ofString corpus)) w₀
  obtain ⟨results, w', hinvoke, -⟩ := exec_invokeAll (campaign.adapter tool) campaign.cancelled
    (campaign.tasks tool (Corpus.folders w.files (Path.ofString corpus)))
    (schedule (campaign.tasks tool (Corpus.folders w.files (Path.ofString corpus))).length) ready
  rw [campaign.exec_carryOut_eq, Action.exec_bind_of_ok hannounce] at hrun
  unfold workFolders at hrun
  rw [Action.exec_bind_of_ok hprepare] at hrun
  dsimp only at hrun
  rw [Action.exec_bind_of_ok hinvoke] at hrun
  obtain ⟨rfl, rfl⟩ := Action.answer_inj hrun
  obtain ⟨trace, crew, hcrew, hfinished, hresults⟩ :=
    run_invokeAll hworkers (horderly _) hinvoke
  exact ⟨trace, counts, ready, crew, by rw [Action.exec_bind_of_ok hannounce, hprepare], hcrew,
    hfinished, by rw [hresults]⟩

/-! ## The ledger -/

/-- Reading a report leaves the files and the entries of tools, however it ends. -/
theorem readMany_leaves (folder report : Path) (w : World) :
    ((Native.readMany tool folder report).exec w).2.files = w.files ∧
      ((Native.readMany tool folder report).exec w).2.ledger.tools = w.ledger.tools := by
  rw [Native.exec_readMany]
  cases Native.digest w.files tool folder report with
  | empty => exact ⟨rfl, rfl⟩
  | unreadable => exact ⟨rfl, rfl⟩
  | stuck fault => exact ⟨rfl, rfl⟩
  | found found => exact ⟨rfl, rfl⟩

theorem readReports_leaves (results : List Result) :
    ∀ w : World, ((readReports tool results).exec w).2.files = w.files ∧
      ((readReports tool results).exec w).2.ledger.tools = w.ledger.tools := by
  induction results with
  | nil => exact fun _ => ⟨rfl, rfl⟩
  | cons result rest ih =>
    intro w
    cases hskipped : result.skipped with
    | true =>
      rw [readReports_cons_of_skipped hskipped]
      exact ih w
    | false =>
      rw [exec_readReports_cons hskipped]
      refine Action.after_bind
        (fun after => after.files = w.files ∧ after.ledger.tools = w.ledger.tools)
        (readMany_leaves tool _ _ w) fun _ w' hread => ?_
      exact ⟨(ih w').1.trans hread.1, (ih w').2.trans hread.2⟩

/-- The summary of fieldwork in a world in which all reports were read. -/
def summaryOf (work : Fieldwork) (w : World) (found : List Inconsistency) : Summary where
  tool
  folders := work.folders.length
  seeds := work.seeds
  mutants := work.mutants
  invocations := work.results.length
  launched := work.results.countP (·.launched)
  skipped := work.results.countP (·.skipped)
  filesWithViolations := w.index.size
  totalViolations := w.index.total
  failures := w.ledger
  inconsistencies := found

/-- After the reports are read, the evaluation changes nothing. -/
theorem exec_evaluate (work : Fieldwork) (w : World) :
    (work.evaluate tool).exec w =
      match (readReports tool work.results).exec w with
      | (.error fault, after) => (.error fault, after)
      | (.ok _, after) =>
        ((inconsistencies after.index (mutantPaths after.files work.folders)).map
          (summaryOf tool work after), after) := by
  unfold Fieldwork.evaluate
  rw [Action.exec_bind]
  rcases (readReports tool work.results).exec w with ⟨fault | _, after⟩
  · rfl
  · dsimp only
    rw [Action.exec_bind, Fieldwork.exec_compareMutants]
    cases inconsistencies after.index (mutantPaths after.files work.folders) <;> rfl

/-- An evaluation leaves the files and the entries of tools. -/
theorem evaluate_leaves (work : Fieldwork) (w : World) :
    ((work.evaluate tool).exec w).2.files = w.files ∧
      ((work.evaluate tool).exec w).2.ledger.tools = w.ledger.tools := by
  have hread := readReports_leaves tool work.results w
  rw [exec_evaluate]
  generalize (readReports tool work.results).exec w = read at hread ⊢
  rcases read with ⟨fault | _, after⟩
  · exact hread
  · exact hread

/-- An evaluation leaves the entries of tools, and its summary tells the ledger. -/
theorem ledger_evaluate (work : Fieldwork) (w : World) :
    ((work.evaluate tool).exec w).2.ledger.tools = w.ledger.tools ∧
      ∀ summary, ((work.evaluate tool).exec w).1 = .ok summary →
        ∃ found, summary = summaryOf tool work ((work.evaluate tool).exec w).2 found := by
  refine ⟨(evaluate_leaves tool work w).2, fun summary h => ?_⟩
  rw [exec_evaluate] at h ⊢
  generalize (readReports tool work.results).exec w = read at h ⊢
  rcases read with ⟨fault | _, after⟩
  · exact nomatch h
  · dsimp only at h ⊢
    cases hfound : inconsistencies after.index (mutantPaths after.files work.folders) with
    | error fault =>
      rw [hfound] at h
      exact nomatch h
    | ok found =>
      rw [hfound] at h
      exact ⟨found, (Except.ok.inj h).symm⟩

theorem outward_announce (folders : List Path) : (announce corpus folders).Outward := by
  unfold announce
  split
  · exact .note _ _
  · exact .pure ()

/-- An announcement leaves the files. -/
theorem exec_announce (folders : List Path) (w : World) :
    ∃ after, (announce corpus folders).exec w = (.ok ⟨⟩, after) ∧ after.files = w.files := by
  unfold announce
  split
  · exact ⟨_, Action.exec_note w _ _, rfl⟩
  · exact ⟨w, rfl, rfl⟩

/-- Each result of fieldwork is launched, skipped, or has an entry that was not there before. -/
theorem Fielded.count {campaign : Campaign} {workers : Nat} {called : Bool} {tool : Tool}
    {corpus : String} {w field : World} {trace : List Event} {work : Fieldwork}
    (h : campaign.Fielded workers called tool corpus w trace work field) :
    work.results.length + w.ledger.tools.length = work.results.countP (·.launched) +
      work.results.countP (·.skipped) + field.ledger.tools.length := by
  obtain ⟨counts, ready, crew, hprepare, hcrew, hfinished, rfl⟩ := h
  have hready := ((outward_announce corpus (Corpus.folders w.files (Path.ofString corpus))).bind
    fun _ => campaign.outward_prepareSeeds (Corpus.folders w.files (Path.ofString corpus))) w
  rw [hprepare] at hready
  have haccounted := (Traced.of_run hcrew).accounted hfinished
  have hentries := congrArg List.length haccounted.entries
  have hcount := haccounted.count
  rw [List.length_append, hready.2] at hentries
  dsimp only at hentries hcount ⊢
  omega

end Campaign

/-- Three folders, and an analyzer that is there for the first of them and gone for the next. -/
def flakyWorld : World :=
  let files := do
    let fs ← FileSystem.initial.ensureDirectories (Path.ofString "/tmp/w/seeds/a")
    let fs ← fs.ensureDirectories (Path.ofString "/tmp/w/seeds/b")
    fs.ensureDirectories (Path.ofString "/tmp/w/seeds/c")
  { World.initial with
    files := files.toOption.getD .initial
    script := [.idle, ⟨[], .notStarted .notFound⟩] }

/-- Two workers take up two tasks, and the run is cancelled before a third. -/
def cutShort (tasks : Nat) : List Turn :=
  if tasks = 3 then
    [.work 0, .work 1, .finish 1, .cancel, .work 2, .finish 2, .finish 0]
  else inOrder tasks

theorem orderly_cutShort (tasks : Nat) : Orderly tasks (cutShort tasks) := by
  unfold cutShort
  split
  · next hthree =>
    subst hthree
    exact ⟨by unfold Covers; decide, by decide⟩
  · exact orderly_inOrder tasks

end Crosscheck.Analysis
