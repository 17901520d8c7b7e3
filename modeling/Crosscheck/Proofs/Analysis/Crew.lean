import Crosscheck.Proofs.Analysis.Pool
import Crosscheck.Proofs.Analysis.Worker
import Mathlib.Algebra.GroupWithZero.Nat
import Mathlib.Data.List.Perm.Subperm
/-!
# Workers side by side

A `Crew` works off tasks with a bounded number of workers. At any moment one of them takes its next
step, a result comes in, the run is cancelled, or something else changes the world between two
steps. A `Crew.Run` is any sequence of such events, with a trace of them.

Every worker of a crew is a worker alone as far as its own steps go (`Traced.history`). So each task
that is not skipped and not launched has one entry in the ledger of its own, and there are no
others. A crew that is not finished can always go on (`exists_step`), and its moves are bounded
(`Traced.moves`), so every run comes to its end if it goes on.
-/

namespace Crosscheck.Analysis

open Crosscheck.Files

/-- A crew: whether the run is cancelled, where the worker of each task stands, and the results that
have come in, by the numbers of their tasks. -/
structure Crew where
  cancelled : Bool
  stages : List Stage
  collected : List (Nat × Result)

/-- Something that happens to a crew. -/
inductive Event
  /-- The worker of a task takes a step from a stage, while the run is cancelled or not. -/
  | work (number : Nat) (stage : Stage) (cancelled : Bool) (before after : World)
  /-- The result of a task comes in. -/
  | collect (number : Nat)
  /-- The run is cancelled. -/
  | cancel
  /-- Something else changes the world. -/
  | interfere (before after : World)

namespace Event

/-- Whether it is a step of the worker of a task. -/
def isOf (number : Nat) : Event → Bool
  | work other _ _ _ _ => other == number
  | _ => false

/-- Whether it brings the crew closer to its end. -/
def isMove : Event → Bool
  | work .. | collect _ => true
  | _ => false

/-- What it records in the ledger. -/
def entries (adapter : Adapter) (tasks : List Task) : Event → List String
  | work number stage _ _ _ => ((tasks[number]?).map fun task => stage.entries adapter task).getD []
  | _ => []

/-- Whether it is the step of a worker that sees, before it begins, that the run is cancelled. -/
def skips : Event → Bool
  | work _ .queued cancelled _ _ => cancelled
  | _ => false

/-- Whether it leaves the world as it is: no process, no change of files, no entry. -/
def Idle : Event → Prop
  | work _ _ _ before after => after = before
  | interfere before after => after = before
  | _ => True

end Event

namespace Crew

/-- A crew before its first event. -/
def start (cancelled : Bool) (tasks : List Task) : Crew :=
  ⟨cancelled, List.replicate tasks.length .queued, []⟩

/-- Whether a worker is busy with the task. -/
def isBusy : Stage → Bool
  | .queued | .done _ => false
  | _ => true

/-- The number of busy workers. -/
def busy (crew : Crew) : Nat := crew.stages.countP isBusy

/-- Whether all results have come in. -/
def Finished (crew : Crew) : Prop :=
  ∀ number < crew.stages.length, number ∈ crew.collected.map Prod.fst

/-- The results that have come in, in the order of the tasks. -/
def results (tasks : List Task) (crew : Crew) : List Result :=
  inTaskOrder tasks (crew.collected.map Prod.snd)

/-- What can happen to a crew of so many workers in a world. A worker begins a task only if it is
free. Nobody else writes into the ledger of tools. -/
inductive Step (adapter : Adapter) (tasks : List Task) (workers : Nat) :
    Crew × World → Event → Crew × World → Prop
  | work {crew : Crew} {number : Nat} {task : Task} {stage next : Stage} {w w' : World} :
    tasks[number]? = some task → crew.stages[number]? = some stage → stage.isDone = false →
      (stage = .queued → crew.busy < workers) →
        (stage.advance adapter crew.cancelled task).exec w = (.ok next, w') →
          Step adapter tasks workers (crew, w) (.work number stage crew.cancelled w w')
            ({ crew with stages := crew.stages.set number next }, w')
  | collect {crew : Crew} {number : Nat} {result : Result} {w : World} :
    crew.stages[number]? = some (.done result) → number ∉ crew.collected.map Prod.fst →
      Step adapter tasks workers (crew, w) (.collect number)
        ({ crew with collected := crew.collected ++ [(number, result)] }, w)
  | cancel {crew : Crew} {w : World} :
    Step adapter tasks workers (crew, w) .cancel ({ crew with cancelled := true }, w)
  | interfere {crew : Crew} {w w' : World} : w'.ledger.tools = w.ledger.tools →
    Step adapter tasks workers (crew, w) (.interfere w w') (crew, w')

/-- A run of a crew with its trace, from one moment to another. -/
inductive Run (adapter : Adapter) (tasks : List Task) (workers : Nat) :
    Crew × World → List Event → Crew × World → Prop
  | nil (s : Crew × World) : Run adapter tasks workers s [] s
  | snoc {s s' s'' : Crew × World} {trace : List Event} {event : Event} :
    Run adapter tasks workers s trace s' → Step adapter tasks workers s' event s'' →
      Run adapter tasks workers s (trace ++ [event]) s''

end Crew

namespace Crew.Run

variable {adapter : Adapter} {tasks : List Task} {workers : Nat} {s s' s'' : Crew × World}
  {trace more : List Event}

theorem single {event : Event} (h : Crew.Step adapter tasks workers s event s') :
    Crew.Run adapter tasks workers s [event] s' := .snoc (.nil s) h

theorem trans (h : Crew.Run adapter tasks workers s trace s')
    (hmore : Crew.Run adapter tasks workers s' more s'') :
    Crew.Run adapter tasks workers s (trace ++ more) s'' := by
  induction hmore with
  | nil => rwa [List.append_nil]
  | snoc _ hstep ih =>
    rw [← List.append_assoc]
    exact .snoc ih hstep

end Crew.Run

/-! ## One worker among others -/

/-- The steps that a worker has taken so far with a task, whatever happened in between. -/
inductive History (adapter : Adapter) (task : Task) (number : Nat) : List Event → Stage → Prop
  | nil : History adapter task number [] .queued
  | snoc {events : List Event} {stage next : Stage} {cancelled : Bool} {w w' : World} :
    History adapter task number events stage → stage.isDone = false →
      (stage.advance adapter cancelled task).exec w = (.ok next, w') →
        History adapter task number (events ++ [.work number stage cancelled w w']) next

/-- What the steps with a task come to when it is over. -/
structure Settled (adapter : Adapter) (tasks : List Task) (task : Task) (events : List Event)
    (result : Result) : Prop where
  task_eq : result.task = task
  /-- The task is skipped if its worker saw that the run was cancelled, and only then. -/
  skipped_iff : result.skipped = true ↔ ∃ event ∈ events, event.skips = true
  /-- The worker of a task that is skipped leaves the world alone. -/
  idle : result.skipped = true → ∀ event ∈ events, event.Idle
  /-- A task that is skipped is not launched. -/
  exclusive : result.launched = true → result.skipped = false
  /-- There is one entry for a task that is neither, and else none. -/
  entries : (events.flatMap (Event.entries adapter tasks)).length =
    if result.launched || result.skipped then 0 else 1

namespace History

variable {adapter : Adapter} {tasks : List Task} {task : Task} {number : Nat} {events : List Event}
  {stage : Stage}

/-- No worker takes more than nine steps with a task. -/
theorem left_add_length_le (h : History adapter task number events stage) :
    stage.left + events.length ≤ 9 := by
  induction h with
  | nil => exact Nat.le_refl 9
  | snoc _ hopen hrun ih =>
    have := (Advanced.of_exec hopen hrun).nearer
    rw [List.length_append, List.length_singleton]
    omega

/-- A worker that has not begun has taken no step. -/
theorem eq_nil_of_queued (h : History adapter task number events .queued) : events = [] := by
  have := h.left_add_length_le
  simp only [Stage.left] at this
  exact List.length_eq_zero_iff.mp (by omega)

/-- Before a task is over, its worker has seen no cancelled run and recorded nothing. -/
structure Open (adapter : Adapter) (tasks : List Task) (events : List Event) : Prop where
  sees : ∀ event ∈ events, event.skips = false
  entries : events.flatMap (Event.entries adapter tasks) = []

/-- What the next step adds to the steps of a task that is not over. -/
theorem settles {cancelled : Bool} {next : Stage} {w w' : World}
    (htask : tasks[number]? = some task) (h : History adapter task number events stage)
    (hopen : Open adapter tasks events)
    (hadvanced : Advanced adapter cancelled task stage next w w') :
    let events' := events ++ [Event.work number stage cancelled w w']
    (next.isDone = false → Open adapter tasks events') ∧
      ∀ result, next = .done result → Settled adapter tasks task events' result := by
  intro events'
  have hentries : events'.flatMap (Event.entries adapter tasks) = stage.entries adapter task := by
    simp [events', hopen.entries, Event.entries, htask]
  by_cases hskips : stage = .queued ∧ cancelled = true
  · obtain ⟨rfl, rfl⟩ := hskips
    obtain ⟨rfl, rfl⟩ := hadvanced.skips rfl rfl
    obtain rfl := h.eq_nil_of_queued
    refine ⟨nofun, fun result hdone => ?_⟩
    cases hdone
    refine ⟨rfl, iff_of_true rfl ⟨_, List.mem_singleton_self _, rfl⟩, fun _ event hevent => ?_,
      nofun, by rw [hentries]; rfl⟩
    rw [List.mem_singleton.mp hevent]
    exact rfl
  · have hlast : (Event.work number stage cancelled w w').skips = false := by
      cases stage with
      | queued => simpa [Event.skips] using hskips
      | _ => rfl
    have hsees : ∀ event ∈ events', event.skips = false := by
      intro event hevent
      rcases List.mem_append.mp hevent with hold | hnew
      · exact hopen.sees event hold
      · rw [List.mem_singleton.mp hnew]
        exact hlast
    refine ⟨fun hdone => ⟨hsees, ?_⟩, fun result hdone => ?_⟩
    · rw [hentries]
      have hfailed := hadvanced.failed
      cases next with
      | done result => exact nomatch hdone
      | _ => exact List.length_eq_zero_iff.mp hfailed
    · have hwork : stage = .queued → cancelled = false := by
        intro hqueued
        simpa [hqueued] using hskips
      obtain ⟨htask', hskipped⟩ := hadvanced.works hwork result hdone
      refine ⟨htask', ?_, fun h => ?_, fun _ => hskipped, ?_⟩
      · refine iff_of_false (by simp [hskipped]) ?_
        rintro ⟨event, hevent, hskips'⟩
        rw [hsees event hevent] at hskips'
        exact nomatch hskips'
      · rw [hskipped] at h
        exact nomatch h
      · rw [hentries, hadvanced.failed, hdone, hskipped]
        cases hlaunched : result.launched <;> simp [Stage.isFailed, hlaunched, hskipped]

/-- A task that is over is settled, and one that is not is open. -/
theorem settled (htask : tasks[number]? = some task)
    (h : History adapter task number events stage) :
    (stage.isDone = false → Open adapter tasks events) ∧
      ∀ result, stage = .done result → Settled adapter tasks task events result := by
  induction h with
  | nil => exact ⟨fun _ => ⟨by simp, rfl⟩, by simp⟩
  | snoc hbefore hopen hrun ih =>
    exact settles htask hbefore (ih.1 hopen) (.of_exec hopen hrun)

end History

/-! ## The crew -/

/-- The steps and entries that are left to a crew, at most. -/
def Crew.left (crew : Crew) : Nat :=
  (crew.stages.map Stage.left).sum + (crew.stages.length - crew.collected.length)

/-- What every moment of a run keeps. -/
structure Traced (adapter : Adapter) (tasks : List Task) (start : World) (trace : List Event)
    (crew : Crew) (w : World) : Prop where
  length : crew.stages.length = tasks.length
  history : ∀ number task stage, tasks[number]? = some task → crew.stages[number]? = some stage →
    History adapter task number (trace.filter (·.isOf number)) stage
  collected : ∀ entry ∈ crew.collected, crew.stages[entry.1]? = some (.done entry.2)
  nodup : (crew.collected.map Prod.fst).Nodup
  tools : w.ledger.tools = start.ledger.tools ++ trace.flatMap (Event.entries adapter tasks)
  failed : (trace.flatMap (Event.entries adapter tasks)).length = crew.stages.countP Stage.isFailed
  moves : trace.countP Event.isMove + crew.left ≤ 10 * tasks.length

section Stages

variable {stages : List Stage} {number : Nat} {stage next : Stage}

theorem sum_map_set_lt {f : Stage → Nat} (h : stages[number]? = some stage)
    (hlt : f next < f stage) :
    ((stages.set number next).map f).sum < (stages.map f).sum := by
  induction stages generalizing number with
  | nil => simp at h
  | cons head rest ih =>
    cases number with
    | zero =>
      obtain rfl := Option.some.inj h
      simpa using hlt
    | succ number =>
      simpa using ih h

theorem countP_set {p : Stage → Bool} (h : stages[number]? = some stage)
    (hstage : p stage = false) :
    (stages.set number next).countP p = stages.countP p + (p next).toNat := by
  induction stages generalizing number with
  | nil => simp at h
  | cons head rest ih =>
    cases number with
    | zero =>
      obtain rfl := Option.some.inj h
      cases hnext : p next <;> simp [hstage, hnext]
    | succ number =>
      simp only [List.set_cons_succ, List.countP_cons, ih h]
      omega

/-- When one worker has gone on, a worker is that one, or it stands where it stood. -/
theorem stage_of_set {tasks : List Task} {task task' : Task} {other : Nat} {stage' : Stage}
    (htask : tasks[number]? = some task) (htask' : tasks[other]? = some task')
    (hstage' : (stages.set number next)[other]? = some stage') :
    (other = number ∧ task' = task ∧ stage' = next) ∨
      (other ≠ number ∧ stages[other]? = some stage') := by
  rw [List.getElem?_set] at hstage'
  split at hstage'
  · next hsame =>
    obtain ⟨-, hnext⟩ := Option.ite_none_right_eq_some.mp hstage'
    obtain rfl := hsame
    exact .inl ⟨rfl, Option.some.inj (htask'.symm.trans htask), (Option.some.inj hnext).symm⟩
  · next hother => exact .inr ⟨Ne.symm hother, hstage'⟩

/-- Results that have come in, of different tasks that are over, are no more than the tasks. -/
theorem length_le_of_collected {collected : List (Nat × Result)}
    (hdone : ∀ entry ∈ collected, stages[entry.1]? = some (.done entry.2))
    (hnodup : (collected.map Prod.fst).Nodup) : collected.length ≤ stages.length := by
  have hsub : collected.map Prod.fst ⊆ List.range stages.length := by
    intro number hnumber
    obtain ⟨entry, hentry, rfl⟩ := List.mem_map.mp hnumber
    exact List.mem_range.mpr (List.getElem?_eq_some_iff.mp (hdone entry hentry)).1
  simpa using (hnodup.subperm hsub).length_le

end Stages

namespace Traced

variable {adapter : Adapter} {tasks : List Task} {start w w' : World} {trace : List Event}
  {crew : Crew} {workers : Nat}

theorem start_of (adapter : Adapter) (tasks : List Task) (cancelled : Bool) (w : World) :
    Traced adapter tasks w [] (Crew.start cancelled tasks) w where
  length := List.length_replicate
  history number task stage _ hstage := by
    obtain rfl := List.eq_of_mem_replicate (List.mem_of_getElem? hstage)
    exact .nil
  collected _ hentry := absurd hentry List.not_mem_nil
  nodup := List.nodup_nil
  tools := (List.append_nil _).symm
  failed := by
    unfold Crew.start
    rw [List.countP_replicate]
    rfl
  moves := by
    simp only [Crew.left, Crew.start, List.map_replicate, List.sum_replicate_nat,
      List.length_replicate, List.countP_nil, List.length_nil, Stage.left]
    omega

/-- A step of a worker keeps the account. -/
theorem work {number : Nat} {task : Task} {stage next : Stage}
    (h : Traced adapter tasks start trace crew w) (htask : tasks[number]? = some task)
    (hstage : crew.stages[number]? = some stage) (hopen : stage.isDone = false)
    (hrun : (stage.advance adapter crew.cancelled task).exec w = (.ok next, w')) :
    Traced adapter tasks start (trace ++ [.work number stage crew.cancelled w w'])
      { crew with stages := crew.stages.set number next } w' := by
  have hadvanced := Advanced.of_exec hopen hrun
  have hentries : (Event.work number stage crew.cancelled w w').entries adapter tasks =
      stage.entries adapter task := by simp [Event.entries, htask]
  refine ⟨by simpa using h.length, fun other task' stage' htask' hstage' => ?_,
    fun entry hentry => ?_, h.nodup, ?_, ?_, ?_⟩
  · rw [List.filter_append]
    rcases stage_of_set htask htask' hstage' with ⟨rfl, rfl, rfl⟩ | ⟨hother, hstood⟩
    · simpa [Event.isOf] using (h.history other task' stage htask hstage).snoc hopen hrun
    · simpa [Event.isOf, hother.symm] using h.history other task' stage' htask' hstood
  · -- The result of this task has not come in, since it was not over.
    have hother : number ≠ entry.1 := by
      rintro rfl
      rw [h.collected entry hentry] at hstage
      obtain rfl := Option.some.inj hstage
      exact nomatch hopen
    rw [List.getElem?_set_ne hother]
    exact h.collected entry hentry
  · rw [List.flatMap_append, ← List.append_assoc, ← h.tools, hadvanced.tools]
    simp [hentries]
  · rw [List.flatMap_append, List.length_append, h.failed,
      countP_set hstage (by cases stage <;> first | rfl | exact nomatch hopen)]
    simp [hentries, hadvanced.failed]
  · have hleft := sum_map_set_lt hstage hadvanced.nearer
    have hmoves := h.moves
    simp only [Crew.left, List.countP_append, List.length_set] at hmoves ⊢
    simp only [List.countP_singleton, Event.isMove, if_true]
    omega

/-- A result that comes in keeps the account. -/
theorem collect {number : Nat} {result : Result} (h : Traced adapter tasks start trace crew w)
    (hstage : crew.stages[number]? = some (.done result))
    (hnew : number ∉ crew.collected.map Prod.fst) :
    Traced adapter tasks start (trace ++ [.collect number])
      { crew with collected := crew.collected ++ [(number, result)] } w := by
  have hnodup : ((crew.collected ++ [(number, result)]).map Prod.fst).Nodup := by
    rw [List.map_append, List.map_singleton, List.nodup_append]
    refine ⟨h.nodup, by simp, fun other hother last hlast => ?_⟩
    rw [List.mem_singleton.mp hlast]
    rintro rfl
    exact hnew hother
  have hcollected : ∀ entry ∈ crew.collected ++ [(number, result)],
      crew.stages[entry.1]? = some (.done entry.2) := by
    intro entry hentry
    rcases List.mem_append.mp hentry with hold | hlast
    · exact h.collected entry hold
    · rw [List.mem_singleton.mp hlast]
      exact hstage
  refine ⟨h.length, fun other task stage htask hother => ?_, hcollected, hnodup, ?_, ?_, ?_⟩
  · simpa [Event.isOf] using h.history other task stage htask hother
  · simpa [Event.entries] using h.tools
  · simpa [Event.entries] using h.failed
  · have hlength := length_le_of_collected hcollected hnodup
    have hmoves := h.moves
    simp only [Crew.left, List.countP_append, List.length_append, List.length_singleton]
      at hmoves hlength ⊢
    simp only [List.countP_singleton, Event.isMove, if_true]
    omega

/-- Whatever happens keeps the account. -/
theorem step {crew' : Crew} {event : Event} (h : Traced adapter tasks start trace crew w)
    (hstep : Crew.Step adapter tasks workers (crew, w) event (crew', w')) :
    Traced adapter tasks start (trace ++ [event]) crew' w' := by
  cases hstep with
  | work htask hstage hopen _ hrun => exact h.work htask hstage hopen hrun
  | collect hstage hnew => exact h.collect hstage hnew
  | cancel =>
    exact ⟨h.length, fun number task stage htask hstage => by
      simpa [Event.isOf] using h.history number task stage htask hstage, h.collected, h.nodup,
      by simpa [Event.entries] using h.tools, by simpa [Event.entries] using h.failed,
      by simpa [Event.isMove, Crew.left] using h.moves⟩
  | interfere htools =>
    exact ⟨h.length, fun number task stage htask hstage => by
      simpa [Event.isOf] using h.history number task stage htask hstage, h.collected, h.nodup,
      by simpa [Event.entries, htools] using h.tools, by simpa [Event.entries] using h.failed,
      by simpa [Event.isMove] using h.moves⟩

/-- Every moment of a run is accounted for. -/
theorem of_run {cancelled : Bool} {s : Crew × World}
    (hrun : Crew.Run adapter tasks workers (Crew.start cancelled tasks, w) trace s) :
    Traced adapter tasks w trace s.1 s.2 := by
  generalize hstart : (Crew.start cancelled tasks, w) = first at hrun
  induction hrun with
  | nil => subst hstart; exact start_of adapter tasks cancelled w
  | snoc _ hstep ih => exact ih.step hstep

/-! ## The end of a run -/

/-- A crew that is not finished can go on. -/
theorem exists_step (h : Traced adapter tasks start trace crew w) (hworkers : 0 < workers)
    (hopen : ¬ crew.Finished) :
    ∃ event s, event.isMove = true ∧ Crew.Step adapter tasks workers (crew, w) event s := by
  unfold Crew.Finished at hopen
  push Not at hopen
  obtain ⟨number, hnumber, hnew⟩ := hopen
  have htask : ∀ (other : Nat) (stage : Stage), crew.stages[other]? = some stage →
      ∃ task, tasks[other]? = some task := by
    intro other stage hstage
    have hbound := (List.getElem?_eq_some_iff.mp hstage).1
    exact ⟨_, List.getElem?_eq_getElem (h.length ▸ hbound)⟩
  have hwork : ∀ (other : Nat) (stage : Stage), crew.stages[other]? = some stage →
      stage.isDone = false → (stage = .queued → crew.busy < workers) →
        ∃ event s, event.isMove = true ∧ Crew.Step adapter tasks workers (crew, w) event s := by
    intro other stage hstage hdone hfree
    obtain ⟨task, htask⟩ := htask other stage hstage
    obtain ⟨next, w', hrun, -⟩ := exec_advance adapter crew.cancelled task hdone w
    exact ⟨_, _, rfl, .work htask hstage hdone hfree hrun⟩
  have hstage := List.getElem?_eq_getElem hnumber
  cases hcase : crew.stages[number] with
  | done result => exact ⟨_, _, rfl, .collect (hcase ▸ hstage) hnew⟩
  | queued =>
    by_cases hbusy : crew.busy = 0
    · exact hwork number _ hstage (by rw [hcase]; rfl) fun _ => hbusy ▸ hworkers
    · -- No worker is free, so one of them is busy with another task.
      obtain ⟨stage, hmem, hbusy'⟩ := List.countP_pos_iff.mp (Nat.pos_of_ne_zero hbusy)
      obtain ⟨other, hother⟩ := List.mem_iff_getElem?.mp hmem
      refine hwork other stage hother ?_ fun hqueued => ?_
      · cases stage <;> first | rfl | exact nomatch hbusy'
      · rw [hqueued] at hbusy'
        exact nomatch hbusy'
  | _ =>
    exact hwork number _ hstage (by rw [hcase]; rfl) fun hqueued => by
      rw [hcase] at hqueued
      exact nomatch hqueued

end Traced

/-- How the results of tasks account for what happened between two worlds. -/
structure Accounted (adapter : Adapter) (tasks : List Task) (before : World) (trace : List Event)
    (after : World) (results : List Result) : Prop where
  /-- There is one result for each number of a task, and it says what the worker of the task did. -/
  settled : ∃ numbers : List Nat, numbers.Perm (List.range tasks.length) ∧
    List.Forall₂ (fun number result => ∃ task, tasks[number]? = some task ∧
      Settled adapter tasks task (trace.filter (·.isOf number)) result) numbers results ∧
    -- A task that is there twice has both its results at the last of its places.
    ((tasks.map Task.identity).Nodup → numbers = List.range tasks.length)
  /-- The results stand in the order of the tasks. -/
  ordered : results.Pairwise fun result later =>
    placeIn tasks result.task ≤ placeIn tasks later.task
  tasks_eq : (tasks.map Task.identity).Nodup → results.map (·.task) = tasks
  /-- The entries of the workers are all there is in the ledger. -/
  entries : after.ledger.tools =
    before.ledger.tools ++ trace.flatMap (Event.entries adapter tasks)
  /-- Each result is launched, skipped, or has an entry. -/
  count : results.length = results.countP (·.launched) + results.countP (·.skipped) +
    (trace.flatMap (Event.entries adapter tasks)).length

theorem countP_results {results : List Result}
    (h : ∀ result ∈ results, result.launched = true → result.skipped = false) :
    results.length = results.countP (·.launched) + results.countP (·.skipped) +
      (results.map Stage.done).countP Stage.isFailed := by
  induction results with
  | nil => rfl
  | cons result rest ih =>
    obtain ⟨hfirst, hrest⟩ := List.forall_mem_cons.mp h
    have hcount := ih hrest
    simp only [List.map_cons, List.countP_cons, List.length_cons]
    cases hlaunched : result.launched <;> cases hskipped : result.skipped
    · simp [-List.countP_map, Stage.isFailed, hlaunched, hskipped]
      omega
    · simp [-List.countP_map, Stage.isFailed, hlaunched, hskipped]
      omega
    · simp [-List.countP_map, Stage.isFailed, hlaunched, hskipped]
      omega
    · rw [hfirst hlaunched] at hskipped
      exact nomatch hskipped

namespace Traced

variable {adapter : Adapter} {tasks : List Task} {start w : World} {trace : List Event}
  {crew : Crew} (h : Traced adapter tasks start trace crew w)

include h

/-- A result that has come in says what the worker of its task did. -/
theorem settled {entry : Nat × Result} (hentry : entry ∈ crew.collected) :
    ∃ task, tasks[entry.1]? = some task ∧
      Settled adapter tasks task (trace.filter (·.isOf entry.1)) entry.2 := by
  have hstage := h.collected entry hentry
  have hbound := h.length ▸ (List.getElem?_eq_some_iff.mp hstage).1
  have htask := List.getElem?_eq_getElem hbound
  exact ⟨_, htask, ((h.history entry.1 _ _ htask hstage).settled htask).2 entry.2 rfl⟩

/-- When all results have come in, there is one for each task. -/
theorem collected_of_finished (hfinished : crew.Finished) : Collected tasks crew.collected where
  task := fun entry hentry => by
    obtain ⟨task, htask, hsettled⟩ := h.settled hentry
    rw [htask, hsettled.task_eq]
  nodup := h.nodup
  all := fun number hnumber => hfinished number (h.length.symm ▸ hnumber)

/-- A result of the crew is that of a task that is over. -/
theorem of_mem_results {result : Result} (hmem : result ∈ crew.results tasks) :
    ∃ number, tasks[number]? = some result.task ∧ crew.stages[number]? = some (.done result) ∧
      Settled adapter tasks result.task (trace.filter (·.isOf number)) result := by
  obtain ⟨entry, hentry, rfl⟩ := List.mem_map.mp ((perm_inTaskOrder _ _).mem_iff.mp hmem)
  obtain ⟨task, htask, hsettled⟩ := h.settled hentry
  rw [← hsettled.task_eq] at htask hsettled
  exact ⟨entry.1, htask, h.collected entry hentry, hsettled⟩

/-- When all results have come in, every task is over. -/
theorem exists_done (hfinished : crew.Finished) {number : Nat} (hnumber : number < tasks.length) :
    ∃ result, crew.stages[number]? = some (.done result) := by
  obtain ⟨entry, hentry, rfl⟩ := List.mem_map.mp (hfinished number (h.length.symm ▸ hnumber))
  exact ⟨entry.2, h.collected entry hentry⟩

/-- The results of a crew that is finished account for its run. -/
theorem accounted (hfinished : crew.Finished) :
    Accounted adapter tasks start trace w (crew.results tasks) := by
  have hcollected := h.collected_of_finished hfinished
  have hstages : (byNumber crew.collected).map Stage.done = crew.stages :=
    hcollected.map_byNumber h.length h.collected
  have hsorted := perm_sortBy (fun entry : Nat × Result => placeIn tasks entry.2.task)
    crew.collected
  refine ⟨⟨_, (hsorted.map Prod.fst).trans hcollected.perm_range, ?_, fun honce =>
    hcollected.map_fst_sortBy fun entry hentry => placeIn_eq honce (hcollected.task entry hentry)⟩,
    pairwise_inTaskOrder _ _, hcollected.map_task_inTaskOrder, h.tools, ?_⟩
  · unfold Crew.results
    rw [inTaskOrder_map_snd, List.forall₂_map_left_iff, List.forall₂_map_right_iff,
      List.forall₂_same]
    exact fun entry hentry => h.settled (hsorted.mem_iff.mp hentry)
  · have hnumbered : (byNumber crew.collected).Perm (crew.collected.map Prod.snd) :=
      (perm_sortBy _ _).map _
    have hresults := (perm_inTaskOrder tasks _).trans hnumbered.symm
    rw [h.failed, ← hstages, ← (hresults.map Stage.done).countP_eq]
    refine countP_results fun result hmem => ?_
    obtain ⟨_, -, -, hsettled⟩ := h.of_mem_results hmem
    exact hsettled.exclusive

end Traced

end Crosscheck.Analysis
