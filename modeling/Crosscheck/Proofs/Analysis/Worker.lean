import Crosscheck.Analysis.Pool
import Crosscheck.Proofs.Analysis.Fieldwork
/-!
# A worker step by step

What a worker does with a task falls into steps between which anything may happen: it looks whether
the run is cancelled, makes its output ready, settles its commands, runs one after the other, and
records a failure if there was one. A `Stage` is where it stands, `Stage.advance` its next step.

Steps without a pause come to the same as working off the task in one go (`carries_workOff`). A
worker records a failure in the ledger exactly if its task was neither skipped nor launched, and
then once (`History.settled`); this holds whatever happens between its steps.
-/

namespace Crosscheck.Analysis

open Crosscheck.Files Crosscheck.Text

/-- Where a worker stands with its task. -/
inductive Stage
  | queued
  /-- About to make the directory of the report. -/
  | making
  /-- About to remove a report from an earlier run. -/
  | clearing
  /-- About to make the directory of compiled classes. -/
  | housing
  /-- About to settle the commands. -/
  | planning
  /-- About to run the commands that are left. -/
  | running (commands : List (List String))
  /-- About to record that the output could not be made ready. -/
  | unprepared (e : AccessError)
  /-- About to record that a command was not launched. -/
  | unlaunched (command : List String)
  /-- About to record a fault. -/
  | faulty (fault : Fault)
  | done (result : Result)

/-- How a command of a task is called. -/
def Adapter.call (adapter : Adapter) (task : Task) (command : List String) : Call :=
  ⟨command, workingDirectory? adapter.tool task.folder.absolute, adapter.timeout⟩

namespace Stage

/-- Goes on to a stage unless the preparation fails. -/
def prepared {α : Type} (next : Stage) : Except Fault α → Stage
  | .ok _ => next
  | .error (.access e) => unprepared e
  | .error fault => faulty fault

/-- Tries a part of the preparation. -/
def prepare (action : Action Unit) (next : Stage) : Action Stage := do
  return next.prepared (← Action.attempt action)

/-- Makes the directory of compiled classes, for an analyzer that needs one. -/
def houseClasses (adapter : Adapter) (report : Path) : Action Unit := do
  match ← Action.lift (classesPath? adapter.tool report) with
  | none => return
  | some classes => Action.makeDirectories classes

/-- Takes the next step. -/
def advance (adapter : Adapter) (cancelled : Bool) (task : Task) : Stage → Action Stage
  | queued => return if cancelled then done ⟨task, false, true⟩ else making
  | making => prepare (Action.makeDirectories task.report.absolute.parent) clearing
  | clearing => prepare (Action.access fun fs => fs.unlinkIfPresent task.report.absolute) housing
  | housing => prepare (houseClasses adapter task.report.absolute) planning
  | planning => do
    match adapter.commands (← Action.files) task.folder.absolute task.report.absolute with
    | .ok commands => return running commands
    | .error fault => return faulty fault
  | running [] => return done ⟨task, true, false⟩
  | running (command :: rest) => do
    match ← Action.attempt
      (launch ⟨command, workingDirectory? adapter.tool task.folder.absolute, adapter.timeout⟩) with
    | .ok true => return running rest
    | .ok false => return unlaunched command
    | .error fault => return faulty fault
  | unprepared e => do
    Action.note .error s!"Cannot prepare output for {task.folder.absolute.render}: {e.message}"
    Action.toolFailure s!"{adapter.tool.id}: prepare {task.report.absolute.render}"
    return done ⟨task, false, false⟩
  | unlaunched command => do
    Action.toolFailure (shellLine command)
    return done ⟨task, false, false⟩
  | faulty fault => do
    Action.note .error
      s!"Worker error invoking {adapter.tool.title} on {task.folder.render}: {fault.message}"
    Action.toolFailure s!"{adapter.tool.id}: {task.folder.render}"
    return done ⟨task, false, false⟩
  | done result => return done result

/-- What the next step records in the ledger. -/
def entries (adapter : Adapter) (task : Task) : Stage → List String
  | unprepared _ => [s!"{adapter.tool.id}: prepare {task.report.absolute.render}"]
  | unlaunched command => [shellLine command]
  | faulty _ => [s!"{adapter.tool.id}: {task.folder.render}"]
  | _ => []

/-- Whether the task is over. -/
def isDone : Stage → Bool
  | done _ => true
  | _ => false

/-- Whether the task is over, neither skipped nor launched. -/
def isFailed : Stage → Bool
  | done result => !result.launched && !result.skipped
  | _ => false

/-- A bound for the steps that are left. No analyzer takes more than two commands. -/
def left : Stage → Nat
  | queued => 9
  | making => 8
  | clearing => 7
  | housing => 6
  | planning => 5
  | running commands => commands.length + 2
  | unprepared _ | unlaunched _ | faulty _ => 1
  | done _ => 0

end Stage

/-! ## One step -/

section Step

variable {adapter : Adapter} {cancelled : Bool} {task : Task} {stage next : Stage} {w w' : World}

theorem length_commands {fs : FileSystem} {folder report : Path} {commands : List (List String)}
    (h : adapter.commands fs folder report = .ok commands) : commands.length ≤ 2 := by
  unfold Adapter.commands at h
  cases hclasses : classesPath? adapter.tool report with
  | error fault =>
    rw [hclasses] at h
    exact nomatch h
  | ok classes =>
    rw [hclasses] at h
    obtain rfl := Except.ok.inj h
    cases adapter.tool with
    | sonarqube =>
      dsimp only [Adapter.sonarqubeCommands]
      split <;> simp
    | _ => simp [Adapter.pmdCommands, Adapter.spotbugsCommands, Adapter.checkstyleCommands,
        Adapter.inferCommands, Adapter.codenaviCommands]

/-- What a step of a task that is not over does. -/
structure Advanced (adapter : Adapter) (cancelled : Bool) (task : Task) (stage next : Stage)
    (w w' : World) : Prop where
  /-- It brings the worker closer to its end. -/
  nearer : next.left < stage.left
  /-- It records what its stage says. -/
  tools : w'.ledger.tools = w.ledger.tools ++ stage.entries adapter task
  /-- It records one failure if it ends the task without a launch, and else none. -/
  failed : (stage.entries adapter task).length = next.isFailed.toNat
  /-- It ends the task as skipped if the worker sees that the run is cancelled, and does nothing. -/
  skips : stage = .queued → cancelled = true → next = .done ⟨task, false, true⟩ ∧ w' = w
  /-- It never does so otherwise. -/
  works : (stage = .queued → cancelled = false) → ∀ result, next = .done result →
    result.task = task ∧ result.skipped = false

/-- A step that neither begins with a cancelled run nor ends the task. -/
theorem Advanced.of_open (hseen : stage = .queued → cancelled = false) (hopen : next.isDone = false)
    (hleft : next.left < stage.left) (hledger : w'.ledger = w.ledger)
    (hentries : stage.entries adapter task = []) :
    Advanced adapter cancelled task stage next w w' where
  nearer := hleft
  tools := by rw [hledger, hentries, List.append_nil]
  failed := by
    rw [hentries]
    cases next with
    | done result => exact nomatch hopen
    | _ => rfl
  skips hqueued hcancelled := by
    rw [hseen hqueued] at hcancelled
    exact nomatch hcancelled
  works _ result hdone := by
    rw [hdone] at hopen
    exact nomatch hopen

/-- A step that records a failure and ends the task. -/
theorem Advanced.of_recorded {entry : String} (hentries : stage.entries adapter task = [entry])
    (hleft : stage.left = 1) (htools : w'.ledger.tools = w.ledger.tools ++ [entry]) :
    Advanced adapter cancelled task stage (.done ⟨task, false, false⟩) w w' where
  nearer := by rw [hleft]; exact Nat.zero_lt_one
  tools := by rw [htools, hentries]
  failed := by rw [hentries]; rfl
  skips hqueued _ := by
    rw [hqueued] at hentries
    exact nomatch hentries
  works _ result hdone := by
    cases hdone
    exact ⟨rfl, rfl⟩

theorem Stage.isDone_prepared {α : Type} (h : next.isDone = false) (answer : Except Fault α) :
    (next.prepared answer).isDone = false := by
  unfold prepared
  split <;> first | exact h | rfl

theorem Stage.left_prepared {α : Type} (h : 1 ≤ next.left) (answer : Except Fault α) :
    (next.prepared answer).left ≤ next.left := by
  unfold prepared
  split <;> first | exact Nat.le_refl _ | exact h

@[simp] theorem exec_prepare (action : Action Unit) (next : Stage) (w : World) :
    (Stage.prepare action next).exec w =
      (.ok (next.prepared (action.exec w).1), (action.exec w).2) := rfl

/-- Looks for the commands, and leaves everything as it is. -/
theorem Stage.exec_advance_planning (adapter : Adapter) (cancelled : Bool) (task : Task)
    (w : World) :
    (Stage.planning.advance adapter cancelled task).exec w =
      (.ok (match adapter.commands w.files task.folder.absolute task.report.absolute with
        | .ok commands => .running commands
        | .error fault => .faulty fault), w) := by
  unfold Stage.advance
  rw [Action.exec_bind_of_ok (Action.exec_files w)]
  cases adapter.commands w.files task.folder.absolute task.report.absolute with
  | ok commands => rfl
  | error fault => rfl

/-- Runs the next command. Where the worker goes is up to the answer of the process. -/
theorem Stage.exec_advance_running (adapter : Adapter) (cancelled : Bool) (task : Task)
    (command : List String) (rest : List (List String)) (w : World) :
    ((Stage.running (command :: rest)).advance adapter cancelled task).exec w =
      (.ok (match ((launch (adapter.call task command)).exec w).1 with
        | .ok true => .running rest
        | .ok false => .unlaunched command
        | .error fault => .faulty fault), ((launch (adapter.call task command)).exec w).2) := by
  unfold Stage.advance
  rw [Action.exec_bind_of_ok (Action.exec_attempt w _)]
  unfold Adapter.call
  rcases (Action.exec (launch ⟨command, workingDirectory? adapter.tool task.folder.absolute,
    adapter.timeout⟩) w).1 with fault | (_ | _)
  · rfl
  · rfl
  · rfl

theorem outward_houseClasses (adapter : Adapter) (report : Path) :
    (Stage.houseClasses adapter report).Outward := by
  refine .bind (.lift _) fun classes => ?_
  cases classes with
  | none => exact .pure _
  | some classes => exact .makeDirectories _

/-- A step of a worker has what its preparations and its processes have. -/
theorem Stage.advance_inherits {P : {α : Type} → Action α → Prop} (h : Action.Inherited P)
    (hmaking : P (Action.makeDirectories task.report.absolute.parent))
    (hclearing : P (Action.access fun fs => fs.unlinkIfPresent task.report.absolute))
    (hhousing : P (houseClasses adapter task.report.absolute))
    (hrunning : ∀ command, P (launch (adapter.call task command))) (stage : Stage) :
    P (stage.advance adapter cancelled task) := by
  have hprepare {action : Action Unit} (next : Stage) (haction : P action) :
      P (Stage.prepare action next) := h.bind (h.attempt haction) fun _ => h.pure _
  cases stage with
  | queued => exact h.pure _
  | making => exact hprepare _ hmaking
  | clearing => exact hprepare _ hclearing
  | housing => exact hprepare _ hhousing
  | planning =>
    refine h.bind h.files fun fs => ?_
    split
    · exact h.pure _
    · exact h.pure _
  | running commands =>
    cases commands with
    | nil => exact h.pure _
    | cons command rest =>
      refine h.bind (h.attempt (hrunning command)) fun launched => ?_
      split
      · exact h.pure _
      · exact h.pure _
      · exact h.pure _
  | unprepared e => exact h.bind (h.note _ _) fun _ => h.bind (h.toolFailure _) fun _ => h.pure _
  | unlaunched command => exact h.bind (h.toolFailure _) fun _ => h.pure _
  | faulty fault => exact h.bind (h.note _ _) fun _ => h.bind (h.toolFailure _) fun _ => h.pure _
  | done result => exact h.pure _

/-- A step of the preparation goes on to the next stage, or to one that records why not. -/
theorem Advanced.of_prepared (stage next : Stage) {action : Action Unit}
    (haction : action.Outward)
    (hopen : next.isDone = false) (hleft : 1 ≤ next.left) (hnext : next.left < stage.left)
    (hseen : stage ≠ .queued) (hentries : stage.entries adapter task = []) (w : World) :
    Advanced adapter cancelled task stage (next.prepared (action.exec w).1) w (action.exec w).2 :=
  .of_open (fun hqueued => absurd hqueued hseen) (Stage.isDone_prepared hopen _)
    (Nat.lt_of_le_of_lt (Stage.left_prepared hleft _) hnext) (haction w).2 hentries

/-- A step is always taken. -/
theorem exec_advance (adapter : Adapter) (cancelled : Bool) (task : Task) (h : stage.isDone = false)
    (w : World) :
    ∃ next w', (stage.advance adapter cancelled task).exec w = (.ok next, w') ∧
      Advanced adapter cancelled task stage next w w' := by
  cases stage with
  | queued =>
    cases cancelled with
    | true =>
      exact ⟨_, w, rfl, by simp [Stage.left], (List.append_nil _).symm, rfl, fun _ _ => ⟨rfl, rfl⟩,
        fun hseen => nomatch hseen rfl⟩
    | false => exact ⟨_, w, rfl, .of_open (fun _ => rfl) rfl (by simp [Stage.left]) rfl rfl⟩
  | making =>
    exact ⟨_, _, exec_prepare (Action.makeDirectories task.report.absolute.parent) .clearing w,
      .of_prepared .making .clearing (.makeDirectories _) rfl (by decide) (by decide) nofun rfl w⟩
  | clearing =>
    exact ⟨_, _, exec_prepare (Action.access fun fs => fs.unlinkIfPresent task.report.absolute)
        .housing w,
      .of_prepared .clearing .housing (.access _) rfl (by decide) (by decide) nofun rfl w⟩
  | housing =>
    exact ⟨_, _, exec_prepare (Stage.houseClasses adapter task.report.absolute) .planning w,
      .of_prepared .housing .planning (outward_houseClasses _ _) rfl (by decide) (by decide) nofun
        rfl w⟩
  | planning =>
    refine ⟨_, w, Stage.exec_advance_planning adapter cancelled task w, ?_⟩
    cases hcommands : adapter.commands w.files task.folder.absolute task.report.absolute with
    | ok commands =>
      have hlength := length_commands hcommands
      exact .of_open nofun rfl (by simp only [Stage.left]; omega) rfl rfl
    | error fault => exact .of_open nofun rfl (by simp [Stage.left]) rfl rfl
  | running commands =>
    cases commands with
    | nil =>
      exact ⟨_, w, rfl, by simp [Stage.left], (List.append_nil _).symm, rfl, nofun,
        fun _ result hdone => by cases hdone; exact ⟨rfl, rfl⟩⟩
    | cons command rest =>
      have houtward := outward_launch (adapter.call task command) w
      refine ⟨_, _, Stage.exec_advance_running adapter cancelled task command rest w, ?_⟩
      rcases ((launch (adapter.call task command)).exec w).1 with fault | (_ | _)
      · exact .of_open nofun rfl (by simp [Stage.left]) houtward.2 rfl
      · exact .of_open nofun rfl (by simp [Stage.left]) houtward.2 rfl
      · exact .of_open nofun rfl (by simp [Stage.left]) houtward.2 rfl
  | unprepared e => exact ⟨_, _, rfl, .of_recorded rfl rfl rfl⟩
  | unlaunched command => exact ⟨_, _, rfl, .of_recorded rfl rfl rfl⟩
  | faulty fault => exact ⟨_, _, rfl, .of_recorded rfl rfl rfl⟩
  | done result => exact nomatch h

/-- What is known of a step that was taken. -/
theorem Advanced.of_exec (h : stage.isDone = false)
    (hrun : (stage.advance adapter cancelled task).exec w = (.ok next, w')) :
    Advanced adapter cancelled task stage next w w' := by
  obtain ⟨next', w'', hrun', hadvanced⟩ := exec_advance adapter cancelled task h w
  obtain ⟨rfl, rfl⟩ := Action.answer_inj (hrun'.symm.trans hrun)
  exact hadvanced

end Step

/-! ## All steps of a task -/

section Steps

variable {adapter : Adapter} {cancelled : Bool} {task : Task}

/-- A worker takes steps without a pause. -/
inductive Carries (adapter : Adapter) (cancelled : Bool) (task : Task) :
    Stage → World → Stage → World → Prop
  | refl (stage : Stage) (w : World) : Carries adapter cancelled task stage w stage w
  | step {stage next last : Stage} {w w' w'' : World} :
    stage.isDone = false → (stage.advance adapter cancelled task).exec w = (.ok next, w') →
      Carries adapter cancelled task next w' last w'' →
        Carries adapter cancelled task stage w last w''

variable {stage next last : Stage} {w w' w'' : World}

theorem Carries.trans (h : Carries adapter cancelled task stage w next w')
    (hnext : Carries adapter cancelled task next w' last w'') :
    Carries adapter cancelled task stage w last w'' := by
  induction h with
  | refl => exact hnext
  | step hopen hrun _ ih => exact .step hopen hrun (ih hnext)

theorem Carries.single (hopen : stage.isDone = false)
    (hrun : (stage.advance adapter cancelled task).exec w = (.ok next, w')) :
    Carries adapter cancelled task stage w next w' := .step hopen hrun (.refl next w')

/-- The commands end in a result or a fault. -/
theorem carries_runAll (commands : List (List String)) :
    ∀ w, Carries adapter cancelled task (.running commands) w
      (match ((adapter.runAll (workingDirectory? adapter.tool task.folder.absolute) commands).exec
          w).1 with
        | .ok launched => .done ⟨task, launched, false⟩
        | .error fault => .faulty fault)
      ((adapter.runAll (workingDirectory? adapter.tool task.folder.absolute) commands).exec
        w).2 := by
  induction commands with
  | nil => exact fun w => .single rfl rfl
  | cons command rest ih =>
    intro w
    have hrun := Stage.exec_advance_running adapter cancelled task command rest w
    have hcall : (⟨command, workingDirectory? adapter.tool task.folder.absolute,
      adapter.timeout⟩ : Call) = adapter.call task command := rfl
    unfold Adapter.runAll
    rw [hcall, Action.exec_bind]
    rcases hlaunch : (launch (adapter.call task command)).exec w with ⟨fault | (_ | _), w'⟩
    · rw [hlaunch] at hrun
      exact .single rfl hrun
    · rw [hlaunch] at hrun
      exact .step rfl hrun (.single rfl rfl)
    · rw [hlaunch] at hrun
      exact .step rfl hrun (ih w')

/-- The preparation goes through three steps, up to one that fails. -/
theorem carries_prepare (w : World) :
    Carries adapter cancelled task .making w
      (Stage.planning.prepared ((adapter.prepare task.report.absolute).exec w).1)
      ((adapter.prepare task.report.absolute).exec w).2 := by
  have hmaking : (Stage.making.advance adapter cancelled task).exec w = _ := exec_prepare _ _ w
  have hprepare : adapter.prepare task.report.absolute =
      (Action.makeDirectories task.report.absolute.parent >>= fun _ =>
        (Action.access fun fs => fs.unlinkIfPresent task.report.absolute) >>= fun _ =>
          Stage.houseClasses adapter task.report.absolute) := rfl
  rw [hprepare, Action.exec_bind]
  rcases hmade : (Action.makeDirectories task.report.absolute.parent).exec w with ⟨fault | _, w'⟩
  · rw [hmade] at hmaking
    cases fault <;> exact .single rfl hmaking
  · rw [hmade] at hmaking
    refine .step rfl hmaking ?_
    have hclearing : (Stage.clearing.advance adapter cancelled task).exec w' = _ :=
      exec_prepare _ _ w'
    dsimp only
    rw [Action.exec_bind]
    rcases hcleared : (Action.access fun fs => fs.unlinkIfPresent task.report.absolute).exec w'
      with ⟨fault | _, w''⟩
    · rw [hcleared] at hclearing
      cases fault <;> exact .single rfl hclearing
    · rw [hcleared] at hclearing
      exact .step rfl hclearing (.single rfl (exec_prepare _ _ w''))

/-- An invocation ends in a result or a fault. -/
theorem carries_invoke (w : World) :
    Carries adapter cancelled task .making w
      (match ((adapter.invoke task.folder task.report).exec w).1 with
        | .ok launched => .done ⟨task, launched, false⟩
        | .error fault => .faulty fault)
      ((adapter.invoke task.folder task.report).exec w).2 := by
  have hprepare := @carries_prepare adapter cancelled task w
  unfold Adapter.invoke
  dsimp only
  rw [Action.exec_bind_of_ok (Action.exec_attempt w _)]
  rcases hran : (adapter.prepare task.report.absolute).exec w with ⟨fault | _, w'⟩
  · rw [hran] at hprepare
    cases fault with
    | access e => exact hprepare.trans (.single rfl rfl)
    | _ => exact hprepare
  · rw [hran] at hprepare
    have hplanning := Stage.exec_advance_planning adapter cancelled task w'
    dsimp only
    rw [Action.exec_bind_of_ok (Action.exec_files w')]
    cases hcommands : adapter.commands w'.files task.folder.absolute task.report.absolute with
    | error fault =>
      rw [hcommands] at hplanning
      exact hprepare.trans (.single rfl hplanning)
    | ok commands =>
      rw [hcommands] at hplanning
      exact hprepare.trans (.step rfl hplanning (carries_runAll commands w'))

/-- Steps without a pause come to the same as working off the task in one go. -/
theorem carries_workOff (adapter : Adapter) (cancelled : Bool) (task : Task) (w : World) :
    ∃ result w', (workOff adapter cancelled task).exec w = (.ok result, w') ∧
      Carries adapter cancelled task .queued w (.done result) w' := by
  cases cancelled with
  | true => exact ⟨_, w, rfl, .single rfl rfl⟩
  | false =>
    have hinvoke := @carries_invoke adapter false task w
    have hqueued : (Stage.queued.advance adapter false task).exec w = (.ok .making, w) := rfl
    unfold workOff
    simp only [Bool.false_eq_true, if_false]
    rw [Action.exec_bind_of_ok (Action.exec_attempt w _)]
    rcases hran : (adapter.invoke task.folder task.report).exec w with ⟨fault | launched, w'⟩
    · rw [hran] at hinvoke
      exact ⟨_, _, rfl, .step rfl hqueued (hinvoke.trans (.single rfl rfl))⟩
    · rw [hran] at hinvoke
      exact ⟨_, _, rfl, .step rfl hqueued hinvoke⟩

end Steps

end Crosscheck.Analysis
