import Crosscheck.Proofs.Analysis.Independence
import Crosscheck.Proofs.Analysis.Shadow
/-!
# What a task comes to

Where what processes come to depends on nothing but their commands, the texts of the sources and the
report of their task, the files at the start settle what each task comes to (`Adapter.outcome`):
whether its places can be made ready, and what the processes reply to its commands one after the
other. Every worker is on the way to that outcome at every moment, whatever the others do in between
(`underway_of_run`).
-/

namespace Crosscheck.Files

open Crosscheck.Text

/-- The content of a file. -/
def Entry.content? : Entry → Option Bytes
  | .file content => some content
  | .directory => none

namespace FileSystem

variable {fs after : FileSystem} {path : Path} {loc l : Location} {content : Bytes}

/-- The content of the file at a location, if there is one. -/
def content? (fs : FileSystem) (l : Location) : Option Bytes := (fs.find? l).bind Entry.content?

theorem content?_eq_some_iff : fs.content? l = some content ↔ fs.find? l = some (.file content) := by
  unfold content?
  cases fs.find? l with
  | none => simp
  | some entry => cases entry <;> simp [Entry.content?]

/-- Making directories changes no file. -/
theorem content?_makeDirectories (h : path.isAbsolute = true) (l : Location) :
    (fs.makeDirectories path).1.content? l = fs.content? l := by
  unfold content?
  rw [(fs.makesTrail_makeDirectories h).find?]
  split
  · next hpassed =>
    have hopen := isPassable_of_mem_passed hpassed
    cases hfound : fs.find? l with
    | none => rfl
    | some entry =>
      cases entry with
      | directory => rfl
      | file content =>
        rw [isPassable_of_file hfound] at hopen
        exact nomatch hopen
  · rfl

end FileSystem

end Crosscheck.Files

namespace Crosscheck.Corpus

open Crosscheck.Files Crosscheck.Mutation Crosscheck.Text

/-- The texts of all files that go by the name of a source, with their locations. -/
def texts (fs : FileSystem) : List (Location × Bytes) :=
  fs.entries.filterMap fun (l, entry) =>
    if sourceSuffix.toList.isSuffixOf l.path.name.toList then entry.content?.map (l, ·) else none

/-- File systems with the same files by the names of sources have the same texts. -/
theorem texts_congr {a b : FileSystem}
    (h : ∀ l content, sourceSuffix.toList <:+ l.path.name.toList →
      (b.find? l = some (.file content) ↔ a.find? l = some (.file content))) :
    texts b = texts a := by
  refine FileSystem.filterMap_entries_congr fun l entry hkept => ?_
  dsimp only at hkept
  split at hkept
  · next hsuffix =>
    cases entry with
    | directory => exact nomatch hkept
    | file content => exact h l content (List.isSuffixOf_iff_suffix.mp hsuffix)
  · exact nomatch hkept

end Crosscheck.Corpus

namespace Crosscheck.Analysis

open Crosscheck.Configuration Crosscheck.Files Crosscheck.Text

/-! ## Outcomes -/

instance (base : FileSystem) (task : Task) : Decidable (task.Feasible base) :=
  decidable_of_iff ((∀ l ∈ task.approach, base.isPassable l = true) ∧ task.desk ∉ task.approach ∧
      base.find? task.desk ≠ some .directory)
    ⟨fun ⟨hpassable, haside, hfree⟩ => ⟨hpassable, haside, hfree⟩,
      fun h => ⟨h.passable, h.aside, h.free⟩⟩

/-- What a process comes to: whether it is launched, and what is in the report of its task then. -/
def Task.cameTo (task : Task) (launched : Except Fault Bool × World) : Outcome :=
  ⟨launched.1.toOption == some true, launched.2.files.content? task.desk⟩

/-- What commands come to one after the other, when processes come to what is replied to their
commands and to what is in the report already. -/
def runOut (reply : List String → Option Bytes → Outcome) :
    List (List String) → Option Bytes → Outcome
  | [], report => ⟨true, report⟩
  | command :: rest, report =>
    if (reply command report).launched then runOut reply rest (reply command report).report
    else reply command report

namespace Adapter

/-- What a task comes to, by the files before the work on tasks. -/
def outcome (adapter : Adapter) (reply : List String → Option Bytes → Outcome)
    (base : FileSystem) (task : Task) : Outcome :=
  match adapter.commands base task.folder.absolute task.report.absolute with
  | .error _ => ⟨false, none⟩
  | .ok commands =>
    if task.Feasible base ∧ ∀ l ∈ adapter.annex task, base.isPassable l = true
    then runOut reply commands none else ⟨false, none⟩

section Outcome

variable {adapter : Adapter} {reply : List String → Option Bytes → Outcome} {base : FileSystem}
  {task : Task}

/-- A task whose places cannot be made ready comes to nothing. -/
theorem outcome_of_not
    (h : ¬ (task.Feasible base ∧ ∀ l ∈ adapter.annex task, base.isPassable l = true)) :
    adapter.outcome reply base task = ⟨false, none⟩ := by
  unfold outcome
  split
  · rfl
  · exact if_neg h

theorem outcome_of_error {fault : Fault}
    (h : adapter.commands base task.folder.absolute task.report.absolute = .error fault) :
    adapter.outcome reply base task = ⟨false, none⟩ := by
  unfold outcome
  rw [h]

theorem outcome_of_ok {commands : List (List String)} (hfeasible : task.Feasible base)
    (hannex : ∀ l ∈ adapter.annex task, base.isPassable l = true)
    (h : adapter.commands base task.folder.absolute task.report.absolute = .ok commands) :
    adapter.outcome reply base task = runOut reply commands none := by
  unfold outcome
  rw [h]
  exact if_pos ⟨hfeasible, hannex⟩

/-- Later files settle the same outcome. -/
theorem outcome_eq {tasks : List Task} {seen : Location → Prop} {fs : FileSystem}
    (hgrown : Grown seen base adapter tasks fs) (hapart : Apart adapter tasks) (htask : task ∈ tasks)
    (hcommands : adapter.commands fs task.folder.absolute task.report.absolute =
      adapter.commands base task.folder.absolute task.report.absolute) :
    adapter.outcome reply fs task = adapter.outcome reply base task := by
  have hready : (task.Feasible fs ∧ ∀ l ∈ adapter.annex task, fs.isPassable l = true) ↔
      task.Feasible base ∧ ∀ l ∈ adapter.annex task, base.isPassable l = true :=
    and_congr (hgrown.feasible_iff hapart htask) <| forall₂_congr fun l hl => by
      rw [hgrown.isPassable_eq hapart htask (.inr hl)]
  unfold outcome
  rw [hcommands]
  split
  · rfl
  · exact if_congr hready rfl rfl

end Outcome

end Adapter

/-! ## One step on the way -/

/-- Whether a worker at a stage is on the way to its outcome, with this in its report by then. A
report at a desk that cannot be worked at does not matter. -/
def Stage.Due (base : FileSystem) (adapter : Adapter)
    (reply : List String → Option Bytes → Outcome) (task : Task) (report : Option Bytes) :
    Stage → Prop
  | queued | making | clearing => True
  | housing => report = none
  | planning => report = none ∧ ∀ l ∈ adapter.annex task, base.isPassable l = true
  | running commands => runOut reply commands report = adapter.outcome reply base task
  | unprepared _ | unlaunched _ | faulty _ =>
    (adapter.outcome reply base task).launched = false ∧
      (task.Feasible base → (adapter.outcome reply base task).report = report)
  | done result =>
    (adapter.outcome reply base task).launched = result.launched ∧
      (task.Feasible base → (adapter.outcome reply base task).report = report)

section Step

variable {seen : Location → Prop} {base : FileSystem} {adapter : Adapter}
  {reply : List String → Option Bytes → Outcome} {tasks : List Task} {task : Task}
  {stage next : Stage} {w w' : World} {report : Option Bytes}

/-- A preparation that fails leads to a record of it. -/
theorem Stage.due_prepared_error {fault : Fault}
    (hnone : adapter.outcome reply base task = ⟨false, none⟩)
    (hreport : task.Feasible base → report = none) :
    (next.prepared (.error fault : Except Fault Unit)).Due base adapter reply task report := by
  have hdue : (adapter.outcome reply base task).launched = false ∧
      (task.Feasible base → (adapter.outcome reply base task).report = report) := by
    rw [hnone]
    exact ⟨rfl, fun hfeasible => (hreport hfeasible).symm⟩
  cases fault with
  | access e => exact hdue
  | _ => exact hdue

/-- What a step of a worker on its way does: it goes on, and changes no file that is seen but its
report. -/
structure Progress (seen : Location → Prop) (base : FileSystem) (adapter : Adapter)
    (reply : List String → Option Bytes → Outcome) (task : Task) (next : Stage)
    (before after : FileSystem) : Prop where
  due : next.Due base adapter reply task (after.content? task.desk)
  elsewhere : ∀ l, seen l → l ≠ task.desk → after.content? l = before.content? l

theorem progress_making (hapart : Apart adapter tasks) (htask : task ∈ tasks)
    (hgrown : Grown seen base adapter tasks w.files)
    (hrun : (Stage.making.advance adapter false task).exec w = (.ok next, w')) :
    Progress seen base adapter reply task next w.files w'.files := by
  have hprepare := exec_prepare (Action.makeDirectories task.report.absolute.parent) .clearing w
  rw [Action.exec_makeDirectories] at hprepare
  obtain ⟨rfl, rfl⟩ := Action.answer_inj (hrun.symm.trans hprepare)
  have hpath := isAbsolute_parent task.report.isAbsolute_absolute
  refine ⟨?_, fun l _ _ => FileSystem.content?_makeDirectories hpath l⟩
  cases hrefused : (w.files.makeDirectories task.report.absolute.parent).2 with
  | none => trivial
  | some e =>
    have hinfeasible : ¬ task.Feasible base := by
      intro hfeasible
      have hopen : ∀ l ∈ task.approach, w.files.isPassable l = true := fun l hl => by
        rw [hgrown.isPassable_eq hapart htask (.inl hl), hfeasible.passable l hl]
      rw [(w.files.makesTrail_makeDirectories hpath).none_iff.mpr hopen] at hrefused
      exact nomatch hrefused
    exact Stage.due_prepared_error (Adapter.outcome_of_not fun h => hinfeasible h.1)
      fun hfeasible => absurd hfeasible hinfeasible

theorem progress_clearing (hapart : Apart adapter tasks) (htask : task ∈ tasks)
    (hgrown : Grown seen base adapter tasks w.files)
    (hstanding : Stage.clearing.Standing base adapter task w.files)
    (hrun : (Stage.clearing.advance adapter false task).exec w = (.ok next, w')) :
    Progress seen base adapter reply task next w.files w'.files := by
  obtain ⟨hbuilt, hopen⟩ := hstanding
  have hprepare := exec_prepare
    (Action.access fun fs => fs.unlinkIfPresent task.report.absolute) .housing w
  rw [Action.exec_access] at hprepare
  have hlocate : w.files.locate task.report.absolute = .ok task.desk := by
    rw [locate_of_directories task.report.isAbsolute_absolute (hbuilt.all hopen), location_absolute]
    rfl
  by_cases hfree : w.files.find? task.desk = some .directory
  · have hinfeasible : ¬ task.Feasible base := fun hfeasible =>
      hgrown.desk_free hapart htask hfeasible hfree
    rw [FileSystem.unlinkIfPresent_of_directory hlocate hfree] at hprepare
    obtain ⟨rfl, rfl⟩ := Action.answer_inj (hrun.symm.trans hprepare)
    exact ⟨Stage.due_prepared_error (Adapter.outcome_of_not fun h => hinfeasible h.1)
      fun hfeasible => absurd hfeasible hinfeasible, fun _ _ _ => rfl⟩
  · obtain ⟨after, hunlink, -, hfind⟩ := FileSystem.exists_of_unlinkIfPresent hlocate hfree
    have hcontent (l : Location) : after.content? l =
        if l = task.desk then none else w.files.content? l := by
      unfold FileSystem.content?
      rw [hfind]
      split
      · rfl
      · rfl
    rw [hunlink] at hprepare
    obtain ⟨rfl, rfl⟩ := Action.answer_inj (hrun.symm.trans hprepare)
    exact ⟨(hcontent task.desk).trans (if_pos rfl), fun l _ hl => (hcontent l).trans (if_neg hl)⟩

theorem progress_housing (hapart : Apart adapter tasks) (htask : task ∈ tasks)
    (hgrown : Grown seen base adapter tasks w.files)
    (hdue : Stage.housing.Due base adapter reply task (w.files.content? task.desk))
    (hrun : (Stage.housing.advance adapter false task).exec w = (.ok next, w')) :
    Progress seen base adapter reply task next w.files w'.files := by
  have hcleared : w.files.content? task.desk = none := hdue
  rcases exec_advance_housing adapter false task w with
    ⟨fault, hclasses, -, hstep⟩ | ⟨hannex, hstep⟩ | ⟨classes, hpath, hannex, hstep⟩
  · obtain ⟨rfl, rfl⟩ := Action.answer_inj (hrun.symm.trans hstep)
    have hcommands : adapter.commands base task.folder.absolute task.report.absolute =
        .error fault := by
      unfold Adapter.commands
      rw [hclasses]
      rfl
    exact ⟨Stage.due_prepared_error (Adapter.outcome_of_error hcommands) fun _ => hcleared,
      fun _ _ _ => rfl⟩
  · obtain ⟨rfl, rfl⟩ := Action.answer_inj (hrun.symm.trans hstep)
    refine ⟨⟨hcleared, ?_⟩, fun _ _ _ => rfl⟩
    rw [hannex]
    exact fun l hl => absurd hl List.not_mem_nil
  · obtain ⟨rfl, rfl⟩ := Action.answer_inj (hrun.symm.trans hstep)
    have hcontent (l : Location) := w.files.content?_makeDirectories hpath l
    refine ⟨?_, fun l _ _ => hcontent l⟩
    have hopen : (w.files.makeDirectories classes).2 = none ↔
        ∀ l ∈ adapter.annex task, base.isPassable l = true := by
      rw [(w.files.makesTrail_makeDirectories hpath).none_iff, hannex]
      exact forall₂_congr fun l hl => by
        rw [hgrown.isPassable_eq hapart htask (.inr (hannex.symm ▸ hl))]
    dsimp only
    rw [hcontent]
    cases hrefused : (w.files.makeDirectories classes).2 with
    | none => exact ⟨hcleared, hopen.mp hrefused⟩
    | some e =>
      have hblocked : ¬ ∀ l ∈ adapter.annex task, base.isPassable l = true := fun h =>
        nomatch hrefused.symm.trans (hopen.mpr h)
      exact Stage.due_prepared_error (Adapter.outcome_of_not fun h => hblocked h.2)
        fun _ => hcleared

theorem progress_running {command : List String} {rest : List (List String)}
    (hdue : (Stage.running (command :: rest)).Due base adapter reply task
      (w.files.content? task.desk))
    (hreply : task.cameTo ((launch (adapter.call task command)).exec w) =
      reply command (w.files.content? task.desk))
    (helsewhere : ∀ l, seen l → l ≠ task.desk → w'.files.find? l = w.files.find? l)
    (hrun : ((Stage.running (command :: rest)).advance adapter false task).exec w =
      (.ok next, w')) :
    Progress seen base adapter reply task next w.files w'.files := by
  have hdue : (if (reply command (w.files.content? task.desk)).launched
      then runOut reply rest (reply command (w.files.content? task.desk)).report
      else reply command (w.files.content? task.desk)) = adapter.outcome reply base task := hdue
  rw [← hreply] at hdue
  rw [Stage.exec_advance_running] at hrun
  obtain ⟨rfl, rfl⟩ := Action.answer_inj hrun
  refine ⟨?_, fun l hseen hl => congrArg (Option.bind · Entry.content?) (helsewhere l hseen hl)⟩
  have hfailed (hnot : (task.cameTo ((launch (adapter.call task command)).exec w)).launched =
      false) : (adapter.outcome reply base task).launched = false ∧ (task.Feasible base →
        (adapter.outcome reply base task).report =
          ((launch (adapter.call task command)).exec w).2.files.content? task.desk) := by
    rw [← hdue, hnot]
    exact ⟨hnot, fun _ => rfl⟩
  rcases hlaunch : ((launch (adapter.call task command)).exec w).1 with fault | (_ | _)
  · exact hfailed (by rw [Task.cameTo, hlaunch]; rfl)
  · exact hfailed (by rw [Task.cameTo, hlaunch]; rfl)
  · rw [Task.cameTo, hlaunch] at hdue
    exact hdue

/-- Every step of a worker brings it on, if its commands are those at the start and its process
comes to what is replied. -/
theorem progress_advance (hapart : Apart adapter tasks) (htask : task ∈ tasks)
    (hcommands : adapter.commands w.files task.folder.absolute task.report.absolute =
      adapter.commands base task.folder.absolute task.report.absolute)
    (hgrown : Grown seen base adapter tasks w.files)
    (hstanding : stage.Standing base adapter task w.files)
    (hdue : stage.Due base adapter reply task (w.files.content? task.desk))
    (hopen : stage.isDone = false)
    (hprocess : ∀ command rest, stage = .running (command :: rest) →
      task.cameTo ((launch (adapter.call task command)).exec w) =
          reply command (w.files.content? task.desk) ∧
        ∀ l, seen l → l ≠ task.desk → w'.files.find? l = w.files.find? l)
    (hrun : (stage.advance adapter false task).exec w = (.ok next, w')) :
    Progress seen base adapter reply task next w.files w'.files := by
  cases stage with
  | queued =>
    obtain ⟨rfl, rfl⟩ := Action.answer_inj hrun
    exact ⟨trivial, fun _ _ _ => rfl⟩
  | making => exact progress_making hapart htask hgrown hrun
  | clearing => exact progress_clearing hapart htask hgrown hstanding hrun
  | housing => exact progress_housing hapart htask hgrown hdue hrun
  | planning =>
    obtain ⟨hcleared, hannex⟩ := hdue
    rw [Stage.exec_advance_planning] at hrun
    obtain ⟨rfl, rfl⟩ := Action.answer_inj hrun
    cases hplan : adapter.commands w.files task.folder.absolute task.report.absolute with
    | ok commands =>
      have houtcome := @Adapter.outcome_of_ok _ reply _ _ _ hstanding.2.1 hannex
        (hcommands.symm.trans hplan)
      exact ⟨(congrArg (runOut reply commands) hcleared).trans houtcome.symm, fun _ _ _ => rfl⟩
    | error fault =>
      have houtcome := @Adapter.outcome_of_error _ reply _ _ _ (hcommands.symm.trans hplan)
      exact ⟨⟨congrArg Outcome.launched houtcome, fun _ =>
        (congrArg Outcome.report houtcome).trans hcleared.symm⟩, fun _ _ _ => rfl⟩
  | running commands =>
    cases commands with
    | nil =>
      obtain ⟨rfl, rfl⟩ := Action.answer_inj hrun
      have houtcome : ⟨true, w.files.content? task.desk⟩ = adapter.outcome reply base task := hdue
      exact ⟨⟨congrArg Outcome.launched houtcome.symm, fun _ =>
        congrArg Outcome.report houtcome.symm⟩, fun _ _ _ => rfl⟩
    | cons command rest =>
      obtain ⟨hreply, helsewhere⟩ := hprocess command rest rfl
      exact progress_running hdue hreply helsewhere hrun
  | unprepared | unlaunched | faulty =>
    obtain ⟨rfl, rfl⟩ := Action.answer_inj hrun
    exact ⟨hdue, fun _ _ _ => rfl⟩
  | done result => exact nomatch hopen

end Step

/-! ## The whole crew -/

/-- An event in which a process comes to what is answered to its command, to the texts of the
sources and to what is in the report of its task already. -/
def Event.Answers (adapter : Adapter) (tasks : List Task)
    (answers : List String → List (Location × Bytes) → Option Bytes → Outcome) : Event → Prop
  | work number (.running (command :: _)) _ before _ => ∀ task, tasks[number]? = some task →
    task.cameTo ((launch (adapter.call task command)).exec before) =
      answers command (Corpus.texts before.files) (before.files.content? task.desk)
  | _ => True

/-- Whether the work on tasks changes nothing that processes are told or look at. -/
structure Steady (seen : Location → Prop) (base : FileSystem) (adapter : Adapter)
    (tasks : List Task) : Prop where
  sources : ∀ fs, Grown seen base adapter tasks fs → ∀ task ∈ tasks,
    Corpus.sources fs task.folder.absolute = Corpus.sources base task.folder.absolute
  texts : ∀ fs, Grown seen base adapter tasks fs → Corpus.texts fs = Corpus.texts base

/-- Whether every worker of a crew is on the way to its outcome. -/
def Underway (base : FileSystem) (adapter : Adapter)
    (reply : List String → Option Bytes → Outcome) (tasks : List Task) (crew : Crew)
    (fs : FileSystem) : Prop :=
  ∀ (number : Nat) (task : Task) (stage : Stage), tasks[number]? = some task →
    crew.stages[number]? = some stage →
      stage.Due base adapter reply task (fs.content? task.desk)

section Crew

variable {seen : Location → Prop} {adapter : Adapter} {tasks : List Task}
  {start field w w' : World} {crew crew' : Crew} {trace : List Event} {workers : Nat}
  {answers : List String → List (Location × Bytes) → Option Bytes → Outcome}

/-- A step of one worker brings it on, and keeps the others on their way. -/
theorem Underway.work {number : Nat} {task : Task} {next : Stage}
    {reply : List String → Option Bytes → Outcome} {base : FileSystem}
    (hwatched : Watched seen adapter tasks) (hdesks : (tasks.map Task.desk).Nodup)
    (h : Underway base adapter reply tasks crew w.files) (htask : tasks[number]? = some task)
    (hprogress : Progress seen base adapter reply task next w.files w'.files) :
    Underway base adapter reply tasks { crew with stages := crew.stages.set number next }
      w'.files := by
  intro other task' stage' htask' hstage'
  rcases stage_of_set htask htask' hstage' with ⟨-, rfl, rfl⟩ | ⟨hother, hstood⟩
  · exact hprogress.due
  · have hapart : task'.desk ≠ task.desk := by
      intro hdesk
      refine hother.symm ((List.getElem?_inj ?_ hdesks).mp ?_)
      · rw [List.length_map]
        exact (List.getElem?_eq_some_iff.mp htask).1
      · rw [List.getElem?_map, List.getElem?_map, htask, htask']
        exact congrArg some hdesk.symm
    have hseen := hwatched task' (List.mem_of_getElem? htask') _ (.inl rfl)
    rw [hprogress.elsewhere _ hseen hapart]
    exact h other task' stage' htask' hstood

/-- At every moment of a run every worker is on the way to its outcome. -/
theorem underway_of_run {s : Crew × World} (hwatched : Watched seen adapter tasks)
    (hdesks : (tasks.map Task.desk).Nodup) (hapart : Apart adapter tasks)
    (hsteady : Steady seen start.files adapter tasks)
    (hrun : Crew.Run adapter tasks workers (Crew.start false tasks, start) trace s)
    (hleaves : ∀ event ∈ trace, event.LeavesAlone seen tasks)
    (hanswers : ∀ event ∈ trace, event.Answers adapter tasks answers) :
    Underway start.files adapter (fun command => answers command (Corpus.texts start.files)) tasks
      s.1 s.2.files := by
  generalize hstart : (Crew.start false tasks, start) = first at hrun
  induction hrun with
  | nil =>
    subst hstart
    intro number task stage _ hstage
    obtain rfl := List.eq_of_mem_replicate (List.mem_of_getElem? hstage)
    trivial
  | snoc hbefore hstep ih =>
    subst hstart
    obtain ⟨hleaves, hleave⟩ := List.forall_mem_append.mp hleaves
    obtain ⟨hanswers, hanswer⟩ := List.forall_mem_append.mp hanswers
    have hleave := List.forall_mem_singleton.mp hleave
    have hanswer := List.forall_mem_singleton.mp hanswer
    have htidy := Tidy.of_leavesAlone hwatched hapart hbefore hleaves
    have hunderway := ih hleaves hanswers
    cases hstep with
    | @work crew number task stage next w w' htask hstage hopen _ hrun =>
      have hmem := List.mem_of_getElem? htask
      have hsources := hsteady.sources w.files htidy.grown task hmem
      have hlive : crew.cancelled = false := htidy.live
      rw [hlive] at hrun
      refine hunderway.work hwatched hdesks htask (progress_advance hapart hmem
        (commands_congr hsources) htidy.grown (htidy.standing number task stage htask hstage)
        (hunderway number task stage htask hstage) hopen ?_ hrun)
      rintro command rest rfl
      refine ⟨?_, (hleave task htask).1⟩
      rw [← hsteady.texts w.files htidy.grown]
      exact hanswer task htask
    | collect => exact hunderway
    | cancel => exact hleave.elim
    | interfere =>
      rw [hleave.1]
      exact hunderway

/-- In the end a report is read from a desk that can be worked at, and from no other. -/
theorem Tidy.feasible_of_read (h : Tidy seen adapter tasks start trace crew w)
    (hapart : Apart adapter tasks) {task : Task} (htask : task ∈ tasks) {content : Bytes}
    (hread : w.files.read task.report = .ok content) : task.Feasible start.files := by
  obtain ⟨loc, hlocate, hfile⟩ := FileSystem.read_eq_ok_iff.mp hread
  have hdesk : loc = task.desk := FileSystem.locate_eq_location hlocate
  subst hdesk
  have happroach (l : Location) (hl : l ∈ task.approach) := directory_of_mem_approach hlocate hl
  refine ⟨fun l hl => ?_, fun hmem => ?_, fun hstart => ?_⟩
  · rw [← h.grown.isPassable_eq hapart htask (.inl hl)]
    exact FileSystem.isPassable_of_directory (happroach l hl)
  · exact nomatch hfile.symm.trans (happroach _ hmem)
  · exact nomatch hfile.symm.trans (h.grown.kept _ hstart)

/-- When all tasks are over, each has come to its outcome. -/
theorem yields_of_run (hwatched : Watched seen adapter tasks)
    (hdesks : (tasks.map Task.desk).Nodup) (hapart : Apart adapter tasks)
    (hsteady : Steady seen start.files adapter tasks)
    (hrun : Crew.Run adapter tasks workers (Crew.start false tasks, start) trace (crew, field))
    (hfinished : crew.Finished) (hleaves : ∀ event ∈ trace, event.LeavesAlone seen tasks)
    (hanswers : ∀ event ∈ trace, event.Answers adapter tasks answers) :
    ∀ result ∈ crew.results tasks,
      adapter.outcome (fun command => answers command (Corpus.texts start.files)) start.files
        result.task = ⟨result.launched, (field.files.read result.task.report).toOption⟩ := by
  have htidy := Tidy.of_leavesAlone hwatched hapart hrun hleaves
  have hunderway := underway_of_run hwatched hdesks hapart hsteady hrun hleaves hanswers
  have htraced := Traced.of_run hrun
  have hover := Tidy.over_of_finished htraced hfinished
  intro result hmem
  obtain ⟨number, htask, hstage, -⟩ := htraced.of_mem_results hmem
  obtain ⟨hlaunched, hreport⟩ := hunderway number result.task _ htask hstage
  have hread : (adapter.outcome (fun command => answers command (Corpus.texts start.files))
      start.files result.task).report = (field.files.read result.task.report).toOption := by
    have hin := List.mem_of_getElem? htask
    by_cases hfeasible : result.task.Feasible start.files
    · rw [hreport hfeasible]
      refine Option.ext fun content => ?_
      rw [FileSystem.content?_eq_some_iff]
      exact htidy.read_iff hover hin hfeasible content
    · rw [Adapter.outcome_of_not fun h => hfeasible h.1]
      cases hread : field.files.read result.task.report with
      | ok content => exact absurd (htidy.feasible_of_read hapart hin hread) hfeasible
      | error e => rfl
  rw [← hlaunched, ← hread]

end Crew

end Crosscheck.Analysis
