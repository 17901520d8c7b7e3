import Crosscheck.Proofs.Analysis.Premises
/-!
# Workers that do not disturb each other

Whatever the other workers of a crew do in between, each finds the way to its report as it was at
the start: the same is in the way, and nobody else works at its desk. So every step keeps the files
`Grown` out of those at the start, and `Standing` tells what the worker has made by the time that it
reaches a stage. When all tasks are over, everything is made that there is to make.
-/

namespace Crosscheck.Analysis

open Crosscheck.Files Crosscheck.Text

/-- Whether a trail is made as far as it could be made at the start. -/
def Built (base : FileSystem) (trail : List Location) (fs : FileSystem) : Prop :=
  ∀ l ∈ base.passed trail, fs.find? l = some .directory

/-- What a worker has made by the time that it reaches a stage. -/
def Stage.Standing (base : FileSystem) (adapter : Adapter) (task : Task) (fs : FileSystem) :
    Stage → Prop
  | queued | making => True
  | clearing => Built base task.approach fs ∧ ∀ l ∈ task.approach, base.isPassable l = true
  | housing => Built base task.approach fs ∧ task.Feasible base
  | planning | running _ =>
    Built base task.approach fs ∧ task.Feasible base ∧ Built base (adapter.annex task) fs
  | unprepared _ | unlaunched _ | faulty _ | done _ =>
    Built base task.approach fs ∧ (task.Feasible base → Built base (adapter.annex task) fs)

section Step

variable {seen : Location → Prop} {base fs fs' : FileSystem} {adapter : Adapter}
  {tasks : List Task} {task : Task} {stage next : Stage} {w w' : World}

theorem Built.mono {trail : List Location} (h : Built base trail fs)
    (hkeeps : ∀ l, fs.find? l = some .directory → fs'.find? l = some .directory) :
    Built base trail fs' := fun l hl => hkeeps l (h l hl)

/-- A trail with nothing in the way is made all along. -/
theorem Built.all {trail : List Location} (h : Built base trail fs)
    (hopen : ∀ l ∈ trail, base.isPassable l = true) :
    ∀ l ∈ trail, fs.find? l = some .directory := by
  unfold Built at h
  rwa [FileSystem.passed_eq_self_iff.mpr hopen] at h

theorem Stage.Standing.mono (h : stage.Standing base adapter task fs)
    (hkeeps : ∀ l, fs.find? l = some .directory → fs'.find? l = some .directory) :
    stage.Standing base adapter task fs' := by
  cases stage with
  | queued | making => trivial
  | clearing | housing => exact ⟨h.1.mono hkeeps, h.2⟩
  | planning | running => exact ⟨h.1.mono hkeeps, h.2.1, h.2.2.mono hkeeps⟩
  | unprepared | unlaunched | faulty | done =>
    exact ⟨h.1.mono hkeeps, fun hfeasible => (h.2 hfeasible).mono hkeeps⟩

/-- A preparation that fails leads to a record of it. -/
theorem Stage.standing_prepared_error {fault : Fault} (h : Built base task.approach fs)
    (hannex : task.Feasible base → Built base (adapter.annex task) fs) :
    (next.prepared (.error fault : Except Fault Unit)).Standing base adapter task fs := by
  cases fault with
  | access e => exact ⟨h, hannex⟩
  | _ => exact ⟨h, hannex⟩

/-- What a step of a worker does to the files that all share. -/
structure Coexists (seen : Location → Prop) (base : FileSystem) (adapter : Adapter)
    (tasks : List Task) (task : Task) (next : Stage) (before after : FileSystem) : Prop where
  grown : Grown seen base adapter tasks after
  keeps : ∀ l, before.find? l = some .directory → after.find? l = some .directory
  standing : next.Standing base adapter task after

namespace Coexists

/-- A step that leaves the files. -/
theorem of_files_eq (hgrown : Grown seen base adapter tasks fs)
    (hstanding : next.Standing base adapter task fs) :
    Coexists seen base adapter tasks task next fs fs := ⟨hgrown, fun _ h => h, hstanding⟩

/-- A step that makes directories. -/
theorem of_makeDirectories {path : Path} (hgrown : Grown seen base adapter tasks fs)
    (hpath : path.isAbsolute = true) (hpassed : fs.passed path.trail = base.passed path.trail)
    (hyard : ∀ l ∈ base.passed path.trail, Yard base adapter tasks l)
    (hnext : Built base path.trail (fs.makeDirectories path).1 →
      (∀ l, fs.find? l = some .directory →
        (fs.makeDirectories path).1.find? l = some .directory) →
      next.Standing base adapter task (fs.makeDirectories path).1) :
    Coexists seen base adapter tasks task next fs (fs.makeDirectories path).1 := by
  have hfind := (fs.makesTrail_makeDirectories hpath).find?
  have hkeeps : ∀ l, fs.find? l = some .directory →
      (fs.makeDirectories path).1.find? l = some .directory := by
    intro l hl
    rw [hfind]
    split
    · rfl
    · exact hl
  refine ⟨hgrown.makeDirectories hpath hpassed hyard, hkeeps, hnext (fun l hl => ?_) hkeeps⟩
  rw [hfind, if_pos (hpassed ▸ hl)]

/-- A step that works at the desk. -/
theorem of_attended (hgrown : Grown seen base adapter tasks fs) (htask : task ∈ tasks)
    (hfeasible : task.Feasible base) (hattended : Attended seen task fs fs')
    (hnext : next.Standing base adapter task fs) :
    Coexists seen base adapter tasks task next fs fs' :=
  ⟨hgrown.attended htask hfeasible hattended, hattended.keeps, hnext.mono hattended.keeps⟩

end Coexists

theorem location_absolute (path : Path) : path.absolute.location = path.location := by
  unfold Path.location
  rw [Path.absolute_absolute]

/-- The directory of compiled classes stands beside the report or its directory. -/
theorem isAbsolute_classes {tool : Tool} {report classes : Path}
    (h : classesPath? tool report = .ok (some classes)) (hreport : report.isAbsolute = true) :
    classes.isAbsolute = true := by
  have hrenamed {path : Path} {name : String} (habsolute : path.isAbsolute = true)
      (h : (renamed path name).map some = .ok (some classes)) : classes.isAbsolute = true := by
    unfold renamed at h
    split at h
    · exact nomatch h
    · obtain rfl := Option.some.inj (Except.ok.inj h)
      exact habsolute
  cases tool with
  | spotbugs => exact hrenamed hreport h
  | infer => exact hrenamed (isAbsolute_parent hreport) h
  | _ => exact nomatch h

/-- There may be no annex to make, and the worker goes on unless it could not tell; or the annex is
made as far as it goes. -/
theorem exec_advance_housing (adapter : Adapter) (cancelled : Bool) (task : Task) (w : World) :
    (∃ fault, classesPath? adapter.tool task.report.absolute = .error fault ∧
      adapter.annex task = [] ∧ (Stage.housing.advance adapter cancelled task).exec w =
        (.ok (Stage.planning.prepared (.error fault : Except Fault Unit)), w)) ∨
    (adapter.annex task = [] ∧
      (Stage.housing.advance adapter cancelled task).exec w = (.ok .planning, w)) ∨
    ∃ classes, classes.isAbsolute = true ∧ adapter.annex task = classes.trail ∧
      (Stage.housing.advance adapter cancelled task).exec w =
        (.ok (Stage.planning.prepared
          ((w.files.makeDirectories classes).2.elim (.ok ()) fun e => .error (.access e))),
          { w with files := (w.files.makeDirectories classes).1 }) := by
  have hstep : (Stage.housing.advance adapter cancelled task).exec w = _ :=
    exec_prepare (Stage.houseClasses adapter task.report.absolute) .planning w
  unfold Stage.houseClasses at hstep
  rw [Action.exec_bind, Action.exec_lift] at hstep
  unfold Adapter.annex
  rcases hclasses : classesPath? adapter.tool task.report.absolute with fault | (_ | classes)
  · rw [hclasses] at hstep
    exact .inl ⟨fault, rfl, rfl, hstep⟩
  · rw [hclasses] at hstep
    exact .inr (.inl ⟨rfl, hstep⟩)
  · rw [hclasses] at hstep
    dsimp only at hstep
    rw [Action.exec_makeDirectories] at hstep
    exact .inr (.inr
      ⟨classes, isAbsolute_classes hclasses task.report.isAbsolute_absolute, rfl, hstep⟩)

/-- The approach to the desk is made. -/
theorem coexists_making (hapart : Apart adapter tasks) (htask : task ∈ tasks)
    (hgrown : Grown seen base adapter tasks w.files)
    (hrun : (Stage.making.advance adapter false task).exec w = (.ok next, w')) :
    Coexists seen base adapter tasks task next w.files w'.files := by
  have hprepare := exec_prepare (Action.makeDirectories task.report.absolute.parent) .clearing w
  rw [Action.exec_makeDirectories] at hprepare
  obtain ⟨rfl, rfl⟩ := Action.answer_inj (hrun.symm.trans hprepare)
  have hpath := isAbsolute_parent task.report.isAbsolute_absolute
  have hmakes := w.files.makesTrail_makeDirectories hpath
  refine .of_makeDirectories hgrown hpath
    (hgrown.passed_eq hapart htask fun l hl => .inl hl)
    (fun l hl => ⟨task, htask, .inl hl⟩) fun hbuilt _ => ?_
  have hopen : (∀ l ∈ task.approach, w.files.isPassable l = true) ↔
      ∀ l ∈ task.approach, base.isPassable l = true :=
    forall₂_congr fun l hl => by rw [hgrown.isPassable_eq hapart htask (.inl hl)]
  cases hrefused : (w.files.makeDirectories task.report.absolute.parent).2 with
  | none => exact ⟨hbuilt, hopen.mp (hmakes.none_iff.mp hrefused)⟩
  | some e =>
    refine ⟨hbuilt, fun hfeasible => ?_⟩
    rw [hmakes.none_iff.mpr (hopen.mpr hfeasible.passable)] at hrefused
    exact nomatch hrefused

/-- An old report is removed. -/
theorem coexists_clearing (hapart : Apart adapter tasks) (htask : task ∈ tasks)
    (hgrown : Grown seen base adapter tasks w.files)
    (hstanding : Stage.clearing.Standing base adapter task w.files)
    (hrun : (Stage.clearing.advance adapter false task).exec w = (.ok next, w')) :
    Coexists seen base adapter tasks task next w.files w'.files := by
  obtain ⟨hbuilt, hopen⟩ := hstanding
  have hprepare := exec_prepare
    (Action.access fun fs => fs.unlinkIfPresent task.report.absolute) .housing w
  rw [Action.exec_access] at hprepare
  have hall := hbuilt.all hopen
  have hlocate : w.files.locate task.report.absolute = .ok task.desk := by
    rw [locate_of_directories task.report.isAbsolute_absolute hall, location_absolute]
    rfl
  by_cases hfree : w.files.find? task.desk = some .directory
  · rw [FileSystem.unlinkIfPresent_of_directory hlocate hfree] at hprepare
    obtain ⟨rfl, rfl⟩ := Action.answer_inj (hrun.symm.trans hprepare)
    exact .of_files_eq hgrown
      ⟨hbuilt, fun hfeasible => absurd hfree (hgrown.desk_free hapart htask hfeasible)⟩
  · obtain ⟨after, hunlink, hedits, -⟩ := FileSystem.exists_of_unlinkIfPresent hlocate hfree
    rw [hunlink] at hprepare
    obtain ⟨rfl, rfl⟩ := Action.answer_inj (hrun.symm.trans hprepare)
    have hfeasible : task.Feasible base :=
      ⟨hopen, fun hdesk => hfree (hall _ hdesk), fun hbase => hfree (hgrown.kept _ hbase)⟩
    exact .of_attended hgrown htask hfeasible (.of_edits hedits hfree) ⟨hbuilt, hfeasible⟩

/-- The annex is made. -/
theorem coexists_housing (hapart : Apart adapter tasks) (htask : task ∈ tasks)
    (hgrown : Grown seen base adapter tasks w.files)
    (hstanding : Stage.housing.Standing base adapter task w.files)
    (hrun : (Stage.housing.advance adapter false task).exec w = (.ok next, w')) :
    Coexists seen base adapter tasks task next w.files w'.files := by
  obtain ⟨hbuilt, hfeasible⟩ := hstanding
  have hnothing (h : adapter.annex task = []) : Built base (adapter.annex task) w.files := by
    rw [h]
    exact fun l hl => absurd hl List.not_mem_nil
  rcases exec_advance_housing adapter false task w with
    ⟨fault, -, hannex, hstep⟩ | ⟨hannex, hstep⟩ | ⟨classes, habsolute, hannex, hstep⟩
  · obtain ⟨rfl, rfl⟩ := Action.answer_inj (hrun.symm.trans hstep)
    exact .of_files_eq hgrown (Stage.standing_prepared_error hbuilt fun _ => hnothing hannex)
  · obtain ⟨rfl, rfl⟩ := Action.answer_inj (hrun.symm.trans hstep)
    exact .of_files_eq hgrown ⟨hbuilt, hfeasible, hnothing hannex⟩
  · obtain ⟨rfl, rfl⟩ := Action.answer_inj (hrun.symm.trans hstep)
    refine .of_makeDirectories hgrown habsolute
      (hgrown.passed_eq hapart htask fun l hl => .inr (hannex.symm ▸ hl))
      (fun l hl => ⟨task, htask, .inr ⟨hfeasible, hannex.symm ▸ hl⟩⟩) fun hmade hkeeps => ?_
    rw [← hannex] at hmade
    cases (w.files.makeDirectories classes).2 with
    | none => exact ⟨hbuilt.mono hkeeps, hfeasible, hmade⟩
    | some e => exact ⟨hbuilt.mono hkeeps, fun _ => hmade⟩

/-- A process writes the report, and perhaps what nobody looks at. -/
theorem coexists_running {command : List String} {rest : List (List String)}
    (htask : task ∈ tasks) (hgrown : Grown seen base adapter tasks w.files)
    (hstanding : (Stage.running (command :: rest)).Standing base adapter task w.files)
    (hattended : Attended seen task w.files w'.files)
    (hrun : ((Stage.running (command :: rest)).advance adapter false task).exec w =
      (.ok next, w')) :
    Coexists seen base adapter tasks task next w.files w'.files := by
  obtain ⟨hbuilt, hfeasible, hannex⟩ := hstanding
  have hover (stage : Stage) (hnext : stage.Standing base adapter task w.files) :=
    Coexists.of_attended hgrown htask hfeasible hattended hnext
  rw [Stage.exec_advance_running] at hrun
  obtain ⟨rfl, -⟩ := Action.answer_inj hrun
  refine hover _ ?_
  split
  · exact ⟨hbuilt, hfeasible, hannex⟩
  · exact ⟨hbuilt, fun _ => hannex⟩
  · exact ⟨hbuilt, fun _ => hannex⟩

/-- Every step of a worker leaves the ways of the others as they are, if its processes leave alone
what is seen but for their report. -/
theorem coexists_advance (hapart : Apart adapter tasks) (htask : task ∈ tasks)
    (hgrown : Grown seen base adapter tasks w.files)
    (hstanding : stage.Standing base adapter task w.files) (hopen : stage.isDone = false)
    (hattended : ∀ command rest, stage = .running (command :: rest) →
      Attended seen task w.files w'.files)
    (hrun : (stage.advance adapter false task).exec w = (.ok next, w')) :
    Coexists seen base adapter tasks task next w.files w'.files := by
  cases stage with
  | queued =>
    obtain ⟨rfl, rfl⟩ := Action.answer_inj hrun
    exact .of_files_eq hgrown trivial
  | making => exact coexists_making hapart htask hgrown hrun
  | clearing => exact coexists_clearing hapart htask hgrown hstanding hrun
  | housing => exact coexists_housing hapart htask hgrown hstanding hrun
  | planning =>
    rw [Stage.exec_advance_planning] at hrun
    obtain ⟨rfl, rfl⟩ := Action.answer_inj hrun
    cases adapter.commands w.files task.folder.absolute task.report.absolute with
    | ok commands => exact .of_files_eq hgrown hstanding
    | error fault => exact .of_files_eq hgrown ⟨hstanding.1, fun _ => hstanding.2.2⟩
  | running commands =>
    cases commands with
    | nil =>
      obtain ⟨rfl, rfl⟩ := Action.answer_inj hrun
      exact .of_files_eq hgrown ⟨hstanding.1, fun _ => hstanding.2.2⟩
    | cons command rest =>
      exact coexists_running htask hgrown hstanding (hattended command rest rfl) hrun
  | unprepared | unlaunched | faulty =>
    obtain ⟨rfl, rfl⟩ := Action.answer_inj hrun
    exact .of_files_eq hgrown hstanding
  | done result => exact nomatch hopen

/-- No step of a worker touches the findings or the list of unreadable reports. -/
theorem quiet_advance (adapter : Adapter) (cancelled : Bool) (task : Task) (stage : Stage) :
    (stage.advance adapter cancelled task).Quiet :=
  Stage.advance_inherits Action.Quiet.inherited (Action.Outward.makeDirectories _).quiet
    (Action.Outward.access _).quiet (outward_houseClasses _ _).quiet
    (fun _ => (outward_launch _).quiet) stage

end Step

/-! ## The whole crew -/

/-- An event in a run that is not cancelled, in which a process writes the report of its task at
most, and nobody but the workers touches files, findings or failures. -/
def Event.Regular (tasks : List Task) : Event → Prop
  | work number (.running (_ :: _)) _ before _ => ∀ task, tasks[number]? = some task →
    ∀ child ∈ before.script.head?, child.WritesOnly task.report.absolute
  | cancel => False
  | interfere before after =>
    after.files = before.files ∧ after.index = before.index ∧ after.ledger = before.ledger
  | _ => True

/-- An event in a run that is not cancelled, in which a process leaves alone what is seen but for
the report of its task, and nobody but the workers touches files, findings or failures. -/
def Event.LeavesAlone (seen : Location → Prop) (tasks : List Task) : Event → Prop
  | work number (.running (_ :: _)) _ before after => ∀ task, tasks[number]? = some task →
    (∀ l, seen l → l ≠ task.desk → after.files.find? l = before.files.find? l) ∧
      after.files.find? task.desk ≠ some .directory
  | cancel => False
  | interfere before after =>
    after.files = before.files ∧ after.index = before.index ∧ after.ledger = before.ledger
  | _ => True

theorem Event.LeavesAlone.mono {seen other : Location → Prop} {tasks : List Task} {event : Event}
    (h : event.LeavesAlone other tasks) (hsub : ∀ l, seen l → other l) :
    event.LeavesAlone seen tasks := by
  cases event with
  | work number stage cancelled before after =>
    cases stage with
    | running commands =>
      cases commands with
      | nil => trivial
      | cons command rest =>
        intro task htask
        exact ⟨fun l hl => (h task htask).1 l (hsub l hl), (h task htask).2⟩
    | _ => trivial
  | collect number => trivial
  | cancel => exact h
  | interfere before after => exact h

/-- What every moment of a run keeps that leaves alone what is seen. -/
structure Tidy (seen : Location → Prop) (adapter : Adapter) (tasks : List Task) (start : World)
    (trace : List Event) (crew : Crew) (w : World) : Prop where
  live : crew.cancelled = false
  sees : ∀ event ∈ trace, event.skips = false
  grown : Grown seen start.files adapter tasks w.files
  standing : ∀ (number : Nat) (task : Task) (stage : Stage), tasks[number]? = some task →
    crew.stages[number]? = some stage → stage.Standing start.files adapter task w.files
  index : w.index = start.index
  reports : w.ledger.reports = start.ledger.reports

namespace Tidy

variable {seen : Location → Prop} {adapter : Adapter} {tasks : List Task} {start w w' : World}
  {trace trace' : List Event} {crew crew' : Crew} {workers : Nat}

theorem start_of (hwatched : Watched seen adapter tasks) (w : World) :
    Tidy seen adapter tasks w [] (Crew.start false tasks) w where
  live := rfl
  sees _ hevent := absurd hevent List.not_mem_nil
  grown := .refl _ hwatched
  standing number task stage _ hstage := by
    obtain rfl := List.eq_of_mem_replicate (List.mem_of_getElem? hstage)
    trivial
  index := rfl
  reports := rfl

theorem skips_concat {last : Event} (h : ∀ event ∈ trace, event.skips = false)
    (hlast : last.skips = false) : ∀ event ∈ trace ++ [last], event.skips = false :=
  List.forall_mem_append.mpr ⟨h, List.forall_mem_singleton.mpr hlast⟩

/-- A step of a worker leaves the premises tidy. -/
theorem work {number : Nat} {task : Task} {stage next : Stage} (hapart : Apart adapter tasks)
    (h : Tidy seen adapter tasks start trace crew w) (htask : tasks[number]? = some task)
    (hstage : crew.stages[number]? = some stage) (hopen : stage.isDone = false)
    (hleaves : (Event.work number stage crew.cancelled w w').LeavesAlone seen tasks)
    (hrun : (stage.advance adapter crew.cancelled task).exec w = (.ok next, w')) :
    Tidy seen adapter tasks start (trace ++ [.work number stage crew.cancelled w w'])
      { crew with stages := crew.stages.set number next } w' := by
  have hquiet := quiet_advance adapter crew.cancelled task stage w
  rw [hrun] at hquiet
  have hattended : ∀ command rest, stage = .running (command :: rest) →
      Attended seen task w.files w'.files := by
    rintro command rest rfl
    obtain ⟨helsewhere, hfree⟩ := hleaves task htask
    refine ⟨helsewhere, hfree, fun l hl => ?_⟩
    rw [Stage.exec_advance_running] at hrun
    obtain ⟨-, rfl⟩ := Action.answer_inj hrun
    exact keeps_launch _ w hl
  have hskips : (Event.work number stage crew.cancelled w w').skips = false := by
    cases stage with
    | queued => exact h.live
    | _ => rfl
  rw [h.live] at hrun
  have hcoexists := coexists_advance hapart (List.mem_of_getElem? htask) h.grown
    (h.standing number task stage htask hstage) hopen hattended hrun
  refine ⟨h.live, skips_concat h.sees hskips, hcoexists.grown,
    fun other task' stage' htask' hstage' => ?_, hquiet.1.trans h.index, hquiet.2.trans h.reports⟩
  rcases stage_of_set htask htask' hstage' with ⟨-, rfl, rfl⟩ | ⟨-, hstood⟩
  · exact hcoexists.standing
  · exact (h.standing other task' stage' htask' hstood).mono hcoexists.keeps

theorem step {event : Event} (hapart : Apart adapter tasks)
    (h : Tidy seen adapter tasks start trace crew w)
    (hstep : Crew.Step adapter tasks workers (crew, w) event (crew', w'))
    (hleaves : event.LeavesAlone seen tasks) :
    Tidy seen adapter tasks start (trace ++ [event]) crew' w' := by
  cases hstep with
  | work htask hstage hopen _ hrun => exact h.work hapart htask hstage hopen hleaves hrun
  | collect =>
    exact ⟨h.live, skips_concat h.sees rfl, h.grown, h.standing, h.index, h.reports⟩
  | cancel => exact hleaves.elim
  | interfere =>
    obtain ⟨hfiles, hindex, hledger⟩ := hleaves
    refine ⟨h.live, skips_concat h.sees rfl, hfiles ▸ h.grown,
      fun number task stage htask hstage => ?_, hindex.trans h.index, ?_⟩
    · rw [hfiles]
      exact h.standing number task stage htask hstage
    · rw [hledger]
      exact h.reports

/-- Every moment of a run that leaves alone what is seen is tidy. -/
theorem of_leavesAlone {s : Crew × World} (hwatched : Watched seen adapter tasks)
    (hapart : Apart adapter tasks)
    (hrun : Crew.Run adapter tasks workers (Crew.start false tasks, w) trace s)
    (hleaves : ∀ event ∈ trace, event.LeavesAlone seen tasks) :
    Tidy seen adapter tasks w trace s.1 s.2 := by
  generalize hstart : (Crew.start false tasks, w) = first at hrun
  induction hrun with
  | nil => subst hstart; exact start_of hwatched w
  | snoc _ hstep ih =>
    obtain ⟨hbefore, hlast⟩ := List.forall_mem_append.mp hleaves
    exact (ih hbefore).step hapart hstep (List.forall_mem_singleton.mp hlast)

/-- A process that writes the report of its task at most leaves everything else alone. -/
theorem leavesAlone_of_regular {event : Event} (hapart : Apart adapter tasks)
    (h : Tidy seen adapter tasks start trace crew w)
    (hstep : Crew.Step adapter tasks workers (crew, w) event (crew', w'))
    (hregular : event.Regular tasks) : event.LeavesAlone (fun _ => True) tasks := by
  cases hstep with
  | @work crew number task stage next w w' htask hstage hopen _ hrun =>
    cases stage with
    | running commands =>
      cases commands with
      | nil => trivial
      | cons command rest =>
        intro task' htask'
        obtain rfl := Option.some.inj (htask.symm.trans htask')
        obtain ⟨hbuilt, hfeasible, -⟩ := h.standing number task _ htask hstage
        rw [Stage.exec_advance_running] at hrun
        obtain ⟨-, rfl⟩ := Action.answer_inj hrun
        have hedits := edits_launch (adapter.call task command) task.report.isAbsolute_absolute
          (hbuilt.all hfeasible.passable) (hregular task htask)
        rw [location_absolute] at hedits
        have hattended : Attended (fun _ => True) task w.files
            ((launch (adapter.call task command)).exec w).2.files :=
          .of_edits hedits (h.grown.desk_free hapart (List.mem_of_getElem? htask) hfeasible)
        exact ⟨hattended.elsewhere, hattended.free⟩
    | _ => trivial
  | collect => trivial
  | cancel => exact hregular
  | interfere => exact hregular

/-- A regular run leaves everything but the reports alone. -/
theorem leavesAlone_of_run {s : Crew × World} (hapart : Apart adapter tasks)
    (hrun : Crew.Run adapter tasks workers (Crew.start false tasks, w) trace s)
    (hregular : ∀ event ∈ trace, event.Regular tasks) :
    ∀ event ∈ trace, event.LeavesAlone (fun _ => True) tasks := by
  generalize hstart : (Crew.start false tasks, w) = first at hrun
  induction hrun with
  | nil => exact fun event hevent => absurd hevent List.not_mem_nil
  | snoc hbefore hstep ih =>
    subst hstart
    obtain ⟨hregular, hlast⟩ := List.forall_mem_append.mp hregular
    have hleaves := ih hregular
    have htidy := of_leavesAlone (fun _ _ _ _ => trivial) hapart hbefore hleaves
    exact List.forall_mem_append.mpr ⟨hleaves, List.forall_mem_singleton.mpr
      (htidy.leavesAlone_of_regular hapart hstep (List.forall_mem_singleton.mp hlast))⟩

/-- Every moment of a regular run is tidy, down to what nobody looks at. -/
theorem of_run {s : Crew × World} (hapart : Apart adapter tasks)
    (hrun : Crew.Run adapter tasks workers (Crew.start false tasks, w) trace s)
    (hregular : ∀ event ∈ trace, event.Regular tasks) :
    Tidy (fun _ => True) adapter tasks w trace s.1 s.2 :=
  of_leavesAlone (fun _ _ _ _ => trivial) hapart hrun (leavesAlone_of_run hapart hrun hregular)

/-! ## When all tasks are over -/

/-- Whether every task is over. -/
def Over (tasks : List Task) (crew : Crew) : Prop :=
  ∀ number < tasks.length, ∃ result, crew.stages[number]? = some (.done result)

/-- When all results have come in, every task is over. -/
theorem over_of_finished (h : Traced adapter tasks start trace crew w) (hfinished : crew.Finished) :
    Over tasks crew :=
  fun _ => h.exists_done hfinished

theorem built (h : Tidy seen adapter tasks start trace crew w) (hover : Over tasks crew) {task : Task}
    (htask : task ∈ tasks) :
    Built start.files task.approach w.files ∧
      (task.Feasible start.files → Built start.files (adapter.annex task) w.files) := by
  obtain ⟨number, hnumber⟩ := List.mem_iff_getElem?.mp htask
  obtain ⟨result, hstage⟩ := hover number (List.getElem?_eq_some_iff.mp hnumber).1
  exact h.standing number task _ hnumber hstage

/-- In the end the directories that are seen are those at the start and those that belong to the
tasks. -/
theorem directory_iff (h : Tidy seen adapter tasks start trace crew w) (hover : Over tasks crew)
    {l : Location} (hl : seen l) : w.files.find? l = some .directory ↔
      start.files.find? l = some .directory ∨ Yard start.files adapter tasks l := by
  refine ⟨h.grown.directories l hl, ?_⟩
  rintro (hstart | ⟨task, htask, hl | ⟨hfeasible, hl⟩⟩)
  · exact h.grown.kept l hstart
  · exact (h.built hover htask).1 l hl
  · exact (h.built hover htask).2 hfeasible l hl

/-- In the end every desk can be reached. -/
theorem read_iff (h : Tidy seen adapter tasks start trace crew w) (hover : Over tasks crew) {task : Task}
    (htask : task ∈ tasks) (hfeasible : task.Feasible start.files) (content : Bytes) :
    w.files.find? task.desk = some (.file content) ↔
      (w.files.read task.report).toOption = some content := by
  have hall := (h.built hover htask).1.all hfeasible.passable
  have hlocate : w.files.locate task.report = .ok task.desk := by
    rw [← FileSystem.locate_absolute,
      locate_of_directories task.report.isAbsolute_absolute hall, location_absolute]
    rfl
  rw [← FileSystem.read_eq_ok_iff_of_locate hlocate]
  cases w.files.read task.report <;> simp [Except.toOption]

/-- Two regular runs from the same files that end with the same reports end with the same files. -/
theorem files_eq (h : Tidy (fun _ => True) adapter tasks start trace crew w)
    (h' : Tidy (fun _ => True) adapter tasks start trace' crew' w') (hover : Over tasks crew)
    (hover' : Over tasks crew')
    (hreports : ∀ task ∈ tasks,
      (w'.files.read task.report).toOption = (w.files.read task.report).toOption) :
    w'.files = w.files := by
  refine FileSystem.ext_find? fun l => ?_
  have hdirectory : w'.files.find? l = some .directory ↔ w.files.find? l = some .directory :=
    (h'.directory_iff hover' trivial).trans (h.directory_iff hover trivial).symm
  have hfile (content : Bytes) :
      w'.files.find? l = some (.file content) ↔ w.files.find? l = some (.file content) := by
    by_cases hdesk : Desks start.files tasks l
    · obtain ⟨task, htask, hfeasible, rfl⟩ := hdesk
      rw [h'.read_iff hover' htask hfeasible, h.read_iff hover htask hfeasible,
        hreports task htask]
    · exact (h'.grown.files l content trivial hdesk).trans
        (h.grown.files l content trivial hdesk).symm
  refine Option.ext fun entry => ?_
  cases entry with
  | file content => exact hfile content
  | directory => exact hdirectory

end Tidy

end Crosscheck.Analysis
