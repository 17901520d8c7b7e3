import Crosscheck.Proofs.Analysis.Crew
import Crosscheck.Proofs.Files.Edits
import Crosscheck.Proofs.Files.Trail
/-!
# What a crew leaves on disk

The workers of a crew share the files. Each makes the approach to the desk of its task, which is
where the report is to stand, removes an old report from it, and makes an annex for compiled
classes; its processes write the report. If no desk stands on the approach or in the annex of
another task, no worker is in the way of another. So when the crew is finished, every directory and
every file but the reports is determined by the files at the start (`Tidy.files_eq`), whatever the
interleaving.
-/

namespace Crosscheck

/-- A child that writes to one path only. -/
def Child.WritesOnly (child : Child) (path : Files.Path) : Prop :=
  ∀ write ∈ child.writes, write.1 = path

end Crosscheck

namespace Crosscheck.Analysis

open Crosscheck.Files Crosscheck.Text

/-! ## The places of a task -/

/-- Where the report of a task stands. -/
def Task.desk (task : Task) : Location := task.report.location

/-- The directories that lead to the report. -/
def Task.approach (task : Task) : List Location := task.report.absolute.parent.trail

/-- The directories that lead to compiled classes, for an analyzer that needs them. -/
def Adapter.annex (adapter : Adapter) (task : Task) : List Location :=
  match classesPath? adapter.tool task.report.absolute with
  | .ok (some classes) => classes.trail
  | _ => []

/-- Whether the preparation of a task gets as far as the annex: nothing is in the way of the
approach, and no directory stands where the report is to stand. -/
structure Task.Feasible (base : FileSystem) (task : Task) : Prop where
  passable : ∀ l ∈ task.approach, base.isPassable l = true
  aside : task.desk ∉ task.approach
  free : base.find? task.desk ≠ some .directory

/-- The directories that tasks make. -/
def Yard (base : FileSystem) (adapter : Adapter) (tasks : List Task) (l : Location) : Prop :=
  ∃ task ∈ tasks, l ∈ base.passed task.approach ∨
    task.Feasible base ∧ l ∈ base.passed (adapter.annex task)

/-- The desks that tasks work at. -/
def Desks (base : FileSystem) (tasks : List Task) (l : Location) : Prop :=
  ∃ task ∈ tasks, task.Feasible base ∧ l = task.desk

/-- Tasks none of which has its desk on the way of another. -/
def Apart (adapter : Adapter) (tasks : List Task) : Prop :=
  ∀ task ∈ tasks, ∀ other ∈ tasks,
    task.desk ∈ other.approach ∨ task.desk ∈ adapter.annex other → task.desk ∈ task.approach

/-- Whether the places of tasks are among those that somebody looks at. -/
def Watched (seen : Location → Prop) (adapter : Adapter) (tasks : List Task) : Prop :=
  ∀ task ∈ tasks, ∀ l, l = task.desk ∨ l ∈ task.approach ∨ l ∈ adapter.annex task → seen l

/-- Files that come of others by the work on tasks, as far as somebody looks: more directories, and
other reports. -/
structure Grown (seen : Location → Prop) (base : FileSystem) (adapter : Adapter)
    (tasks : List Task) (fs : FileSystem) : Prop where
  watched : Watched seen adapter tasks
  files : ∀ l content, seen l → ¬ Desks base tasks l →
    (fs.find? l = some (.file content) ↔ base.find? l = some (.file content))
  directories : ∀ l, seen l → fs.find? l = some .directory →
    base.find? l = some .directory ∨ Yard base adapter tasks l
  kept : ∀ l, base.find? l = some .directory → fs.find? l = some .directory

/-- What becomes of files when the report of a task is written or removed, and perhaps whatever
nobody looks at: no directory goes, and none comes up in the place of the report. -/
structure Attended (seen : Location → Prop) (task : Task) (before after : FileSystem) : Prop where
  elsewhere : ∀ l, seen l → l ≠ task.desk → after.find? l = before.find? l
  free : after.find? task.desk ≠ some .directory
  keeps : ∀ l, before.find? l = some .directory → after.find? l = some .directory

theorem Attended.of_edits {seen : Location → Prop} {task : Task} {before after : FileSystem}
    (h : Edits (· = task.desk) before after) (hfree : before.find? task.desk ≠ some .directory) :
    Attended seen task before after where
  elsewhere _ _ hl := h.find?_eq hl
  free hfound := hfree ((h.sameDirectories _).mp hfound)
  keeps l hl := (h.sameDirectories l).mpr hl

namespace Grown

variable {seen : Location → Prop} {base fs after : FileSystem} {adapter : Adapter}
  {tasks : List Task} {other : Task} {trail : List Location} {path : Path} {l : Location}

theorem refl (base : FileSystem) (hwatched : Watched seen adapter tasks) :
    Grown seen base adapter tasks base :=
  ⟨hwatched, fun _ _ _ _ => Iff.rfl, fun _ _ => .inl, fun _ h => h⟩

/-- The same for somebody who looks at less. -/
theorem mono {other : Location → Prop} (h : Grown other base adapter tasks fs)
    (hwatched : Watched seen adapter tasks) (hsub : ∀ l, seen l → other l) :
    Grown seen base adapter tasks fs where
  watched := hwatched
  files l content hseen := h.files l content (hsub l hseen)
  directories l hseen := h.directories l (hsub l hseen)
  kept := h.kept

/-- The directories that tasks make are seen. -/
theorem seen_of_yard (h : Grown seen base adapter tasks fs) (hl : Yard base adapter tasks l) :
    seen l := by
  obtain ⟨task, htask, hl⟩ := hl
  refine h.watched task htask l (.inr (hl.imp ?_ ?_))
  · exact fun hl => (List.takeWhile_prefix _).subset hl
  · exact fun hl => (List.takeWhile_prefix _).subset hl.2

/-- What was in the way of a task at the start still is, and nothing else. -/
theorem isPassable_eq (h : Grown seen base adapter tasks fs) (hapart : Apart adapter tasks)
    (hother : other ∈ tasks) (hl : l ∈ other.approach ∨ l ∈ adapter.annex other) :
    fs.isPassable l = base.isPassable l := by
  have hdesk : ¬ Desks base tasks l := by
    rintro ⟨task, htask, hfeasible, rfl⟩
    exact hfeasible.aside (hapart task htask other hother hl)
  have hfile (content : Bytes) := h.files l content (h.watched other hother l (.inr hl)) hdesk
  cases hfound : fs.find? l with
  | some entry =>
    cases entry with
    | file content =>
      rw [FileSystem.isPassable_of_file hfound,
        FileSystem.isPassable_of_file ((hfile content).mp hfound)]
    | directory =>
      rw [FileSystem.isPassable_of_directory hfound]
      cases hbase : base.find? l with
      | some entry =>
        cases entry with
        | file content => rw [(hfile content).mpr hbase] at hfound; exact nomatch hfound
        | directory => exact (FileSystem.isPassable_of_directory hbase).symm
      | none =>
        -- A directory that was made has a name that can stand in a directory.
        have hl : l ≠ [] := by
          rintro rfl
          simp at hbase
        have hname := FileSystem.isName_of_find? hfound (List.getLast_mem hl)
        unfold FileSystem.isPassable
        rw [hbase, List.getLast?_eq_some_getLast hl]
        exact hname.symm
  | none =>
    have hbase : base.find? l = none := by
      cases hbase : base.find? l with
      | none => rfl
      | some entry =>
        cases entry with
        | file content => rw [(hfile content).mpr hbase] at hfound; exact nomatch hfound
        | directory => rw [h.kept l hbase] at hfound; exact nomatch hfound
    exact FileSystem.isPassable_congr (hfound.trans hbase.symm)

theorem passed_eq (h : Grown seen base adapter tasks fs) (hapart : Apart adapter tasks)
    (hother : other ∈ tasks) (htrail : ∀ l ∈ trail, l ∈ other.approach ∨ l ∈ adapter.annex other) :
    fs.passed trail = base.passed trail := by
  unfold FileSystem.passed
  induction trail with
  | nil => rfl
  | cons l rest ih =>
    obtain ⟨hfirst, hrest⟩ := List.forall_mem_cons.mp htrail
    rw [List.takeWhile_cons, List.takeWhile_cons, h.isPassable_eq hapart hother hfirst, ih hrest]

/-- No task makes a directory at a desk that can be worked at. -/
theorem desk_free (h : Grown seen base adapter tasks fs) (hapart : Apart adapter tasks)
    (hother : other ∈ tasks) (hfeasible : other.Feasible base) :
    fs.find? other.desk ≠ some .directory := by
  intro hfound
  rcases h.directories _ (h.watched other hother _ (.inl rfl)) hfound with
    hbase | ⟨maker, hmaker, hmade⟩
  · exact hfeasible.free hbase
  · refine hfeasible.aside (hapart other hother maker hmaker (hmade.imp ?_ ?_))
    · exact fun hl => (List.takeWhile_prefix _).subset hl
    · exact fun hl => (List.takeWhile_prefix _).subset hl.2

/-- Directories that belong to the tasks may be made. -/
theorem makeDirectories (h : Grown seen base adapter tasks fs) (hpath : path.isAbsolute = true)
    (hpassed : fs.passed path.trail = base.passed path.trail)
    (hyard : ∀ l ∈ base.passed path.trail, Yard base adapter tasks l) :
    Grown seen base adapter tasks (fs.makeDirectories path).1 := by
  have hfind := (fs.makesTrail_makeDirectories hpath).find?
  refine ⟨h.watched, fun l content hseen hl => ?_, fun l hseen hl => ?_, fun l hl => ?_⟩
  · rw [hfind, hpassed]
    split
    · next hmem =>
      refine iff_of_false (by simp) fun hfile => ?_
      have hopen := FileSystem.isPassable_of_mem_passed hmem
      rw [FileSystem.isPassable_of_file hfile] at hopen
      exact nomatch hopen
    · exact h.files l content hseen hl
  · rw [hfind, hpassed] at hl
    split at hl
    · next hmem => exact .inr (hyard l hmem)
    · exact h.directories l hseen hl
  · rw [hfind]
    split
    · rfl
    · exact h.kept l hl

/-- Files may come and go at a desk, and where nobody looks. -/
theorem attended (h : Grown seen base adapter tasks fs) (hother : other ∈ tasks)
    (hfeasible : other.Feasible base) (hattended : Attended seen other fs after) :
    Grown seen base adapter tasks after where
  watched := h.watched
  files l content hseen hl := by
    rw [hattended.elsewhere l hseen fun hdesk => hl ⟨other, hother, hfeasible, hdesk⟩]
    exact h.files l content hseen hl
  directories l hseen hl := by
    by_cases hdesk : l = other.desk
    · exact absurd (hdesk ▸ hl) hattended.free
    · rw [hattended.elsewhere l hseen hdesk] at hl
      exact h.directories l hseen hl
  kept l hl := hattended.keeps l (h.kept l hl)

/-- Away from desks and from directories that tasks make, everything is as at the start. -/
theorem find?_eq (h : Grown seen base adapter tasks fs) (hseen : seen l)
    (hdesk : ¬ Desks base tasks l)
    (hyard : Yard base adapter tasks l → base.find? l = some .directory) :
    fs.find? l = base.find? l := by
  refine Option.ext fun entry => ?_
  cases entry with
  | file content => exact h.files l content hseen hdesk
  | directory => exact ⟨fun hfound => (h.directories l hseen hfound).elim id hyard, h.kept l⟩

/-! ### Growing on -/

theorem feasible_iff (h : Grown seen base adapter tasks fs) (hapart : Apart adapter tasks)
    (hother : other ∈ tasks) : other.Feasible fs ↔ other.Feasible base := by
  have hpassable : (∀ l ∈ other.approach, fs.isPassable l = true) ↔
      ∀ l ∈ other.approach, base.isPassable l = true :=
    forall₂_congr fun l hl => by rw [h.isPassable_eq hapart hother (.inl hl)]
  constructor
  · intro hfeasible
    exact ⟨hpassable.mp hfeasible.passable, hfeasible.aside,
      fun hbase => hfeasible.free (h.kept _ hbase)⟩
  · intro hfeasible
    exact ⟨hpassable.mpr hfeasible.passable, hfeasible.aside, h.desk_free hapart hother hfeasible⟩

theorem desks_iff (h : Grown seen base adapter tasks fs) (hapart : Apart adapter tasks) :
    Desks fs tasks l ↔ Desks base tasks l := by
  unfold Desks
  refine exists_congr fun task => and_congr_right fun htask => ?_
  rw [h.feasible_iff hapart htask]

theorem yard_iff (h : Grown seen base adapter tasks fs) (hapart : Apart adapter tasks) :
    Yard fs adapter tasks l ↔ Yard base adapter tasks l := by
  unfold Yard
  refine exists_congr fun task => and_congr_right fun htask => ?_
  rw [h.feasible_iff hapart htask, h.passed_eq hapart htask fun _ hl => .inl hl,
    h.passed_eq hapart htask fun _ hl => .inr hl]

theorem trans (h : Grown seen base adapter tasks fs) (hapart : Apart adapter tasks)
    (hmore : Grown seen fs adapter tasks after) : Grown seen base adapter tasks after where
  watched := h.watched
  files l content hseen hl :=
    (hmore.files l content hseen fun hdesk => hl ((h.desks_iff hapart).mp hdesk)).trans
      (h.files l content hseen hl)
  directories l hseen hl := by
    rcases hmore.directories l hseen hl with hfound | hyard
    · exact h.directories l hseen hfound
    · exact .inr ((h.yard_iff hapart).mp hyard)
  kept l hl := hmore.kept l (h.kept l hl)

end Grown

/-! ## Access to a desk -/

section Access

variable {fs : FileSystem} {path : Path}

theorem isAbsolute_parent (h : path.isAbsolute = true) : path.parent.isAbsolute = true := h

/-- What hangs under a directory that is there can be reached. -/
theorem locate_of_directories (h : path.isAbsolute = true)
    (hall : ∀ l ∈ path.parent.trail, fs.find? l = some .directory) :
    fs.locate path = .ok path.location := by
  unfold Path.trail at hall
  rw [Path.absolute_of_isAbsolute (isAbsolute_parent h)] at hall
  unfold FileSystem.locate Path.location
  rw [Path.absolute_of_isAbsolute h]
  rcases List.eq_nil_or_concat' path.parts with hnil | ⟨front, last, hparts⟩
  · rw [hnil]
    rfl
  · have hfront : path.parent.parts = front := by simp [Path.parent, hparts]
    rw [hfront] at hall
    rw [hparts]
    exact FileSystem.follow_concat_iff.mpr ⟨List.forall_mem_cons.mpr ⟨rfl, hall⟩, rfl⟩

end Access

/-! ## Processes -/

section Processes

variable {path : Path} {w : World}

/-- What is kept by making directories and by writing files holds after the writes of a child, also
where one of them is refused. -/
theorem after_writeAll (P : FileSystem → Prop) {writes : List (Path × Bytes)}
    (hmakes : ∀ write ∈ writes, ∀ fs, P fs → P (fs.makeDirectories write.1.parent).1)
    (hputs : ∀ write ∈ writes, ∀ fs after, P fs → fs.write write.1 write.2 = .ok after → P after)
    (h : P w.files) : P ((writeAll writes).exec w).2.files := by
  induction writes generalizing w with
  | nil => exact h
  | cons write rest ih =>
    obtain ⟨path, content⟩ := write
    obtain ⟨hmake, hmakes⟩ := List.forall_mem_cons.mp hmakes
    obtain ⟨hput, hputs⟩ := List.forall_mem_cons.mp hputs
    have hmade := hmake w.files h
    unfold writeAll
    rw [Action.exec_bind_of_ok (Action.exec_files w)]
    dsimp only
    rw [Action.exec_bind_of_ok (Action.exec_setFiles w _)]
    cases (w.files.makeDirectories path.parent).2 with
    | some e => exact hmade
    | none =>
      dsimp only
      cases hwrite : (w.files.makeDirectories path.parent).1.write path content with
      | error e => exact hmade
      | ok after =>
        rw [Action.exec_bind_of_ok (Action.exec_setFiles _ _)]
        exact ih hmakes hputs (hput _ _ hmade hwrite)

theorem exec_nextChild (w : World) :
    nextChild.exec w = (.ok (w.script.headD .idle), { w with script := w.script.tail }) := by
  unfold nextChild
  rw [Action.exec_bind_of_ok (Action.exec_get w)]
  cases hscript : w.script with
  | nil =>
    obtain ⟨files, journal, script, calls, index, ledger, transcript⟩ := w
    obtain rfl : script = [] := hscript
    rfl
  | cons child rest => rfl

/-- A process leaves the files as its child has written them, however it ends. -/
theorem files_launch (call : Call) (w : World) :
    ((launch call).exec w).2.files = ((writeAll (w.script.headD .idle).writes).exec
      { w with calls := w.calls ++ [call], script := w.script.tail }).2.files := by
  unfold launch
  rw [Action.exec_bind_of_ok (Action.exec_modify w _)]
  dsimp only
  rw [Action.exec_bind_of_ok (exec_nextChild _)]
  refine Action.after_bind (fun after => after.files = _) rfl fun refused after hfiles => ?_
  cases refused with
  | some e => exact hfiles
  | none =>
    dsimp only
    split
    · split
      · exact hfiles
      · exact hfiles
    · exact hfiles
    · exact hfiles
    · exact hfiles

/-- A process whose child writes to one path changes nothing else. -/
theorem edits_launch (call : Call) (hpath : path.isAbsolute = true)
    (hall : ∀ l ∈ path.parent.trail, w.files.find? l = some .directory)
    (hchild : ∀ child ∈ w.script.head?, child.WritesOnly path) :
    Edits (· = path.location) w.files ((launch call).exec w).2.files := by
  have hwrites : ∀ write ∈ (w.script.headD .idle).writes, write.1 = path := by
    cases hscript : w.script with
    | nil => exact fun write hwrite => absurd hwrite List.not_mem_nil
    | cons child rest => exact hchild child (by rw [hscript]; rfl)
  rw [files_launch]
  refine after_writeAll (Edits (· = path.location) w.files) (fun write hwrite fs hedits => ?_)
    (fun write hwrite fs after hedits hafter => ?_) (.refl w.files)
  · obtain rfl := hwrites write hwrite
    have hmade := (fs.makesTrail_makeDirectories (isAbsolute_parent hpath)).eq_of_directories
      fun l hl => (hedits.sameDirectories l).mpr (hall l hl)
    rwa [hmade]
  · obtain rfl := hwrites write hwrite
    obtain ⟨loc, hlocate, hput, rfl⟩ := FileSystem.write_eq_ok_iff.mp hafter
    obtain rfl := FileSystem.locate_eq_location hlocate
    exact hedits.put rfl hput

/-- A process takes no directory away, whatever it writes. -/
theorem keeps_launch (call : Call) (w : World) {l : Location}
    (hl : w.files.find? l = some .directory) :
    ((launch call).exec w).2.files.find? l = some .directory := by
  rw [files_launch]
  refine after_writeAll (fun fs => fs.find? l = some .directory) (fun write _ fs hfs => ?_)
    (fun write _ fs after hfs hafter => ?_) hl
  · exact fs.extends_makeDirectories write.1.parent l _ hfs
  · obtain ⟨loc, -, hput, rfl⟩ := FileSystem.write_eq_ok_iff.mp hafter
    exact (FileSystem.sameDirectories_put hput l).mpr hfs

end Processes

end Crosscheck.Analysis
