import Crosscheck.Proofs.Analysis.Places
/-!
# Sources are spared

A crew makes directories, removes reports and starts processes that write files. None of this takes
a source away: a directory is made where nothing stands, a report never goes by the name of a
source, and what a process writes leaves a file where one was. So as long as nobody else takes
sources away, every file by the name of a source is one when the crew is finished (`spares_run`).
-/

namespace Crosscheck.Corpus

open Crosscheck.Files Crosscheck.Mutation

/-- What a change leaves that spares the sources: the ways to the folders, and every file by the
name of a source, whatever is in it. -/
structure Spares (folders : List Path) (before after : FileSystem) : Prop where
  ways : ∀ folder ∈ folders, ∀ loc, before.locate folder = .ok loc → after.locate folder = .ok loc
  files : ∀ l content, sourceSuffix.toList <:+ l.path.name.toList →
    before.find? l = some (.file content) → ∃ other, after.find? l = some (.file other)

namespace Spares

variable {folders : List Path} {a b c : FileSystem} {path : Path}

theorem refl (folders : List Path) (fs : FileSystem) : Spares folders fs fs where
  ways _ _ _ hloc := hloc
  files _ content _ hfile := ⟨content, hfile⟩

/-- What is spared twice is spared. -/
theorem trans (hab : Spares folders a b) (hbc : Spares folders b c) : Spares folders a c where
  ways folder hfolder loc hloc := hbc.ways folder hfolder loc (hab.ways folder hfolder loc hloc)
  files l content hname hfile := by
    obtain ⟨other, hother⟩ := hab.files l content hname hfile
    exact hbc.files l other hname hother

/-- A change that keeps all directories keeps the ways to all folders. -/
theorem of_directories (hdirs : ∀ l, a.find? l = some .directory → b.find? l = some .directory)
    (hfiles : ∀ l content, sourceSuffix.toList <:+ l.path.name.toList →
      a.find? l = some (.file content) → ∃ other, b.find? l = some (.file other)) :
    Spares folders a b where
  ways _ _ _ hloc := FileSystem.follow_of_directories hdirs hloc
  files := hfiles

/-- New files and directories take no source away. -/
theorem of_extends (h : FileSystem.Extends a b) : Spares folders a b :=
  .of_directories (fun l hl => h l _ hl) fun l content _ hl => ⟨content, h l _ hl⟩

/-- A file that is written may take the place of another. -/
theorem of_write {content : Text.Bytes} (h : a.write path content = .ok b) :
    Spares folders a b := by
  obtain ⟨loc, -, hput, rfl⟩ := FileSystem.write_eq_ok_iff.mp h
  refine .of_directories (fun l hl => (FileSystem.sameDirectories_put hput l).mpr hl)
    fun l old _ hold => ?_
  by_cases hl : l = loc
  · exact ⟨content, hl ▸ FileSystem.find?_put_self hput⟩
  · exact ⟨old, (FileSystem.find?_put_of_ne hput hl).trans hold⟩

/-- What is removed is no source if it does not go by the name of one. -/
theorem of_unlinkIfPresent (hname : ¬ sourceSuffix.toList <:+ path.location.path.name.toList)
    (h : a.unlinkIfPresent path = .ok b) : Spares folders a b := by
  unfold FileSystem.unlinkIfPresent at h
  split at h
  · obtain rfl := Except.ok.inj h
    exact .refl _ _
  · obtain ⟨loc, content, hloc, hfile, rfl⟩ := FileSystem.unlink_eq_ok_iff.mp h
    refine .of_directories (fun l hl => (FileSystem.sameDirectories_erase hfile l).mpr hl)
      fun l old hsource hold => ⟨old, ?_⟩
    rw [FileSystem.find?_erase_file hfile, if_neg, hold]
    rintro rfl
    exact hname (FileSystem.locate_eq_location hloc ▸ hsource)

end Spares

end Crosscheck.Corpus

namespace Crosscheck.Action

open Crosscheck.Files Crosscheck.Corpus

variable {α β : Type} {folders : List Path}

/-- An action that takes no source away, whatever the files are and however it ends. -/
def Sparing (folders : List Path) (action : Action α) : Prop :=
  ∀ w, Spares folders w.files (exec action w).2.files

namespace Sparing

/-- An action that leaves the files spares the sources. -/
theorem of_files_eq {action : Action α} (h : ∀ w, (exec action w).2.files = w.files) :
    Sparing folders action := by
  intro w
  rw [h w]
  exact .refl _ _

theorem pure (a : α) : Sparing folders (Pure.pure a) := of_files_eq fun _ => rfl

theorem note (gravity : Gravity) (message : String) : Sparing folders (note gravity message) :=
  of_files_eq fun _ => rfl

theorem toolFailure (command : String) : Sparing folders (toolFailure command) :=
  of_files_eq fun _ => rfl

theorem lift (result : Except Fault α) : Sparing folders (lift result) := by
  refine of_files_eq fun w => ?_
  rw [exec_lift]

/-- Sparing steps make a sparing action. -/
theorem bind {action : Action α} {next : α → Action β} (h : Sparing folders action)
    (hnext : ∀ a, Sparing folders (next a)) : Sparing folders (action >>= next) := by
  intro w
  refine after_bind (fun after => Spares folders w.files after.files) (h w) ?_
  exact fun a w' hfirst => hfirst.trans (hnext a w')

theorem attempt {action : Action α} (h : Sparing folders action) :
    Sparing folders (attempt action) := h

theorem files : Sparing folders files := of_files_eq fun _ => rfl

/-- A change of the files that may be refused. -/
theorem access {f : FileSystem → Except AccessError FileSystem}
    (h : ∀ fs after, f fs = .ok after → Spares folders fs after) :
    Sparing folders (access f) := by
  intro w
  rw [exec_access]
  split
  · next after hafter => exact h w.files after hafter
  · exact .refl _ _

theorem makeDirectories (path : Path) : Sparing folders (makeDirectories path) := by
  intro w
  rw [exec_makeDirectories]
  exact .of_extends (w.files.extends_makeDirectories path)

/-- Sparing is handed down by all that a worker's steps are built of. -/
theorem inherited : Inherited (Sparing folders) := ⟨pure, bind, attempt, files, note, toolFailure⟩

end Sparing

end Crosscheck.Action

namespace Crosscheck.Analysis

open Crosscheck.Files Crosscheck.Corpus Crosscheck.Mutation

variable {folders : List Path} {adapter : Adapter} {tasks : List Task} {task : Task}
  {workers : Nat} {s s' : Crew × World} {trace : List Event}

/-! ## Workers -/

/-- Files are written in the place of files, or where nothing stands. -/
theorem sparing_launch (call : Call) : (launch call).Sparing folders := by
  intro w
  rw [files_launch]
  exact after_writeAll (Spares folders w.files)
    (fun write _ fs hspares => hspares.trans (.of_extends (fs.extends_makeDirectories _)))
    (fun _ _ _ _ hspares hafter => hspares.trans (.of_write hafter)) (.refl _ _)

/-- A worker spares the sources if its report does not go by the name of one, whatever its processes
write. -/
theorem sparing_advance (hdesk : ¬ sourceSuffix.toList <:+ task.desk.path.name.toList)
    (adapter : Adapter) (cancelled : Bool) (stage : Stage) :
    (stage.advance adapter cancelled task).Sparing folders := by
  have hclearing : (Action.access fun fs => fs.unlinkIfPresent task.report.absolute).Sparing
      folders := by
    refine .access fun fs after h => .of_unlinkIfPresent ?_ h
    rw [location_absolute]
    exact hdesk
  have hhousing : (Stage.houseClasses adapter task.report.absolute).Sparing folders := by
    refine .bind (.lift _) fun classes => ?_
    cases classes with
    | none => exact .pure _
    | some classes => exact .makeDirectories _
  exact Stage.advance_inherits Action.Sparing.inherited (.makeDirectories _) hclearing hhousing
    (fun _ => sparing_launch _) stage

/-! ## The whole crew -/

/-- Nothing that happens to a crew takes a source away, unless somebody else does. -/
theorem spares_step {event : Event}
    (hdesks : ∀ task ∈ tasks, ¬ sourceSuffix.toList <:+ task.desk.path.name.toList)
    (h : Crew.Step adapter tasks workers s event s')
    (hspared : ∀ before after, event = .interfere before after →
      Spares folders before.files after.files) : Spares folders s.2.files s'.2.files := by
  cases h with
  | @work crew number task stage next w w' htask _ _ _ hrun =>
    have hstep : Spares folders w.files
        ((stage.advance adapter crew.cancelled task).exec w).2.files :=
      sparing_advance (hdesks _ (List.mem_of_getElem? htask)) adapter crew.cancelled stage w
    rw [hrun] at hstep
    exact hstep
  | collect => exact .refl _ _
  | cancel => exact .refl _ _
  | interfere => exact hspared _ _ rfl

/-- A run takes no source away, unless somebody else does. -/
theorem spares_run
    (hdesks : ∀ task ∈ tasks, ¬ sourceSuffix.toList <:+ task.desk.path.name.toList)
    (hrun : Crew.Run adapter tasks workers s trace s')
    (hspared : ∀ before after, Event.interfere before after ∈ trace →
      Spares folders before.files after.files) : Spares folders s.2.files s'.2.files := by
  induction hrun with
  | nil => exact .refl _ _
  | snoc _ hstep ih =>
    have hbefore := ih fun before after hmem => hspared before after (List.mem_append_left _ hmem)
    refine hbefore.trans (spares_step hdesks hstep fun before after hsame => ?_)
    exact hspared before after (List.mem_append_right _ (List.mem_singleton.mpr hsame.symm))

/-- No report of a campaign goes by the name of a source. -/
theorem Campaign.desk_not_source (campaign : Campaign) (tool : Tool) (fs : FileSystem)
    (corpus : String) :
    ∀ task ∈ campaign.tasks tool (Corpus.folders fs (Path.ofString corpus)),
      ¬ sourceSuffix.toList <:+ task.desk.path.name.toList := by
  intro task htask hsource
  obtain ⟨number, folder, hfolder, rfl⟩ := campaign.exists_of_mem_tasks tool _ htask
  have hresults : (campaign.settings.resultsDirectory.absolute.child tool.id).isAbsolute = true :=
    Path.isAbsolute_child (Path.isAbsolute_absolute _) _
  rw [desk_reportPath hresults (Corpus.slash_not_mem_name hfolder)] at hsource
  have hname : Path.name (Location.path ((reportHome tool
      (campaign.settings.resultsDirectory.absolute.child tool.id) folder).location ++
        [reportName tool folder])) = reportName tool folder := by
    simp [Path.name, Location.path]
  rw [hname] at hsource
  exact reportName_not_source tool folder hsource

end Crosscheck.Analysis
