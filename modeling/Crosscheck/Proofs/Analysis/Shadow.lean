import Crosscheck.Proofs.Analysis.Accounting
import Crosscheck.Proofs.Analysis.Sparing
import Crosscheck.Proofs.Lockstep
/-!
# Workers among files that differ

Two worlds that differ only in files at some places, none of them on the way of a worker or the file
of a source. Workers take the same steps in both and leave them the same elsewhere, as long as no
process writes through one of the places. The worker whose report goes to such a place removes it
before its first process starts, so the place is `Pending` only until then: when all tasks are over,
nothing differs any more.
-/

namespace Crosscheck

open Crosscheck.Files

/-- Whether a child writes through none of the places. It may write right there. -/
def Child.Avoids (places : Location → Prop) (child : Child) : Prop :=
  ∀ write ∈ child.writes, FileSystem.Avoids places write.1.parent

theorem Child.Avoids.mono {places others : Location → Prop} {child : Child}
    (h : child.Avoids places) (hplaces : ∀ l, others l → places l) : child.Avoids others :=
  fun write hwrite l hl hplace => h write hwrite l hl (hplaces l hplace)

/-- Worlds that are the same but for their files, with a script of such children. -/
structure Shadows (allowed : Child → Prop) (w w' : World) : Prop where
  twins : w.Twins w'
  script : ∀ child ∈ w.script, allowed child

theorem unmoved_shadows (allowed : Child → Prop) : Unmoved (Shadows allowed) where
  setFiles a b h := ⟨unmoved_twins.setFiles a b h.twins, h.script⟩
  note notice h := ⟨unmoved_twins.note notice h.twins, h.script⟩

end Crosscheck

namespace Crosscheck.Analysis

open Crosscheck.Files Crosscheck.Mutation Crosscheck.Text

variable {allowed : Child → Prop} {places : Location → Prop} {w w' : World}

/-! ## Processes -/

theorem lockstep_toolFailure (command : String) :
    (Action.toolFailure command).Lockstep
      (Beside (Shadows allowed) (FileSystem.AlikeBut places)) := by
  refine .bind (fun w w' hw => ⟨rfl, ⟨?_, hw.same.script⟩, hw.files⟩) fun _ =>
    .note (unmoved_shadows allowed) _ _
  exact hw.same.twins.change (fun v => { v with ledger := v.ledger.addTool command }) fun _ _ => rfl

theorem lockstep_failed (message : String) :
    (failed message).Lockstep (Beside (Shadows allowed) (FileSystem.AlikeBut places)) :=
  .bind (.note (unmoved_shadows allowed) _ _) fun _ => .pure false

theorem lockstep_writeAll {writes : List (Path × Bytes)}
    (hwrites : ∀ write ∈ writes, FileSystem.Avoids places write.1.parent) :
    (writeAll writes).Lockstep (Beside (Shadows allowed) (FileSystem.AlikeBut places)) := by
  have hsame := unmoved_shadows allowed
  induction writes with
  | nil => exact .pure none
  | cons write rest ih =>
    obtain ⟨path, content⟩ := write
    obtain ⟨hpath, hrest⟩ := List.forall_mem_cons.mp hwrites
    unfold writeAll
    refine .files_bind fun w w' hw => ?_
    obtain ⟨hmade, hrefused⟩ := hw.files.makeDirectories hpath
    generalize w.files.makeDirectories path.parent = x,
      w'.files.makeDirectories path.parent = y at hmade hrefused
    obtain ⟨made, refused⟩ := x
    obtain ⟨made', refused'⟩ := y
    obtain rfl : refused' = refused := hrefused
    dsimp only at hmade ⊢
    rw [Action.exec_bind_of_ok (Action.exec_setFiles w _),
      Action.exec_bind_of_ok (Action.exec_setFiles w' _)]
    cases refused' with
    | some e => exact ⟨rfl, Action.Beside.setFiles hsame hw.same hmade⟩
    | none =>
      have hwritten := hmade.write hpath content
      generalize made.write path content = x, made'.write path content = y at hwritten
      cases hwritten with
      | refused e => exact ⟨rfl, Action.Beside.setFiles hsame hw.same hmade⟩
      | changed hlike =>
        dsimp only
        rw [Action.exec_bind_of_ok (Action.exec_setFiles _ _),
          Action.exec_bind_of_ok (Action.exec_setFiles _ _)]
        exact ih hrest _ _ (Action.Beside.setFiles hsame
          (hsame.setFiles _ _ hw.same) hlike)

/-- A process is launched, or not, alike. -/
theorem lockstep_launch (call : Call)
    (hw : Beside (Shadows allowed) (FileSystem.AlikeBut places) w w')
    (hchild : ∀ child ∈ w.script.head?, child.Avoids places) :
    ((launch call).exec w').1 = ((launch call).exec w).1 ∧
      Beside (Shadows allowed) (FileSystem.AlikeBut places) ((launch call).exec w).2
        ((launch call).exec w').2 := by
  have hscript := hw.same.twins.script_eq
  have hwrites : ∀ write ∈ (w.script.headD .idle).writes,
      FileSystem.Avoids places write.1.parent := by
    cases hhead : w.script with
    | nil => exact fun write hwrite => absurd hwrite List.not_mem_nil
    | cons child rest => exact hchild child (by rw [hhead]; rfl)
  have hbegun : Beside (Shadows allowed) (FileSystem.AlikeBut places)
      { w with calls := w.calls ++ [call], script := w.script.tail }
      { w' with calls := w'.calls ++ [call], script := w'.script.tail } := by
    refine ⟨⟨?_, fun child hmem => hw.same.script child (List.mem_of_mem_tail hmem)⟩, hw.files⟩
    exact hw.same.twins.change
      (fun v => { v with calls := v.calls ++ [call], script := v.script.tail }) fun _ _ => rfl
  unfold launch
  rw [Action.exec_bind_of_ok (Action.exec_modify w _),
    Action.exec_bind_of_ok (Action.exec_modify w' _)]
  dsimp only
  rw [Action.exec_bind_of_ok (exec_nextChild _), Action.exec_bind_of_ok (exec_nextChild _)]
  dsimp only
  rw [hscript] at hbegun ⊢
  refine (Action.Lockstep.bind (lockstep_writeAll hwrites) fun refused => ?_) _ _ hbegun
  split
  · exact lockstep_failed _
  · split
    · split
      · exact lockstep_failed _
      · exact .pure true
    · exact lockstep_failed _
    · exact lockstep_failed _
    · exact .throw _

/-! ## One step -/

/-- Whether no old report is left for the worker: it is past its removal, or failed before. -/
def Stage.isCleared : Stage → Bool
  | queued | making | clearing => false
  | _ => true

/-- Places that do not matter to tasks: none of them leads to a report or to classes, or has the name
of a source. Where a report is kept there, it can be reached. -/
structure Inert (adapter : Adapter) (tasks : List Task) (places : Location → Prop)
    (fs : FileSystem) : Prop where
  clear : ∀ task ∈ tasks, ∀ l, l ∈ task.approach ∨ l ∈ adapter.annex task → ¬ places l
  sources : ∀ l, places l → ¬ sourceSuffix.toList <:+ l.path.name.toList
  ways : ∀ task ∈ tasks, places task.desk → fs.locate task.report = .ok task.desk

/-- The places that may still differ when the worker of a task has come to a stage. -/
def Rest (places : Location → Prop) (task : Task) (stage : Stage) (l : Location) : Prop :=
  places l ∧ (stage.isCleared = true → l ≠ task.desk)

section Step

variable {adapter : Adapter} {tasks : List Task} {task : Task} {stage next : Stage} {v : World}
  {others : Location → Prop} {fs after : FileSystem}

theorem Inert.mono (h : Inert adapter tasks places fs) (hplaces : ∀ l, others l → places l) :
    Inert adapter tasks others fs where
  clear task htask l hl hplace := h.clear task htask l hl (hplaces l hplace)
  sources l hplace := h.sources l (hplaces l hplace)
  ways task htask hplace := h.ways task htask (hplaces _ hplace)

theorem Inert.spared (h : Inert adapter tasks places fs)
    (hspares : Corpus.Spares (tasks.map Task.report) fs after) :
    Inert adapter tasks places after where
  clear := h.clear
  sources := h.sources
  ways task htask hplace :=
    hspares.ways _ (List.mem_map_of_mem htask) _ (h.ways task htask hplace)

/-- Whatever leads to a place that can be reached is a directory. -/
theorem directory_of_locate {path : Path} {loc l : Location} (hpath : path.isAbsolute = true)
    (h : fs.locate path = .ok loc) (hl : l ∈ path.parent.trail) : fs.find? l = some .directory := by
  have hparent : path.parent.isAbsolute = true := hpath
  unfold FileSystem.locate at h
  unfold Path.trail at hl
  rw [Path.absolute_of_isAbsolute hpath] at h
  rw [Path.absolute_of_isAbsolute hparent] at hl
  rcases List.eq_nil_or_concat' path.parts with hnil | ⟨front, last, hparts⟩
  · have hempty : path.parent.parts = [] := by simp [Path.parent, hnil]
    rw [hempty] at hl
    exact absurd hl List.not_mem_nil
  · have hfront : path.parent.parts = front := by simp [Path.parent, hparts]
    rw [hparts] at h
    rw [hfront] at hl
    exact (FileSystem.follow_concat_iff.mp h).1 l (List.mem_cons_of_mem _ hl)

theorem directory_of_mem_approach {loc l : Location} (h : fs.locate task.report = .ok loc)
    (hl : l ∈ task.approach) : fs.find? l = some .directory :=
  directory_of_locate task.report.isAbsolute_absolute
    ((fs.locate_absolute task.report).trans h) hl

/-- A report that can be reached has nothing in the way of its directory. -/
theorem makeDirectories_of_locate {loc : Location} (h : fs.locate task.report = .ok loc) :
    fs.makeDirectories task.report.absolute.parent = (fs, none) := by
  have hparent : task.report.absolute.parent.isAbsolute = true := task.report.isAbsolute_absolute
  exact (fs.makesTrail_makeDirectories hparent).eq_of_directories fun l hl =>
    directory_of_mem_approach h hl

theorem commands_congr {a b : FileSystem} {folder report : Path}
    (h : Corpus.sources b folder = Corpus.sources a folder) :
    adapter.commands b folder report = adapter.commands a folder report := by
  unfold Adapter.commands
  rw [h]

/-- Every step but the removal of an old report is the same and leaves the same places. -/
theorem beside_advance (hinert : Inert adapter tasks places w.files) (htask : task ∈ tasks)
    (hw : Beside (Shadows allowed) (FileSystem.AlikeBut places) w w')
    (hchild : ∀ command rest, stage = .running (command :: rest) →
      ∀ child ∈ w.script.head?, child.Avoids places)
    (hstage : stage ≠ .clearing) :
    ((stage.advance adapter false task).exec w').1 = ((stage.advance adapter false task).exec w).1 ∧
      Beside (Shadows allowed) (FileSystem.AlikeBut places)
        ((stage.advance adapter false task).exec w).2
        ((stage.advance adapter false task).exec w').2 := by
  have hsame := unmoved_shadows allowed
  have hprepare {action : Action Unit} (next : Stage)
      (h : action.Lockstep (Beside (Shadows allowed) (FileSystem.AlikeBut places))) :
      (Stage.prepare action next).Lockstep (Beside (Shadows allowed) (FileSystem.AlikeBut places)) :=
    .bind (.attempt h) fun _ => .pure _
  cases stage with
  | queued => exact ⟨rfl, hw⟩
  | making =>
    exact hprepare _ (.makeDirectories hsame fun l hl => hinert.clear task htask l (.inl hl)) w w' hw
  | clearing => exact absurd rfl hstage
  | housing =>
    refine hprepare _ ?_ w w' hw
    unfold Stage.houseClasses
    rcases hclasses : classesPath? adapter.tool task.report.absolute with fault | (_ | classes)
    · exact .throw fault
    · exact .pure ()
    · have hannex : adapter.annex task = classes.trail := by
        unfold Adapter.annex
        rw [hclasses]
      simp only [Action.lift, pure_bind]
      exact .makeDirectories hsame fun l hl => hinert.clear task htask l (.inr (hannex ▸ hl))
  | planning =>
    have hsources : Corpus.sources w'.files task.folder.absolute =
        Corpus.sources w.files task.folder.absolute :=
      Corpus.sources_congr (fun _ => hw.files.directories.locate_eq_ok_iff) fun _ l _ _ hl =>
        hw.files.elsewhere l fun hplace => hinert.sources l hplace hl
    rw [Stage.exec_advance_planning, Stage.exec_advance_planning, commands_congr hsources]
    exact ⟨rfl, hw⟩
  | running commands =>
    cases commands with
    | nil => exact ⟨rfl, hw⟩
    | cons command rest =>
      obtain ⟨hanswer, hafter⟩ := lockstep_launch (adapter.call task command) hw
        (hchild command rest rfl)
      rw [Stage.exec_advance_running, Stage.exec_advance_running, hanswer]
      exact ⟨rfl, hafter⟩
  | unprepared e =>
    exact (Action.Lockstep.note hsame _ _).bind
      (fun _ => (lockstep_toolFailure _).bind fun _ => .pure _) w w' hw
  | unlaunched command => exact (lockstep_toolFailure _).bind (fun _ => .pure _) w w' hw
  | faulty fault =>
    exact (Action.Lockstep.note hsame _ _).bind
      (fun _ => (lockstep_toolFailure _).bind fun _ => .pure _) w w' hw
  | done result => exact ⟨rfl, hw⟩

/-- The removal of an old report ends the same, and leaves no difference in the place of the report. -/
theorem beside_clearing (hinert : Inert adapter tasks places w.files) (htask : task ∈ tasks)
    (hw : Beside (Shadows allowed) (FileSystem.AlikeBut places) w w') :
    ((Stage.clearing.advance adapter false task).exec w').1 =
        ((Stage.clearing.advance adapter false task).exec w).1 ∧
      Beside (Shadows allowed) (FileSystem.AlikeBut fun l => places l ∧ l ≠ task.desk)
        ((Stage.clearing.advance adapter false task).exec w).2
        ((Stage.clearing.advance adapter false task).exec w').2 := by
  have hway : FileSystem.Avoids places task.report.absolute.parent :=
    fun l hl => hinert.clear task htask l (.inl hl)
  have hunlink := hw.files.unlinkIfPresent hway fun hplace => by
    rw [location_absolute] at hplace ⊢
    rw [FileSystem.locate_absolute]
    exact hinert.ways task htask hplace
  rw [location_absolute] at hunlink
  obtain ⟨hanswer, hafter⟩ := Action.beside_access
    (f := fun fs => fs.unlinkIfPresent task.report.absolute) (unmoved_shadows allowed) hw.same
    hunlink
  have hprepare := exec_prepare (Action.access fun fs => fs.unlinkIfPresent task.report.absolute)
    .housing
  refine ⟨?_, hafter⟩
  calc ((Stage.clearing.advance adapter false task).exec w').1
      = .ok (Stage.housing.prepared
          ((Action.access fun fs => fs.unlinkIfPresent task.report.absolute).exec w').1) :=
        congrArg Prod.fst (hprepare w')
    _ = .ok (Stage.housing.prepared
          ((Action.access fun fs => fs.unlinkIfPresent task.report.absolute).exec w).1) := by
        rw [hanswer]
    _ = ((Stage.clearing.advance adapter false task).exec w).1 :=
        (congrArg Prod.fst (hprepare w)).symm

/-- Where a report can be reached, nothing but its removal leads past its removal. -/
theorem isCleared_of_advance (hreport : w.files.locate task.report = .ok task.desk)
    (hstage : stage ≠ .clearing)
    (hrun : (stage.advance adapter false task).exec w = (.ok next, v))
    (hcleared : next.isCleared = true) : stage.isCleared = true := by
  cases stage with
  | queued =>
    obtain ⟨rfl, -⟩ := Action.answer_inj hrun
    exact nomatch hcleared
  | making =>
    have hmade := makeDirectories_of_locate hreport
    have hprepare := exec_prepare (Action.makeDirectories task.report.absolute.parent) .clearing w
    rw [Action.exec_makeDirectories, hmade] at hprepare
    obtain ⟨rfl, -⟩ := Action.answer_inj (hrun.symm.trans hprepare)
    exact nomatch hcleared
  | clearing => exact absurd rfl hstage
  | _ => rfl

/-- Every step is the same, and leaves what may still differ by then. -/
theorem shadow_advance (hinert : Inert adapter tasks places w.files) (htask : task ∈ tasks)
    (hw : Beside (Shadows allowed) (FileSystem.AlikeBut (Rest places task stage)) w w')
    (hchild : ∀ command rest, stage = .running (command :: rest) →
      ∀ child ∈ w.script.head?, child.Avoids places)
    (hrun : (stage.advance adapter false task).exec w = (.ok next, v)) :
    ∃ v', (stage.advance adapter false task).exec w' = (.ok next, v') ∧
      Beside (Shadows allowed) (FileSystem.AlikeBut (Rest places task next)) v v' := by
  have hrest : Inert adapter tasks (Rest places task stage) w.files := hinert.mono fun _ hl => hl.1
  have hends {left : Location → Prop}
      (h : ((stage.advance adapter false task).exec w').1 =
          ((stage.advance adapter false task).exec w).1 ∧
        Beside (Shadows allowed) (FileSystem.AlikeBut left)
          ((stage.advance adapter false task).exec w).2
          ((stage.advance adapter false task).exec w').2)
      (hleft : ∀ l, left l → Rest places task next l) :
      ∃ v', (stage.advance adapter false task).exec w' = (.ok next, v') ∧
        Beside (Shadows allowed) (FileSystem.AlikeBut (Rest places task next)) v v' := by
    obtain ⟨hanswer, hafter⟩ := h
    rcases hrun' : (stage.advance adapter false task).exec w' with ⟨answer, v'⟩
    rw [hrun, hrun'] at hanswer hafter
    obtain rfl : answer = .ok next := hanswer
    exact ⟨v', rfl, hafter.same, hafter.files.mono hleft⟩
  by_cases hstage : stage = .clearing
  · subst hstage
    exact hends (beside_clearing hrest htask hw) fun l hl => ⟨hl.1.1, fun _ => hl.2⟩
  · refine hends (beside_advance hrest htask hw (fun command rest h child hmem write hwrite l hl
      hplace => hchild command rest h child hmem write hwrite l hl hplace.1) hstage)
      fun l hl => ⟨hl.1, fun hcleared => ?_⟩
    rintro rfl
    exact hl.2 (isCleared_of_advance (hinert.ways task htask hl.1) hstage hrun hcleared) rfl

end Step

/-! ## The whole crew -/

/-- An event in a run that is not cancelled, in which no process writes through one of the places and
nobody but the workers touches the files. -/
def Event.Scripted (places : Location → Prop) : Event → Prop
  | work _ (.running (_ :: _)) _ before _ => ∀ child ∈ before.script.head?, child.Avoids places
  | cancel => False
  | interfere before after => after.files = before.files
  | _ => True

/-- Events that are the same but for the files. -/
inductive Event.Alike : Event → Event → Prop
  | work {before after before' after' : World} (number : Nat) (stage : Stage) (cancelled : Bool) :
    before.Twins before' → after.Twins after' →
      Event.Alike (.work number stage cancelled before after)
        (.work number stage cancelled before' after')
  | collect (number : Nat) : Event.Alike (.collect number) (.collect number)
  | interfere {before after before' after' : World} :
    before.Twins before' → after.Twins after' →
      Event.Alike (.interfere before after) (.interfere before' after')

/-- The places that may still differ where the workers stand. -/
def Pending (places : Location → Prop) (tasks : List Task) (stages : List Stage) (l : Location) :
    Prop :=
  places l ∧ ∀ (number : Nat) (task : Task) (stage : Stage), tasks[number]? = some task →
    stages[number]? = some stage → stage.isCleared = true → l ≠ task.desk

section Run

variable {adapter : Adapter} {tasks : List Task} {workers : Nat} {crew crew' : Crew} {v : World}
  {trace : List Event}

/-- Any child is allowed where the events tell what the children do. -/
def anyChild (_ : Child) : Prop := True

/-- Worlds around a crew that differ only in what is still pending. -/
structure Followed (adapter : Adapter) (tasks : List Task) (places : Location → Prop) (crew : Crew)
    (w w' : World) : Prop where
  live : crew.cancelled = false
  beside : Beside (Shadows anyChild) (FileSystem.AlikeBut (Pending places tasks crew.stages)) w w'
  inert : Inert adapter tasks places w.files

theorem Followed.work {number : Nat} {task : Task} {stage next : Stage}
    (h : Followed adapter tasks places crew w w') (htask : tasks[number]? = some task)
    (hstage : crew.stages[number]? = some stage)
    (hdesks : ∀ task ∈ tasks, ¬ sourceSuffix.toList <:+ task.desk.path.name.toList)
    (hscripted : (Event.work number stage crew.cancelled w v).Scripted places)
    (hrun : (stage.advance adapter crew.cancelled task).exec w = (.ok next, v)) :
    ∃ v', (stage.advance adapter crew.cancelled task).exec w' = (.ok next, v') ∧
      Followed adapter tasks places { crew with stages := crew.stages.set number next } v v' := by
  have hmem := List.mem_of_getElem? htask
  have hsparing : (stage.advance adapter crew.cancelled task).Sparing (tasks.map Task.report) :=
    sparing_advance (hdesks task hmem) adapter crew.cancelled stage
  have hspares := hsparing w
  rw [hrun] at hspares
  rw [h.live] at hrun
  have hpending : Inert adapter tasks (Pending places tasks crew.stages) w.files :=
    h.inert.mono fun _ hl => hl.1
  have hbegun : Beside (Shadows anyChild)
      (FileSystem.AlikeBut (Rest (Pending places tasks crew.stages) task stage)) w w' :=
    ⟨h.beside.same, h.beside.files.mono fun l hl => ⟨hl, hl.2 number task stage htask hstage⟩⟩
  obtain ⟨v', hrun', hafter⟩ := shadow_advance hpending hmem hbegun
    (fun command rest hrunning child hchild write hwrite l hl hplace => by
      subst hrunning
      exact hscripted child hchild write hwrite l hl hplace.1) hrun
  refine ⟨v', h.live.symm ▸ hrun', h.live,
    ⟨hafter.same, hafter.files.mono fun l hl => ⟨hl.1.1, ?_⟩⟩, h.inert.spared hspares⟩
  intro other task' stage' htask' hstage' hcleared
  rcases stage_of_set htask htask' hstage' with ⟨-, rfl, rfl⟩ | ⟨-, hstood⟩
  · exact hl.2 hcleared
  · exact hl.1.2 other task' stage' htask' hstood hcleared

/-- What happens to a crew in one world happens in the other. -/
theorem Followed.step {event : Event} (h : Followed adapter tasks places crew w w')
    (hdesks : ∀ task ∈ tasks, ¬ sourceSuffix.toList <:+ task.desk.path.name.toList)
    (hscripted : event.Scripted places)
    (hstep : Crew.Step adapter tasks workers (crew, w) event (crew', v)) :
    ∃ event' v', Crew.Step adapter tasks workers (crew, w') event' (crew', v') ∧
      event.Alike event' ∧ Followed adapter tasks places crew' v v' := by
  cases hstep with
  | @work _ number task stage next _ _ htask hstage hopen hfree hrun =>
    obtain ⟨v', hrun', hafter⟩ := h.work htask hstage hdesks hscripted hrun
    exact ⟨_, v', .work htask hstage hopen hfree hrun',
      .work number stage crew.cancelled h.beside.same.twins hafter.beside.same.twins, hafter⟩
  | @collect _ number result _ hstage hnew =>
    exact ⟨_, w', .collect hstage hnew, .collect number, h.live, h.beside, h.inert⟩
  | cancel => exact hscripted.elim
  | interfere htools =>
    have hfiles : v.files = w.files := hscripted
    have htwins : v.Twins { v with files := w'.files } := rfl
    have hledger : w'.ledger = w.ledger := h.beside.same.twins.ledger_eq
    refine ⟨_, { v with files := w'.files }, .interfere (htools.trans (hledger ▸ rfl)),
      .interfere h.beside.same.twins htwins, h.live, ⟨⟨htwins, fun _ _ => trivial⟩, ?_⟩, ?_⟩
    · rw [hfiles]
      exact h.beside.files
    · rw [hfiles]
      exact h.inert

/-- A run of a crew in one world is a run in the other. -/
theorem Followed.run {s : Crew × World} (h : Followed adapter tasks places crew w w')
    (hdesks : ∀ task ∈ tasks, ¬ sourceSuffix.toList <:+ task.desk.path.name.toList)
    (hrun : Crew.Run adapter tasks workers (crew, w) trace s)
    (hscripted : ∀ event ∈ trace, event.Scripted places) :
    ∃ trace' v', Crew.Run adapter tasks workers (crew, w') trace' (s.1, v') ∧
      List.Forall₂ Event.Alike trace trace' ∧ Followed adapter tasks places s.1 s.2 v' := by
  generalize hstart : (crew, w) = first at hrun
  induction hrun with
  | nil =>
    subst hstart
    exact ⟨[], w', .nil _, .nil, h⟩
  | @snoc middle last trace event _ hstep ih =>
    obtain ⟨hbefore, hlast⟩ := List.forall_mem_append.mp hscripted
    obtain ⟨trace', v', hrun', halike, hfollowed⟩ := ih hbefore
    obtain ⟨event', v'', hstep', hevent, hafter⟩ :=
      hfollowed.step hdesks (List.forall_mem_singleton.mp hlast) hstep
    exact ⟨trace' ++ [event'], v'', .snoc hrun' hstep', List.rel_append halike (.cons hevent .nil),
      hafter⟩

/-- A process that writes the report of its task at most writes through nothing but the approach to
it. -/
theorem scripted_of_regular {s s' : Crew × World} (hrun : Crew.Run adapter tasks workers s trace s')
    (hclear : ∀ task ∈ tasks, ∀ l ∈ task.approach, ¬ places l)
    (hregular : ∀ event ∈ trace, event.Regular tasks) : ∀ event ∈ trace, event.Scripted places := by
  induction hrun with
  | nil => exact fun event hevent => absurd hevent List.not_mem_nil
  | snoc _ hstep ih =>
    obtain ⟨hbefore, hlast⟩ := List.forall_mem_append.mp hregular
    refine List.forall_mem_append.mpr ⟨ih hbefore, List.forall_mem_singleton.mpr ?_⟩
    have hevent := List.forall_mem_singleton.mp hlast
    cases hstep with
    | @work crew number task stage next v v' htask =>
      cases stage with
      | running commands =>
        cases commands with
        | nil => trivial
        | cons command rest =>
          intro child hchild write hwrite
          rw [hevent task htask child hchild write hwrite]
          exact hclear task (List.mem_of_getElem? htask)
      | _ => trivial
    | collect => trivial
    | cancel => exact hevent
    | interfere => exact hevent.1

/-- When all tasks are over, the worlds are the same. -/
theorem Followed.eq {start : World} (h : Followed adapter tasks places crew w w')
    (htraced : Traced adapter tasks start trace crew w) (hfinished : crew.Finished)
    (hplaces : ∀ l, places l → ∃ task ∈ tasks, l = task.desk) : w' = w := by
  refine h.beside.same.twins.eq (h.beside.files.eq fun l hl => ?_)
  obtain ⟨task, htask, hdesk⟩ := hplaces l hl.1
  obtain ⟨number, hnumber⟩ := List.mem_iff_getElem?.mp htask
  obtain ⟨result, hstage⟩ :=
    htraced.exists_done hfinished (List.getElem?_eq_some_iff.mp hnumber).1
  exact hl.2 number task (.done result) hnumber hstage rfl hdesk

end Run

/-! ## A pool -/

section Pool

variable {adapter : Adapter} {tasks : List Task} {task : Task} {stage last : Stage} {v v' : World}
  {result result' : Result} {pool pool' : Pool}

/-- Steps without a pause are the same in both worlds. -/
theorem shadow_carries (h : Carries adapter false task stage w last v) (htask : task ∈ tasks)
    (hdesk : ¬ sourceSuffix.toList <:+ task.desk.path.name.toList)
    (hallowed : ∀ child, allowed child → child.Avoids places) :
    ∀ w', Inert adapter tasks places w.files →
      Beside (Shadows allowed) (FileSystem.AlikeBut (Rest places task stage)) w w' →
        ∃ v', Carries adapter false task stage w' last v' ∧
          Beside (Shadows allowed) (FileSystem.AlikeBut (Rest places task last)) v v' ∧
          Inert adapter tasks places v.files := by
  induction h with
  | refl stage w => exact fun w' hinert hw => ⟨w', .refl stage w', hw, hinert⟩
  | @step stage next last w u v hopen hrun _ ih =>
    intro w' hinert hw
    have hsparing : (stage.advance adapter false task).Sparing (tasks.map Task.report) :=
      sparing_advance hdesk adapter false stage
    have hspares := hsparing w
    rw [hrun] at hspares
    obtain ⟨v', hrun', hafter⟩ := shadow_advance hinert htask hw
      (fun _ _ _ child hchild =>
        hallowed child (hw.same.script child (List.mem_of_mem_head? hchild))) hrun
    obtain ⟨v'', hrest, hlast⟩ := ih v' (hinert.spared hspares) hafter
    exact ⟨v'', .step hopen hrun' hrest, hlast⟩

/-- Steps without a pause come to one end. -/
theorem Carries.unique (h : Carries adapter false task stage w (.done result) v)
    (h' : Carries adapter false task stage w (.done result') v') : result' = result ∧ v' = v := by
  generalize hlast : Stage.done result = last at h
  induction h with
  | refl stage w =>
    subst hlast
    cases h' with
    | refl => exact ⟨rfl, rfl⟩
    | step hopen => exact nomatch hopen
  | step hopen hrun _ ih =>
    cases h' with
    | refl => exact nomatch hopen
    | step hopen' hrun' hrest =>
      obtain ⟨rfl, rfl⟩ := Action.answer_inj (hrun.symm.trans hrun')
      exact ih hrest hlast

/-- A task is worked off alike, and what differed at its desk does so no more. -/
theorem shadow_workOff (hinert : Inert adapter tasks places w.files) (htask : task ∈ tasks)
    (hdesk : ¬ sourceSuffix.toList <:+ task.desk.path.name.toList)
    (hallowed : ∀ child, allowed child → child.Avoids places)
    (hw : Beside (Shadows allowed) (FileSystem.AlikeBut places) w w') :
    ∃ result v v', (workOff adapter false task).exec w = (.ok result, v) ∧
      (workOff adapter false task).exec w' = (.ok result, v') ∧
      Beside (Shadows allowed) (FileSystem.AlikeBut fun l => places l ∧ l ≠ task.desk) v v' ∧
      Inert adapter tasks places v.files := by
  obtain ⟨result, v, hrun, hcarries⟩ := carries_workOff adapter false task w
  obtain ⟨result', u, hrun', hcarries'⟩ := carries_workOff adapter false task w'
  obtain ⟨v', hshadow, hafter, hinert'⟩ := shadow_carries hcarries htask hdesk hallowed w' hinert
    ⟨hw.same, hw.files.mono fun l hl => ⟨hl, nofun⟩⟩
  obtain ⟨rfl, rfl⟩ := hshadow.unique hcarries'
  exact ⟨_, v, _, hrun, hrun', ⟨hafter.same, hafter.files.mono fun l hl => ⟨hl.1, hl.2 rfl⟩⟩,
    hinert'⟩

/-- The places that may still differ when a pool has come so far. -/
def Unworked (places : Location → Prop) (tasks : List Task) (pool : Pool) (l : Location) : Prop :=
  places l ∧ ∀ (number : Nat) (task : Task), pool.Took number → tasks[number]? = some task →
    l ≠ task.desk

/-- A turn takes the desk of the task that it takes up from them. -/
theorem unworked_iff {turn : Turn} {l : Location} (h : pool.Turned tasks pool' turn) :
    Unworked places tasks pool' l ↔ Unworked places tasks pool l ∧
      ∀ (number : Nat) (task : Task), turn = .work number → tasks[number]? = some task →
        l ≠ task.desk := by
  constructor
  · intro hl
    refine ⟨⟨hl.1, fun number task htook => hl.2 number task (h.took_iff.mpr (.inl htook))⟩,
      fun number task hwork htask => ?_⟩
    have hbound := (List.getElem?_eq_some_iff.mp htask).1
    exact hl.2 number task (h.took_iff.mpr (.inr ⟨hwork, hbound⟩)) htask
  · rintro ⟨hl, hturn⟩
    refine ⟨hl.1, fun number task htook htask => ?_⟩
    exact (h.took_iff.mp htook).elim (fun hold => hl.2 number task hold htask)
      fun hnew => hturn number task hnew.1 htask

/-- A turn that does not cancel is taken alike. -/
theorem shadow_turn (hdesks : ∀ task ∈ tasks, ¬ sourceSuffix.toList <:+ task.desk.path.name.toList)
    {turn : Turn} (hlive : pool.cancelled = false) (hturn : turn ≠ .cancel)
    (hinert : Inert adapter tasks (Unworked places tasks pool) w.files)
    (hallowed : ∀ child, allowed child → child.Avoids places)
    (hw : Beside (Shadows allowed) (FileSystem.AlikeBut (Unworked places tasks pool)) w w') :
    ∃ next v v', (pool.turn adapter tasks turn).exec w = (.ok next, v) ∧
      (pool.turn adapter tasks turn).exec w' = (.ok next, v') ∧ next.cancelled = false ∧
      Beside (Shadows allowed) (FileSystem.AlikeBut (Unworked places tasks next)) v v' ∧
      Inert adapter tasks (Unworked places tasks next) v.files := by
  obtain ⟨next, v, hrun, hturned⟩ := Pool.exec_turn adapter tasks pool turn w
  refine ⟨next, v, ?_⟩
  cases turn with
  | cancel => exact absurd rfl hturn
  | finish number =>
    obtain ⟨rfl, rfl⟩ := Action.answer_inj hrun
    exact ⟨w', rfl, rfl, hlive,
      ⟨hw.same, hw.files.mono fun l hl => (unworked_iff hturned).mpr ⟨hl, nofun⟩⟩,
      hinert.mono fun l hl => ((unworked_iff hturned).mp hl).1⟩
  | work number =>
    cases hopen : pool.open? tasks number with
    | none =>
      have hidle (u : World) : (pool.turn adapter tasks (.work number)).exec u = (.ok pool, u) := by
        simp only [Pool.turn, hopen]
        rfl
      obtain ⟨rfl, rfl⟩ := Action.answer_inj ((hidle w).symm.trans hrun)
      exact ⟨w', hrun, hidle w', hlive, hw, hinert⟩
    | some task =>
      have htask := (Pool.open?_eq_some_iff.mp hopen).2
      have hmem := List.mem_of_getElem? htask
      obtain ⟨result, u, u', hwork, hwork', hafter, hinert'⟩ :=
        shadow_workOff hinert hmem (hdesks task hmem)
          (fun child hchild => (hallowed child hchild).mono fun _ hl => hl.1) hw
      have hworked {a b : World} (h : (workOff adapter false task).exec a = (.ok result, b)) :
          (pool.turn adapter tasks (.work number)).exec a =
            (.ok { pool with running := pool.running ++ [(number, result)] }, b) := by
        simp only [Pool.turn, hopen, hlive]
        rw [Action.exec_bind_of_ok h]
        exact Action.exec_pure b _
      obtain ⟨rfl, rfl⟩ := Action.answer_inj ((hworked hwork).symm.trans hrun)
      refine ⟨u', hrun, hworked hwork', hlive, ⟨hafter.same, hafter.files.mono fun l hl => ?_⟩,
        hinert'.mono fun l hl => ((unworked_iff hturned).mp hl).1⟩
      refine (unworked_iff hturned).mpr ⟨hl.1, fun other task' hsame htask' => ?_⟩
      obtain rfl := Turn.work.inj hsame
      obtain rfl := Option.some.inj (htask.symm.trans htask')
      exact hl.2

/-- A schedule that does not cancel is followed alike. -/
theorem shadow_follow (hdesks : ∀ task ∈ tasks, ¬ sourceSuffix.toList <:+ task.desk.path.name.toList)
    (hallowed : ∀ child, allowed child → child.Avoids places) (schedule : List Turn) :
    ∀ {pool : Pool} {w w' : World}, pool.cancelled = false → .cancel ∉ schedule →
      Inert adapter tasks (Unworked places tasks pool) w.files →
      Beside (Shadows allowed) (FileSystem.AlikeBut (Unworked places tasks pool)) w w' →
        ∃ pool' v v', (pool.follow adapter tasks schedule).exec w = (.ok pool', v) ∧
          (pool.follow adapter tasks schedule).exec w' = (.ok pool', v') ∧
          Beside (Shadows allowed) (FileSystem.AlikeBut (Unworked places tasks pool')) v v' := by
  induction schedule with
  | nil => exact fun {pool w w'} _ _ _ hw => ⟨pool, w, w', rfl, rfl, hw⟩
  | cons turn rest ih =>
    intro pool w w' hlive hcancel hinert hw
    have hturn : turn ≠ .cancel := fun hsame => hcancel (hsame ▸ List.mem_cons_self)
    have hrest : .cancel ∉ rest := fun hmem => hcancel (List.mem_cons_of_mem _ hmem)
    obtain ⟨next, u, u', hfirst, hfirst', hnext, hbetween, hinert'⟩ :=
      shadow_turn hdesks hlive hturn hinert hallowed hw
    obtain ⟨pool', v, v', hrun, hrun', hafter⟩ := ih hnext hrest hinert' hbetween
    exact ⟨pool', v, v', (Action.exec_bind_of_ok hfirst).trans hrun,
      (Action.exec_bind_of_ok hfirst').trans hrun', hafter⟩

end Pool

end Crosscheck.Analysis
