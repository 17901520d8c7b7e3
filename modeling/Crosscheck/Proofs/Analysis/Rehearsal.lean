import Crosscheck.Proofs.Analysis.Accounting
import Crosscheck.Proofs.Analysis.Coexistence
/-!
# Runs move by move

A run of a crew can be played: a list of moves says which worker takes its next step, which result
comes in, and what the next processes are going to do. What is played is a run (`run_play`), and a
regular one if no process writes anything but the report of its task
(`Event.regular_of_writesOwn`).
-/

namespace Crosscheck.Analysis

open Crosscheck.Files

/-- What is to happen next in a crew. -/
inductive Move
  | work (number : Nat)
  | collect (number : Nat)
  /-- The next processes are going to do this. -/
  | direct (script : List Child)

/-- Whether the process that is run in an event, if there is one, writes the report of its task at
most. -/
def Event.writesOwn (tasks : List Task) : Event → Bool
  | work number (.running (_ :: _)) _ before _ => (tasks[number]?).all fun task =>
    before.script.head?.all fun child =>
      child.writes.all fun write => write.1 == task.report.absolute
  | _ => true

theorem Event.regular_of_writesOwn {tasks : List Task} {number : Nat} {stage : Stage}
    {cancelled : Bool} {w w' : World}
    (h : (Event.work number stage cancelled w w').writesOwn tasks = true) :
    (Event.work number stage cancelled w w').Regular tasks := by
  cases stage with
  | running commands =>
    cases commands with
    | nil => trivial
    | cons command rest =>
      intro task htask child hchild write hwrite
      have hall : (w.script.head?.all fun child => child.writes.all fun write =>
          write.1 == task.report.absolute) = true := by
        simpa [writesOwn, htask] using h
      rw [Option.mem_def.mp hchild] at hall
      exact beq_iff_eq.mp (List.all_eq_true.mp hall write hwrite)
  | _ => trivial

namespace Crew

/-- Makes a move, unless it cannot be made. -/
def move (adapter : Adapter) (tasks : List Task) (workers : Nat) (s : Crew × World) :
    Move → Option (Event × Crew × World)
  | .work number =>
    match tasks[number]?, s.1.stages[number]? with
    | some task, some stage =>
      if stage.isDone = false ∧ (isBusy stage = false → s.1.busy < workers) then
        match (stage.advance adapter s.1.cancelled task).exec s.2 with
        | (.ok after, w') => some (.work number stage s.1.cancelled s.2 w',
            { s.1 with stages := s.1.stages.set number after }, w')
        | (.error _, _) => none
      else none
    | _, _ => none
  | .collect number =>
    match s.1.stages[number]? with
    | some (.done result) =>
      if number ∈ s.1.collected.map Prod.fst then none
      else some (.collect number,
        { s.1 with collected := s.1.collected ++ [(number, result)] }, s.2)
    | _ => none
  | .direct script =>
    some (.interfere s.2 { s.2 with script }, s.1, { s.2 with script })

/-- Makes moves one after the other: what happens, and how the crew stands then. -/
def play (adapter : Adapter) (tasks : List Task) (workers : Nat) :
    List Move → Crew × World → Option (List Event × Crew × World)
  | [], s => some ([], s)
  | next :: rest, s => do
    let (event, s') ← move adapter tasks workers s next
    let (trace, last) ← play adapter tasks workers rest s'
    return (event :: trace, last)

instance (crew : Crew) : Decidable crew.Finished :=
  inferInstanceAs (Decidable (∀ _ < _, _))

variable {adapter : Adapter} {tasks : List Task} {workers : Nat} {s s' : Crew × World}

/-- A move is a step, and a regular one if its process writes nothing but its report. -/
theorem step_of_move {next : Move} {event : Event}
    (h : move adapter tasks workers s next = some (event, s')) :
    Crew.Step adapter tasks workers s event s' ∧
      (event.writesOwn tasks = true → event.Regular tasks) := by
  obtain ⟨crew, w⟩ := s
  cases next with
  | work number =>
    unfold move at h
    dsimp only at h
    split at h
    · next task stage htask hstage =>
      split at h
      · next hready =>
        split at h
        · next after w' hrun =>
          obtain ⟨rfl, rfl⟩ := Prod.mk.inj (Option.some.inj h)
          refine ⟨.work htask hstage hready.1 (fun hqueued => hready.2 ?_) hrun,
            Event.regular_of_writesOwn⟩
          rw [hqueued]
          rfl
        · exact nomatch h
      · exact nomatch h
    · exact nomatch h
  | collect number =>
    unfold move at h
    dsimp only at h
    split at h
    · next result hstage =>
      split at h
      · exact nomatch h
      · next hnew =>
        obtain ⟨rfl, rfl⟩ := Prod.mk.inj (Option.some.inj h)
        exact ⟨.collect hstage hnew, fun _ => trivial⟩
    · exact nomatch h
  | direct script =>
    obtain ⟨rfl, rfl⟩ := Prod.mk.inj (Option.some.inj h)
    exact ⟨.interfere rfl, fun _ => ⟨rfl, rfl, rfl⟩⟩

theorem exists_of_play_cons {next : Move} {rest : List Move} {trace : List Event}
    (h : play adapter tasks workers (next :: rest) s = some (trace, s')) :
    ∃ event s₁ more, move adapter tasks workers s next = some (event, s₁) ∧
      play adapter tasks workers rest s₁ = some (more, s') ∧ trace = event :: more := by
  obtain ⟨⟨event, s₁⟩, hmove, h⟩ := Option.bind_eq_some_iff.mp h
  obtain ⟨⟨more, last⟩, hplay, h⟩ := Option.bind_eq_some_iff.mp h
  obtain ⟨rfl, rfl⟩ := Prod.mk.inj (Option.some.inj h)
  exact ⟨event, s₁, more, hmove, hplay, rfl⟩

/-- What is played is a run, and a regular one if no process writes anything but its report. -/
theorem run_play {moves : List Move} {trace : List Event}
    (h : play adapter tasks workers moves s = some (trace, s')) :
    Crew.Run adapter tasks workers s trace s' ∧
      (trace.all (Event.writesOwn tasks) = true → ∀ event ∈ trace, event.Regular tasks) := by
  induction moves generalizing s trace with
  | nil =>
    obtain ⟨rfl, rfl⟩ := Prod.mk.inj (Option.some.inj h)
    exact ⟨.nil _, fun _ event hevent => absurd hevent List.not_mem_nil⟩
  | cons next rest ih =>
    obtain ⟨event, s₁, more, hmove, hplay, rfl⟩ := exists_of_play_cons h
    obtain ⟨hstep, hregular⟩ := step_of_move hmove
    obtain ⟨hrun, hrest⟩ := ih hplay
    refine ⟨(Run.single hstep).trans hrun, fun hown => ?_⟩
    rw [List.all_cons, Bool.and_eq_true] at hown
    exact List.forall_mem_cons.mpr ⟨hregular hown.1, hrest hown.2⟩

end Crew

/-- Plays moves of a campaign that is not cancelled, in folders without new mutants. -/
def Campaign.rehearse (campaign : Campaign) (tool : Tool) (folders : List Path) (workers : Nat)
    (moves : List Move) (w : World) : Option (List Event × Crew × World) :=
  Crew.play (campaign.adapter tool) (campaign.tasks tool folders) workers moves
    (Crew.start false (campaign.tasks tool folders), w)

/-- Fieldwork without mutants that is played to its end. -/
theorem Campaign.fielded_of_rehearse {campaign : Campaign} {tool : Tool} {corpus : String}
    {folders : List Path} {workers : Nat} {moves : List Move} {trace : List Event} {crew : Crew}
    {w field : World} (hmutation : campaign.settings.mutation = false)
    (hfolders : Corpus.folders w.files (Path.ofString corpus) = folders)
    (hany : folders.isEmpty = false)
    (hplay : campaign.rehearse tool folders workers moves w = some (trace, crew, field))
    (hfinished : crew.Finished) :
    campaign.Fielded workers false tool corpus w trace
      ⟨folders, (folders.flatMap (Corpus.seeds w.files)).length, 0,
        crew.results (campaign.tasks tool folders)⟩ field := by
  have hprepare : (announce corpus folders >>= fun _ => campaign.prepareSeeds folders).exec w =
      (.ok ((folders.flatMap (Corpus.seeds w.files)).length, 0), w) := by
    unfold announce prepareSeeds
    rw [hany, hmutation]
    rfl
  unfold Fielded
  dsimp only
  rw [hfolders]
  exact ⟨_, w, crew, hprepare, (Crew.run_play hplay).1, hfinished, rfl⟩

/-- Plays the fieldwork of a campaign from the start, if the moves lead to its end: what happens,
what there is to evaluate, and the world by then. -/
def Campaign.playOut (campaign : Campaign) (tool : Tool) (corpus : String) (workers : Nat)
    (moves : List Move) (w : World) : Option (List Event × Fieldwork × World) :=
  let folders := Corpus.folders w.files (Path.ofString corpus)
  match (announce corpus folders >>= fun _ => campaign.prepareSeeds folders).exec w with
  | (.error _, _) => none
  | (.ok counts, ready) => do
    let (trace, crew, field) ← campaign.rehearse tool folders workers moves ready
    if crew.Finished then
      return (trace, ⟨folders, counts.1, counts.2,
        crew.results (campaign.tasks tool folders)⟩, field)
    else none

/-- What is played out is fieldwork, of regular events if no process writes anything but its
report. -/
theorem Campaign.fielded_of_playOut {campaign : Campaign} {tool : Tool} {corpus : String}
    {workers : Nat} {moves : List Move} {trace : List Event} {work : Fieldwork} {w field : World}
    (h : campaign.playOut tool corpus workers moves w = some (trace, work, field)) :
    campaign.Fielded workers false tool corpus w trace work field ∧
      (trace.all (Event.writesOwn (campaign.tasks tool work.folders)) = true →
        ∀ event ∈ trace, event.Regular (campaign.tasks tool work.folders)) := by
  unfold playOut at h
  dsimp only at h
  split at h
  · exact nomatch h
  · next counts ready hprepare =>
    obtain ⟨⟨trace', crew, field'⟩, hplay, h⟩ := Option.bind_eq_some_iff.mp h
    dsimp only at h
    split at h
    · next hfinished =>
      obtain ⟨rfl, hrest⟩ := Prod.mk.inj (Option.some.inj h)
      obtain ⟨rfl, rfl⟩ := Prod.mk.inj hrest
      obtain ⟨hrun, hregular⟩ := Crew.run_play hplay
      exact ⟨⟨counts, ready, crew, hprepare, hrun, hfinished, rfl⟩, hregular⟩
    · exact nomatch h

end Crosscheck.Analysis
