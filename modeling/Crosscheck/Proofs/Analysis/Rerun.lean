import Crosscheck.Proofs.Analysis.Outcome
import Crosscheck.Proofs.Analysis.Provenance
import Crosscheck.Proofs.Analysis.Staleness
import Crosscheck.Proofs.Mutation.Repetition
/-!
# Running a campaign again

A campaign leaves mutants, reports and directories behind. If none of the directories stands where
the corpus lists it, as one more folder or by the name of a source, a second campaign finds the same
folders and seeds, generates the same mutants in the same places, and its tasks come to the same
outcomes. So both come to the same summary, and the second one leaves the files as they are
(`rerun_stable`). A directory of results right in the corpus is a folder the next time
(`rerun_in_corpus`).

Processes of the first campaign may write what they like where a campaign does not look
(`Campaign.Sees`), and those of the second may write it again.
-/

namespace Crosscheck.Mutation

open Crosscheck.Files

/-- Whatever concerns a seed stands beside it, by a name that matters to its generation. -/
theorem Listed.exists_kin {fs : FileSystem} {seed : Path} {l : Location} (h : Listed fs seed)
    (hl : Concerns fs seed l) : ∃ home name, l = home ++ [name] ∧ Kin seed name := by
  obtain ⟨home, -, hself, hplaces⟩ := h.exists_home
  rcases hl with hl | ⟨home', name, -, rfl, hof⟩ | ⟨-, number, hl⟩
  · exact ⟨home, _, Except.ok.inj (hl.symm.trans hself), .inl rfl⟩
  · exact ⟨home', name, rfl, .inr (.inr hof)⟩
  · exact ⟨home, _, Except.ok.inj (hl.symm.trans (hplaces number)), .inr (.inl ⟨number, rfl⟩)⟩

end Crosscheck.Mutation

namespace Crosscheck.Corpus

open Crosscheck.Files Crosscheck.Mutation

/-! ## Where a directory is listed -/

/-- Where a corpus lists a directory: as a folder that is scanned, or as a source in one. -/
inductive Listable (fs : FileSystem) (corpus : Path) : Location → Prop
  | folder {home : Location} {name : String} : fs.locate corpus.absolute = .ok home →
    name.toList.head? ≠ some '.' → Listable fs corpus (home ++ [name])
  | source {folder : Path} {loc l : Location} : folder ∈ folders fs corpus →
    fs.locate folder = .ok loc → loc <+: l → sourceSuffix.toList <:+ l.path.name.toList →
      Listable fs corpus l

/-- Whether no directory has come up where a corpus lists it. -/
def Unlisted (corpus : Path) (before after : FileSystem) : Prop :=
  ∀ l, after.find? l = some .directory → before.find? l ≠ some .directory →
    ¬ Listable before corpus l

/-- Nothing is listed but what is below the corpus. -/
theorem Listable.below {fs : FileSystem} {corpus : Path} {l : Location}
    (h : Listable fs corpus l) :
    ∃ home, fs.locate corpus.absolute = .ok home ∧ home <+: l := by
  cases h with
  | folder hhome _ => exact ⟨_, hhome, List.prefix_append _ _⟩
  | source hfolder hloc hbelow _ =>
    obtain ⟨home, hhome, -, honly | ⟨name, rfl, hfound⟩⟩ := mem_folders hfolder
    · rw [honly] at hfolder
      obtain rfl := List.mem_singleton.mp hfolder
      obtain rfl := Except.ok.inj (hhome.symm.trans hloc)
      exact ⟨_, hhome, hbelow⟩
    · obtain ⟨other, hother, -, rfl⟩ :=
        (FileSystem.locate_concat_eq_ok corpus.isAbsolute_absolute).mp hloc
      obtain rfl := Except.ok.inj (hhome.symm.trans hother)
      rw [Location.go_of_isName (FileSystem.isName_of_find? hfound (by simp))] at hbelow
      exact ⟨home, hhome, (List.prefix_append _ _).trans hbelow⟩

/-- What comes up outside a corpus is not listed in it. -/
theorem unlisted_of_outside {corpus : Path} {home : Location} {before after : FileSystem}
    (hhome : before.locate corpus.absolute = .ok home)
    (h : ∀ x ∈ after.entries, x.2 = .directory → home <+: x.1 →
      before.find? x.1 = some .directory) : Unlisted corpus before after := by
  intro l hl hnew hlisted
  obtain ⟨other, hother, hbelow⟩ := hlisted.below
  obtain rfl := Except.ok.inj (hhome.symm.trans hother)
  have hroot : l ≠ [] := by
    rintro rfl
    exact hnew before.find?_root
  exact hnew (h (l, .directory) ((FileSystem.mem_entries_iff hroot).mpr hl) rfl hbelow)

end Crosscheck.Corpus

namespace Crosscheck.Analysis

open Crosscheck.Configuration Crosscheck.Files Crosscheck.Mutation Crosscheck.Text

/-! ## What a campaign finds again -/

/-- What a campaign looks at: whatever goes by the name of a source, the way to the corpus and what
is listed in it, the places of the tasks, and whatever concerns a seed. -/
inductive Campaign.Sees (campaign : Campaign) (tool : Tool) (corpus : String) (fs : FileSystem) :
    Location → Prop
  | source {l : Location} : sourceSuffix.toList <:+ l.path.name.toList →
    Sees campaign tool corpus fs l
  | way {l : Location} : l ∈ (Path.ofString corpus).trail → Sees campaign tool corpus fs l
  | listed {l : Location} : Corpus.Listable fs (Path.ofString corpus) l →
    Sees campaign tool corpus fs l
  | task {task : Task} {l : Location} :
    task ∈ campaign.tasks tool (Corpus.folders fs (Path.ofString corpus)) →
      l = task.desk ∨ l ∈ task.approach ∨ l ∈ (campaign.adapter tool).annex task →
        Sees campaign tool corpus fs l
  | seed {seed : Path} {l : Location} :
    seed ∈ (Corpus.folders fs (Path.ofString corpus)).flatMap (Corpus.seeds fs) →
      Concerns fs seed l → Sees campaign tool corpus fs l

/-- Whether a campaign makes no directory where the corpus lists it: neither the generation of
mutants, which leaves the directories it `found`, nor the work on tasks thereafter. -/
structure Discreet (campaign : Campaign) (tool : Tool) (corpus : String)
    (found base : FileSystem) : Prop where
  directories : FileSystem.SameDirectories found base
  unlisted : ∀ l, Yard base (campaign.adapter tool)
    (campaign.tasks tool (Corpus.folders found (Path.ofString corpus))) l →
      found.find? l ≠ some .directory → ¬ Corpus.Listable found (Path.ofString corpus) l

section Discovery

variable {campaign : Campaign} {tool : Tool} {corpus : String} {found base fs : FileSystem}

/-- The tasks of a campaign have their reports in places of their own. -/
theorem Campaign.nodup_desks (campaign : Campaign) (tool : Tool) (fs : FileSystem)
    (corpus : String) :
    ((campaign.tasks tool (Corpus.folders fs (Path.ofString corpus))).map Task.desk).Nodup := by
  have hnodup := (campaign.nodup_identities tool (Corpus.folders fs (Path.ofString corpus))).of_map
  exact List.Nodup.map_on (fun task htask other hother => campaign.eq_of_desk htask hother) hnodup

/-- The texts of sources are the same however the work on tasks stands. -/
theorem texts_of_grown
    (h : Grown (campaign.Sees tool corpus found) base (campaign.adapter tool)
      (campaign.tasks tool (Corpus.folders found (Path.ofString corpus))) fs) :
    Corpus.texts fs = Corpus.texts base := by
  refine Corpus.texts_congr fun l content hsource => h.files l content (.source hsource) ?_
  rintro ⟨task, htask, -, rfl⟩
  exact campaign.desk_not_source tool found corpus task htask hsource

namespace Discreet

/-- The sources below a folder are the same however the work on tasks stands. -/
theorem sources_eq (h : Discreet campaign tool corpus found base)
    (hgrown : Grown (campaign.Sees tool corpus found) base (campaign.adapter tool)
      (campaign.tasks tool (Corpus.folders found (Path.ofString corpus))) fs)
    {folder : Path} (hfolder : folder ∈ Corpus.folders found (Path.ofString corpus)) :
    Corpus.sources fs folder = Corpus.sources base folder := by
  obtain ⟨home, hhome⟩ := Corpus.exists_locate_of_mem_folders hfolder
  have hbase := h.directories.locate_eq_ok_iff.mpr hhome
  have hlater : fs.locate folder = .ok home := FileSystem.follow_of_directories hgrown.kept hbase
  refine Corpus.sources_congr (fun loc => by rw [hlater, hbase]) fun loc l hloc hbelow hsource => ?_
  obtain rfl := Except.ok.inj (hbase.symm.trans hloc)
  refine hgrown.find?_eq (.source hsource) ?_ fun hmade => ?_
  · rintro ⟨task, htask, -, rfl⟩
    exact campaign.desk_not_source tool found corpus task htask hsource
  · by_contra hnew
    exact h.unlisted l hmade (fun hold => hnew ((h.directories l).mpr hold))
      (.source hfolder hhome hbelow hsource)

/-- So nothing that processes are told or look at changes. -/
theorem steady (h : Discreet campaign tool corpus found base) :
    Steady (campaign.Sees tool corpus found) base (campaign.adapter tool)
      (campaign.tasks tool (Corpus.folders found (Path.ofString corpus))) where
  sources fs hgrown task htask := by
    obtain ⟨number, folder, hfolder, rfl⟩ := campaign.exists_of_mem_tasks tool _ htask
    dsimp only
    rw [Path.absolute_of_isAbsolute (Corpus.isAbsolute_of_mem_folders hfolder)]
    exact h.sources_eq hgrown hfolder
  texts _ hgrown := texts_of_grown hgrown

/-- Without a folder there is no task, so nothing that is seen changes on the way to the corpus or
below it. -/
theorem folders_eq_of_empty (h : Discreet campaign tool corpus found base)
    (hgrown : Grown (campaign.Sees tool corpus found) base (campaign.adapter tool)
      (campaign.tasks tool (Corpus.folders found (Path.ofString corpus))) fs)
    (hnone : Corpus.folders found (Path.ofString corpus) = []) :
    Corpus.folders fs (Path.ofString corpus) = Corpus.folders found (Path.ofString corpus) := by
  have hidle : ∀ task, task ∉ campaign.tasks tool (Corpus.folders found (Path.ofString corpus)) := by
    rw [hnone]
    exact fun _ => List.not_mem_nil
  have hsame (l : Location) (hseen : campaign.Sees tool corpus found l) :
      fs.find? l = base.find? l := by
    refine hgrown.find?_eq hseen ?_ ?_
    · rintro ⟨task, htask, -⟩
      exact hidle task htask
    · rintro ⟨task, htask, -⟩
      exact absurd htask (hidle task)
  have hlocate : fs.locate (Path.ofString corpus).absolute =
      base.locate (Path.ofString corpus).absolute := by
    unfold FileSystem.locate
    rw [Path.absolute_absolute]
    refine FileSystem.follow_congr (by simp) fun l hl => hsame l (.way ?_)
    exact Location.trail_dropLast_subset [] _ hl
  refine Corpus.folders_congr (fun loc => ?_) fun loc hloc => ⟨?_, fun name hvisible => ?_⟩
  · rw [hlocate]
    exact h.directories.locate_eq_ok_iff
  · rcases (Path.ofString corpus).location_mem_trail with hroot | hmem
    · rw [FileSystem.locate_eq_location hloc, location_absolute, hroot]
      simp
    · rw [FileSystem.locate_eq_location hloc, location_absolute, hsame _ (.way hmem)]
      exact h.directories _
  · rw [hsame _ (.listed (.folder hloc hvisible))]
    exact h.directories _

/-- The folders of the corpus are the same however the work on tasks stands. -/
theorem folders_eq (h : Discreet campaign tool corpus found base)
    (hgrown : Grown (campaign.Sees tool corpus found) base (campaign.adapter tool)
      (campaign.tasks tool (Corpus.folders found (Path.ofString corpus))) fs) :
    Corpus.folders fs (Path.ofString corpus) = Corpus.folders found (Path.ofString corpus) := by
  have hkept (l : Location) (hl : found.find? l = some .directory) :
      fs.find? l = some .directory := hgrown.kept l ((h.directories l).mpr hl)
  rcases hsome : Corpus.folders found (Path.ofString corpus) with _ | ⟨folder, rest⟩
  · exact (h.folders_eq_of_empty hgrown hsome).trans hsome
  · have hfolder : folder ∈ Corpus.folders found (Path.ofString corpus) := by simp [hsome]
    obtain ⟨home, hhome, hdirectory, -⟩ := Corpus.mem_folders hfolder
    have hlater : fs.locate (Path.ofString corpus).absolute = .ok home :=
      FileSystem.follow_of_directories hkept hhome
    rw [← hsome]
    refine Corpus.folders_congr (fun loc => by rw [hlater, hhome]) fun loc hloc => ?_
    obtain rfl := Except.ok.inj (hhome.symm.trans hloc)
    refine ⟨iff_of_true (hkept _ hdirectory) hdirectory, fun name hvisible => ⟨fun hl => ?_, hkept _⟩⟩
    have hlisted : Corpus.Listable found (Path.ofString corpus) (home ++ [name]) :=
      .folder hhome hvisible
    rcases hgrown.directories _ (.listed hlisted) hl with hold | hmade
    · exact (h.directories _).mp hold
    · by_contra hnew
      exact h.unlisted _ hmade hnew hlisted

end Discreet

end Discovery

/-! ## The second time -/

namespace Campaign

variable {campaign : Campaign} {tool : Tool} {corpus : String} {w w' ready : World}
  {counts : Nat × Nat}

/-- Generating mutants leaves the seeds that are listed. -/
theorem seeds_prepareSeeds (campaign : Campaign) (corpus : Path) (w : World)
    (hlines : Corpus.OneLine w.files) (folder : Path) :
    Corpus.seeds ((campaign.prepareSeeds (Corpus.folders w.files corpus)).exec w).2.files folder =
      Corpus.seeds w.files folder := by
  unfold prepareSeeds
  by_cases hmutation : campaign.settings.mutation = true
  · rw [if_pos hmutation]
    exact (spared_of_edits (campaign.edits_mutateSeedsBy _ corpus w hlines)).seeds folder
  · rw [if_neg hmutation]
    rfl

/-- No desk of a campaign concerns a seed. -/
theorem upholds_of_grown {found base fs : FileSystem}
    (hdirs : FileSystem.SameDirectories found base)
    (hgrown : Grown (campaign.Sees tool corpus found) base (campaign.adapter tool)
      (campaign.tasks tool (Corpus.folders found (Path.ofString corpus))) fs) :
    Upholds ((Corpus.folders found (Path.ofString corpus)).flatMap (Corpus.seeds found)) base
      fs where
  directories := hgrown.kept
  files seed hseed l hl content := by
    obtain ⟨folder, hfolder, hmem⟩ := List.mem_flatMap.mp hseed
    have hlisted := (Corpus.listed_of_mem_seeds hfolder hmem).of_directories fun l hl =>
      (hdirs l).mpr hl
    obtain ⟨-, -, -, -, -, -, -, hsource⟩ :=
      Corpus.exists_of_mem_sources (List.mem_of_mem_filter hmem)
    obtain ⟨home, name, rfl, hkin⟩ := hlisted.exists_kin hl
    refine hgrown.files _ content (.seed hseed ((concerns_congr hdirs seed _).mp hl)) ?_
    rintro ⟨task, htask, -, hdesk⟩
    exact campaign.not_kin_of_desk hlisted.isName hsource htask hdesk.symm hkin

/-- A campaign finds as many seeds and generates as many mutants where another one has been, and
leaves the files as they are. -/
theorem exists_ready_again (hlive : campaign.cancelled = false)
    (hlines : Corpus.OneLine w.files)
    (hready : (announce corpus (Corpus.folders w.files (Path.ofString corpus)) >>= fun _ =>
      campaign.prepareSeeds (Corpus.folders w.files (Path.ofString corpus))).exec w =
        (.ok counts, ready))
    (hdiscreet : Discreet campaign tool corpus w.files ready.files)
    (hgrown : Grown (campaign.Sees tool corpus w.files) ready.files (campaign.adapter tool)
      (campaign.tasks tool (Corpus.folders w.files (Path.ofString corpus))) w'.files) :
    ∃ ready', (announce corpus (Corpus.folders w'.files (Path.ofString corpus)) >>= fun _ =>
      campaign.prepareSeeds (Corpus.folders w'.files (Path.ofString corpus))).exec w' =
        (.ok counts, ready') ∧ ready'.files = w'.files := by
  rw [hdiscreet.folders_eq hgrown]
  obtain ⟨announced, hannounce, hfiles⟩ :=
    exec_announce corpus (Corpus.folders w.files (Path.ofString corpus)) w
  obtain ⟨announced', hannounce', hfiles'⟩ :=
    exec_announce corpus (Corpus.folders w.files (Path.ofString corpus)) w'
  rw [Action.exec_bind_of_ok hannounce] at hready
  rw [Action.exec_bind_of_ok hannounce']
  rw [← hfiles] at hlines hready hdiscreet hgrown ⊢
  rw [← hfiles'] at hgrown ⊢
  have hkept := campaign.seeds_prepareSeeds (Path.ofString corpus) announced hlines
  rw [hready] at hkept
  refine exec_prepareSeeds_again hlive hlines hready (List.flatMap_congr fun folder hfolder => ?_)
    (upholds_of_grown hdiscreet.directories hgrown)
  rw [← hkept]
  unfold Corpus.seeds
  rw [hdiscreet.sources_eq hgrown hfolder]

end Campaign

section Crew

variable {seen : Location → Prop} {adapter : Adapter} {tasks : List Task}
  {start start' field field' : World} {crew crew' : Crew} {trace trace' : List Event}
  {workers workers' : Nat}
  {answers : List String → List (Location × Bytes) → Option Bytes → Outcome}

/-- What is steady stays so while tasks are worked off. -/
theorem Steady.of_grown {other : Location → Prop} {base fs : FileSystem}
    (h : Steady seen base adapter tasks) (hapart : Apart adapter tasks)
    (hgrown : Grown seen base adapter tasks fs) (hsub : ∀ l, seen l → other l) :
    Steady other fs adapter tasks where
  sources after hmore task htask :=
    (h.sources after (hgrown.trans hapart (hmore.mono hgrown.watched hsub)) task htask).trans
      (h.sources fs hgrown task htask).symm
  texts after hmore :=
    (h.texts after (hgrown.trans hapart (hmore.mono hgrown.watched hsub))).trans
      (h.texts fs hgrown).symm

/-- A second run that leaves the same reports as the first, and everything else alone, leaves the
same files. -/
theorem Tidy.files_again (h : Tidy seen adapter tasks start trace crew field)
    (h' : Tidy (fun _ => True) adapter tasks start' trace' crew' field')
    (hagain : start'.files = field.files) (hapart : Apart adapter tasks) (hover : Over tasks crew)
    (hover' : Over tasks crew')
    (hreports : ∀ task ∈ tasks, (field'.files.read task.report).toOption =
      (field.files.read task.report).toOption) : field'.files = field.files := by
  refine FileSystem.ext_find? fun l => Option.ext fun entry => ?_
  cases entry with
  | directory =>
    refine (h'.directory_iff hover' trivial).trans ?_
    rw [hagain, h.grown.yard_iff hapart]
    refine ⟨fun hfound => hfound.elim id fun hmade => ?_, .inl⟩
    exact (h.directory_iff hover (h.grown.seen_of_yard hmade)).mpr (.inr hmade)
  | file content =>
    by_cases hdesk : Desks start'.files tasks l
    · obtain ⟨task, htask, hfeasible', rfl⟩ := hdesk
      have hfeasible : task.Feasible start.files :=
        (h.grown.feasible_iff hapart htask).mp (hagain ▸ hfeasible')
      have hread := h.read_iff hover htask hfeasible content
      have hread' := h'.read_iff hover' htask hfeasible' content
      rw [hreports task htask] at hread'
      exact hread'.trans hread.symm
    · have hkept := h'.grown.files l content trivial hdesk
      rwa [hagain] at hkept

/-- Tasks that are worked off again, with processes that come to the same, have the same results and
leave the same files. -/
theorem crew_again (hwatched : Watched seen adapter tasks)
    (honce : (tasks.map Task.identity).Nodup) (hdesks : (tasks.map Task.desk).Nodup)
    (hapart : Apart adapter tasks) (hsteady : Steady seen start.files adapter tasks)
    (hrun : Crew.Run adapter tasks workers (Crew.start false tasks, start) trace (crew, field))
    (hrun' : Crew.Run adapter tasks workers' (Crew.start false tasks, start') trace'
      (crew', field'))
    (hagain : start'.files = field.files) (hfinished : crew.Finished) (hfinished' : crew'.Finished)
    (hleaves : ∀ event ∈ trace, event.LeavesAlone seen tasks)
    (hleaves' : ∀ event ∈ trace', event.LeavesAlone (fun _ => True) tasks)
    (hanswers : ∀ event ∈ trace, event.Answers adapter tasks answers)
    (hanswers' : ∀ event ∈ trace', event.Answers adapter tasks answers) :
    crew'.results tasks = crew.results tasks ∧ field'.files = field.files := by
  have hall : Watched (fun _ => True) adapter tasks := fun _ _ _ _ => trivial
  have htidy := Tidy.of_leavesAlone hwatched hapart hrun hleaves
  have htidy' := Tidy.of_leavesAlone hall hapart hrun' hleaves'
  have hgrown : Grown seen start.files adapter tasks start'.files := hagain ▸ htidy.grown
  have hyields := yields_of_run hwatched hdesks hapart hsteady hrun hfinished hleaves hanswers
  have hyields' := yields_of_run hall hdesks hapart
    (hsteady.of_grown hapart hgrown fun _ _ => trivial) hrun' hfinished' hleaves' hanswers'
  rw [hsteady.texts _ hgrown] at hyields'
  have hsettled : ∀ result ∈ crew'.results tasks,
      adapter.outcome (fun command => answers command (Corpus.texts start.files)) start.files
        result.task = ⟨result.launched, (field'.files.read result.task.report).toOption⟩ := by
    intro result hmem
    obtain ⟨_, hnumber, -, -⟩ := (Traced.of_run hrun').of_mem_results hmem
    have htask := List.mem_of_getElem? hnumber
    rw [← hyields' result hmem]
    exact (Adapter.outcome_eq hgrown hapart htask
      (commands_congr (hsteady.sources _ hgrown _ htask))).symm
  obtain ⟨hresults, hreports, hover⟩ := Campaign.results_of_tidy honce hrun htidy hfinished hyields
  obtain ⟨hresults', hreports', hover'⟩ :=
    Campaign.results_of_tidy honce hrun' htidy' hfinished' hsettled
  exact ⟨hresults'.trans hresults.symm, htidy.files_again htidy' hagain hapart hover hover'
    fun task htask => (hreports' task htask).trans (hreports task htask).symm⟩

end Crew

namespace Campaign

theorem files_evaluate (tool : Tool) (work : Fieldwork) (w : World) :
    ((work.evaluate tool).exec w).2.files = w.files := (evaluate_leaves tool work w).1

/-- What comes before the first task leaves findings and failures, and makes no directory. -/
theorem ready_spec {campaign : Campaign} {corpus : String} {folders : List Path} {w ready : World}
    {counts : Nat × Nat}
    (h : (announce corpus folders >>= fun _ => campaign.prepareSeeds folders).exec w =
      (.ok counts, ready)) :
    FileSystem.SameDirectories w.files ready.files ∧ ready.index = w.index ∧
      ready.ledger = w.ledger := by
  have houtward := ((outward_announce corpus folders).bind
    fun _ => campaign.outward_prepareSeeds folders) w
  obtain ⟨announced, hannounce, hfiles⟩ := exec_announce corpus folders w
  have hdirs := campaign.sameDirectories_prepareSeeds folders announced
  rw [h] at houtward
  rw [Action.exec_bind_of_ok hannounce] at h
  rw [h, hfiles] at hdirs
  exact ⟨hdirs, houtward⟩

end Campaign

/-- Fieldwork of a campaign that is not cancelled, by any number of workers in any order. Nobody
else interferes. A process leaves alone what is seen, but for the report of its task, and comes to
what is answered. -/
def Campaign.Answered (campaign : Campaign) (tool : Tool) (corpus : String)
    (answers : List String → List (Location × Bytes) → Option Bytes → Outcome)
    (seen : Location → Prop) (w : World) (work : Fieldwork) (field : World) : Prop :=
  campaign.cancelled = false ∧ ∃ workers trace,
    campaign.Fielded workers false tool corpus w trace work field ∧
      ∀ event ∈ trace, event.LeavesAlone seen (campaign.tasks tool work.folders) ∧
        event.Answers (campaign.adapter tool) (campaign.tasks tool work.folders) answers

theorem Campaign.Answered.mono {campaign : Campaign} {tool : Tool} {corpus : String}
    {answers : List String → List (Location × Bytes) → Option Bytes → Outcome}
    {seen other : Location → Prop} {w field : World} {work : Fieldwork}
    (h : campaign.Answered tool corpus answers other w work field)
    (hsub : ∀ l, seen l → other l) : campaign.Answered tool corpus answers seen w work field := by
  obtain ⟨hlive, workers, trace, hfielded, hevents⟩ := h
  exact ⟨hlive, workers, trace, hfielded, fun event hevent =>
    ⟨(hevents event hevent).1.mono hsub, (hevents event hevent).2⟩⟩

/-- Two runs of a campaign, the second begun afresh on the files that the first one leaves. Processes
of the first one may write, besides their reports, where the campaign does not look. Those of the
second one find that as they leave it. -/
structure Reruns (campaign : Campaign) (tool : Tool) (corpus : String)
    (answers : List String → List (Location × Bytes) → Option Bytes → Outcome) (w : World)
    (work : Fieldwork) (field w' : World) (work' : Fieldwork) (field' : World) : Prop where
  first : campaign.Answered tool corpus answers (campaign.Sees tool corpus w.files) w work field
  second : campaign.Answered tool corpus answers (fun _ => True) w' work' field'
  files : w'.files = ((work.evaluate tool).exec field).2.files
  index : w'.index = w.index
  reports : w'.ledger.reports = w.ledger.reports

/-- A campaign that is run again comes to the same summary, or the same fault, and leaves the files
as they are, if names are of one line and the first run makes no directory where the corpus lists
it. -/
theorem rerun_stable {campaign : Campaign} {tool : Tool} {corpus : String}
    {answers : List String → List (Location × Bytes) → Option Bytes → Outcome}
    {w field w' field' : World} {work work' : Fieldwork}
    (h : Reruns campaign tool corpus answers w work field w' work' field')
    (hlines : Corpus.OneLine w.files)
    (hunlisted : Corpus.Unlisted (Path.ofString corpus) w.files w'.files) :
    ((work'.evaluate tool).exec field').1.map Summary.withoutTools =
        ((work.evaluate tool).exec field).1.map Summary.withoutTools ∧
      ((work'.evaluate tool).exec field').2.files = w'.files := by
  have hapart := campaign.apart_tasks tool w.files corpus
  have hdesks := campaign.nodup_desks tool w.files corpus
  have hwatched : Watched (campaign.Sees tool corpus w.files) (campaign.adapter tool)
      (campaign.tasks tool (Corpus.folders w.files (Path.ofString corpus))) :=
    fun _ htask _ hl => .task htask hl
  obtain ⟨⟨hlive, workers, trace, hfielded, hevents⟩, ⟨-, workers', trace', hfielded', hevents'⟩,
    hagain, hindex, hreports⟩ := h
  rw [hfielded.folders_eq.1] at hevents
  rw [hfielded'.folders_eq.1] at hevents'
  obtain ⟨counts, ready, crew, hready, hcrew, hfinished, rfl⟩ := hfielded
  obtain ⟨counts', ready', crew', hready', hcrew', hfinished', rfl⟩ := hfielded'
  rw [Campaign.files_evaluate] at hagain
  obtain ⟨hdirs, hfirst, hledger⟩ := Campaign.ready_spec hready
  have htidy := Tidy.of_leavesAlone hwatched hapart hcrew fun event hevent =>
    (hevents event hevent).1
  have hover := Tidy.over_of_finished (Traced.of_run hcrew) hfinished
  have hdiscreet : Discreet campaign tool corpus w.files ready.files := by
    refine ⟨hdirs, fun l hyard => hunlisted l ?_⟩
    rw [hagain]
    exact (htidy.directory_iff hover (htidy.grown.seen_of_yard hyard)).mpr (.inr hyard)
  have hgrown := htidy.grown
  dsimp only at hgrown
  rw [← hagain] at hgrown
  have hfolders := hdiscreet.folders_eq hgrown
  obtain ⟨again, hmade, hfiles⟩ := Campaign.exists_ready_again hlive hlines hready hdiscreet hgrown
  obtain ⟨rfl, rfl⟩ := Action.answer_inj (hready'.symm.trans hmade)
  obtain ⟨-, hsecond, hledger'⟩ := Campaign.ready_spec hready'
  rw [hfolders] at hcrew' hevents'
  have htidy' := Tidy.of_leavesAlone (fun _ _ _ _ => trivial) hapart hcrew' fun event hevent =>
    (hevents' event hevent).1
  obtain ⟨hresults, hlast⟩ := crew_again hwatched (campaign.nodup_identities tool _) hdesks hapart
    hdiscreet.steady hcrew hcrew' (hfiles.trans hagain) hfinished hfinished'
    (fun event hevent => (hevents event hevent).1)
    (fun event hevent => (hevents' event hevent).1) (fun event hevent => (hevents event hevent).2)
    fun event hevent => (hevents' event hevent).2
  have hagree : Agree field field' := by
    refine ⟨hlast, ?_, ?_⟩
    · calc field'.index = w'.index := htidy'.index.trans hsecond
        _ = w.index := hindex
        _ = field.index := (htidy.index.trans hfirst).symm
    · calc field'.ledger.reports = w'.ledger.reports :=
          htidy'.reports.trans (congrArg Ledger.reports hledger')
        _ = w.ledger.reports := hreports
        _ = field.ledger.reports := (htidy.reports.trans (congrArg Ledger.reports hledger)).symm
  rw [hfolders, hresults]
  refine ⟨(agree_evaluate _ hagree).1, ?_⟩
  rw [Campaign.files_evaluate, hlast, hagain]

/-! ## Runs that were played twice -/

/-- Whether the process that is run in an event, if there is one, comes to what is answered. -/
def Event.answered (adapter : Adapter) (tasks : List Task)
    (answers : List String → List (Location × Bytes) → Option Bytes → Outcome) : Event → Bool
  | work number (.running (command :: _)) _ before _ => (tasks[number]?).all fun task =>
    task.cameTo ((launch (adapter.call task command)).exec before) ==
      answers command (Corpus.texts before.files) (before.files.content? task.desk)
  | _ => true

theorem Event.answers_of_answered {adapter : Adapter} {tasks : List Task}
    {answers : List String → List (Location × Bytes) → Option Bytes → Outcome} {event : Event}
    (h : event.answered adapter tasks answers = true) : event.Answers adapter tasks answers := by
  cases event with
  | work number stage cancelled before after =>
    cases stage with
    | running commands =>
      cases commands with
      | nil => trivial
      | cons command rest =>
        intro task htask
        simpa [answered, htask] using h
    | _ => trivial
  | _ => trivial

namespace Campaign

variable {campaign : Campaign} {tool : Tool} {corpus : String}
  {answers : List String → List (Location × Bytes) → Option Bytes → Outcome}

/-- Plays the fieldwork of a campaign out, if each process writes its report at most and comes to
what is answered. -/
def playAnswered (campaign : Campaign) (tool : Tool) (corpus : String)
    (answers : List String → List (Location × Bytes) → Option Bytes → Outcome)
    (moves : List Move) (w : World) : Option (Fieldwork × World) := do
  let (trace, work, field) ← campaign.playOut tool corpus 1 moves w
  let tasks := campaign.tasks tool work.folders
  if trace.all (Event.writesOwn tasks) &&
      trace.all (Event.answered (campaign.adapter tool) tasks answers)
  then return (work, field)
  else none

theorem answered_of_playAnswered {moves : List Move} {w field : World} {work : Fieldwork}
    (hlive : campaign.cancelled = false)
    (h : campaign.playAnswered tool corpus answers moves w = some (work, field)) :
    campaign.Answered tool corpus answers (fun _ => True) w work field := by
  obtain ⟨⟨trace, work', field'⟩, hplay, h⟩ := Option.bind_eq_some_iff.mp h
  dsimp only at h
  split at h
  · next hall =>
    obtain ⟨rfl, rfl⟩ := Prod.mk.inj (Option.some.inj h)
    obtain ⟨hown, hanswered⟩ := Bool.and_eq_true_iff.mp hall
    obtain ⟨hfielded, hregular⟩ := fielded_of_playOut hplay
    have hleaves : ∀ event ∈ trace,
        event.LeavesAlone (fun _ => True) (campaign.tasks tool work'.folders) := by
      have hregular := hregular hown
      rw [hfielded.folders_eq.1] at hregular ⊢
      obtain ⟨counts, ready, crew, -, hcrew, -, -⟩ := hfielded
      exact Tidy.leavesAlone_of_run (campaign.apart_tasks tool w.files corpus) hcrew hregular
    exact ⟨hlive, 1, trace, hfielded, fun event hevent => ⟨hleaves event hevent,
      Event.answers_of_answered (List.all_eq_true.mp hanswered event hevent)⟩⟩
  · exact nomatch h

/-- Plays a campaign out twice, the second time in a world like the first one but for the files. -/
def playTwice (campaign : Campaign) (tool : Tool) (corpus : String)
    (answers : List String → List (Location × Bytes) → Option Bytes → Outcome)
    (moves moves' : List Move) (w : World) : Option ((Fieldwork × World) × World × Fieldwork × World) := do
  let (work, field) ← campaign.playAnswered tool corpus answers moves w
  let again := { w with files := ((work.evaluate tool).exec field).2.files }
  let second ← campaign.playAnswered tool corpus answers moves' again
  return ((work, field), again, second)

theorem reruns_of_playTwice {moves moves' : List Move} {w field w' field' : World}
    {work work' : Fieldwork} (hlive : campaign.cancelled = false)
    (h : campaign.playTwice tool corpus answers moves moves' w =
      some ((work, field), w', work', field')) :
    Reruns campaign tool corpus answers w work field w' work' field' := by
  obtain ⟨⟨work₁, field₁⟩, hfirst, h⟩ := Option.bind_eq_some_iff.mp h
  obtain ⟨second, hsecond, h⟩ := Option.bind_eq_some_iff.mp h
  obtain ⟨hone, htwo⟩ := Prod.mk.inj (Option.some.inj h)
  obtain ⟨rfl, rfl⟩ := Prod.mk.inj hone
  obtain ⟨rfl, rfl⟩ := Prod.mk.inj htwo
  exact ⟨(answered_of_playAnswered hlive hfirst).mono fun _ _ => trivial,
    answered_of_playAnswered hlive hsecond, rfl, rfl, rfl⟩

end Campaign

/-- The analyzer finds something in the folder when there is a mutant beside its seed. -/
def findsMutant (command : List String) (texts : List (Location × Bytes)) (report : Option Bytes) :
    Outcome :=
  ⟨true, if "/tmp/w/seeds/a" ∈ command ∧ texts.length = 2 then some oneFinding else report⟩

/-- The analyzer finds nothing and writes no report. -/
def findsNothing (_ : List String) (_ : List (Location × Bytes)) (report : Option Bytes) : Outcome :=
  ⟨true, report⟩

/-- The mutant that is left over goes in the first run. The second one generates the same mutant
again and finds the same in it. -/
theorem rerun_staleWorld :
    let campaign : Campaign := ⟨Settings.initial, false⟩
    ∃ work field w' work' field',
      Reruns campaign .pmd "seeds" findsMutant staleWorld work field w' work' field' ∧
      Corpus.OneLine staleWorld.files ∧
      Corpus.Unlisted (Path.ofString "seeds") staleWorld.files w'.files ∧
      ((work'.evaluate .pmd).exec field').1.map Summary.withoutTools =
        ((work.evaluate .pmd).exec field).1.map Summary.withoutTools ∧
      ((work'.evaluate .pmd).exec field').2.files = w'.files ∧
      ((work.evaluate .pmd).exec field).1.toOption.map (fun s =>
        [s.folders, s.seeds, s.mutants, s.invocations, s.totalViolations,
          s.inconsistencies.length]) = some [1, 1, 1, 1, 1, 1] ∧
      w'.files.isFile (Path.ofString "/tmp/w/seeds/a/A_iter1.java") = true := by
  intro campaign
  have hplayed : (campaign.playTwice .pmd "seeds" findsMutant (alone 0 telling) (alone 0 telling)
      staleWorld).map (fun (first, again, _) =>
        (decide (∀ x ∈ again.files.entries, x.2 = .directory → ["tmp", "w", "seeds"] <+: x.1 →
            staleWorld.files.find? x.1 = some .directory),
          again.files.isFile (Path.ofString "/tmp/w/seeds/a/A_iter1.java"),
          ((first.1.evaluate .pmd).exec first.2).1.toOption.map fun s =>
            [s.folders, s.seeds, s.mutants, s.invocations, s.totalViolations,
              s.inconsistencies.length])) = some (true, true, some [1, 1, 1, 1, 1, 1]) := by
    decide +kernel
  have hlines : Corpus.OneLine staleWorld.files := by
    unfold Corpus.OneLine
    decide +kernel
  have hhome : staleWorld.files.locate (Path.ofString "seeds").absolute =
      .ok ["tmp", "w", "seeds"] := by
    decide +kernel
  obtain ⟨⟨⟨work, field⟩, w', work', field'⟩, hplay, hresult⟩ := Option.map_eq_some_iff.mp hplayed
  simp only [Prod.mk.injEq, decide_eq_true_eq] at hresult
  obtain ⟨houtside, hmutant, hsummary⟩ := hresult
  have hreruns := Campaign.reruns_of_playTwice rfl hplay
  have hunlisted := Corpus.unlisted_of_outside hhome houtside
  obtain ⟨hsame, hfiles⟩ := rerun_stable hreruns hlines hunlisted
  exact ⟨work, field, w', work', field', hreruns, hlines, hunlisted, hsame, hfiles, hsummary,
    hmutant⟩

/-! ## Results in the corpus -/

/-- A corpus with one seed and no folders, so that it is its own folder. -/
def flatWorld : World :=
  let files := do
    let fs ← FileSystem.initial.ensureDirectories (Path.ofString "/tmp/w/seeds")
    fs.write (Path.ofString "/tmp/w/seeds/A.java") []
  { World.initial with files := files.toOption.getD .initial }

/-- A campaign without mutants whose results go there. -/
def campaignInto (results : String) : Campaign :=
  ⟨{ Settings.initial with mutation := false, resultsDirectory := Path.ofString results }, false⟩

/-- Two runs of that campaign, by how many seeds they find. -/
def seedsTwice (results : String) : Option (Option Nat × Option Nat) :=
  ((campaignInto results).playTwice .pmd "seeds" findsNothing (alone 0 .idle) (alone 0 .idle)
    flatWorld).map fun (first, _, second) =>
      (((first.1.evaluate .pmd).exec first.2).1.toOption.map Summary.seeds,
        ((second.1.evaluate .pmd).exec second.2).1.toOption.map Summary.seeds)

theorem exists_reruns_of_seedsTwice {results : String} {seeds seeds' : Nat}
    (h : seedsTwice results = some (some seeds, some seeds')) :
    ∃ work field w' work' field',
      Reruns (campaignInto results) .pmd "seeds" findsNothing flatWorld work field w' work'
        field' ∧
      ((work.evaluate .pmd).exec field).1.toOption.map Summary.seeds = some seeds ∧
      ((work'.evaluate .pmd).exec field').1.toOption.map Summary.seeds = some seeds' := by
  obtain ⟨⟨⟨work, field⟩, w', work', field'⟩, hplay, hseeds⟩ := Option.map_eq_some_iff.mp h
  obtain ⟨hfirst, hsecond⟩ := Prod.mk.inj hseeds
  exact ⟨work, field, w', work', field', Campaign.reruns_of_playTwice rfl hplay, hfirst, hsecond⟩

/-- The directory of results is right in the corpus. The second run takes it for the only folder, so
the seed beside it is no longer found. -/
theorem rerun_in_corpus :
    ¬ ∀ (campaign : Campaign) (tool : Tool) (corpus : String)
      (answers : List String → List (Location × Bytes) → Option Bytes → Outcome)
      (w field w' field' : World) (work work' : Fieldwork),
      Reruns campaign tool corpus answers w work field w' work' field' →
        Corpus.OneLine w.files →
          ((work'.evaluate tool).exec field').1.toOption.map Summary.seeds =
            ((work.evaluate tool).exec field).1.toOption.map Summary.seeds := by
  intro hall
  have hplayed : seedsTwice "/tmp/w/seeds/results" = some (some 1, some 0) := by
    decide +kernel
  have hlines : Corpus.OneLine flatWorld.files := by
    unfold Corpus.OneLine
    decide +kernel
  obtain ⟨work, field, w', work', field', hreruns, hfirst, hsecond⟩ :=
    exists_reruns_of_seedsTwice hplayed
  have hsame := hall _ _ _ _ _ _ _ _ _ _ hreruns hlines
  rw [hfirst, hsecond] at hsame
  exact nomatch hsame

/-- The directory of results is deeper in the corpus, below a hidden one, and goes by the name of a
source. The second run takes it for one more seed. -/
theorem rerun_with_source_name :
    ∃ work field w' work' field',
      Reruns (campaignInto "/tmp/w/seeds/.out/x.java") .pmd "seeds" findsNothing flatWorld
        work field w' work' field' ∧
      ((work.evaluate .pmd).exec field).1.toOption.map Summary.seeds = some 1 ∧
      ((work'.evaluate .pmd).exec field').1.toOption.map Summary.seeds = some 2 :=
  exists_reruns_of_seedsTwice (by decide +kernel)

end Crosscheck.Analysis
