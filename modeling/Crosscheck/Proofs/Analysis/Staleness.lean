import Crosscheck.Proofs.Analysis.Disjointness
import Crosscheck.Proofs.Analysis.Independence
import Crosscheck.Proofs.Analysis.Shadow
import Crosscheck.Proofs.Listing
import Crosscheck.Proofs.Mutation.Confinement
import Crosscheck.Proofs.Mutation.Locality
/-!
# Old reports

Reports of an earlier campaign may lie where a campaign is going to have its own. They are no
sources and nothing that a generation looks at, and each worker removes the one at its desk before
it starts a process. So a campaign comes to the same, down to the files, if some of them are deleted
beforehand, even where preparations or processes fail (`old_reports_inert`). The exception is a
process that needs a directory where such a report lies. A report that cannot be removed would be
another one, but there is none: a `FileSystem` knows no permissions.
-/

namespace Crosscheck.Analysis

open Crosscheck.Configuration Crosscheck.Files Crosscheck.Mutation Crosscheck.Text

/-! ## Names of reports -/

section Names

variable {tool : Tool} {seed folder : Path}

/-- A report has a suffix, and a dot that leads the suffix is not read as a mutant. -/
theorem exists_suffix_reportName (tool : Tool) (folder : Path) :
    ∃ front tail : List Char, reportName tool folder = String.ofList (front ++ '.' :: tail) ∧
      '.' ∉ tail ∧ tail ≠ [] ∧ seedStem? ('.' :: tail) = none := by
  have happend (suffix : String) :
      folder.name ++ suffix = String.ofList (folder.name.toList ++ suffix.toList) := by
    rw [String.ofList_append, String.ofList_toList, String.ofList_toList]
  have hjson : ".json".toList = '.' :: ['j', 's', 'o', 'n'] := by decide
  have hxml : ".xml".toList = '.' :: ['x', 'm', 'l'] := by decide
  have hnojson : seedStem? ('.' :: ['j', 's', 'o', 'n']) = none := by decide +kernel
  have hnoxml : seedStem? ('.' :: ['x', 'm', 'l']) = none := by decide +kernel
  cases tool with
  | infer =>
    exact ⟨['r', 'e', 'p', 'o', 'r', 't'], _, rfl, by decide, by decide, hnojson⟩
  | pmd | sonarqube =>
    exact ⟨folder.name.toList, _, hjson ▸ happend ".json", by decide, by decide, hnojson⟩
  | spotbugs | checkstyle | codenavi =>
    exact ⟨folder.name.toList, _, hxml ▸ happend ".xml", by decide, by decide, hnoxml⟩

/-- A report does not go by the name of a mutant: that is the name of a source, or ends in the number
of the mutant where the seed has no stem. -/
theorem reportName_ne_mutantName (hsource : sourceSuffix.toList <:+ seed.name.toList) (number : Nat) :
    reportName tool folder ≠ mutantName seed number := by
  intro hnumber
  by_cases hbare : seed.name = sourceSuffix
  · have hsuffix : seed.suffix = "" := by
      unfold Path.suffix
      rw [hbare]
      decide
    obtain ⟨digit, hdigit⟩ : ∃ digit, (toString number).toList.getLast? = some digit :=
      List.getLast?_isSome.mpr (by simp) |> Option.isSome_iff_exists.mp
    have hdecimal := isDigit_of_mem_toString (List.mem_of_getLast? hdigit)
    refine reportName_ne_append tool folder (seed.stem ++ marker) hdigit ?_ ?_ (hnumber.trans ?_)
    · rintro rfl
      exact nomatch hdecimal
    · rintro rfl
      exact nomatch hdecimal
    · unfold mutantName
      rw [hsuffix, String.append_empty]
  · exact reportName_not_source tool folder
      (hnumber ▸ Corpus.suffix_mutantName_of_source hsource hbare number)

/-- A report does not pass for a mutant: what it would be a mutant of ends like the report, and is no
source. -/
theorem seedOf_sibling_reportName (hseed : isName seed.name = true)
    (hsource : sourceSuffix.toList <:+ seed.name.toList) (hfolder : '/' ∉ folder.name.toList) :
    seedOf (seed.sibling (reportName tool folder)) ≠ some seed := by
  intro hof
  have hname := (@reportName_spec tool folder hfolder).1
  obtain ⟨front, tail, hreport, hdot, htail, hnone⟩ := exists_suffix_reportName tool folder
  have hself := Path.dropLast_concat_name (isName_iff.mp hseed).1
  rw [Path.sibling, seedOf_concat _ _ hname] at hof
  obtain ⟨more, hmore, hpath⟩ := Option.map_eq_some_iff.mp hof
  have hlast : more = [seed.name] := by
    have hparts := (congrArg Path.parts hpath).trans hself.symm
    exact List.append_cancel_left hparts
  rw [hreport] at hname hmore
  obtain ⟨base, -, hseedName, -⟩ := exists_of_seedParts?_of_dot hname hdot htail (fun _ => hnone) hmore
  have hsame : seed.name = String.ofList (base ++ '.' :: tail) := by
    simpa [hlast] using hseedName
  have hends : (reportName tool folder).toList.getLast? = seed.name.toList.getLast? := by
    rw [hreport, hsame, String.toList_ofList, String.toList_ofList,
      List.getLast?_append_of_ne_nil _ (List.cons_ne_nil _ _),
      List.getLast?_append_of_ne_nil _ (List.cons_ne_nil _ _)]
  obtain ⟨start, hstart⟩ := hsource
  have hletter : seed.name.toList.getLast? = some 'a' := by
    have ha : sourceSuffix.toList.getLast? = some 'a' := by decide
    rw [← hstart, List.getLast?_append, ha]
    rfl
  rw [hletter] at hends
  rcases getLast?_reportName tool folder with hn | hl
  · exact absurd (hends.symm.trans hn) (by decide)
  · exact absurd (hends.symm.trans hl) (by decide)

/-- A report does not go by a name that matters to the generation of mutants. -/
theorem not_kin_reportName (hseed : isName seed.name = true)
    (hsource : sourceSuffix.toList <:+ seed.name.toList) (hfolder : '/' ∉ folder.name.toList) :
    ¬ Kin seed (reportName tool folder) := by
  rintro (hself | ⟨number, hnumber⟩ | hof)
  · exact reportName_not_source tool folder (hself ▸ hsource)
  · exact reportName_ne_mutantName hsource number hnumber
  · exact seedOf_sibling_reportName hseed hsource hfolder hof

/-- No report of a campaign stands where a name matters to the generation of mutants. -/
theorem Campaign.not_kin_of_desk (campaign : Campaign) {tool : Tool} {fs : FileSystem}
    {corpus : String} {task : Task} {home : Location} {name : String}
    (hseed : isName seed.name = true) (hsource : sourceSuffix.toList <:+ seed.name.toList)
    (htask : task ∈ campaign.tasks tool (Corpus.folders fs (Path.ofString corpus)))
    (hdesk : task.desk = home ++ [name]) : ¬ Kin seed name := by
  obtain ⟨number, folder, hfolder, rfl⟩ := campaign.exists_of_mem_tasks tool _ htask
  have hslash := Corpus.slash_not_mem_name hfolder
  rw [desk_reportPath (Path.isAbsolute_child (Path.isAbsolute_absolute _) _) hslash] at hdesk
  have hreport : reportName tool folder = name := by
    simpa using congrArg List.getLast? hdesk
  rw [← hreport]
  exact not_kin_reportName hseed hsource hslash

end Names

/-! ## Files with other reports -/

/-- Where two file systems differ. -/
def Differ (a b : FileSystem) (l : Location) : Prop := b.find? l ≠ a.find? l

/-- File systems with the same directories that differ at most in the reports of tasks. -/
structure SameButReports (tasks : List Task) (a b : FileSystem) : Prop where
  directories : FileSystem.SameDirectories a b
  reports : ∀ l, Differ a b l → ∃ task ∈ tasks, a.locate task.report = .ok l

section Files

variable {campaign : Campaign} {tool : Tool} {corpus : String} {tasks : List Task}
  {a b : FileSystem} {l : Location}

namespace SameButReports

theorem symm (h : SameButReports tasks a b) : SameButReports tasks b a where
  directories := h.directories.symm
  reports l hl := by
    obtain ⟨task, htask, hloc⟩ := h.reports l (Ne.symm hl)
    exact ⟨task, htask, h.directories.locate_eq_ok_iff.mpr hloc⟩

/-- Where they differ, there is no directory. -/
theorem not_directory (h : SameButReports tasks a b) (hl : Differ a b l) :
    a.find? l ≠ some .directory :=
  fun hfound => hl (((h.directories l).mpr hfound).trans hfound.symm)

/-- Where they differ, a task has its desk. -/
theorem exists_desk (h : SameButReports tasks a b) (hl : Differ a b l) :
    ∃ task ∈ tasks, a.locate task.report = .ok task.desk ∧ l = task.desk := by
  obtain ⟨task, htask, hloc⟩ := h.reports l hl
  obtain rfl := FileSystem.locate_eq_location hloc
  exact ⟨task, htask, hloc, rfl⟩

/-- They differ by no name of a source. -/
theorem not_source
    (h : SameButReports (campaign.tasks tool (Corpus.folders a (Path.ofString corpus))) a b)
    (hl : Differ a b l) : ¬ sourceSuffix.toList <:+ l.path.name.toList := by
  obtain ⟨task, htask, -, rfl⟩ := h.exists_desk hl
  exact campaign.desk_not_source tool a corpus task htask

/-- The folders of a corpus are the same. -/
theorem folders_eq (h : SameButReports tasks a b) (corpus : Path) :
    Corpus.folders b corpus = Corpus.folders a corpus :=
  Corpus.folders_of_sameDirectories h.directories corpus

/-- The sources of a folder are the same. -/
theorem sources_eq
    (h : SameButReports (campaign.tasks tool (Corpus.folders a (Path.ofString corpus))) a b)
    (folder : Path) : Corpus.sources b folder = Corpus.sources a folder :=
  Corpus.sources_congr (fun _ => h.directories.locate_eq_ok_iff) fun _ _ _ _ hsource =>
    not_not.mp fun hl => h.not_source hl hsource

/-- Workers take no notice of the difference until they come to their own desks. -/
theorem inert
    (h : SameButReports (campaign.tasks tool (Corpus.folders a (Path.ofString corpus))) a b) :
    Inert (campaign.adapter tool) (campaign.tasks tool (Corpus.folders a (Path.ofString corpus)))
      (Differ a b) a where
  clear task htask l hmem hl := by
    obtain ⟨other, hother, hlocate, rfl⟩ := h.exists_desk hl
    have hway := campaign.apart_tasks tool a corpus other hother task htask hmem
    exact h.not_directory hl (directory_of_mem_approach hlocate hway)
  sources l hl := h.not_source hl
  ways task htask hl := by
    obtain ⟨other, hother, hlocate, hdesk⟩ := h.exists_desk hl
    obtain rfl := campaign.eq_of_desk htask hother hdesk
    exact hlocate

/-- The difference does not matter to the generation of mutants. -/
theorem concur
    (h : SameButReports (campaign.tasks tool (Corpus.folders a (Path.ofString corpus))) a b) :
    Concur ((Corpus.folders a (Path.ofString corpus)).flatMap (Corpus.seeds a))
      (fun l => ¬ Differ a b l) a b where
  agree l hl := not_not.mp hl
  homes seed hseed := by
    obtain ⟨folder, hfolder, hlisted⟩ := List.mem_flatMap.mp hseed
    obtain ⟨home, habsolute, hname, hlocate, hdirectory, hsource⟩ :=
      Corpus.exists_home_of_mem_sources (Corpus.isAbsolute_of_mem_folders hfolder)
        (List.mem_filter.mp hlisted).1
    refine ⟨home, habsolute, hname, hlocate, h.directories.locate_eq_ok_iff.mpr hlocate,
      hdirectory, (h.directories home).mpr hdirectory, fun name hkin hl => ?_⟩
    obtain ⟨task, htask, -, hdesk⟩ := h.exists_desk hl
    exact campaign.not_kin_of_desk hname hsource htask hdesk.symm hkin

end SameButReports

end Files

/-! ## Campaigns -/

namespace Campaign

section Runs

variable {campaign : Campaign} {tool : Tool} {corpus : String} {w w' ready ready' : World}
  {allowed : Child → Prop} {counts : Nat × Nat} {trace : List Event} {work : Fieldwork}
  {field : World} {workers : Nat}

theorem lockstep_announce (corpus : String) {same : World → World → Prop}
    {like : FileSystem → FileSystem → Prop} (hsame : Unmoved same) (folders : List Path) :
    (announce corpus folders).Lockstep (Beside same like) := by
  unfold announce
  split
  · exact .note hsame _ _
  · exact .pure ()

/-- A campaign begins with the same notice, which leaves the files. -/
theorem exists_announced (hw : Shadows allowed w w') (corpus : String) (folders : List Path) :
    ∃ announced announced', (announce corpus folders).exec w = (.ok ⟨⟩, announced) ∧
      (announce corpus folders).exec w' = (.ok ⟨⟩, announced') ∧ announced.files = w.files ∧
      announced'.files = w'.files ∧ Shadows allowed announced announced' := by
  obtain ⟨announced, hannounce, hfiles⟩ := exec_announce corpus folders w
  obtain ⟨announced', hannounce', hfiles'⟩ := exec_announce corpus folders w'
  have hannounces : (announce corpus folders).Lockstep (Beside (Shadows allowed) fun _ _ => True) :=
    lockstep_announce corpus (unmoved_shadows allowed) folders
  have hbegun := (hannounces w w' ⟨hw, trivial⟩).2
  rw [hannounce, hannounce'] at hbegun
  exact ⟨announced, announced', hannounce, hannounce', hfiles, hfiles', hbegun.same⟩

/-- Mutants are generated alike, and what differs stays and does not matter to the workers. -/
theorem beside_prepareSeeds
    (hreports : SameButReports
      (campaign.tasks tool (Corpus.folders w.files (Path.ofString corpus))) w.files w'.files)
    (hw : Shadows allowed w w')
    (hready : (campaign.prepareSeeds (Corpus.folders w.files (Path.ofString corpus))).exec w =
      (.ok counts, ready)) :
    ∃ ready', (campaign.prepareSeeds (Corpus.folders w.files (Path.ofString corpus))).exec w' =
        (.ok counts, ready') ∧
      Beside (Shadows allowed) (FileSystem.AlikeBut (Differ w.files w'.files)) ready ready' ∧
      Inert (campaign.adapter tool)
        (campaign.tasks tool (Corpus.folders w.files (Path.ofString corpus)))
        (Differ w.files w'.files) ready.files := by
  have hconcur := hreports.concur
  have hinert := hreports.inert
  have hlisted : (Corpus.folders w.files (Path.ofString corpus)).flatMap (Corpus.seeds w'.files) =
      (Corpus.folders w.files (Path.ofString corpus)).flatMap (Corpus.seeds w.files) :=
    List.flatMap_congr fun folder _ => by
      unfold Corpus.seeds
      rw [hreports.sources_eq]
  generalize Corpus.folders w.files (Path.ofString corpus) = folders at *
  have hprepared := campaign.lockstep_prepareSeeds (unmoved_shadows allowed) ⟨hw, hconcur⟩ hlisted
    fun seed hseed => ⟨hseed, (hconcur.homes seed hseed).elim fun _ hcommon => hcommon.isAbsolute⟩
  have hbefore := campaign.sameDirectories_prepareSeeds folders w
  have hbefore' := campaign.sameDirectories_prepareSeeds folders w'
  rw [hready] at hprepared hbefore
  rcases hrun : (campaign.prepareSeeds folders).exec w' with ⟨answer, ready'⟩
  rw [hrun] at hprepared hbefore'
  obtain ⟨hanswer, hafter⟩ := hprepared
  obtain rfl : answer = .ok counts := hanswer
  refine ⟨ready', rfl, ⟨hafter.same, ?_, fun l hl => hafter.files.agree l hl⟩, hinert.clear,
    hinert.sources, fun task htask hl => ?_⟩
  · exact (hbefore.symm.trans hreports.directories).trans hbefore'
  · exact hbefore.locate_eq_ok_iff.mpr (hinert.ways task htask hl)

/-- Up to the start of the workers a campaign does the same, and leaves the difference. -/
theorem beside_ready
    (hreports : SameButReports
      (campaign.tasks tool (Corpus.folders w.files (Path.ofString corpus))) w.files w'.files)
    (hw : Shadows allowed w w') (hready : (announce corpus (Corpus.folders w.files
      (Path.ofString corpus)) >>= fun _ => campaign.prepareSeeds (Corpus.folders w.files
        (Path.ofString corpus))).exec w = (.ok counts, ready)) :
    ∃ ready', (announce corpus (Corpus.folders w'.files (Path.ofString corpus)) >>= fun _ =>
        campaign.prepareSeeds (Corpus.folders w'.files (Path.ofString corpus))).exec w' =
          (.ok counts, ready') ∧
      Beside (Shadows allowed) (FileSystem.AlikeBut (Differ w.files w'.files)) ready ready' ∧
      Inert (campaign.adapter tool)
        (campaign.tasks tool (Corpus.folders w.files (Path.ofString corpus)))
        (Differ w.files w'.files) ready.files := by
  rw [hreports.folders_eq]
  obtain ⟨announced, announced', hannounce, hannounce', hfiles, hfiles', hbegun⟩ :=
    exists_announced hw corpus (Corpus.folders w.files (Path.ofString corpus))
  rw [Action.exec_bind_of_ok hannounce] at hready
  rw [Action.exec_bind_of_ok hannounce']
  rw [← hfiles, ← hfiles'] at hreports
  rw [← hfiles] at hready
  have hprepared := beside_prepareSeeds hreports hbegun hready
  rwa [hfiles, hfiles'] at hprepared

/-- Mutants are generated in any world. -/
theorem exists_ready (campaign : Campaign) (corpus : String) (folders : List Path) (w : World) :
    ∃ counts ready, (announce corpus folders >>= fun _ => campaign.prepareSeeds folders).exec w =
      (.ok counts, ready) := by
  obtain ⟨announced, hannounce, -⟩ := exec_announce corpus folders w
  obtain ⟨counts, ready, hprepare⟩ := campaign.total_prepareSeeds folders announced
  exact ⟨counts, ready, by rw [Action.exec_bind_of_ok hannounce, hprepare]⟩

/-- A campaign whose tasks are worked off one at a time does the same, whatever reports differ, and
leaves the same world. -/
theorem executeBy_eq_of_reports {schedule : Nat → List Turn} (hlive : campaign.cancelled = false)
    (hcovers : ∀ tasks, Covers tasks (schedule tasks)) (hcalm : ∀ tasks, .cancel ∉ schedule tasks)
    (hreports : SameButReports
      (campaign.tasks tool (Corpus.folders w.files (Path.ofString corpus))) w.files w'.files)
    (hw : Shadows (Child.Avoids (Differ w.files w'.files)) w w') :
    (campaign.executeBy schedule tool corpus).exec w' =
      (campaign.executeBy schedule tool corpus).exec w := by
  obtain ⟨counts, ready, hready⟩ :=
    campaign.exists_ready corpus (Corpus.folders w.files (Path.ofString corpus)) w
  obtain ⟨ready', hready', hbeside, hinert⟩ := beside_ready hreports hw hready
  have hcarry := campaign.exec_carryOut_of_ready tool corpus schedule hready
  have hcarry' := campaign.exec_carryOut_of_ready tool corpus schedule hready'
  rw [hreports.folders_eq, hlive] at hcarry'
  rw [hlive] at hcarry
  have hdesks := campaign.desk_not_source tool w.files corpus
  have hdesk : ∀ l, Differ w.files w'.files l →
      ∃ task ∈ campaign.tasks tool (Corpus.folders w.files (Path.ofString corpus)), l = task.desk :=
    fun l hl => (hreports.exists_desk hl).imp fun _ htask => ⟨htask.1, htask.2.2⟩
  generalize campaign.tasks tool (Corpus.folders w.files (Path.ofString corpus)) = tasks at *
  obtain ⟨pool, v, v', hfollow, hfollow', hafter⟩ :=
    shadow_follow hdesks (fun _ h => h) (schedule tasks.length)
      (rfl : (Pool.start false).cancelled = false) (hcalm _) (hinert.mono fun _ hl => hl.1)
      ⟨hbeside.same, hbeside.files.mono fun _ hl => ⟨hl, nofun⟩⟩
  obtain ⟨_, _, hreached, hreaches⟩ :=
    Pool.exec_follow (campaign.adapter tool) tasks (schedule tasks.length) (Pool.start false) ready
  obtain ⟨rfl, -⟩ := Action.answer_inj (hfollow.symm.trans hreached)
  -- Each task was taken up, so each report that differed was removed.
  have hsame : v' = v := by
    refine hafter.same.twins.eq (hafter.files.eq fun l hl => ?_)
    obtain ⟨task, htask, hplace⟩ := hdesk l hl.1
    obtain ⟨number, hnumber⟩ := List.mem_iff_getElem?.mp htask
    have hbound : number < tasks.length := (List.getElem?_eq_some_iff.mp hnumber).1
    have hwork := (hcovers tasks.length number hbound).subset List.mem_cons_self
    exact hl.2 number task (hreaches.took (.inr ⟨hwork, hbound⟩)) hnumber hplace
  subst hsame
  have hsame : (campaign.carryOut schedule tool corpus).exec w' =
      (campaign.carryOut schedule tool corpus).exec w := by
    rw [hcarry, hcarry']
    unfold invokeAll
    rw [bind_assoc, Action.exec_bind_of_ok hfollow, Action.exec_bind_of_ok hfollow']
  rw [executeBy_eq, Action.exec_bind, Action.exec_bind, hsame]

/-- Fieldwork with a crew can be done the same, whatever reports differ, and leaves the same
world. -/
theorem exists_fielded_of_reports
    (hreports : SameButReports
      (campaign.tasks tool (Corpus.folders w.files (Path.ofString corpus))) w.files w'.files)
    (hw : w.Twins w') (h : campaign.Fielded workers false tool corpus w trace work field)
    (hscripted : ∀ event ∈ trace, event.Scripted (Differ w.files w'.files)) :
    ∃ trace', campaign.Fielded workers false tool corpus w' trace' work field ∧
      List.Forall₂ Event.Alike trace trace' := by
  obtain ⟨counts, ready, crew, hready, hcrew, hfinished, rfl⟩ := h
  have hshadows : Shadows anyChild w w' := ⟨hw, fun _ _ => trivial⟩
  obtain ⟨ready', hready', hbeside, hinert⟩ := beside_ready hreports hshadows hready
  have hdesks := campaign.desk_not_source tool w.files corpus
  have hstart : Followed (campaign.adapter tool)
      (campaign.tasks tool (Corpus.folders w.files (Path.ofString corpus)))
      (Differ w.files w'.files) (Crew.start false
        (campaign.tasks tool (Corpus.folders w.files (Path.ofString corpus)))) ready ready' := by
    refine ⟨rfl, ⟨hbeside.same, hbeside.files.mono fun l hl => ⟨hl, ?_⟩⟩, hinert⟩
    intro number task stage _ hstage hcleared
    obtain rfl : stage = .queued := List.eq_of_mem_replicate (List.mem_of_getElem? hstage)
    exact nomatch hcleared
  obtain ⟨trace', field', hcrew', halike, hfollowed⟩ := hstart.run hdesks hcrew hscripted
  obtain rfl : field' = field := hfollowed.eq (Traced.of_run hcrew) hfinished fun l hl =>
    (hreports.exists_desk hl).imp fun _ htask => ⟨htask.1, htask.2.2⟩
  refine ⟨trace', ⟨counts, ready', crew, hready', ?_, hfinished, ?_⟩, halike⟩
  · rw [hreports.folders_eq]
    exact hcrew'
  · rw [hreports.folders_eq]

/-- Processes that write their own reports at most write through no other. -/
theorem Fielded.scripted
    (hreports : SameButReports
      (campaign.tasks tool (Corpus.folders w.files (Path.ofString corpus))) w.files w'.files)
    (h : campaign.Fielded workers false tool corpus w trace work field)
    (hregular : ∀ event ∈ trace, event.Regular (campaign.tasks tool work.folders)) :
    ∀ event ∈ trace, event.Scripted (Differ w.files w'.files) := by
  obtain ⟨counts, ready, crew, -, hcrew, -, rfl⟩ := h
  exact scripted_of_regular hcrew
    (fun task htask l hl => hreports.inert.clear task htask l (.inl hl)) hregular

end Runs

end Campaign

/-! ## Deleted reports -/

/-- What is left of files when reports of tasks are deleted: any of them, or none. -/
def Thinned (tasks : List Task) (fs thin : FileSystem) : Prop :=
  ∀ l, thin.find? l = fs.find? l ∨ thin.find? l = none ∧
    (∃ content, fs.find? l = some (.file content)) ∧ ∃ task ∈ tasks, fs.locate task.report = .ok l

section Thinned

variable {tasks : List Task} {task : Task} {fs thin : FileSystem} {loc l : Location}
  {content : Bytes}

theorem Thinned.sameButReports (h : Thinned tasks fs thin) : SameButReports tasks fs thin where
  directories l := by
    rcases h l with hsame | ⟨hgone, ⟨content, hfound⟩, -⟩
    · rw [hsame]
    · rw [hgone, hfound]
      exact ⟨nofun, nofun⟩
  reports l hl := ((h l).resolve_left hl).2.2

theorem thinned_erase (htask : task ∈ tasks) (hlocate : fs.locate task.report = .ok loc)
    (hfound : fs.find? loc = some (.file content)) : Thinned tasks fs (fs.erase loc) := by
  intro l
  rw [FileSystem.find?_erase_file hfound]
  split
  · next hl => exact .inr ⟨rfl, ⟨content, hl ▸ hfound⟩, task, htask, hl ▸ hlocate⟩
  · exact .inl rfl

theorem differ_erase (hfound : fs.find? loc = some (.file content)) (h : Differ fs (fs.erase loc) l) :
    l = loc := by
  by_contra hl
  rw [Differ, FileSystem.find?_erase_file hfound, if_neg hl] at h
  exact h rfl

end Thinned

/-- Reports of an earlier campaign do not matter, where files can be removed, as they can in a
`FileSystem`. If any of those that lie where a campaign that is not cancelled is going to have its
reports are deleted, then it has the same answer, a summary or a fault, and leaves the same world:
files, findings, failures, and all else. So it is with every schedule of its tasks and with every
interleaving of a crew, whatever its processes write and however they end, if only none of them
writes through a deleted report as though it were a directory. -/
theorem old_reports_inert (campaign : Campaign) (tool : Tool) (corpus : String) (w w' : World)
    (hlive : campaign.cancelled = false) (htwins : w.Twins w')
    (hthin : Thinned (campaign.tasks tool (Corpus.folders w.files (Path.ofString corpus))) w.files
      w'.files) :
    (∀ schedule : Nat → List Turn,
      (∀ tasks, Covers tasks (schedule tasks) ∧ .cancel ∉ schedule tasks) →
      (∀ child ∈ w.script, child.Avoids (Differ w.files w'.files)) →
        (campaign.executeBy schedule tool corpus).exec w' =
          (campaign.executeBy schedule tool corpus).exec w) ∧
    ∀ workers work field,
      (∀ trace, campaign.Fielded workers false tool corpus w trace work field →
        (∀ event ∈ trace, event.Scripted (Differ w.files w'.files)) →
          ∃ trace', campaign.Fielded workers false tool corpus w' trace' work field ∧
            List.Forall₂ Event.Alike trace trace') ∧
      ∀ trace', campaign.Fielded workers false tool corpus w' trace' work field →
        (∀ event ∈ trace', event.Scripted (Differ w.files w'.files)) →
          ∃ trace, campaign.Fielded workers false tool corpus w trace work field ∧
            List.Forall₂ Event.Alike trace' trace := by
  have hreports := hthin.sameButReports
  refine ⟨fun schedule hschedule hscript => ?_, fun workers work field => ⟨?_, ?_⟩⟩
  · exact Campaign.executeBy_eq_of_reports hlive (fun tasks => (hschedule tasks).1)
      (fun tasks => (hschedule tasks).2) hreports ⟨htwins, hscript⟩
  · exact fun trace hfielded hscripted =>
      Campaign.exists_fielded_of_reports hreports htwins hfielded hscripted
  · intro trace' hfielded hscripted
    have hback : SameButReports
        (campaign.tasks tool (Corpus.folders w'.files (Path.ofString corpus))) w'.files w.files := by
      rw [hreports.folders_eq]
      exact hreports.symm
    have hdiffer : Differ w'.files w.files = Differ w.files w'.files :=
      funext fun _ => propext ne_comm
    exact Campaign.exists_fielded_of_reports hback htwins.symm hfielded (hdiffer ▸ hscripted)

/-! ## An analyzer that is gone -/

/-- Two folders, and an old report on the first one with a finding. The analyzer is gone when that
one is scanned, and is back for the other. -/
def resumedWorld : World :=
  let files := do
    let fs ← FileSystem.initial.ensureDirectories (Path.ofString "/tmp/w/seeds/a")
    let fs ← fs.ensureDirectories (Path.ofString "/tmp/w/seeds/b")
    let fs ← fs.ensureDirectories (Path.ofString "/tmp/w/results/pmd")
    fs.write (Path.ofString "/tmp/w/results/pmd/a.json") oneFinding
  { World.initial with
    files := files.toOption.getD .initial
    script := [gone, ⟨[(Path.ofString "/tmp/w/results/pmd/b.json", oneFinding)], .exited 4⟩] }

/-- The old report is not taken for that of this run, with its process gone or deleted beforehand. -/
theorem old_report_resumedWorld :
    let campaign : Campaign := ⟨{ Settings.initial with mutation := false }, false⟩
    let tasks := campaign.tasks .pmd (Corpus.folders resumedWorld.files (Path.ofString "seeds"))
    let thin := resumedWorld.files.erase ["tmp", "w", "results", "pmd", "a.json"]
    campaign.cancelled = false ∧
    Thinned tasks resumedWorld.files thin ∧
    Differ resumedWorld.files thin ["tmp", "w", "results", "pmd", "a.json"] ∧
    (∀ child ∈ resumedWorld.script, child.Avoids (Differ resumedWorld.files thin)) ∧
    (campaign.executeBy inOrder .pmd "seeds").exec { resumedWorld with files := thin } =
      (campaign.executeBy inOrder .pmd "seeds").exec resumedWorld ∧
    ((campaign.executeBy inOrder .pmd "seeds").exec resumedWorld).1.toOption.map
      (fun s => (s.launched, s.totalViolations)) = some (1, 1) ∧
    ∃ trace trace' work field,
      campaign.Fielded 1 false .pmd "seeds" resumedWorld trace work field ∧
      (∀ event ∈ trace, event.Scripted (Differ resumedWorld.files thin)) ∧
      campaign.Fielded 1 false .pmd "seeds" { resumedWorld with files := thin } trace' work
        field ∧
      List.Forall₂ Event.Alike trace trace' := by
  intro campaign tasks thin
  have hold : resumedWorld.files.find? ["tmp", "w", "results", "pmd", "a.json"] =
      some (.file oneFinding) := by
    decide +kernel
  have hthin : Thinned tasks resumedWorld.files thin := by
    have htask : (⟨0, Path.ofString "/tmp/w/seeds/a", Path.ofString "/tmp/w/results/pmd/a.json"⟩ :
        Task) ∈ tasks := by
      decide +kernel
    have hlocate : resumedWorld.files.locate (Path.ofString "/tmp/w/results/pmd/a.json") =
        .ok ["tmp", "w", "results", "pmd", "a.json"] := by
      decide +kernel
    exact thinned_erase htask hlocate hold
  have hscript : ∀ child ∈ resumedWorld.script, child.Avoids (Differ resumedWorld.files thin) := by
    have hways : ∀ child ∈ resumedWorld.script, ∀ write ∈ child.writes,
        ["tmp", "w", "results", "pmd", "a.json"] ∉ write.1.parent.trail := by
      decide +kernel
    intro child hchild write hwrite l hl hdiffer
    exact hways child hchild write hwrite (differ_erase hold hdiffer ▸ hl)
  have hplayed : (campaign.playOut .pmd "seeds" 1 (alone 0 gone ++ alone 1 ⟨[(Path.ofString
      "/tmp/w/results/pmd/b.json", oneFinding)], .exited 4⟩) resumedWorld).map
        (fun (trace, work, _) => trace.all (Event.writesOwn (campaign.tasks .pmd work.folders))) =
      some true := by
    decide +kernel
  obtain ⟨⟨trace, work, field⟩, hplay, hown⟩ := Option.map_eq_some_iff.mp hplayed
  obtain ⟨hfielded, hregular⟩ := Campaign.fielded_of_playOut hplay
  have hinert := old_reports_inert campaign .pmd "seeds" resumedWorld
    { resumedWorld with files := thin } rfl rfl hthin
  have hreports : SameButReports
      (campaign.tasks .pmd (Corpus.folders resumedWorld.files (Path.ofString "seeds")))
      resumedWorld.files { resumedWorld with files := thin }.files := hthin.sameButReports
  have hscripted := hfielded.scripted hreports (hregular hown)
  obtain ⟨trace', hfielded', halike⟩ := (hinert.2 1 work field).1 trace hfielded hscripted
  refine ⟨rfl, hthin, ?_, hscript, hinert.1 inOrder
    (fun tasks => ⟨covers_inOrder tasks, cancel_not_mem_inOrder tasks⟩) hscript, by decide +kernel,
    trace, trace', work, field, hfielded, hscripted, hfielded', halike⟩
  intro hsame
  rw [hold] at hsame
  revert hsame
  decide +kernel

/-! ## A process that needs a directory -/

/-- Two folders, and an old report on the second one. The process for the first one writes a file
into a directory of that name. -/
def blockedWorld : World :=
  let files := do
    let fs ← FileSystem.initial.ensureDirectories (Path.ofString "/tmp/w/seeds/a")
    let fs ← fs.ensureDirectories (Path.ofString "/tmp/w/seeds/b")
    let fs ← fs.ensureDirectories (Path.ofString "/tmp/w/results/pmd")
    fs.write (Path.ofString "/tmp/w/results/pmd/b.json") "\x7b\x7d".toUTF8.data.toList
  { World.initial with
    files := files.toOption.getD .initial
    script := [⟨[(Path.ofString "/tmp/w/results/pmd/b.json/x", [])], .exited 0⟩] }

/-- The old report is in the way of that process. If it is deleted, the process makes the directory,
and then that is in the way of the report. So different failures are recorded. -/
theorem old_report_in_the_way :
    ¬ ∀ (campaign : Campaign) (tool : Tool) (corpus : String) (w w' : World),
      campaign.cancelled = false → w.Twins w' →
        Thinned (campaign.tasks tool (Corpus.folders w.files (Path.ofString corpus))) w.files
          w'.files →
          (campaign.execute tool corpus).exec w' = (campaign.execute tool corpus).exec w := by
  intro hall
  have hold : blockedWorld.files.find? ["tmp", "w", "results", "pmd", "b.json"] =
      some (.file "\x7b\x7d".toUTF8.data.toList) := by
    decide +kernel
  have htask : (⟨1, Path.ofString "/tmp/w/seeds/b", Path.ofString "/tmp/w/results/pmd/b.json"⟩ :
      Task) ∈ Campaign.tasks ⟨{ Settings.initial with mutation := false }, false⟩ .pmd
        (Corpus.folders blockedWorld.files (Path.ofString "seeds")) := by
    decide +kernel
  have hlocate : blockedWorld.files.locate (Path.ofString "/tmp/w/results/pmd/b.json") =
      .ok ["tmp", "w", "results", "pmd", "b.json"] := by
    decide +kernel
  have hsame := hall ⟨{ Settings.initial with mutation := false }, false⟩ .pmd "seeds" blockedWorld
    { blockedWorld with
      files := blockedWorld.files.erase ["tmp", "w", "results", "pmd", "b.json"] }
    rfl rfl (thinned_erase htask hlocate hold)
  have hledger := congrArg (fun run => run.2.ledger.tools) hsame
  revert hledger
  decide +kernel

end Crosscheck.Analysis
