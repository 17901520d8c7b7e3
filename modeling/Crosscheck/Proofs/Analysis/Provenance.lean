import Crosscheck.Proofs.Analysis.Evaluation
import Crosscheck.Proofs.Analysis.Independence
import Crosscheck.Proofs.Mutation.Records
/-!
# Where the mutants that are compared come from

Mutants are compared by their names: every source that is read back as a mutant is compared with the
seed that it is read back as. Nothing else tells whether it was generated. What can be said of a
campaign that removes old mutants is this: if the seed of a mutant is one of the seeds of the
campaign, and the mutant was a file when everything had been generated, then it was generated, and
from that seed (`inconsistent_mutant_generated`). Mutants of seeds that are not there are neither
removed nor generated, and are compared all the same (`inconsistent_orphan`).
-/

namespace Crosscheck.Analysis

open Crosscheck.Configuration Crosscheck.Files Crosscheck.Mutation Crosscheck.Variation

/-- What becomes of the files when the mutants of all seeds in a corpus are generated. -/
abbrev RecordedIn (corpus : String) (cleanup : Bool) (before : FileSystem) (made : List Mutant)
    (after : FileSystem) : Prop :=
  Recorded cleanup before
    ((Corpus.folders before (Path.ofString corpus)).flatMap (Corpus.seeds before)) made after

namespace Campaign

/-- What a campaign generates on a corpus: the records of the mutants. -/
def recordCorpus (campaign : Campaign) (corpus : String) : Action (List Mutant) := do
  let fs ← Action.files
  let folders := Corpus.folders fs (Path.ofString corpus)
  announce corpus folders
  campaign.recordAll (transformsOf Catalog.standard.rules) (folders.flatMap (Corpus.seeds fs))

section Records

variable {campaign : Campaign} {workers : Nat} {called : Bool} {tool : Tool} {corpus : String}
  {w ready field : World} {trace : List Event} {work : Fieldwork} {made : List Mutant}

/-- Fieldwork with new mutants begins with their generation. -/
theorem Fielded.recordCorpus (hmutation : campaign.settings.mutation = true)
    (h : campaign.Fielded workers called tool corpus w trace work field) :
    ∃ made ready crew, (campaign.recordCorpus corpus).exec w = (.ok made, ready) ∧
      work.mutants = made.length ∧
      Crew.Run (campaign.adapter tool) (campaign.tasks tool work.folders) workers
        (Crew.start called (campaign.tasks tool work.folders), ready) trace (crew, field) := by
  obtain ⟨counts, ready, crew, hprepare, hcrew, -, rfl⟩ := h
  obtain ⟨announced, hannounce, hfiles⟩ :=
    exec_announce corpus (Corpus.folders w.files (Path.ofString corpus)) w
  unfold Campaign.recordCorpus
  dsimp only at *
  rw [Action.exec_bind_of_ok (Action.exec_files w), Action.exec_bind_of_ok hannounce]
  rw [Action.exec_bind_of_ok hannounce] at hprepare
  unfold prepareSeeds mutateSeeds mutateSeedsBy at hprepare
  rw [hmutation] at hprepare
  simp only [if_true] at hprepare
  rw [Action.exec_bind_of_ok (Action.exec_files _), hfiles, Action.exec_bind_pure,
    exec_mutateAll] at hprepare
  rcases hrecord : (campaign.recordAll (transformsOf Catalog.standard.rules)
    ((Corpus.folders w.files (Path.ofString corpus)).flatMap (Corpus.seeds w.files))).exec
      announced with ⟨fault | made, after⟩
  · rw [hrecord] at hprepare
    exact nomatch hprepare
  · rw [hrecord] at hprepare
    obtain ⟨rfl, rfl⟩ := Action.answer_inj hprepare
    exact ⟨made, after, crew, rfl, rfl, hcrew⟩

/-- The records of what a campaign that is not cancelled generates. -/
theorem recorded_recordCorpus (huncancelled : campaign.cancelled = false)
    (h : (campaign.recordCorpus corpus).exec w = (.ok made, ready)) :
    RecordedIn corpus campaign.settings.cleanup w.files made ready.files := by
  have hseeds : ∀ seed ∈ (Corpus.folders w.files (Path.ofString corpus)).flatMap
      (Corpus.seeds w.files), seed.isAbsolute = true := by
    intro seed hseed
    obtain ⟨folder, hfolder, hmem⟩ := List.mem_flatMap.mp hseed
    exact (Corpus.clean_of_mem_sources hfolder (List.mem_of_mem_filter hmem)).2
  unfold Campaign.recordCorpus at h
  unfold RecordedIn
  rw [Action.exec_bind_of_ok (Action.exec_files w)] at h
  generalize Corpus.folders w.files (Path.ofString corpus) = folders at *
  obtain ⟨announced, hannounce, hfiles⟩ := exec_announce corpus folders w
  obtain ⟨made', ready', hrun, hrecorded⟩ :=
    exec_recordAll huncancelled (transformsOf Catalog.standard.rules) hseeds announced
  rw [Action.exec_bind_of_ok hannounce, hrun] at h
  obtain ⟨rfl, rfl⟩ := Action.answer_inj h
  exact hfiles ▸ hrecorded

end Records

end Campaign

/-! ## Records in a corpus -/

section Records

variable {fs after : FileSystem} {corpus : String} {cleanup : Bool} {made : List Mutant}
  {folder seed mutant : Path} {m : Mutant}

/-- A mutant that was recorded stands beside its seed, in the folder of the seed. -/
theorem exists_below_of_record (h : RecordedIn corpus cleanup fs made after) (hm : m ∈ made) :
    ∃ folder ∈ Corpus.folders fs (Path.ofString corpus), m.seed ∈ Corpus.seeds fs folder ∧
      ∃ rel, Corpus.Below folder m.seed rel ∧ ∃ number : Nat, m.path = mutantPath m.seed number ∧
        Corpus.Below folder m.path (rel.dropLast ++ [mutantName m.seed number]) := by
  obtain ⟨hseed, -, number, hpath⟩ := h.record m hm
  obtain ⟨folder, hfolder, hmem⟩ := List.mem_flatMap.mp hseed
  obtain ⟨rel, hbelow, -⟩ := Corpus.exists_below_of_mem_sources (List.mem_of_mem_filter hmem)
  refine ⟨folder, hfolder, hmem, rel, hbelow, number, hpath, ?_⟩
  rw [hpath]
  exact hbelow.mutantPath (Corpus.isAbsolute_of_mem_folders hfolder) number

/-- A mutant of a seed of the corpus that is a file after a cleanup and a generation is recorded,
with that seed, if the name of the seed stands for itself in a pattern. -/
theorem exists_record_of_mutant {listed : FileSystem} (h : RecordedIn corpus true fs made after)
    (hfolder : folder ∈ Corpus.folders fs (Path.ofString corpus))
    (hmutant : mutant ∈ Corpus.mutants listed folder) (hof : seedOf mutant = some seed)
    (hseed : seed ∈ (Corpus.folders fs (Path.ofString corpus)).flatMap (Corpus.seeds fs))
    (hplain : Wildcard.Plain seed.name.toList) (hfile : after.isFile mutant = true) :
    ∃ m ∈ made, m.path = mutant ∧ m.seed = seed := by
  have habsolute := Corpus.isAbsolute_of_mem_folders hfolder
  obtain ⟨rel, hbelow, hsuffix⟩ :=
    Corpus.exists_below_of_mem_sources (List.mem_of_mem_filter hmutant)
  obtain ⟨front, hrel, hbelow', -⟩ := Corpus.exists_below_of_seedOf hbelow hsuffix hof
  have hbeside := Corpus.sibling_of_seedOf hbelow hsuffix hof
  have hliteral : IsLiteral seed := ⟨hbelow'.isName_name, hplain⟩
  obtain ⟨l, content, hl, hfound⟩ := FileSystem.isFile_iff.mp hfile
  have hbefore : fs.locate mutant = .ok l := h.directories.locate_eq_ok_iff.mp hl
  have hoffspring : IsOffspring fs seed l := by
    rw [hbeside] at hbefore hof
    exact isOffspring_of_locate (hbelow'.isAbsolute habsolute) hbelow.isName_name hbefore hof
  -- A file in the place of a mutant of the seed is left by no cleanup, so it was recorded.
  have hrecord : ∃ m ∈ made, fs.locate m.path = .ok l := by
    by_contra hnone
    push Not at hnone
    exact (h.old l content hfound hnone).2 rfl seed hseed hliteral hoffspring
  obtain ⟨m, hm, hthere⟩ := hrecord
  obtain ⟨folder', hfolder', hmem, rel', hhome, number, hpath, hbelow''⟩ :=
    exists_below_of_record h hm
  have hsame : m.path = mutant := Corpus.eq_of_location hfolder' hfolder hbelow'' hbelow
    ((FileSystem.locate_eq_location hthere).symm.trans (FileSystem.locate_eq_location hbefore))
  obtain ⟨-, -, hend⟩ := Corpus.exists_below_of_mem_sources (List.mem_of_mem_filter hmem)
  rw [← hsame, hpath] at hof
  exact ⟨m, hm, hsame, (eq_of_seedOf_mutantPath
    (hhome.isAbsolute (Corpus.isAbsolute_of_mem_folders hfolder'))
    hhome.isName_name (Corpus.getLast?_ne_dot hend) hof).symm⟩

end Records

/-- In a campaign that generates mutants after a cleanup, and is not cancelled by then, every
inconsistency is between a source that is listed as a mutant in the end and the seed that it is read
back as. If that seed was there in the beginning, and is no mutant itself, then it is one of the
seeds of the campaign; and if its name stands for itself in a pattern, and the mutant was a file
when everything had been generated, then the mutant was generated from that seed. The cleanup can
remove every file here: a `FileSystem` knows no permissions. -/
theorem inconsistent_mutant_generated {campaign : Campaign} {workers : Nat} {called : Bool}
    {tool : Tool} {corpus : String} {w field : World} {trace : List Event} {work : Fieldwork}
    (hfielded : campaign.Fielded workers called tool corpus w trace work field)
    (hmutation : campaign.settings.mutation = true) (hcleanup : campaign.settings.cleanup = true)
    (huncancelled : campaign.cancelled = false) {summary : Summary} {after : World}
    (hevaluate : (work.evaluate tool).exec field = (.ok summary, after)) :
    ∃ made ready, (campaign.recordCorpus corpus).exec w = (.ok made, ready) ∧
      work.mutants = made.length ∧
      ∀ i ∈ summary.inconsistencies, ∃ seed mutant, seedOf mutant = some seed ∧
        i.seed = seed.render ∧ i.mutant = mutant.render ∧
        mutant ∈ work.folders.flatMap (Corpus.mutants field.files) ∧
        (w.files.isPresent seed = true → isMutant seed = false →
          seed ∈ work.folders.flatMap (Corpus.seeds w.files) ∧
          (Wildcard.Plain seed.name.toList → ready.files.isFile mutant = true →
            ∃ m ∈ made, m.path = mutant ∧ m.seed = seed)) := by
  obtain ⟨made, ready, crew, hgenerates, hcount, -⟩ := hfielded.recordCorpus hmutation
  have hrecorded := Campaign.recorded_recordCorpus huncancelled hgenerates
  rw [hcleanup] at hrecorded
  have hfolders := hfielded.folders_eq.1
  refine ⟨made, ready, hgenerates, hcount, fun i hi => ?_⟩
  obtain ⟨folder, hfolder, mutant, hmutant, seed, hof, hseedText, hmutantText, -⟩ :=
    exists_of_mem_inconsistencies hfolders hevaluate hi
  have hlisted := List.mem_flatMap_of_mem hfolder hmutant
  refine ⟨seed, mutant, hof, hseedText, hmutantText, hlisted, fun hpresent hnot => ?_⟩
  rw [hfolders] at hfolder ⊢
  have hseed := List.mem_flatMap_of_mem hfolder
    (Corpus.mem_seeds_of_seedOf hfolder hmutant hof hpresent hnot)
  exact ⟨hseed, fun hplain hfile =>
    exists_record_of_mutant hrecorded hfolder hmutant hof hseed hplain hfile⟩

/-- A folder with a seed for one mutant, and a mutant that is left over. -/
def staleWorld : World :=
  let files := do
    let fs ← FileSystem.initial.ensureDirectories (Path.ofString "/tmp/w/seeds/a")
    let fs ← fs.write (Path.ofString "/tmp/w/seeds/a/A.java")
      "class A \x7b void f() \x7b if (a) b(); \x7d \x7d".toUTF8.data.toList
    fs.write (Path.ofString "/tmp/w/seeds/a/A_iter9.java") []
  { World.initial with files := files.toOption.getD .initial }

/-- A run on that folder: the analyzer finds something in the seed alone, and nobody else changes
the files. -/
theorem exists_fielded_staleWorld :
    let campaign : Campaign := ⟨Settings.initial, false⟩
    ∃ trace work field made ready summary after,
      campaign.Fielded 1 false .pmd "seeds" staleWorld trace work field ∧
      (∀ before after, Event.interfere before after ∈ trace → after.files = before.files) ∧
      (campaign.recordCorpus "seeds").exec staleWorld = (.ok made, ready) ∧
      (work.evaluate .pmd).exec field = (.ok summary, after) ∧
      (work.folders.flatMap (Corpus.seeds staleWorld.files)).map Path.name = ["A.java"] ∧
      made.map (fun m => (m.seed.render, m.path.render)) =
        [("/tmp/w/seeds/a/A.java", "/tmp/w/seeds/a/A_iter1.java")] ∧
      summary.inconsistencies.map (fun i => (i.seed, i.mutant)) =
        [("/tmp/w/seeds/a/A.java", "/tmp/w/seeds/a/A_iter1.java")] := by
  intro campaign
  have hplayed : (campaign.playOut .pmd "seeds" 1 (alone 0 telling) staleWorld).map
      (fun (trace, work, field) => (trace.all (Event.writesOwn (campaign.tasks .pmd work.folders)),
        (work.folders.flatMap (Corpus.seeds staleWorld.files)).map Path.name,
        ((work.evaluate .pmd).exec field).1.toOption.map fun summary =>
          summary.inconsistencies.map fun i => (i.seed, i.mutant))) =
      some (true, ["A.java"],
        some [("/tmp/w/seeds/a/A.java", "/tmp/w/seeds/a/A_iter1.java")]) := by
    decide +kernel
  have hrecords : ((campaign.recordCorpus "seeds").exec staleWorld).1.toOption.map
      (List.map fun m => (m.seed.render, m.path.render)) =
        some [("/tmp/w/seeds/a/A.java", "/tmp/w/seeds/a/A_iter1.java")] := by
    decide +kernel
  obtain ⟨⟨trace, work, field⟩, hplay, hresult⟩ := Option.map_eq_some_iff.mp hplayed
  simp only [Prod.mk.injEq] at hresult
  obtain ⟨hown, hseeds, hresult⟩ := hresult
  obtain ⟨summary, hanswer, hfound⟩ := Option.map_eq_some_iff.mp hresult
  obtain ⟨made, hmade, hlisted⟩ := Option.map_eq_some_iff.mp hrecords
  obtain ⟨hfielded, hregular⟩ := Campaign.fielded_of_playOut hplay
  exact ⟨trace, work, field, made, _, summary, _, hfielded,
    fun before after hmem => (hregular hown _ hmem).1, Action.exec_of_toOption hmade,
    Action.exec_of_toOption hanswer, hseeds, hlisted, hfound⟩

/-- The mutant that is told apart is the one that was generated, and not the one that was left
over. -/
theorem generated_staleWorld :
    let campaign : Campaign := ⟨Settings.initial, false⟩
    ∃ trace work field summary after,
      campaign.Fielded 1 false .pmd "seeds" staleWorld trace work field ∧
      campaign.settings.mutation = true ∧ campaign.settings.cleanup = true ∧
      campaign.cancelled = false ∧ (work.evaluate .pmd).exec field = (.ok summary, after) ∧
      summary.inconsistencies.map (fun i => (i.seed, i.mutant)) =
        [("/tmp/w/seeds/a/A.java", "/tmp/w/seeds/a/A_iter1.java")] ∧
      ∃ made ready, (campaign.recordCorpus "seeds").exec staleWorld = (.ok made, ready) ∧
        made.map (fun m => (m.seed.render, m.path.render)) =
          [("/tmp/w/seeds/a/A.java", "/tmp/w/seeds/a/A_iter1.java")] ∧
        work.mutants = made.length ∧
        ∀ i ∈ summary.inconsistencies, ∃ seed mutant, seedOf mutant = some seed ∧
          i.seed = seed.render ∧ i.mutant = mutant.render ∧
          mutant ∈ work.folders.flatMap (Corpus.mutants field.files) ∧
          (staleWorld.files.isPresent seed = true → isMutant seed = false →
            seed ∈ work.folders.flatMap (Corpus.seeds staleWorld.files) ∧
            (Wildcard.Plain seed.name.toList → ready.files.isFile mutant = true →
              ∃ m ∈ made, m.path = mutant ∧ m.seed = seed)) := by
  intro campaign
  obtain ⟨trace, work, field, made, ready, summary, after, hfielded, -, hrecords, hevaluate, -,
    hmade, hfound⟩ := exists_fielded_staleWorld
  obtain ⟨made', ready', hgenerates, hrest⟩ :=
    inconsistent_mutant_generated hfielded rfl rfl rfl hevaluate
  obtain ⟨rfl, rfl⟩ := Action.answer_inj (hrecords.symm.trans hgenerates)
  exact ⟨trace, work, field, summary, after, hfielded, rfl, rfl, rfl, hevaluate, hfound, made,
    ready, hgenerates, hmade, hrest⟩

/-- A folder with a mutant of a seed that is not there. -/
def orphanWorld : World :=
  let files := do
    let fs ← FileSystem.initial.ensureDirectories (Path.ofString "/tmp/w/seeds/a")
    fs.write (Path.ofString "/tmp/w/seeds/a/A_iter1.java") []
  { World.initial with files := files.toOption.getD .initial }

/-- A process that leaves a report with a finding in a mutant. -/
def strayTelling : Child :=
  let violations := "[\x7b\"beginline\": 1\x7d]"
  let file := "\x7b\"filename\": \"A_iter1.java\", \"violations\": " ++ violations ++ "\x7d"
  let report := ("\x7b\"files\": [" ++ file ++ "]\x7d").toUTF8.data.toList
  ⟨[(Path.ofString "/tmp/w/results/pmd/a.json", report)], .exited 4⟩

/-- The analyzer finds something in a mutant that nobody generated. It is compared with a seed that
is no seed of the campaign. -/
theorem inconsistent_orphan :
    let campaign : Campaign := ⟨Settings.initial, false⟩
    campaign.settings.mutation = true ∧ campaign.settings.cleanup = true ∧
    ∃ trace work field made ready summary after,
      campaign.Fielded 1 false .pmd "seeds" orphanWorld trace work field ∧
      (campaign.recordCorpus "seeds").exec orphanWorld = (.ok made, ready) ∧
      (work.evaluate .pmd).exec field = (.ok summary, after) ∧
      ∃ i ∈ summary.inconsistencies,
        i.seed ∉ (work.folders.flatMap (Corpus.seeds orphanWorld.files)).map Path.render ∧
        i.mutant ∉ made.map (·.path.render) := by
  intro campaign
  have hplayed : (campaign.playOut .pmd "seeds" 1 (alone 0 strayTelling) orphanWorld).map
      (fun (trace, work, field) => (work.mutants, (work.folders.flatMap
          (Corpus.seeds orphanWorld.files)).map Path.render,
        ((work.evaluate .pmd).exec field).1.toOption.map fun summary =>
          summary.inconsistencies.map fun i => (i.seed, i.mutant))) =
      some (0, [], some [("/tmp/w/seeds/a/A.java", "/tmp/w/seeds/a/A_iter1.java")]) := by
    decide +kernel
  obtain ⟨⟨trace, work, field⟩, hplay, hresult⟩ := Option.map_eq_some_iff.mp hplayed
  simp only [Prod.mk.injEq] at hresult
  obtain ⟨hnone, hseeds, hresult⟩ := hresult
  obtain ⟨summary, hanswer, hfound⟩ := Option.map_eq_some_iff.mp hresult
  have hfielded := (Campaign.fielded_of_playOut hplay).1
  have hevaluate := Action.exec_of_toOption hanswer
  obtain ⟨made, ready, crew, hgenerates, hcount, -⟩ := hfielded.recordCorpus rfl
  obtain rfl : made = [] := List.length_eq_zero_iff.mp (hcount.symm.trans hnone)
  obtain ⟨i, hi, -⟩ := List.mem_map.mp (hfound ▸ List.mem_singleton_self _)
  refine ⟨rfl, rfl, trace, work, field, [], ready, summary, _, hfielded, hgenerates, hevaluate, i,
    hi, ?_, List.not_mem_nil⟩
  rw [hseeds]
  exact List.not_mem_nil

end Crosscheck.Analysis
