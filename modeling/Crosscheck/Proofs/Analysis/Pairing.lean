import Crosscheck.Proofs.Analysis.Provenance
import Crosscheck.Proofs.Analysis.Sparing
/-!
# Every mutant is compared once

A mutant that a campaign generates is listed again, by another walk through the folders, after the
analyzer has run. It is still there then: no seed has a claim to the mutants of another
(`not_claims_of_record`), and the crew spares sources. It is listed once, since folders do not share
sources, and its path is read back as the seed it was generated from. So it is compared once, with
its own seed (`generated_compared_once`).

This takes names that can be read back: a seed has something before its suffix, and all of its name
on one line.
-/

namespace Crosscheck.Corpus

open Crosscheck.Files Crosscheck.Mutation

/-- Whether the name of a source has something before the suffix, and no line feed. -/
def WellNamed (source : Path) : Prop :=
  source.name ≠ sourceSuffix ∧ '\n' ∉ source.name.toList

end Crosscheck.Corpus

namespace Crosscheck.Analysis

open Crosscheck.Configuration Crosscheck.Files Crosscheck.Mutation Crosscheck.Variation

/-! ## From the generation to the listing -/

section Records

variable {fs after listed : FileSystem} {corpus : String} {cleanup : Bool} {made : List Mutant}
  {m : Mutant} {l : Location}

/-- A seed that is no directory is a file. -/
theorem isFile_of_notDirectory {seed : Path}
    (hseed : seed ∈ (Corpus.folders fs (Path.ofString corpus)).flatMap (Corpus.seeds fs))
    (hkind : NotDirectory fs seed) : fs.isFile seed = true := by
  obtain ⟨folder, hfolder, hmem⟩ := List.mem_flatMap.mp hseed
  obtain ⟨loc, rel, entry, hloc, -, rfl, hfound, -⟩ :=
    Corpus.exists_of_mem_sources (List.mem_of_mem_filter hmem)
  obtain ⟨l, hl, hfree⟩ := hkind
  have hwhere : l = loc ++ rel := by
    rw [FileSystem.locate_eq_location hl, FileSystem.locate_eq_location hloc]
    exact Path.location_append (Corpus.isAbsolute_of_mem_folders hfolder) fun name hname =>
      FileSystem.isName_of_find? hfound (List.mem_append_right _ hname)
  rw [hwhere, hfound] at hfree
  cases entry with
  | directory => exact absurd rfl hfree
  | file content => exact FileSystem.isFile_iff.mpr ⟨l, content, hl, hwhere ▸ hfound⟩

/-- A mutant that was recorded is read back as one of its seed. -/
theorem seedOf_of_record (h : RecordedIn corpus cleanup fs made after) (hm : m ∈ made)
    (hline : '\n' ∉ m.seed.name.toList) : seedOf m.path = some m.seed := by
  obtain ⟨folder, hfolder, hseed, rel, hbelow, number, hpath, -⟩ := exists_below_of_record h hm
  obtain ⟨-, -, hsuffix⟩ := Corpus.exists_below_of_mem_sources (List.mem_of_mem_filter hseed)
  rw [hpath]
  exact seedOf_mutantPath (hbelow.isAbsolute (Corpus.isAbsolute_of_mem_folders hfolder))
    hbelow.isName_name (Corpus.getLast?_ne_dot hsuffix) hline number

/-- No other seed of the corpus has a claim to the place of a mutant that was recorded. -/
theorem not_claims_of_record (h : RecordedIn corpus cleanup fs made after) (hm : m ∈ made)
    (hline : '\n' ∉ m.seed.name.toList) (hl : fs.locate m.path = .ok l) {other : Path}
    (hother : other ∈ (Corpus.folders fs (Path.ofString corpus)).flatMap (Corpus.seeds fs))
    (hne : other ≠ m.seed) : ¬ Claims fs other l := by
  have hof := seedOf_of_record h hm hline
  obtain ⟨folder, hfolder, -, rel, -, number, -, hbelow⟩ := exists_below_of_record h hm
  obtain ⟨folder', hfolder', hother⟩ := List.mem_flatMap.mp hother
  obtain ⟨rel', hhome, hsuffix⟩ :=
    Corpus.exists_below_of_mem_sources (List.mem_of_mem_filter hother)
  have habsolute := hhome.isAbsolute (Corpus.isAbsolute_of_mem_folders hfolder')
  have hplace := FileSystem.locate_eq_location hl
  rintro (⟨home, name, hparent, hwhere, hread⟩ | ⟨-, k, hthere⟩)
  · -- The place is named beside the other seed, and a path there is read back as its mutant.
    have hname : isName name = true := by
      refine hbelow.names name ?_
      have hlocation := hbelow.location_eq (Corpus.isAbsolute_of_mem_folders hfolder)
      rw [← hplace, hwhere, ← List.append_assoc] at hlocation
      rw [List.singleton_inj.mp (List.append_inj' hlocation rfl).2]
      exact List.mem_append_right _ List.mem_cons_self
    have hsame : m.path = other.sibling name := by
      refine Corpus.eq_of_location hfolder hfolder' hbelow (hhome.sibling hname) ?_
      rw [← hplace, hwhere, Path.location_sibling habsolute hname,
        FileSystem.locate_eq_location hparent]
    rw [← hsame, hof] at hread
    exact hne (Option.some.inj hread).symm
  · -- The place is that of a numbered mutant of the other seed.
    have hsame : m.path = mutantPath other k :=
      Corpus.eq_of_location hfolder hfolder' hbelow
        (hhome.mutantPath (Corpus.isAbsolute_of_mem_folders hfolder') k)
        (hplace.symm.trans (FileSystem.locate_eq_location hthere))
    rw [hsame] at hof
    exact hne (eq_of_seedOf_mutantPath habsolute hhome.isName_name
      (Corpus.getLast?_ne_dot hsuffix) hof).symm

/-- A mutant that was recorded is listed in its folder once everything is generated, and as long as
sources are spared. -/
theorem mem_mutants_of_record (h : RecordedIn corpus cleanup fs made after) (hm : m ∈ made)
    (hnamed : Corpus.WellNamed m.seed)
    (hspares : Corpus.Spares (Corpus.folders fs (Path.ofString corpus)) after listed) :
    m.path ∈ (Corpus.folders fs (Path.ofString corpus)).flatMap (Corpus.mutants listed) := by
  have hof := seedOf_of_record h hm hnamed.2
  have hseeds : ((Corpus.folders fs (Path.ofString corpus)).flatMap (Corpus.seeds fs)).Nodup :=
    (Corpus.nodup_render_sources fs fs corpus _).of_map
  obtain ⟨l, hl, hstays⟩ := h.stays hseeds m hm
  obtain ⟨content, hfile⟩ := hstays fun other hother hne =>
    not_claims_of_record h hm hnamed.2 hl hother hne
  obtain ⟨folder, hfolder, hseed, rel, -, number, hpath, hbelow⟩ := exists_below_of_record h hm
  obtain ⟨-, -, hsuffix⟩ := Corpus.exists_below_of_mem_sources (List.mem_of_mem_filter hseed)
  have hname : m.path.name = mutantName m.seed number := by
    rw [hbelow.path_eq, ← List.append_assoc]
    simp [Path.name]
  have hsource : sourceSuffix.toList <:+ m.path.name.toList := by
    rw [hname]
    exact Corpus.suffix_mutantName_of_source hsuffix hnamed.1 number
  -- The folder is reached as before, and the mutant is found there on the same way.
  obtain ⟨loc, hloc⟩ := Corpus.exists_locate_of_mem_folders hfolder
  have hwhere : l = loc ++ (rel.dropLast ++ [mutantName m.seed number]) := by
    rw [FileSystem.locate_eq_location hl, FileSystem.locate_eq_location hloc,
      hbelow.location_eq (Corpus.isAbsolute_of_mem_folders hfolder)]
  have hlast : l.path.name = m.path.name := by
    rw [hname, hwhere, ← List.append_assoc]
    simp [Path.name, Location.path]
  obtain ⟨other, hfound⟩ := hspares.files l content (by rwa [hlast]) hfile
  have hreached := hspares.ways folder hfolder loc (h.directories.locate_eq_ok_iff.mpr hloc)
  have hlisted := Corpus.mem_sources_of_find? hreached hbelow hsource (hwhere ▸ hfound)
  exact List.mem_flatMap_of_mem hfolder
    (List.mem_filter.mpr ⟨hlisted, by simp [isMutant, hof]⟩)

end Records

/-- What an evaluation tells of a mutant is what the comparisons with that mutant tell. -/
theorem Fieldwork.Evaluated.filter_inconsistencies {work : Fieldwork} {tool : Tool}
    {w after : World} {summary : Summary} (h : work.Evaluated tool w summary after)
    (mutant : String) :
    (summary.inconsistencies.filter fun i => i.mutant == mutant) =
      ((pairs (mutantPaths w.files work.folders)).filter fun pair => pair.2 == mutant).flatMap
        fun pair => inconsistenciesOf after.index pair.1 pair.2 := by
  rw [h.inconsistencies]
  induction pairs (mutantPaths w.files work.folders) with
  | nil => rfl
  | cons pair rest ih =>
    have hfirst : ((inconsistenciesOf after.index pair.1 pair.2).filter fun i =>
        i.mutant == mutant) =
          if pair.2 == mutant then inconsistenciesOf after.index pair.1 pair.2 else [] := by
      split
      · next hsame =>
        refine List.filter_eq_self.mpr fun i hi => ?_
        rw [(exists_of_mem_inconsistenciesOf hi).2.1]
        exact hsame
      · next hother =>
        refine List.filter_eq_nil_iff.mpr fun i hi => ?_
        rw [(exists_of_mem_inconsistenciesOf hi).2.1]
        exact hother
    rw [List.flatMap_cons, List.filter_append, ih, hfirst, List.filter_cons]
    split
    · rfl
    · rfl

/-! ## Campaigns -/

/-- A mutant is compared exactly once, and with its own seed: by the paths of both as they are
listed, that of the seed in the beginning and that of the mutant in the end. -/
structure ComparedOnce (before : World) (work : Fieldwork) (tool : Tool) (field : World)
    (m : Mutant) : Prop where
  seed_listed : m.seed ∈ work.folders.flatMap (Corpus.seeds before.files)
  listed : m.path ∈ work.folders.flatMap (Corpus.mutants field.files)
  absolute : m.seed.isAbsolute = true ∧ m.path.isAbsolute = true
  once : (mutantPaths field.files work.folders).count m.path.render = 1
  /-- Its pair is the only one with this mutant. -/
  paired : ((pairs (mutantPaths field.files work.folders)).filter fun pair =>
    pair.2 == m.path.render) = [(m.seed.render, m.path.render)]
  /-- What an evaluation tells of it is what this comparison tells. -/
  compared : ∀ summary after, (work.evaluate tool).exec field = (.ok summary, after) →
    (summary.inconsistencies.filter fun i => i.mutant == m.path.render) =
      inconsistenciesOf after.index m.seed.render m.path.render

/-- Every mutant that a campaign generates is compared exactly once, and with its own seed, if the
names of the seeds can be read back and nobody but the workers and their processes takes sources
away. The seeds of all folders have texts of their own. -/
theorem generated_compared_once {campaign : Campaign} {workers : Nat} {called : Bool}
    {tool : Tool} {corpus : String} {w field : World} {trace : List Event} {work : Fieldwork}
    (hfielded : campaign.Fielded workers called tool corpus w trace work field)
    (hmutation : campaign.settings.mutation = true) (huncancelled : campaign.cancelled = false)
    (hnamed : ∀ seed ∈ work.folders.flatMap (Corpus.seeds w.files), w.files.isFile seed = true →
      Corpus.WellNamed seed)
    (hspared : ∀ before after, Event.interfere before after ∈ trace →
      Corpus.Spares work.folders before.files after.files) :
    ((work.folders.flatMap (Corpus.seeds w.files)).map Path.render).Nodup ∧
    ∃ made ready, (campaign.recordCorpus corpus).exec w = (.ok made, ready) ∧
      work.mutants = made.length ∧ ∀ m ∈ made, ComparedOnce w work tool field m := by
  obtain ⟨made, ready, crew, hgenerates, hcount, hrun⟩ := hfielded.recordCorpus hmutation
  have hrecorded := Campaign.recorded_recordCorpus huncancelled hgenerates
  have hfolders := hfielded.folders_eq.1
  have hspares : Corpus.Spares work.folders ready.files field.files := by
    refine spares_run ?_ hrun hspared
    rw [hfolders]
    exact campaign.desk_not_source tool w.files corpus
  have honce : (mutantPaths field.files work.folders).Nodup :=
    hfolders ▸ Corpus.nodup_render_sources w.files field.files corpus _
  have hnodup : ((work.folders.flatMap (Corpus.seeds w.files)).map Path.render).Nodup :=
    hfolders ▸ Corpus.nodup_render_sources w.files w.files corpus _
  refine ⟨hnodup, made, ready, hgenerates, hcount, fun m hm => ?_⟩
  rw [hfolders] at hnamed hspares
  obtain ⟨hseed, hkind, -⟩ := hrecorded.record m hm
  have hwell := hnamed m.seed hseed (isFile_of_notDirectory hseed hkind)
  have hof := seedOf_of_record hrecorded hm hwell.2
  have hlisted := mem_mutants_of_record hrecorded hm hwell hspares
  have hpaired := Corpus.filter_pairs_render
    (fun path hpath => Corpus.clean_of_mem_flatMap (hfolders ▸ hpath)) honce.of_map
    (hfolders ▸ hlisted) hof
  refine ⟨hfolders ▸ hseed, hfolders ▸ hlisted,
    ⟨(Corpus.clean_of_mem_flatMap hseed).2, (Corpus.clean_of_mem_flatMap hlisted).2⟩,
    List.count_eq_one_of_mem honce (List.mem_map_of_mem (hfolders ▸ hlisted)), hpaired,
    fun summary after hevaluate => ?_⟩
  have hpairs : ((pairs (mutantPaths field.files work.folders)).filter fun pair =>
      pair.2 == m.path.render) = [(m.seed.render, m.path.render)] := hpaired
  rw [(Fieldwork.evaluated_of_exec hevaluate).filter_inconsistencies, hpairs,
    List.flatMap_singleton]

/-- The mutant that is generated in the place of a mutant that is left over is compared, once, and
told apart from its seed. -/
theorem compared_staleWorld :
    let campaign : Campaign := ⟨Settings.initial, false⟩
    ∃ trace work field made ready summary after,
      campaign.Fielded 1 false .pmd "seeds" staleWorld trace work field ∧
      campaign.settings.mutation = true ∧ campaign.cancelled = false ∧
      (∀ seed ∈ work.folders.flatMap (Corpus.seeds staleWorld.files),
        staleWorld.files.isFile seed = true → Corpus.WellNamed seed) ∧
      (∀ before after, Event.interfere before after ∈ trace →
        Corpus.Spares work.folders before.files after.files) ∧
      ((work.folders.flatMap (Corpus.seeds staleWorld.files)).map Path.render).Nodup ∧
      (campaign.recordCorpus "seeds").exec staleWorld = (.ok made, ready) ∧
      made.map (fun m => (m.seed.render, m.path.render)) =
        [("/tmp/w/seeds/a/A.java", "/tmp/w/seeds/a/A_iter1.java")] ∧
      (work.evaluate .pmd).exec field = (.ok summary, after) ∧
      summary.inconsistencies.map (fun i => (i.seed, i.mutant)) =
        [("/tmp/w/seeds/a/A.java", "/tmp/w/seeds/a/A_iter1.java")] ∧
      work.mutants = made.length ∧ ∀ m ∈ made, ComparedOnce staleWorld work .pmd field m := by
  intro campaign
  obtain ⟨trace, work, field, made, ready, summary, after, hfielded, hspared, hrecords, hevaluate,
    hseeds, hmade, hfound⟩ := exists_fielded_staleWorld
  have hnamed : ∀ seed ∈ work.folders.flatMap (Corpus.seeds staleWorld.files),
      staleWorld.files.isFile seed = true → Corpus.WellNamed seed := by
    intro seed hseed _
    have hname : seed.name ∈ ["A.java"] := hseeds ▸ List.mem_map_of_mem hseed
    unfold Corpus.WellNamed
    rw [List.mem_singleton.mp hname]
    decide
  have hspares : ∀ before after, Event.interfere before after ∈ trace →
      Corpus.Spares work.folders before.files after.files := by
    intro before after hmem
    rw [hspared before after hmem]
    exact .refl _ _
  obtain ⟨hnodup, made', ready', hgenerates, hcount, hall⟩ :=
    generated_compared_once hfielded rfl rfl hnamed hspares
  obtain ⟨rfl, rfl⟩ := Action.answer_inj (hrecords.symm.trans hgenerates)
  exact ⟨trace, work, field, made, ready, summary, after, hfielded, rfl, rfl, hnamed, hspares,
    hnodup, hgenerates, hmade, hevaluate, hfound, hcount, hall⟩

end Crosscheck.Analysis
