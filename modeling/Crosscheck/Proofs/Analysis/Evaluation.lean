import Crosscheck.Proofs.Analysis.Accounting
import Crosscheck.Proofs.Listing
/-!
# What an evaluation tells

The results of fieldwork are those of the folders of the corpus, each once and in order. Whatever an
evaluation tells afterwards is told of a mutant that is listed in one of these folders and of the
seed that the path of the mutant is read as.
-/

namespace Crosscheck.Analysis

open Crosscheck.Files Crosscheck.Mutation

namespace Campaign

variable {campaign : Campaign} {workers : Nat} {called : Bool} {tool : Tool} {corpus : String}
  {w field : World} {trace : List Event} {work : Fieldwork}

/-- The results of fieldwork are those of its folders, each once and in order. -/
theorem Fielded.folders_eq (h : campaign.Fielded workers called tool corpus w trace work field) :
    work.folders = Corpus.folders w.files (Path.ofString corpus) ∧
      work.results.map (·.task.folder) = work.folders := by
  obtain ⟨counts, ready, crew, -, hcrew, hfinished, rfl⟩ := h
  have hresults := ((Traced.of_run hcrew).accounted hfinished).tasks_eq
    (campaign.nodup_identities tool _)
  have hfolders := campaign.folders_tasks tool (Corpus.folders w.files (Path.ofString corpus))
  generalize campaign.tasks tool (Corpus.folders w.files (Path.ofString corpus)) = tasks at *
  have hmap : (crew.results tasks).map (·.task.folder) = tasks.map (·.folder) := by
    conv_rhs => rw [← hresults, List.map_map]
    rfl
  dsimp only
  exact ⟨rfl, hmap.trans hfolders⟩

end Campaign

/-- An evaluation that gives a summary has taken everything in. -/
theorem Fieldwork.evaluated_of_exec {work : Fieldwork} {tool : Tool} {field after : World}
    {summary : Summary} (h : (work.evaluate tool).exec field = (.ok summary, after)) :
    work.Evaluated tool field summary after := by
  by_cases hevaluable : work.Evaluable tool field
  · obtain ⟨other, last, hrun, hdone⟩ := exec_evaluate_of_evaluable hevaluable
    obtain ⟨rfl, rfl⟩ := Action.answer_inj (hrun.symm.trans h)
    exact hdone
  · obtain ⟨fault, last, hrun, -⟩ := exec_evaluate_of_not_evaluable hevaluable
    exact nomatch hrun.symm.trans h

/-- An evaluation that gives no summary ends with one of a few faults. -/
theorem Fieldwork.endsEvaluation_of_exec {work : Fieldwork} {tool : Tool} {field after : World}
    {fault : Fault} (h : (work.evaluate tool).exec field = (.error fault, after)) :
    EndsEvaluation fault := by
  by_cases hevaluable : work.Evaluable tool field
  · obtain ⟨summary, last, hrun, -⟩ := exec_evaluate_of_evaluable hevaluable
    exact nomatch hrun.symm.trans h
  · obtain ⟨other, last, hrun, hcause⟩ := exec_evaluate_of_not_evaluable hevaluable
    cases hrun.symm.trans h
    exact hcause

/-- What an evaluation tells comes from the mutants in the folders. -/
theorem exists_of_mem_inconsistencies {fs : FileSystem} {corpus : String} {work : Fieldwork}
    {tool : Tool} {field after : World} {summary : Summary}
    (hfolders : work.folders = Corpus.folders fs (Path.ofString corpus))
    (hevaluate : (work.evaluate tool).exec field = (.ok summary, after)) {i : Inconsistency}
    (hi : i ∈ summary.inconsistencies) :
    ∃ folder ∈ work.folders, ∃ mutant ∈ Corpus.mutants field.files folder, ∃ seed,
      seedOf mutant = some seed ∧ i.seed = seed.render ∧ i.mutant = mutant.render ∧
      ((settleAll field.files tool field.index work.results).bugsOf i.seed ≠ .empty ∨
        (settleAll field.files tool field.index work.results).bugsOf i.mutant ≠ .empty) := by
  have hevaluated := Fieldwork.evaluated_of_exec hevaluate
  rw [hevaluated.inconsistencies, hevaluated.index] at hi
  obtain ⟨pair, hpair, hlisted⟩ := List.mem_flatMap.mp hi
  have hclean : ∀ path ∈ work.folders.flatMap (Corpus.mutants field.files),
      path.Clean ∧ path.isAbsolute = true := fun path hpath =>
    Corpus.clean_of_mem_flatMap (hfolders ▸ hpath)
  unfold mutantPaths at hpair
  rw [Corpus.pairs_render hclean] at hpair
  obtain ⟨mutant, hmutant, hpaired⟩ := List.mem_filterMap.mp hpair
  obtain ⟨seed, hseed, rfl⟩ := Option.map_eq_some_iff.mp hpaired
  obtain ⟨folder, hfolder, hmutant⟩ := List.mem_flatMap.mp hmutant
  obtain ⟨hfirst, hsecond, hfindings⟩ := exists_of_mem_inconsistenciesOf hlisted
  exact ⟨folder, hfolder, mutant, hmutant, seed, hseed, hfirst, hsecond, hfindings⟩

end Crosscheck.Analysis
