import Crosscheck.Proofs.Analysis.Coexistence
import Crosscheck.Proofs.Corpus
/-!
# Where the output of a campaign goes

Most analyzers write all reports into one directory, by the names of the folders; Infer gets a
directory for each folder. Classes go beside the report or beside that directory, under a name that
no report has. So no report stands where another task needs a directory (`apart_tasks`).
-/

namespace Crosscheck.Analysis

open Crosscheck.Configuration Crosscheck.Files

/-! ## Reports and classes -/

/-- The directory that the report on a folder is written to. -/
def reportHome (tool : Tool) (results folder : Path) : Path :=
  match tool with
  | .infer => results.child folder.name
  | _ => results

/-- The name of the report on a folder. -/
def reportName (tool : Tool) (folder : Path) : String :=
  match tool with
  | .infer => "report.json"
  | _ => folder.name ++ reportSuffix tool

section Places

variable {tool : Tool} {number : Nat} {results folder other : Path}

theorem reportPath_eq (tool : Tool) (results folder : Path) :
    reportPath tool results folder =
      (reportHome tool results folder).child (reportName tool folder) := by
  cases tool <;> rfl

theorem isAbsolute_reportHome (h : results.isAbsolute = true) :
    (reportHome tool results folder).isAbsolute = true := by
  cases tool with
  | infer => exact Path.isAbsolute_child h _
  | _ => exact h

/-- The last letter in the name of a report. -/
theorem getLast?_reportName (tool : Tool) (folder : Path) :
    (reportName tool folder).toList.getLast? = some 'n' ∨
      (reportName tool folder).toList.getLast? = some 'l' := by
  have hends (suffix : String) (hne : suffix.toList ≠ []) :
      (folder.name ++ suffix).toList.getLast? = suffix.toList.getLast? := by
    rw [String.toList_append, List.getLast?_append_of_ne_nil _ hne]
  cases tool with
  | infer =>
    have hlast : "report.json".toList.getLast? = some 'n' := by decide
    exact .inl hlast
  | pmd | sonarqube => exact .inl ((hends ".json" (by decide)).trans (by decide))
  | spotbugs | checkstyle | codenavi =>
    exact .inr ((hends ".xml" (by decide)).trans (by decide))

/-- A report does not go by a name with another last letter. -/
theorem reportName_ne_append (tool : Tool) (folder : Path) (front : String) {suffix : String}
    {last : Char} (hsuffix : suffix.toList.getLast? = some last) (hn : last ≠ 'n')
    (hl : last ≠ 'l') : reportName tool folder ≠ front ++ suffix := by
  intro heq
  have hlast : (reportName tool folder).toList.getLast? = some last := by
    rw [heq, String.toList_append, List.getLast?_append, hsuffix]
    rfl
  rcases getLast?_reportName tool folder with hname | hname
  · exact hn (Option.some.inj (hlast.symm.trans hname))
  · exact hl (Option.some.inj (hlast.symm.trans hname))

/-- A report does not go by the name of a source. -/
theorem reportName_not_source (tool : Tool) (folder : Path) :
    ¬ Mutation.sourceSuffix.toList <:+ (reportName tool folder).toList := by
  rintro ⟨front, hfront⟩
  have hlast : Mutation.sourceSuffix.toList.getLast? = some 'a' := by decide
  refine reportName_ne_append tool folder (String.ofList front) hlast (by decide) (by decide)
    (String.toList_injective ?_)
  rw [String.toList_append, String.toList_ofList, hfront]

/-- A report has a name, and it is not that of a directory of classes. -/
theorem reportName_spec (h : '/' ∉ folder.name.toList) :
    isName (reportName tool folder) = true ∧
      ∀ text : String, reportName tool folder ≠ text ++ "_classes" := by
  have hnamed (suffix : String) (hslash : '/' ∉ suffix.toList) (hlength : 3 ≤ suffix.length) :
      isName (folder.name ++ suffix) = true := by
    have hlong (short : String) (hshort : short.length < 3) : folder.name ++ suffix ≠ short := by
      rintro rfl
      rw [String.length_append] at hshort
      omega
    refine isName_iff.mpr ⟨hlong _ (by decide), hlong _ (by decide), hlong _ (by decide), ?_⟩
    rw [String.toList_append, List.mem_append, not_or]
    exact ⟨h, hslash⟩
  have hlast : "_classes".toList.getLast? = some 's' := by decide
  refine ⟨?_, fun text => reportName_ne_append tool folder text hlast (by decide) (by decide)⟩
  cases tool with
  | infer =>
    have hname : isName "report.json" = true := by decide
    exact hname
  | pmd | sonarqube => exact hnamed ".json" (by decide) (by decide)
  | spotbugs | checkstyle | codenavi => exact hnamed ".xml" (by decide) (by decide)

/-- The desk of a task is in the directory of reports. -/
theorem desk_reportPath (hresults : results.isAbsolute = true) (h : '/' ∉ folder.name.toList) :
    Task.desk ⟨number, folder, reportPath tool results folder⟩ =
      (reportHome tool results folder).location ++ [reportName tool folder] := by
  unfold Task.desk
  dsimp only
  rw [reportPath_eq, Path.location_child (isAbsolute_reportHome hresults) (reportName_spec h).1]

/-- The approach of a task is the way to that directory. -/
theorem approach_reportPath (hresults : results.isAbsolute = true) (h : '/' ∉ folder.name.toList) :
    Task.approach ⟨number, folder, reportPath tool results folder⟩ =
      (reportHome tool results folder).trail := by
  have hhome : (reportHome tool results folder).isAbsolute = true := isAbsolute_reportHome hresults
  unfold Task.approach
  dsimp only
  rw [reportPath_eq, Path.absolute_of_isAbsolute (Path.isAbsolute_child hhome _),
    Path.parent_child _ (reportName_spec h).1]

/-- A directory of classes is reached by way of the directory that it stands in. -/
theorem mem_trail_renamed {path classes : Path} {text : String} {l : Location}
    (hpath : path.isAbsolute = true)
    (h : (renamed path (text ++ "_classes")).map some = .ok (some classes))
    (hl : l ∈ classes.trail) :
    l ∈ path.parent.trail ∨ ∃ front, l = front ++ [text ++ "_classes"] := by
  unfold renamed at h
  split at h
  · exact nomatch h
  · obtain rfl := Option.some.inj (Except.ok.inj h)
    have hdots : text ++ "_classes" ≠ ".." := by
      intro heq
      have hlength := congrArg String.length heq
      rw [String.length_append] at hlength
      have hlong : "_classes".length = 8 := by decide
      have hshort : "..".length = 2 := by decide
      omega
    have htrail := (Path.trail_concat (isAbsolute_parent hpath) hdots).1
    rw [Path.sibling, htrail] at hl
    exact (List.mem_append.mp hl).imp_right fun hlast => ⟨_, List.mem_singleton.mp hlast⟩

variable {adapter : Adapter} {l : Location}

/-- The annex of a task is reached by way of the approach to its desk. -/
theorem mem_annex (htool : adapter.tool = tool) (hresults : results.isAbsolute = true)
    (hfolder : '/' ∉ folder.name.toList)
    (hl : l ∈ adapter.annex ⟨number, folder, reportPath tool results folder⟩) :
    l ∈ (reportHome tool results folder).trail ∨
      ∃ front text, l = front ++ [text ++ "_classes"] := by
  have hhome : (reportHome tool results folder).isAbsolute = true := isAbsolute_reportHome hresults
  have hreport := Path.isAbsolute_child hhome (reportName tool folder)
  have hparent := Path.parent_child (reportHome tool results folder)
    (@reportName_spec tool folder hfolder).1
  unfold Adapter.annex at hl
  dsimp only at hl
  rw [reportPath_eq, Path.absolute_of_isAbsolute hreport, htool] at hl
  split at hl
  · next classes hclasses =>
    cases tool with
    | spotbugs =>
      have hmem := mem_trail_renamed hreport hclasses hl
      rw [hparent] at hmem
      exact hmem.imp_right fun ⟨front, hfront⟩ => ⟨front, _, hfront⟩
    | infer =>
      rw [classesPath?, hparent] at hclasses
      have hmem := mem_trail_renamed hhome hclasses hl
      exact hmem.imp (fun habove => Path.trail_parent_subset hhome habove)
        fun ⟨front, hfront⟩ => ⟨front, _, hfront⟩
    | _ => exact nomatch hclasses
  · exact absurd hl List.not_mem_nil

/-- A report that stands on the way to the directory of another report stands on the way to its own
directory. -/
theorem mem_trail_reportHome {other : Path} (hresults : results.isAbsolute = true)
    (hname : isName folder.name = true) (hother : isName other.name = true)
    (h : (reportHome tool results folder).location ++ [reportName tool folder] ∈
      (reportHome tool results other).trail) :
    (reportHome tool results folder).location ++ [reportName tool folder] ∈
      (reportHome tool results folder).trail := by
  cases tool with
  | infer =>
    -- The report stands deeper than the directory of any folder.
    simp only [reportHome] at h ⊢
    rw [Path.trail_child hresults hother, Path.location_child hresults hname] at h
    rw [Path.trail_child hresults hname, Path.location_child hresults hname]
    rcases List.mem_append.mp h with habove | hbeside
    · exact List.mem_append_left _ habove
    · have hlength := congrArg List.length (List.mem_singleton.mp hbeside)
      simp at hlength
  | _ => exact h

end Places

/-- No report of a campaign stands where another task needs a directory. -/
theorem Campaign.apart_tasks (campaign : Campaign) (tool : Tool) (fs : FileSystem)
    (corpus : String) :
    Apart (campaign.adapter tool)
      (campaign.tasks tool (Corpus.folders fs (Path.ofString corpus))) := by
  have hnamed := Corpus.named_folders fs corpus
  have hslash : ∀ folder ∈ Corpus.folders fs (Path.ofString corpus), '/' ∉ folder.name.toList :=
    fun _ hfolder => Corpus.slash_not_mem_name hfolder
  generalize Corpus.folders fs (Path.ofString corpus) = folders at hnamed hslash
  intro task htask other hother hdesk
  obtain ⟨number, folder, hfolder, rfl⟩ := campaign.exists_of_mem_tasks tool folders htask
  obtain ⟨number', folder', hfolder', rfl⟩ := campaign.exists_of_mem_tasks tool folders hother
  have hresults : (campaign.settings.resultsDirectory.absolute.child tool.id).isAbsolute = true :=
    Path.isAbsolute_child (Path.isAbsolute_absolute _) _
  generalize campaign.settings.resultsDirectory.absolute.child tool.id = results at *
  have hplace := @desk_reportPath tool number results folder hresults (hslash folder hfolder)
  rw [approach_reportPath hresults (hslash folder' hfolder'), hplace] at hdesk
  rw [approach_reportPath hresults (hslash folder hfolder), hplace]
  have hway : (reportHome tool results folder).location ++ [reportName tool folder] ∈
      (reportHome tool results folder').trail := by
    refine hdesk.elim id fun hannex => ?_
    refine (mem_annex rfl hresults (hslash folder' hfolder') hannex).elim id ?_
    rintro ⟨front, text, heq⟩
    have hlast : reportName tool folder = text ++ "_classes" := by
      simpa using congrArg List.getLast? heq
    exact absurd hlast ((reportName_spec (hslash folder hfolder)).2 text)
  rcases hnamed with hnamed | ⟨only, rfl, -⟩
  · exact mem_trail_reportHome hresults (hnamed folder hfolder) (hnamed folder' hfolder') hway
  · obtain rfl := List.mem_singleton.mp hfolder
    obtain rfl := List.mem_singleton.mp hfolder'
    exact hway

end Crosscheck.Analysis
