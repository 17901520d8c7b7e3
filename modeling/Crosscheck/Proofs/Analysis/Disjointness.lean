import Crosscheck.Proofs.Analysis.Places
import Crosscheck.Proofs.Listing
/-!
# Where the tasks of a campaign write

A task writes its report, classes if its analyzer needs them, and for Infer the directory that the
report stands in. Two tasks of a campaign write to places apart, except that Infer's directory for
one folder can be the directory for the classes of another (`outputs_separate_iff`): the classes of
`a` are written where the report of `a_classes` is kept.
-/

namespace Crosscheck.Files

/-- A name stays a name with more text at its end. -/
theorem isName_append {name text : String} (h : isName name = true) (htext : '/' ∉ text.toList)
    (hlong : 2 ≤ text.length) : isName (name ++ text) = true := by
  obtain ⟨hempty, -, -, hslash⟩ := isName_iff.mp h
  have hlength : 0 < name.length := by
    rw [← String.length_toList, List.length_pos_iff]
    exact mt String.toList_eq_nil_iff.mp hempty
  have hne (short : String) (hshort : short.length ≤ 2) : name ++ text ≠ short := by
    rintro rfl
    rw [String.length_append] at hshort
    omega
  refine isName_iff.mpr ⟨hne _ (by decide), hne _ (by decide), hne _ (by decide), ?_⟩
  rw [String.toList_append, List.mem_append, not_or]
  exact ⟨hslash, htext⟩

namespace Path

/-- Going on along a name keeps where a path starts from. -/
theorem absolute_child (path : Path) {name : String} (h : isName name = true) :
    (path.child name).absolute = path.absolute.child name := by
  rw [child_of_isName path h, child_of_isName path.absolute h]
  by_cases habsolute : path.isAbsolute = true
  · have hlong : (⟨path.root, path.parts ++ [name]⟩ : Path).isAbsolute = true := habsolute
    rw [absolute_of_isAbsolute habsolute, absolute_of_isAbsolute hlong]
  · have hlong : ¬ (⟨path.root, path.parts ++ [name]⟩ : Path).isAbsolute = true := habsolute
    unfold absolute join
    rw [if_neg habsolute, if_neg hlong, if_neg habsolute, if_neg hlong, List.append_assoc]

end Path

end Crosscheck.Files

namespace Crosscheck.Analysis

open Crosscheck.Configuration Crosscheck.Files

/-! ## Places that are written to -/

/-- The places that a task with a report there writes to. -/
def outputs (tool : Tool) (report : Path) : List Path :=
  let home := match tool with
    | .infer => [report.parent]
    | _ => []
  let classes := match classesPath? tool report with
    | .ok (some classes) => [classes]
    | _ => []
  report :: home ++ classes

/-- No place of the first list is one of the second, or lies above or below one. -/
def Separate (places others : List Path) : Prop :=
  ∀ place ∈ places, ∀ other ∈ others,
    ¬ place.location <+: other.location ∧ ¬ other.location <+: place.location

instance (places others : List Path) : Decidable (Separate places others) := by
  unfold Separate
  infer_instance

/-- What follows the name of a folder in the name by which a task keeps its report. -/
def outputSuffix : Tool → String
  | .infer => ""
  | tool => reportSuffix tool

section Outputs

variable {tool : Tool} {results folder : Path}

/-- The name of Infer's reports is one. -/
theorem isName_report : isName "report.json" = true := by decide

theorem absolute_reportPath (h : isName folder.name = true) :
    (reportPath tool results folder).absolute = reportPath tool results.absolute folder := by
  have hreport := (@reportName_spec tool folder (isName_iff.mp h).2.2.2).1
  rw [reportPath_eq, reportPath_eq, Path.absolute_child _ hreport]
  cases tool with
  | infer => exact congrArg (Path.child · "report.json") (Path.absolute_child results h)
  | _ => rfl

/-- Classes are written beside the report, or for Infer beside its directory, by the name of the
folder. -/
theorem classesPath?_reportPath (h : isName folder.name = true) :
    classesPath? tool (reportPath tool results folder) = .ok (match tool with
      | .spotbugs | .infer => some (results.child (folder.name ++ "_classes"))
      | _ => none) := by
  have hempty := (isName_iff.mp h).1
  have hclasses : isName (folder.name ++ "_classes") = true :=
    isName_append h (by decide) (by decide)
  have hrenamed (name : String) (hname : isName name = true) :
      renamed (results.child name) (folder.name ++ "_classes") =
        .ok (results.child (folder.name ++ "_classes")) := by
    rw [Path.child_of_isName results hname, Path.child_of_isName results hclasses]
    have hlast : (⟨results.root, results.parts ++ [name]⟩ : Path).name = name := by
      simp [Path.name]
    unfold renamed
    rw [hlast, if_neg (by simpa using (isName_iff.mp hname).1)]
    simp [Path.sibling]
  cases tool with
  | spotbugs =>
    have hreport : isName (folder.name ++ ".xml") = true := isName_append h (by decide) (by decide)
    have hstem : (results.child (folder.name ++ ".xml")).stem = folder.name := by
      have hnodot : '.' ∉ ['x', 'm', 'l'] := by decide
      have hdot := Path.splitName_of_dot folder.name.toList hnodot
      rw [if_pos ⟨mt String.toList_eq_nil_iff.mp hempty, by decide⟩, String.ofList_append] at hdot
      rw [String.ofList_toList] at hdot
      rw [Path.child_of_isName results hreport, Path.stem, Path.name]
      simpa using congrArg Prod.fst hdot
    unfold classesPath? reportPath
    dsimp only [reportSuffix]
    rw [hstem, hrenamed _ hreport]
    rfl
  | infer =>
    have hparent := Path.parent_child (results.child folder.name) isName_report
    have hname : (results.child folder.name).name = folder.name := by
      rw [Path.child_of_isName results h]
      simp [Path.name]
    unfold classesPath? reportPath
    dsimp only
    rw [hparent, hname, hrenamed _ h]
    rfl
  | _ => rfl

/-- What a task writes besides its report goes by the name of its folder, right in the directory of
results. -/
theorem outputs_reportPath (h : isName folder.name = true) :
    outputs tool (reportPath tool results folder) = reportPath tool results folder :: match tool with
      | .spotbugs => [results.child (folder.name ++ "_classes")]
      | .infer => [results.child folder.name, results.child (folder.name ++ "_classes")]
      | _ => [] := by
  unfold outputs
  rw [classesPath?_reportPath h]
  cases tool with
  | infer =>
    have hparent := Path.parent_child (results.child folder.name) isName_report
    unfold reportPath
    dsimp only
    rw [hparent]
    rfl
  | _ => rfl

/-- All that a task writes lies in the directory of results, below the name of its folder with a
suffix. -/
theorem location_of_mem_outputs {place : Path} (hresults : results.isAbsolute = true)
    (h : isName folder.name = true)
    (hplace : place ∈ outputs tool (reportPath tool results folder)) :
    ∃ top rest, place.location = results.location ++ top :: rest ∧
      (top = folder.name ++ outputSuffix tool ∨ top = folder.name ++ "_classes") := by
  have hlocation {name : String} (hname : isName name = true) :
      (results.child name).location = results.location ++ [name] :=
    Path.location_child hresults hname
  have hclasses : (results.child (folder.name ++ "_classes")).location =
      results.location ++ [folder.name ++ "_classes"] :=
    hlocation (isName_append h (by decide) (by decide))
  have hreport := (@reportName_spec tool folder (isName_iff.mp h).2.2.2).1
  rw [outputs_reportPath h, reportPath_eq] at hplace
  cases tool with
  | infer =>
    have hhome : (results.child folder.name).isAbsolute = true := Path.isAbsolute_child hresults _
    have htop : folder.name = folder.name ++ outputSuffix .infer := String.append_empty.symm
    rcases List.mem_cons.mp hplace with rfl | hplace
    · refine ⟨folder.name, ["report.json"], ?_, .inl htop⟩
      calc ((results.child folder.name).child "report.json").location
          = (results.child folder.name).location ++ ["report.json"] :=
            Path.location_child hhome isName_report
        _ = results.location ++ [folder.name, "report.json"] := by
            rw [hlocation h, List.append_assoc, List.singleton_append]
    · rcases List.mem_cons.mp hplace with rfl | hplace
      · exact ⟨folder.name, [], hlocation h, .inl htop⟩
      · obtain rfl := List.mem_singleton.mp hplace
        exact ⟨_, [], hclasses, .inr rfl⟩
  | spotbugs =>
    rcases List.mem_cons.mp hplace with rfl | hplace
    · exact ⟨_, [], hlocation hreport, .inl rfl⟩
    · obtain rfl := List.mem_singleton.mp hplace
      exact ⟨_, [], hclasses, .inr rfl⟩
  | _ =>
    obtain rfl := List.mem_singleton.mp hplace
    exact ⟨_, [], hlocation hreport, .inl rfl⟩

end Outputs

/-! ## Places of two tasks -/

/-- The directory that Infer uses for a folder is no directory for the classes of another. -/
def NoClash (tool : Tool) (name other : String) : Prop :=
  tool = .infer → name ≠ other ++ "_classes" ∧ other ≠ name ++ "_classes"

section Pairs

variable {tool : Tool} {results folder other : Path}

theorem NoClash.symm {name other : String} (h : NoClash tool name other) :
    NoClash tool other name := fun htool => (h htool).symm

/-- No report is kept under the name that another folder's classes have, unless it is Infer's. -/
theorem ne_classes (hslash : '/' ∉ folder.name.toList)
    (hclash : NoClash tool folder.name other.name) :
    folder.name ++ outputSuffix tool ≠ other.name ++ "_classes" := by
  have hreport := (@reportName_spec tool folder hslash).2 other.name
  cases tool with
  | infer => simpa [outputSuffix] using (hclash rfl).1
  | _ => exact hreport

/-- Tasks for folders with different names write to places apart, if no names clash. -/
theorem separate_outputs (hresults : results.isAbsolute = true) (h : isName folder.name = true)
    (hother : isName other.name = true) (hne : folder.name ≠ other.name)
    (hclash : NoClash tool folder.name other.name) :
    Separate (outputs tool (reportPath tool results folder))
      (outputs tool (reportPath tool results other)) := by
  intro place hplace place' hplace'
  obtain ⟨top, rest, hlocation, htop⟩ := location_of_mem_outputs hresults h hplace
  obtain ⟨top', rest', hlocation', htop'⟩ := location_of_mem_outputs hresults hother hplace'
  have hapart : top ≠ top' := by
    rcases htop with rfl | rfl <;> rcases htop' with rfl | rfl
    · exact fun hsame => hne (String.append_left_inj _ |>.mp hsame)
    · exact ne_classes (isName_iff.mp h).2.2.2 hclash
    · exact (ne_classes (isName_iff.mp hother).2.2.2 hclash.symm).symm
    · exact fun hsame => hne (String.append_left_inj _ |>.mp hsame)
  rw [hlocation, hlocation', List.prefix_append_right_inj, List.prefix_append_right_inj]
  constructor
  · exact fun hprefix => hapart (List.cons_prefix_cons.mp hprefix).1
  · exact fun hprefix => hapart (List.cons_prefix_cons.mp hprefix).1.symm

/-- Where the classes of one folder are written to Infer's directory for another, the places of the
tasks meet. -/
theorem not_separate_of_classes (h : isName folder.name = true)
    (hother : isName other.name = true) (hclash : folder.name = other.name ++ "_classes") :
    ¬ Separate (outputs .infer (reportPath .infer results folder))
      (outputs .infer (reportPath .infer results other)) := by
  intro hseparate
  rw [outputs_reportPath h, outputs_reportPath hother] at hseparate
  have hmem : results.child folder.name ∈
      [reportPath .infer results folder, results.child folder.name,
        results.child (folder.name ++ "_classes")] := by simp
  have hmem' : results.child folder.name ∈
      [reportPath .infer results other, results.child other.name,
        results.child (other.name ++ "_classes")] := by simp [← hclash]
  exact (hseparate _ hmem _ hmem').1 (List.prefix_refl _)

theorem Separate.symm {places others : List Path} (h : Separate places others) :
    Separate others places :=
  fun other hother place hplace => (h place hplace other hother).symm

end Pairs

/-- Different folders of a corpus have different names. -/
theorem names_of_folders {fs : FileSystem} {corpus : String} {folder other : Path}
    (hfolder : folder ∈ Corpus.folders fs (Path.ofString corpus))
    (hother : other ∈ Corpus.folders fs (Path.ofString corpus)) (hne : folder ≠ other) :
    isName folder.name = true ∧ isName other.name = true ∧ folder.name ≠ other.name := by
  have hmany {only : Path} (honly : Corpus.folders fs (Path.ofString corpus) = [only]) : False := by
    rw [honly] at hfolder hother
    exact hne ((List.mem_singleton.mp hfolder).trans (List.mem_singleton.mp hother).symm)
  have hnamed : ∀ folder ∈ Corpus.folders fs (Path.ofString corpus), isName folder.name = true :=
    (Corpus.named_folders fs corpus).resolve_right fun ⟨only, honly, _⟩ => hmany honly
  refine ⟨hnamed _ hfolder, hnamed _ hother, fun hsame => hne ?_⟩
  obtain ⟨-, -, -, honly | ⟨name, rfl, -⟩⟩ := Corpus.mem_folders hfolder
  · exact (hmany honly).elim
  obtain ⟨-, -, -, honly | ⟨name', rfl, -⟩⟩ := Corpus.mem_folders hother
  · exact (hmany honly).elim
  have hnames : name = name' := by simpa [Path.name] using hsame
  rw [hnames]

/-- Tasks of a campaign with the same desk are the same. -/
theorem Campaign.eq_of_desk (campaign : Campaign) {tool : Tool} {fs : FileSystem} {corpus : String}
    {task other : Task}
    (htask : task ∈ campaign.tasks tool (Corpus.folders fs (Path.ofString corpus)))
    (hother : other ∈ campaign.tasks tool (Corpus.folders fs (Path.ofString corpus)))
    (hdesk : task.desk = other.desk) : task = other := by
  have hfolders := Corpus.nodup_folders fs (Path.ofString corpus)
  rw [← campaign.folders_tasks tool (Corpus.folders fs (Path.ofString corpus))] at hfolders
  by_cases hsame : task.folder = other.folder
  · exact List.inj_on_of_nodup_map hfolders htask hother hsame
  · exfalso
    obtain ⟨number, folder, hfolder, rfl⟩ := campaign.exists_of_mem_tasks tool _ htask
    obtain ⟨number', folder', hfolder', rfl⟩ := campaign.exists_of_mem_tasks tool _ hother
    obtain ⟨hname, hname', hnames⟩ := names_of_folders hfolder hfolder' hsame
    have hresults : (campaign.settings.resultsDirectory.absolute.child tool.id).isAbsolute = true :=
      Path.isAbsolute_child (Path.isAbsolute_absolute _) _
    rw [desk_reportPath hresults (isName_iff.mp hname).2.2.2,
      desk_reportPath hresults (isName_iff.mp hname').2.2.2] at hdesk
    cases tool with
    | infer =>
      simp only [reportHome] at hdesk
      rw [Path.location_child hresults hname, Path.location_child hresults hname'] at hdesk
      exact hnames (by simpa [reportName] using hdesk)
    | _ => exact hnames (by simpa [reportHome, reportName] using hdesk)

/-- Whatever the directory of results, the tasks for two folders of a corpus write to places apart:
with Infer, if neither folder is named like the classes of the other, and else always. -/
theorem outputs_separate_iff (fs : FileSystem) (corpus : String) (tool : Tool) (results : Path)
    {folder other : Path} (hfolder : folder ∈ Corpus.folders fs (Path.ofString corpus))
    (hother : other ∈ Corpus.folders fs (Path.ofString corpus)) (hne : folder ≠ other) :
    Separate (outputs tool (reportPath tool results folder).absolute)
        (outputs tool (reportPath tool results other).absolute) ↔
      NoClash tool folder.name other.name := by
  obtain ⟨hname, hname', hnames⟩ := names_of_folders hfolder hother hne
  rw [absolute_reportPath hname, absolute_reportPath hname']
  constructor
  · rintro hseparate rfl
    constructor
    · intro hclash
      exact not_separate_of_classes hname hname' hclash hseparate
    · intro hclash
      exact not_separate_of_classes hname' hname hclash hseparate.symm
  · exact separate_outputs results.isAbsolute_absolute hname hname' hnames

/-! ## Folders with such names -/

/-- A corpus of two folders, one of which is named like the classes of the other. -/
def classesWorld : FileSystem :=
  let files := do
    let fs ← FileSystem.initial.ensureDirectories (Path.ofString "/tmp/w/seeds/a")
    fs.ensureDirectories (Path.ofString "/tmp/w/seeds/a_classes")
  files.toOption.getD .initial

/-- SpotBugs has its classes beside the reports, by names that no report has. -/
theorem separate_classesWorld :
    let folder := Path.ofString "/tmp/w/seeds/a"
    let other := Path.ofString "/tmp/w/seeds/a_classes"
    let results := Path.ofString "r"
    folder ∈ Corpus.folders classesWorld (Path.ofString "seeds") ∧
      other ∈ Corpus.folders classesWorld (Path.ofString "seeds") ∧ folder ≠ other ∧
      Separate (outputs .spotbugs (reportPath .spotbugs results folder).absolute)
        (outputs .spotbugs (reportPath .spotbugs results other).absolute) := by
  intro folder other results
  have hfolder : folder ∈ Corpus.folders classesWorld (Path.ofString "seeds") := by decide +kernel
  have hother : other ∈ Corpus.folders classesWorld (Path.ofString "seeds") := by decide +kernel
  have hne : folder ≠ other := by decide
  exact ⟨hfolder, hother, hne,
    (outputs_separate_iff classesWorld "seeds" .spotbugs results hfolder hother hne).mpr nofun⟩

/-- Infer has the directory of one folder where the classes of the other are written. -/
theorem infer_outputs_meet :
    ¬ ∀ (fs : FileSystem) (corpus : String) (tool : Tool) (results folder other : Path),
      folder ∈ Corpus.folders fs (Path.ofString corpus) →
      other ∈ Corpus.folders fs (Path.ofString corpus) → folder ≠ other →
      Separate (outputs tool (reportPath tool results folder).absolute)
        (outputs tool (reportPath tool results other).absolute) := by
  intro hall
  have hmeet := hall classesWorld "seeds" .infer (Path.ofString "r")
    (Path.ofString "/tmp/w/seeds/a") (Path.ofString "/tmp/w/seeds/a_classes")
    (by decide +kernel) (by decide +kernel) (by decide)
  revert hmeet
  decide +kernel

end Crosscheck.Analysis
