import Crosscheck.Proofs.Comparison
import Crosscheck.Proofs.Files.Rendering
import Crosscheck.Proofs.Native.Intake
/-!
# Names of files in the index

The index tells files by texts, so two findings in one file come together only if they name it by
one text. A canonical text is the one that the path from the root has. All analyzers but CodeNavi
name files through `resolve`, which gives canonical texts; CodeNavi's names are taken as they are
written. So a report adds canonical names exactly if it is not one of CodeNavi that names some file
otherwise (`added_canonical_iff`).
-/

namespace Crosscheck.Index

/-- Whether the index has an entry for a file in one of its tables. -/
def Names (index : Index) (path : String) : Prop :=
  path ∈ index.rows.keys ∨ path ∈ index.bugs.keys ∨ path ∈ index.reports.keys ∨
    path ∈ index.violations.keys

theorem names_absorb (index : Index) (report : Report) (path : String) :
    (index.absorb report).Names path ↔ path = report.path ∨ index.Names path := by
  unfold Names absorb midway
  simp only [OrderedMap.push, OrderedMap.keys_alter, OrderedMap.mem_withKey (OrderedMap.sharp _)]
  tauto

/-- Reports add the files that they are about. -/
theorem names_foldl_absorb (reports : List Report) (index : Index) (path : String) :
    (reports.foldl absorb index).Names path ↔
      index.Names path ∨ path ∈ reports.map Report.path := by
  induction reports generalizing index with
  | nil => simp
  | cons report rest ih =>
    rw [List.foldl_cons, ih, names_absorb, List.map_cons, List.mem_cons, or_assoc, or_left_comm]

end Crosscheck.Index

namespace Crosscheck.Native

open Crosscheck.Document Crosscheck.Files Crosscheck.Text

/-! ## Canonical texts -/

/-- Whether a text is that of a path from the root. -/
structure IsCanonical (text : String) : Prop where
  absolute : (Path.ofString text).isAbsolute = true
  normal : (Path.ofString text).render = text

/-- A path from the root has one canonical text. -/
theorem IsCanonical.eq_of_ofString_eq {text other : String} (h : IsCanonical text)
    (hother : IsCanonical other) (heq : Path.ofString text = Path.ofString other) :
    text = other := by
  rw [← h.normal, heq, hother.normal]

theorem isCanonical_render {path : Path} (h : path.Clean) (habsolute : path.isAbsolute = true) :
    IsCanonical path.render := by
  have hread := Path.ofString_render h habsolute
  constructor
  · rw [hread, habsolute]
  · rw [hread]

/-- Whatever name a report gives, what it is resolved to is a canonical text. -/
theorem isCanonical_of_resolve {fs : FileSystem} {folder : Path} (hclean : folder.Clean)
    {name text : String} (h : resolve fs folder name = .ok text) : IsCanonical text := by
  have hjoin (other : String) : IsCanonical (folder.child other).absolute.render :=
    isCanonical_render (hclean.child other).absolute (Path.isAbsolute_absolute _)
  rcases cases_of_resolve h with ⟨habsolute, rfl⟩ | ⟨-, rfl | rfl⟩
  · exact isCanonical_render (Path.clean_ofString name) habsolute
  · exact hjoin name
  · exact hjoin _

/-! ## Files of findings -/

/-- The files that a report of CodeNavi names, as it writes them. -/
def codenaviNames (root : Xml.Element) : List String :=
  match root.child? "errors" with
  | none => []
  | some errors => (errors.childrenNamed "error").filterMap codenaviName?

section Files

variable {fs : FileSystem} {tool : Tool} {folder report : Path} {found : List Violation}

/-- Findings are in the files that the report tells, in their order. -/
theorem paths_of_parse (h : parse fs tool folder report = .ok (some found)) :
    (found.map fun v => (Except.ok v.path : Except Fault String)) =
      (told fs tool report).map fun x => placeOf fs folder tool x.file := by
  have hpaths : List.Forall₂ (· = ·) (found.map fun v => (Except.ok v.path : Except Fault String))
      ((told fs tool report).map fun x => placeOf fs folder tool x.file) := by
    rw [List.forall₂_map_left_iff, List.forall₂_map_right_iff]
    exact ((forall₂_becomes_of_parse h).imp fun _ _ hv => hv.path.symm).flip
  exact List.forall₂_eq_eq_eq ▸ hpaths

/-- All analyzers but CodeNavi have their files resolved. -/
theorem exists_resolve_of_parse (h : parse fs tool folder report = .ok (some found))
    (htool : tool ≠ .codenavi) {v : Violation} (hv : v ∈ found) :
    ∃ name, resolve fs folder name = .ok v.path := by
  have hpath : (Except.ok v.path : Except Fault String) ∈ found.map fun v => .ok v.path :=
    List.mem_map_of_mem hv
  rw [paths_of_parse h] at hpath
  obtain ⟨x, -, hx⟩ := List.mem_map.mp hpath
  exact ⟨x.file, (placeOf_of_ne htool fs folder x.file).symm.trans hx⟩

/-- An entry of CodeNavi tells one finding if it names a file, and else none. -/
theorem files_mentions_codenavi (e : Xml.Element) :
    (mentions .codenavi e).map Mention.file = (fileOf? .codenavi e).toList := by
  unfold mentions
  cases hname : fileOf? .codenavi e with
  | none => rfl
  | some name =>
    obtain ⟨info, hinfo, -⟩ := Option.bind_eq_some_iff.mp hname
    rw [givenBy_codenavi, hinfo]
    rfl

/-- The findings of a report of CodeNavi are in the files that it names. -/
theorem paths_of_codenavi (h : parse fs .codenavi folder report = .ok (some found)) :
    ∃ root, xmlRoot fs report = .ok root ∧ found.map Violation.path = codenaviNames root := by
  obtain ⟨root, entries, hroot, hentries⟩ := exists_entries_of_parse h
  refine ⟨root, hroot, ?_⟩
  have hnames : found.map Violation.path = entries.filterMap (fileOf? .codenavi) := by
    have hfiles : found.map Violation.path = (told fs .codenavi report).map Mention.file := by
      have hplaces := paths_of_parse h
      simp only [placeOf_codenavi] at hplaces
      have hok : Function.Injective (Except.ok : String → Except Fault String) := fun _ _ =>
        Except.ok.inj
      refine List.map_injective_iff.mpr hok ?_
      rwa [List.map_map, List.map_map]
    rw [hfiles, told_of_entries hroot hentries, List.map_flatMap, List.filterMap_eq_flatMap_toList]
    exact List.flatMap_congr fun e _ => files_mentions_codenavi e
  obtain ⟨errors, herrors, rfl⟩ := Option.map_eq_some_iff.mp hentries
  rw [hnames]
  unfold codenaviNames
  rw [herrors]
  rfl

end Files

/-! ## What a report adds to the index -/

theorem mem_paths_byFile (tool : Tool) (found : List Violation) (path : String) :
    path ∈ (byFile tool found).map Report.path ↔ path ∈ found.map Violation.path := by
  have hkeys := OrderedMap.mem_keys_foldl_push Violation.path id found path .empty
  have hempty : path ∉ (OrderedMap.empty : OrderedMap String (List Violation)).keys :=
    List.not_mem_nil
  unfold byFile
  rw [List.map_map]
  exact hkeys.trans (or_iff_right hempty)

/-- A call that merges reports has read findings, and adds them to the index file by file. -/
theorem exists_found_of_readMany {tool : Tool} {folder report : Path} {w w' : World}
    {reports : List Report}
    (hread : Action.exec (readMany tool folder report) w = (.ok reports, w'))
    (hmerged : reports ≠ []) :
    ∃ found, parse w.files tool folder report = .ok (some found) ∧
      reports = byFile tool found ∧ w'.index = reports.foldl Index.absorb w.index := by
  rw [exec_readMany] at hread
  cases hdigest : digest w.files tool folder report with
  | empty | unreadable =>
    rw [hdigest] at hread
    exact absurd (Action.answer_inj hread).1.symm hmerged
  | stuck fault =>
    rw [hdigest] at hread
    exact nomatch congrArg Prod.fst hread
  | found found =>
    rw [hdigest] at hread
    refine ⟨found, parse_of_found hdigest, ?_⟩
    cases hsound : (byFile tool found).all Report.isSound with
    | false =>
      obtain ⟨left, hmerge, -⟩ := Index.mergeReports_of_not_sound hsound w.index
      simp only [hmerge] at hread
      exact nomatch congrArg Prod.fst hread
    | true =>
      simp only [Index.mergeReports_of_sound hsound w.index] at hread
      obtain ⟨rfl, rfl⟩ := Action.answer_inj hread
      exact ⟨rfl, rfl⟩

/-- The files of the reports that are merged are added to the index. -/
theorem names_of_readMany {tool : Tool} {folder report : Path} {w w' : World}
    {reports : List Report}
    (hread : Action.exec (readMany tool folder report) w = (.ok reports, w'))
    (hmerged : reports ≠ []) (path : String) :
    w'.index.Names path ↔ w.index.Names path ∨ path ∈ reports.map Report.path := by
  obtain ⟨found, -, -, hindex⟩ := exists_found_of_readMany hread hmerged
  rw [hindex, Index.names_foldl_absorb]

/-- Whether a report names files canonically as far as its names are taken as they are. -/
def NamesCanonically (fs : FileSystem) (tool : Tool) (report : Path) : Prop :=
  tool = .codenavi → ∀ root, xmlRoot fs report = .ok root →
    ∀ name ∈ codenaviNames root, IsCanonical name

/-- A call that merges reports adds the files of these reports to the index, and their names are
canonical exactly if the report is not one of CodeNavi that names some file otherwise. If they are,
and all names in the index are, no file has two names there. -/
theorem added_canonical_iff {tool : Tool} {folder report : Path} {w w' : World}
    {reports : List Report} (hclean : folder.Clean)
    (hread : Action.exec (readMany tool folder report) w = (.ok reports, w'))
    (hmerged : reports ≠ []) :
    (∀ path, w'.index.Names path ↔ w.index.Names path ∨ path ∈ reports.map Report.path) ∧
    ((∀ path ∈ reports.map Report.path, IsCanonical path) ↔
      NamesCanonically w.files tool report) ∧
    (NamesCanonically w.files tool report → (∀ path, w.index.Names path → IsCanonical path) →
      ∀ path other, w'.index.Names path → w'.index.Names other →
        Path.ofString path = Path.ofString other → path = other) := by
  have hnames := names_of_readMany hread hmerged
  obtain ⟨found, hparse, rfl, -⟩ := exists_found_of_readMany hread hmerged
  have hadded : (∀ path ∈ (byFile tool found).map Report.path, IsCanonical path) ↔
      NamesCanonically w.files tool report := by
    simp only [mem_paths_byFile]
    by_cases htool : tool = .codenavi
    · subst htool
      obtain ⟨root, hroot, hpaths⟩ := paths_of_codenavi hparse
      simp only [hpaths]
      refine ⟨fun h _ other hother => ?_, fun h => h rfl root hroot⟩
      cases hroot.symm.trans hother
      exact h
    · refine iff_of_true (fun path hpath => ?_) fun h => absurd h htool
      obtain ⟨v, hv, rfl⟩ := List.mem_map.mp hpath
      obtain ⟨name, hname⟩ := exists_resolve_of_parse hparse htool hv
      exact isCanonical_of_resolve hclean hname
  refine ⟨hnames, hadded, fun hcanonical hold path other hpath hother heq => ?_⟩
  have hall (name : String) (hname : w'.index.Names name) : IsCanonical name :=
    ((hnames name).mp hname).elim (hold name) (hadded.mpr hcanonical name)
  exact (hall path hpath).eq_of_ofString_eq (hall other hother) heq

/-- A call that merges reports on such files, by the files. -/
theorem exists_reports_of_paths {tool : Tool} {folder report : Path} {w : World} {path : String}
    {rest : List String} (h : (Action.exec (readMany tool folder report) w).1.toOption.map
      (·.map Report.path) = some (path :: rest)) :
    ∃ reports w', Action.exec (readMany tool folder report) w = (.ok reports, w') ∧
      reports ≠ [] ∧ reports.map Report.path = path :: rest := by
  obtain ⟨reports, hreports, hpaths⟩ := Option.map_eq_some_iff.mp h
  refine ⟨reports, _, Action.exec_of_toOption hreports, ?_, hpaths⟩
  rintro rfl
  exact nomatch hpaths

/-- A folder with a file, and a report. -/
def reportWorld (text : String) : World :=
  let files := do
    let fs ← FileSystem.initial.ensureDirectories (Path.ofString "/tmp/w/seeds")
    let fs ← fs.write (Path.ofString "/tmp/w/seeds/A.java") []
    fs.write (Path.ofString "/tmp/w/r") text.toUTF8.data.toList
  { World.initial with files := files.toOption.getD .initial }

/-- Infer names the file with a dot in front, and the index by its canonical text. -/
theorem added_reportWorld :
    let w := reportWorld "[\x7b\"file\":\"./A.java\",\"line\":1,\"bug_type\":\"NP\"\x7d]"
    let folder := Path.ofString "/tmp/w/seeds"
    folder.Clean ∧ ∃ reports w',
      Action.exec (readMany .infer folder (Path.ofString "/tmp/w/r")) w = (.ok reports, w') ∧
        reports ≠ [] ∧ w'.index.Names "/tmp/w/seeds/A.java" ∧
        IsCanonical "/tmp/w/seeds/A.java" := by
  intro w folder
  have hclean : folder.Clean := Path.clean_ofString _
  have hpaths : (Action.exec (readMany .infer folder (Path.ofString "/tmp/w/r")) w).1.toOption.map
      (·.map Report.path) = some ["/tmp/w/seeds/A.java"] := by decide +kernel
  obtain ⟨reports, w', hread, hmerged, hpath⟩ := exists_reports_of_paths hpaths
  obtain ⟨hnames, hadded, -⟩ := added_canonical_iff hclean hread hmerged
  rw [hpath] at hnames hadded
  refine ⟨hclean, reports, w', hread, hmerged, (hnames _).mpr (.inr List.mem_cons_self), ?_⟩
  exact hadded.mpr (fun h => nomatch h) _ List.mem_cons_self

/-- A report of CodeNavi with a finding in each of the files named. -/
def errorsIn (names : List String) : String :=
  let errors := names.map fun name =>
    "<error><defectInfo><fileName>" ++ name ++ "</fileName></defectInfo></error>"
  "<r><errors>" ++ "".intercalate errors ++ "</errors></r>"

/-- A file that CodeNavi names by two texts comes to stand in the index twice. -/
theorem readMany_errorsIn :
    let w := reportWorld (errorsIn ["/tmp/w/seeds/A.java", "/tmp/w/seeds//A.java"])
    let folder := Path.ofString "/tmp/w/seeds"
    let report := Path.ofString "/tmp/w/r"
    Path.ofString "/tmp/w/seeds//A.java" = Path.ofString "/tmp/w/seeds/A.java" ∧
      ¬ IsCanonical "/tmp/w/seeds//A.java" ∧
      ∃ reports w', Action.exec (readMany .codenavi folder report) w = (.ok reports, w') ∧
        reports ≠ [] ∧
        w'.index.Names "/tmp/w/seeds/A.java" ∧ w'.index.Names "/tmp/w/seeds//A.java" := by
  intro w folder report
  have hpaths : (Action.exec (readMany .codenavi folder report) w).1.toOption.map
      (·.map Report.path) = some ["/tmp/w/seeds/A.java", "/tmp/w/seeds//A.java"] := by
    decide +kernel
  have hsame : Path.ofString "/tmp/w/seeds//A.java" = Path.ofString "/tmp/w/seeds/A.java" := by
    decide +kernel
  have hother : (Path.ofString "/tmp/w/seeds//A.java").render ≠ "/tmp/w/seeds//A.java" := by
    decide +kernel
  obtain ⟨reports, w', hread, hmerged, hpath⟩ := exists_reports_of_paths hpaths
  have hnames := names_of_readMany hread hmerged
  rw [hpath] at hnames
  refine ⟨hsame, fun h => hother h.normal, reports, w', hread, hmerged, ?_, ?_⟩
  · exact (hnames _).mpr (.inr List.mem_cons_self)
  · exact (hnames _).mpr (.inr (List.mem_cons_of_mem _ List.mem_cons_self))

end Crosscheck.Native
