import Crosscheck.Proofs.Native.Canonical
import Crosscheck.Proofs.Finding.Representation
/-!
# Findings by file

A report about many files is taken apart by file before it is merged. That changes nothing: the
index comes out as if the findings had been merged one by one in the order of the document, and the
reports that are given back have each finding once, under its file.

The induction is on the document from its end. The last finding goes to the group of its file, which
may be merged long before the last group; it reaches the end of the merge since changes of two files
can change places as long as the index knows one of them (`absorb_comm`).
-/

namespace Crosscheck.Index

open Crosscheck.Document

/-! ## Merges that change places -/

/-- Whether the index has an entry for a file in each of the tables that a merge writes. -/
structure Knows (index : Index) (path : String) : Prop where
  rows : path ∈ index.rows.keys
  bugs : path ∈ index.bugs.keys
  violations : path ∈ index.violations.keys

variable {index : Index} {report other : Report} {path : String}

/-- A file is known from its first report on. -/
theorem knows_absorb (index : Index) (report : Report) :
    (index.absorb report).Knows report.path := by
  have hnew {β : Type} (map : OrderedMap String β) (f : Option β → β) :
      report.path ∈ (map.alter report.path f).keys := by
    rw [OrderedMap.keys_alter]
    exact (OrderedMap.mem_withKey (OrderedMap.sharp _)).mpr (.inl rfl)
  exact ⟨hnew _ _, hnew _ _, hnew _ _⟩

/-- A file that is known stays known. -/
theorem Knows.absorb (h : index.Knows path) (report : Report) :
    (index.absorb report).Knows path := by
  have hkeep {β : Type} {map : OrderedMap String β} (hmem : path ∈ map.keys) (f : Option β → β) :
      path ∈ (map.alter report.path f).keys := by
    rw [OrderedMap.keys_alter]
    exact (OrderedMap.mem_withKey (OrderedMap.sharp _)).mpr (.inr hmem)
  exact ⟨hkeep h.rows _, hkeep h.bugs _, hkeep h.violations _⟩

/-- Reports about two files can change places if the second file is known. -/
theorem absorb_comm (hne : report.path ≠ other.path) (h : index.Knows other.path) :
    (index.absorb report).absorb other = (index.absorb other).absorb report := by
  have hrows := OrderedMap.alter_comm hne h.rows
  have hbugs := OrderedMap.alter_comm hne h.bugs
  have hviolations := OrderedMap.alter_comm hne h.violations
  unfold Index.absorb midway OrderedMap.push
  simp only [hrows, hbugs, hviolations]

/-- Two reports about one file are one report with the findings of both. -/
theorem absorb_absorb (index : Index) (path : String) (tool : Tool) (xs ys : List Violation) :
    (index.absorb ⟨path, tool, xs⟩).absorb ⟨path, tool, ys⟩ =
      index.absorb ⟨path, tool, xs ++ ys⟩ := by
  unfold absorb midway
  simp only [OrderedMap.push_push, OrderedMap.alter_alter, Option.getD_some, tally_append,
    List.map_append]

/-- A report about a known file can be merged after reports about other files. -/
theorem foldl_absorb_comm {reports : List Report} (hother : ∀ r ∈ reports, r.path ≠ report.path)
    (h : index.Knows report.path) :
    reports.foldl absorb (index.absorb report) = (reports.foldl absorb index).absorb report := by
  induction reports generalizing index with
  | nil => rfl
  | cons first rest ih =>
    have hfirst : first.path ≠ report.path := hother first List.mem_cons_self
    have hrest : ∀ r ∈ rest, r.path ≠ report.path := fun r hr =>
      hother r (List.mem_cons_of_mem first hr)
    rw [List.foldl_cons, List.foldl_cons, ← absorb_comm hfirst h, ih hrest (h.absorb first)]

/-! ## One finding more -/

/-- The report of a group. -/
def groupReport (tool : Tool) (group : String × List Violation) : Report :=
  ⟨group.1, tool, group.2⟩

/-- A finding that is added to its group is merged as if it came after all groups. -/
theorem foldl_absorb_alterEntries (tool : Tool) (path : String) (v : Violation)
    {groups : List (String × List Violation)} (hkeys : (groups.map (·.1)).Nodup) (index : Index) :
    ((OrderedMap.alterEntries path (fun old => old.getD [] ++ [v]) groups).map
        (groupReport tool)).foldl absorb index =
      ((groups.map (groupReport tool)).foldl absorb index).absorb ⟨path, tool, [v]⟩ := by
  induction groups generalizing index with
  | nil => rfl
  | cons group rest ih =>
    obtain ⟨key, found⟩ := group
    obtain ⟨hnot, hrest⟩ := List.nodup_cons.mp hkeys
    by_cases hkey : key = path
    · subst hkey
      have hother : ∀ r ∈ rest.map (groupReport tool), r.path ≠ key := by
        intro r hr hsame
        obtain ⟨group, hgroup, rfl⟩ := List.mem_map.mp hr
        exact hnot (List.mem_map.mpr ⟨group, hgroup, hsame⟩)
      have hlate := @foldl_absorb_comm _ ⟨key, tool, [v]⟩ _ hother
        (knows_absorb index ⟨key, tool, found⟩)
      simp only [OrderedMap.alterEntries, beq_self_eq_true, if_true, Option.getD_some,
        List.map_cons, List.foldl_cons, groupReport]
      rw [← absorb_absorb]
      exact hlate
    · have hapart : (key == path) = false := beq_eq_false_iff_ne.mpr hkey
      simp only [OrderedMap.alterEntries, hapart, Bool.false_eq_true, if_false, List.map_cons,
        List.foldl_cons, ih hrest]

end Crosscheck.Index

namespace Crosscheck.Native

open Crosscheck.Document Crosscheck.Files

/-! ## Groups -/

/-- The reports by file: the files in the order in which they come up, each with its findings in the
order of the document. -/
theorem byFile_eq (tool : Tool) (found : List Violation) :
    byFile tool found = (found.map (·.path)).eraseDups.map fun path =>
      ⟨path, tool, found.filter (·.path == path)⟩ := by
  unfold byFile
  dsimp only
  rw [OrderedMap.entries_foldl_push, List.map_map]
  rfl

theorem paths_byFile (tool : Tool) (found : List Violation) :
    (byFile tool found).map (·.path) = (found.map (·.path)).eraseDups := by
  rw [byFile_eq, List.map_map]
  exact List.map_id _

/-- A report of a single finding. -/
def lone (tool : Tool) (v : Violation) : Report := ⟨v.path, tool, [v]⟩

/-- Findings taken by file are taken in as if they came one by one. -/
theorem foldl_absorb_byFile (tool : Tool) (found : List Violation) (index : Index) :
    (byFile tool found).foldl Index.absorb index =
      (found.map (lone tool)).foldl Index.absorb index := by
  induction found using List.reverseRecOn with
  | nil => rfl
  | append_singleton found last ih =>
    let grouped : OrderedMap String (List Violation) :=
      found.foldl (fun map v => map.push v.path [v]) .empty
    have hkeys : (grouped.entries.map (·.1)).Nodup := by
      rw [OrderedMap.entries_foldl_push, List.map_map]
      exact (List.map_id _).symm ▸ OrderedMap.nodup_eraseDups _
    have hlast := Index.foldl_absorb_alterEntries tool last.path last hkeys index
    have hbyFile : byFile tool (found ++ [last]) =
        (OrderedMap.alterEntries last.path (fun old => old.getD [] ++ [last]) grouped.entries).map
          (Index.groupReport tool) := by
      unfold byFile
      rw [List.foldl_append]
      rfl
    rw [hbyFile, hlast, List.map_append, List.foldl_append, ← ih]
    rfl

/-- The index grows by the findings of all reports that it takes in. -/
theorem total_foldl_absorb_lone (tool : Tool) (found : List Violation) (index : Index) :
    ((found.map (lone tool)).foldl Index.absorb index).total = index.total + found.length := by
  induction found generalizing index with
  | nil => rfl
  | cons v rest ih =>
    rw [List.map_cons, List.foldl_cons, ih, Index.total_absorb, List.length_cons]
    have hone : (lone tool v).violations.length = 1 := rfl
    omega

/-! ## Reading a report -/

theorem isReadable_of_contentOf {fs : FileSystem} {report : Path} {content : Text.Bytes}
    (h : contentOf fs report = .ok content) (hne : content ≠ []) : isReadable fs report = true := by
  unfold contentOf FileSystem.read at h
  unfold isReadable FileSystem.entry?
  cases hloc : fs.locate report with
  | error refusal => rw [hloc] at h; exact nomatch h
  | ok loc =>
    rw [hloc] at h
    dsimp only at h ⊢
    rcases hentry : fs.find? loc with _ | (own | _)
    · rw [hentry] at h; exact nomatch h
    · rw [hentry] at h
      cases h
      simpa using hne
    · rw [hentry] at h; exact nomatch h

theorem isReadable_of_xmlRoot {fs : FileSystem} {report : Path} {root : Xml.Element}
    (h : xmlRoot fs report = .ok root) : isReadable fs report = true := by
  obtain ⟨content, hcontent, h⟩ := bind_eq_ok_iff.mp h
  refine isReadable_of_contentOf hcontent ?_
  rintro rfl
  have hnone : (Xml.parse []).toOption.isNone = true := by decide +kernel
  cases hparse : Xml.parse [] with
  | ok root => rw [hparse] at hnone; exact nomatch hnone
  | error failure =>
    rw [hparse] at h
    cases failure <;> exact nomatch h

theorem isReadable_of_jsonValue {fs : FileSystem} {report : Path} {value : Value}
    (h : jsonValue fs report = .ok value) : isReadable fs report = true := by
  obtain ⟨content, hcontent, h⟩ := bind_eq_ok_iff.mp h
  refine isReadable_of_contentOf hcontent ?_
  rintro rfl
  have hnone : ((Text.ofUtf8? []).bind fun text => (Json.parse text).toOption).isNone = true := by
    decide +kernel
  revert h hnone
  cases Text.ofUtf8? [] with
  | none => exact fun h => nomatch h
  | some text =>
    intro h hnone
    dsimp only [Option.bind_some] at h hnone
    cases hparse : Json.parse text with
    | ok value => rw [hparse] at hnone; exact nomatch hnone
    | error failure =>
      rw [hparse] at h
      cases failure <;> exact nomatch h

/-- A report that gives findings is not empty. -/
theorem isReadable_of_parse {fs : FileSystem} {tool : Tool} {folder report : Path}
    {found : Option (List Violation)} (h : parse fs tool folder report = .ok found) :
    isReadable fs report = true := by
  rw [parse_eq] at h
  obtain ⟨root, hroot, -⟩ := bind_eq_ok_iff.mp h
  cases tool with
  | codenavi | spotbugs | checkstyle => exact isReadable_of_xmlRoot hroot
  | pmd | infer | sonarqube => exact isReadable_of_jsonValue hroot

/-- A report that gives findings is read. -/
theorem digest_of_parse {fs : FileSystem} {tool : Tool} {folder report : Path}
    {found : List Violation} (h : parse fs tool folder report = .ok (some found)) :
    digest fs tool folder report = .found found := by
  unfold digest
  rw [if_pos (isReadable_of_parse h), h]

/-- A report whose kinds are text leaves the index as if its findings were merged one by one, in the
order of the document. The reports given back are about different files, in the order in which these
come up; each has exactly the findings in its file, in their order, and at least one; and the index
has as many findings more as the document. -/
theorem readMany_eq_one_by_one {tool : Tool} {folder report : Path} {w : World}
    {found : List Violation} (hparse : parse w.files tool folder report = .ok (some found))
    (hkinds : ∀ v ∈ found, ∃ kind : String, v.bugType = .text kind) :
    ∃ reports index, (readMany tool folder report).exec w = (.ok reports, { w with index }) ∧
      Index.mergeReports (found.map (lone tool)) w.index = (index, none) ∧
      reports.map (·.path) = (found.map (·.path)).eraseDups ∧ (reports.map (·.path)).Nodup ∧
      (∀ r ∈ reports, r.tool = tool ∧ r.violations = found.filter (·.path == r.path) ∧
        r.violations ≠ []) ∧
      index.total = w.index.total + found.length := by
  have hsound : ∀ {reports : List Report}, (∀ r ∈ reports, ∀ v ∈ r.violations, v ∈ found) →
      reports.all Report.isSound = true := by
    intro reports hmem
    refine List.all_eq_true.mpr fun r hr => Report.isSound_of_text fun v hv => ?_
    exact hkinds v (hmem r hr v hv)
  have hgrouped : (byFile tool found).all Report.isSound = true := by
    refine hsound fun r hr v hv => ?_
    exact (byFile_perm tool found).mem_iff.mp (List.mem_flatMap.mpr ⟨r, hr, hv⟩)
  have hlone : (found.map (lone tool)).all Report.isSound = true := by
    refine hsound fun r hr v hv => ?_
    obtain ⟨u, hu, rfl⟩ := List.mem_map.mp hr
    exact List.mem_singleton.mp hv ▸ hu
  refine ⟨byFile tool found, (byFile tool found).foldl Index.absorb w.index, ?read, ?stream,
    paths_byFile tool found, ?once, ?groups, ?total⟩
  case read =>
    rw [exec_readMany, digest_of_parse hparse]
    simp only [Index.mergeReports_of_sound hgrouped, Action.answer]
  case stream => rw [Index.mergeReports_of_sound hlone, foldl_absorb_byFile]
  case once =>
    rw [paths_byFile]
    exact OrderedMap.nodup_eraseDups _
  case groups =>
    intro r hr
    rw [byFile_eq] at hr
    obtain ⟨path, hpath, rfl⟩ := List.mem_map.mp hr
    refine ⟨rfl, rfl, ?_⟩
    obtain ⟨v, hv, hsame⟩ := List.mem_map.mp (List.mem_eraseDups.mp hpath)
    exact List.ne_nil_of_mem (List.mem_filter.mpr ⟨hv, beq_iff_eq.mpr hsame⟩)
  case total => rw [foldl_absorb_byFile, total_foldl_absorb_lone]

/-- A folder, an index that knows `B.java`, and a report with a finding in that file between two in
`A.java`. -/
def scatteredWorld : World :=
  let entry (file line kind : String) : String :=
    "\x7b\"file\":\"" ++ file ++ "\",\"line\":" ++ line ++ ",\"bug_type\":\"" ++ kind ++ "\"\x7d"
  let text := "[" ++ ",".intercalate
    [entry "A.java" "3" "NP", entry "B.java" "7" "NP", entry "A.java" "1" "LEAK"] ++ "]"
  let path := "/tmp/w/seeds/B.java"
  { reportWorld text with index := Index.empty.absorb ⟨path, .pmd, [⟨path, 9, .text "EI", .pmd⟩]⟩ }

/-- The two findings in `A.java` come together; `B.java` stays before it in the index and comes
after it in the reports. -/
theorem readMany_scatteredWorld :
    let folder := Path.ofString "/tmp/w/seeds"
    let report := Path.ofString "/tmp/w/r"
    let a := "/tmp/w/seeds/A.java"
    let b := "/tmp/w/seeds/B.java"
    ∃ found reports index, parse scatteredWorld.files .infer folder report = .ok (some found) ∧
      (∀ v ∈ found, ∃ kind : String, v.bugType = .text kind) ∧
      found.map (fun v => (v.path, v.line)) = [(a, 3), (b, 7), (a, 1)] ∧
      (readMany .infer folder report).exec scatteredWorld =
        (.ok reports, { scatteredWorld with index }) ∧
      Index.mergeReports (found.map (lone .infer)) scatteredWorld.index = (index, none) ∧
      reports.map (·.path) = [a, b] ∧ index.rows.entries = [(b, [9, 7]), (a, [3, 1])] ∧
      index.total = 4 := by
  intro folder report a b
  let view (v : Violation) : (String × Int) × Bool :=
    ((v.path, v.line), v.bugType == .text "NP" || v.bugType == .text "LEAK")
  have hsome : (parse scatteredWorld.files .infer folder report).toOption.map
      (·.map (·.map view)) = some (some [((a, 3), true), ((b, 7), true), ((a, 1), true)]) := by
    decide +kernel
  obtain ⟨own, hparse, hsome⟩ := Option.map_eq_some_iff.mp hsome
  obtain ⟨found, rfl, hfound⟩ := Option.map_eq_some_iff.mp hsome
  have hparse := Action.ok_of_toOption hparse
  have hplaces : found.map (fun v => (v.path, v.line)) = [(a, 3), (b, 7), (a, 1)] := by
    have hfirst := congrArg (List.map Prod.fst) hfound
    rwa [List.map_map] at hfirst
  have hkinds : ∀ v ∈ found, ∃ kind : String, v.bugType = .text kind := by
    intro v hv
    have hmem : view v ∈ found.map view := List.mem_map_of_mem hv
    rw [hfound] at hmem
    have hkind : (view v).2 = true := by
      simp only [List.mem_cons, List.not_mem_nil, or_false] at hmem
      rcases hmem with h | h | h <;> rw [h]
    rcases Bool.or_eq_true_iff.mp hkind with h | h
    · exact ⟨"NP", (sharp_text _ _).mp h⟩
    · exact ⟨"LEAK", (sharp_text _ _).mp h⟩
  obtain ⟨reports, index, hread, hmerge, hpaths, -, -, htotal⟩ :=
    readMany_eq_one_by_one hparse hkinds
  refine ⟨found, reports, index, hparse, hkinds, hplaces, hread, hmerge, ?_, ?_, ?_⟩
  · have hfiles : found.map (·.path) = [a, b, a] := by
      have hfirst := congrArg (List.map Prod.fst) hplaces
      rwa [List.map_map] at hfirst
    rw [hpaths, hfiles]
    decide
  · have hindex : ((readMany .infer folder report).exec scatteredWorld).2.index = index := by
      rw [hread]
    rw [← hindex]
    decide +kernel
  · have hlength := congrArg List.length hplaces
    rw [List.length_map] at hlength
    rw [htotal, hlength]
    decide +kernel

end Crosscheck.Native
