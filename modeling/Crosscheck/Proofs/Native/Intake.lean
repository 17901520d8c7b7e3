import Crosscheck.Native.Reader
import Crosscheck.Proofs.Action
import Crosscheck.Proofs.Finding.Merge
import Crosscheck.Proofs.Native.Faults
/-!
# How reports come in

`digest` is what a report comes to before anything is merged. Reading a report merges its findings
if there are any, and touches nothing of the index otherwise; what can go wrong from there on is a
kind that cannot be a key. So a call either merges all that it brings or leaves the index alone if
all kinds that it brings are keys, and if not, it fails halfway.
-/

namespace Crosscheck.Index

/-- Merges reports one after the other, up to one whose merge fails. -/
def mergeReports : List Report → Index → Index × Option Fault
  | [], index => (index, none)
  | report :: rest, index =>
    match index.merge report with
    | (index, none) => mergeReports rest index
    | (index, some fault) => (index, some fault)

/-- Reports whose kinds are all keys are merged as wholes. -/
theorem mergeReports_of_sound {reports : List Report} (h : reports.all Report.isSound = true)
    (index : Index) : mergeReports reports index = (reports.foldl absorb index, none) := by
  induction reports generalizing index with
  | nil => rfl
  | cons report rest ih =>
    rw [List.all_cons, Bool.and_eq_true] at h
    simp only [mergeReports, merge_of_isSound h.1 index, ih h.2, List.foldl_cons]

/-- A merge of any other reports fails, and leaves findings of the report that it fails at. -/
theorem mergeReports_of_not_sound {reports : List Report}
    (h : reports.all Report.isSound = false) (index : Index) :
    ∃ left, mergeReports reports index = (left, some .notKey) ∧ index.stored < left.stored := by
  induction reports generalizing index with
  | nil => exact absurd h.symm Bool.false_ne_true
  | cons report rest ih =>
    cases hfirst : report.isSound with
    | true =>
      rw [List.all_cons, hfirst, Bool.true_and] at h
      obtain ⟨left, hrest, hmore⟩ := ih h (index.absorb report)
      refine ⟨left, ?_, ?_⟩
      · simp only [mergeReports, merge_of_isSound hfirst index, hrest]
      · have habsorb := stored_midway index report report.violations report.violations
        have hless : (index.absorb report).stored < left.stored := hmore
        have hsame : (index.absorb report).stored = index.stored + report.violations.length :=
          habsorb
        omega
    | false =>
      obtain ⟨lined, counted, hmerge⟩ := merge_of_not_isSound hfirst index
      refine ⟨index.midway report lined counted, ?_, ?_⟩
      · simp only [mergeReports, hmerge]
      · have hpos := report.length_pos_of_not_isSound hfirst
        rw [stored_midway]
        omega

end Crosscheck.Index

namespace Crosscheck.Native

open Crosscheck.Files

/-! ## Digests -/

/-- What a report comes to. -/
inductive Digest
  /-- There is nothing to read, or no place for findings in it. -/
  | empty
  /-- It is malformed or cannot be opened. -/
  | unreadable
  /-- It is read up to a value that nothing can be made of. -/
  | stuck (fault : Fault)
  | found (violations : List Violation)

/-- What a report comes to in view of the files. -/
def digest (fs : FileSystem) (tool : Tool) (folder report : Path) : Digest :=
  if isReadable fs report then
    match parse fs tool folder report with
    | .ok none => .empty
    | .ok (some found) => .found found
    | .error (.report _) | .error (.access _) => .unreadable
    | .error fault => .stuck fault
  else .empty

/-- A report that is stuck holds a number of too many digits, a value without members in the place
of a list, or XML in an encoding that is not read. -/
theorem endsReading_of_stuck {fs : FileSystem} {tool : Tool} {folder report : Path} {fault : Fault}
    (h : digest fs tool folder report = .stuck fault) : EndsReading fault := by
  unfold digest at h
  split at h
  · have hparse := careful_parse fs tool folder report
    split at h
    · exact nomatch h
    · exact nomatch h
    · exact nomatch h
    · exact nomatch h
    · next other hreport haccess heq =>
      cases h
      rcases hparse fault heq with hends | ⟨e, rfl⟩ | ⟨e, rfl⟩
      · exact hends
      · exact absurd rfl (hreport e)
      · exact absurd rfl (haccess e)
  · exact nomatch h

/-- The findings of a report that can be read, as far as its digest goes. -/
theorem exec_findings (tool : Tool) (folder : Path) {report : Path} {w : World}
    (h : isReadable w.files report = true) :
    Action.exec (findings tool folder report) w =
      match digest w.files tool folder report with
      | .empty => (.ok none, w)
      | .unreadable => (.ok none, w.withUnreadable report.render)
      | .stuck fault => (.error fault, w)
      | .found found => (.ok (some found), w) := by
  unfold findings digest
  rw [Action.exec_bind_of_ok (Action.exec_files w), if_pos h]
  cases parse w.files tool folder report with
  | ok found => cases found <;> rfl
  | error fault => cases fault <;> rfl

theorem digest_of_not_isReadable {fs : FileSystem} {tool : Tool} {folder report : Path}
    (h : isReadable fs report = false) : digest fs tool folder report = .empty := by
  unfold digest
  rw [h]
  rfl

theorem parse_of_found {fs : FileSystem} {tool : Tool} {folder report : Path}
    {found : List Violation} (h : digest fs tool folder report = .found found) :
    parse fs tool folder report = .ok (some found) := by
  unfold digest at h
  split at h
  · split at h
    · exact nomatch h
    · next own hparse =>
      rw [hparse, Digest.found.inj h]
    · exact nomatch h
    · exact nomatch h
    · exact nomatch h
  · exact nomatch h

/-! ## Merging -/

theorem exec_mergeAll (reports : List Report) (w : World) :
    Action.exec (mergeAll reports) w =
      (Action.answer ⟨⟩ (Index.mergeReports reports w.index).2,
        { w with index := (Index.mergeReports reports w.index).1 }) := by
  induction reports generalizing w with
  | nil => rfl
  | cons report rest ih =>
    have hfirst := Action.exec_updateIndex w fun index => index.merge report
    unfold mergeAll
    rcases hmerge : w.index.merge report with ⟨index, _ | fault⟩
    · rw [hmerge] at hfirst
      rw [Action.exec_bind_of_ok hfirst, ih]
      simp only [Index.mergeReports, hmerge]
    · rw [hmerge] at hfirst
      rw [Action.exec_bind_of_error hfirst]
      simp only [Index.mergeReports, hmerge, Action.answer]

/-- The reports by file have the findings of the whole report. -/
theorem byFile_perm (tool : Tool) (found : List Violation) :
    ((byFile tool found).flatMap (·.violations)).Perm found := by
  have hperm := OrderedMap.values_foldl_push_perm Violation.path id found .empty
  rw [List.map_id] at hperm
  unfold byFile
  rw [List.flatMap_map, List.flatMap_def]
  exact hperm

/-- The reports by file can be merged if all findings can. -/
theorem byFile_sound (tool : Tool) (found : List Violation) :
    (byFile tool found).all Report.isSound = found.all (·.bugType.isKey) := by
  rw [Bool.eq_iff_iff]
  have hperm := byFile_perm tool found
  show (byFile tool found).all (fun report => report.violations.all (·.bugType.isKey)) = true ↔ _
  rw [← List.all_flatMap]
  simp only [List.all_eq_true, hperm.mem_iff]

/-- What reading a report about many files comes to. -/
theorem exec_readMany (tool : Tool) (folder report : Path) (w : World) :
    Action.exec (readMany tool folder report) w =
      match digest w.files tool folder report with
      | .empty => (.ok [], w)
      | .unreadable => (.ok [], w.withUnreadable report.render)
      | .stuck fault => (.error fault, w)
      | .found found =>
        let merged := Index.mergeReports (byFile tool found) w.index
        (Action.answer (byFile tool found) merged.2, { w with index := merged.1 }) := by
  unfold readMany
  rw [Action.exec_bind_of_ok (Action.exec_files w)]
  cases hreadable : isReadable w.files report with
  | false => rw [digest_of_not_isReadable hreadable]; rfl
  | true =>
    have hfindings := exec_findings tool folder hreadable
    rw [if_pos rfl, Action.exec_bind, hfindings]
    cases digest w.files tool folder report with
    | empty => rfl
    | unreadable => rfl
    | stuck fault => rfl
    | found found =>
      exact Action.exec_bind_pure_of_answer (exec_mergeAll (byFile tool found) w) _

namespace Digest

/-- Whether a digest can be taken in: it does not end early, and its kinds are keys. -/
def isSound : Digest → Bool
  | .empty | .unreadable => true
  | .stuck _ => false
  | .found violations => violations.all (·.bugType.isKey)

/-- An index with the findings of a digest, file by file. -/
def settle (tool : Tool) (index : Index) : Digest → Index
  | .found violations => (byFile tool violations).foldl Index.absorb index
  | _ => index

/-- Whether a digest is of a report that is recorded as a failure. -/
def isUnreadable : Digest → Bool
  | .unreadable => true
  | _ => false

end Digest

/-- A report whose digest can be taken in is merged as a whole, recorded, or passed over. -/
theorem exec_readMany_of_isSound {tool : Tool} {folder report : Path} {w : World}
    (h : (digest w.files tool folder report).isSound = true) :
    ∃ reports w', Action.exec (readMany tool folder report) w = (.ok reports, w') ∧
      w'.files = w.files ∧ w'.index = (digest w.files tool folder report).settle tool w.index ∧
      w'.ledger.reports = w.ledger.reports ++
        if (digest w.files tool folder report).isUnreadable then [report.render] else [] := by
  rw [exec_readMany]
  cases hdigest : digest w.files tool folder report with
  | empty => exact ⟨_, _, rfl, rfl, rfl, (List.append_nil _).symm⟩
  | unreadable => exact ⟨_, _, rfl, rfl, rfl, rfl⟩
  | stuck fault => rw [hdigest] at h; exact absurd h Bool.false_ne_true
  | found found =>
    rw [hdigest] at h
    have hmerge := Index.mergeReports_of_sound ((byFile_sound tool found).trans h) w.index
    refine ⟨byFile tool found, { w with index := (byFile tool found).foldl Index.absorb w.index },
      ?_, rfl, rfl, (List.append_nil _).symm⟩
    simp only [hmerge, Action.answer]

/-- Any other report ends the reading. -/
theorem exec_readMany_of_not_isSound {tool : Tool} {folder report : Path} {w : World}
    (h : (digest w.files tool folder report).isSound = false) :
    ∃ fault w', Action.exec (readMany tool folder report) w = (.error fault, w') ∧
      (fault = .notKey ∨ EndsReading fault) := by
  rw [exec_readMany]
  cases hdigest : digest w.files tool folder report with
  | empty => rw [hdigest] at h; exact absurd h.symm Bool.false_ne_true
  | unreadable => rw [hdigest] at h; exact absurd h.symm Bool.false_ne_true
  | stuck fault => exact ⟨fault, w, rfl, .inr (endsReading_of_stuck hdigest)⟩
  | found found =>
    rw [hdigest] at h
    obtain ⟨left, hmerge, -⟩ :=
      Index.mergeReports_of_not_sound ((byFile_sound tool found).trans h) w.index
    refine ⟨.notKey, { w with index := left }, ?_, .inl rfl⟩
    simp only [hmerge, Action.answer]

/-- The report about a single file: all findings count for that file. -/
def singleReport (tool : Tool) (seed : Path) (found : List Violation) : Report :=
  let path := seed.absolute.render
  ⟨path, tool, found.map fun v => { v with path }⟩

/-- What reading the report about a file comes to that is not registered. -/
theorem exec_readSingle (tool : Tool) (seed report : Path) {w : World}
    (h : w.index.isRegistered seed.absolute.render = false) :
    Action.exec (readSingle tool seed report) w =
      match digest w.files tool seed.absolute.parent report with
      | .empty => (.ok none, w)
      | .unreadable => (.ok none, w.withUnreadable report.render)
      | .stuck fault => (.error fault, w)
      | .found found =>
        let registered := w.index.register (singleReport tool seed found) report.render
        (Action.answer (some (singleReport tool seed found)) registered.2,
          { w with index := registered.1 }) := by
  unfold readSingle
  rw [Action.exec_bind_of_ok (Action.exec_files w)]
  cases hreadable : isReadable w.files report with
  | false => rw [digest_of_not_isReadable hreadable]; rfl
  | true =>
    have hfindings := exec_findings tool seed.absolute.parent hreadable
    rw [if_pos rfl, Action.exec_bind_of_ok (Action.exec_get w)]
    simp only [h, Bool.false_eq_true, if_false]
    rw [Action.exec_bind, hfindings]
    cases digest w.files tool seed.absolute.parent report with
    | empty => rfl
    | unreadable => rfl
    | stuck fault => rfl
    | found found =>
      exact Action.exec_bind_pure_of_answer (Action.exec_updateIndex w fun index =>
        index.register (singleReport tool seed found) report.render) _

/-! ## Calls -/

/-- The two ways of reading a report. -/
inductive Intake
  /-- As one about files below a folder. -/
  | many (folder : Path)
  /-- As the one about a single file. -/
  | single (seed : Path)

namespace Intake

/-- Reads a report, and says which reports were merged. -/
def read (tool : Tool) (report : Path) : Intake → Action (List Report)
  | .many folder => readMany tool folder report
  | .single seed => return (← readSingle tool seed report).toList

/-- The folder from which names of files count. -/
def folder : Intake → Path
  | .many folder => folder
  | .single seed => seed.absolute.parent

/-- Whether a call is refused since the file has a report already. -/
def isRefused (index : Index) : Intake → Bool
  | .many _ => false
  | .single seed => index.isRegistered seed.absolute.render

/-- The reports that findings are merged as. -/
def reports (tool : Tool) (found : List Violation) : Intake → List Report
  | .many _ => byFile tool found
  | .single seed => [singleReport tool seed found]

/-- Merges findings into an index, up to one whose kind cannot be a key. -/
def merge (tool : Tool) (report : Path) (found : List Violation) (index : Index) :
    Intake → Index × Option Fault
  | .many _ => Index.mergeReports (byFile tool found) index
  | .single seed => index.register (singleReport tool seed found) report.render

/-- An index with reports, each of them as a whole. -/
def settle (index : Index) (merged : List Report) : Intake → Index
  | .many _ => merged.foldl Index.absorb index
  | .single _ => merged.foldl (fun index report => (index.enter report).absorb report) index

/-- The findings that a call brings to the index. -/
def brings (tool : Tool) (report : Path) (w : World) (intake : Intake) :
    Option (List Violation) :=
  if intake.isRefused w.index then none
  else
    match digest w.files tool intake.folder report with
    | .found found => some found
    | _ => none

variable {intake : Intake} {tool : Tool} {report : Path} {w : World}

theorem settle_nil (intake : Intake) (index : Index) : intake.settle index [] = index := by
  cases intake <;> rfl

theorem reports_sound (intake : Intake) (tool : Tool) (found : List Violation) :
    (intake.reports tool found).all Report.isSound = found.all (·.bugType.isKey) := by
  cases intake with
  | many => exact byFile_sound tool found
  | single seed =>
    simp only [reports, singleReport, List.all_cons, List.all_nil, Bool.and_true, Report.isSound,
      List.all_map]
    rfl

/-- Findings whose kinds are all keys are merged as wholes. -/
theorem merge_of_keys (tool : Tool) (report : Path) {found : List Violation} {index : Index}
    (hnew : intake.isRefused index = false) (h : found.all (·.bugType.isKey) = true) :
    intake.merge tool report found index =
      (intake.settle index (intake.reports tool found), none) := by
  rw [← intake.reports_sound tool] at h
  cases intake with
  | many folder => exact Index.mergeReports_of_sound h index
  | single seed =>
    rw [reports, List.all_cons, List.all_nil, Bool.and_true] at h
    have hregister := Index.register_of_new (singleReport tool seed found) hnew
    show index.register _ _ = _
    rw [hregister report.render, Index.merge_of_isSound h]
    rfl

/-- A merge of any other findings fails, and leaves some of them. -/
theorem merge_of_not_keys (tool : Tool) (report : Path) {found : List Violation} {index : Index}
    (hnew : intake.isRefused index = false) (h : found.all (·.bugType.isKey) = false) :
    ∃ left, intake.merge tool report found index = (left, some .notKey) ∧
      index.stored < left.stored := by
  rw [← intake.reports_sound tool] at h
  cases intake with
  | many folder => exact Index.mergeReports_of_not_sound h index
  | single seed =>
    rw [reports, List.all_cons, List.all_nil, Bool.and_true] at h
    obtain ⟨lined, counted, hmerge⟩ :=
      Index.merge_of_not_isSound h (index.enter (singleReport tool seed found))
    have hregister := Index.register_of_new (singleReport tool seed found) hnew
    refine ⟨_, (hregister report.render).trans hmerge, ?_⟩
    rw [Index.stored_midway, Index.stored_enter]
    have hpos := Report.length_pos_of_not_isSound h
    omega

/-! ## What a call does -/

/-- There is nothing to do where there is nothing to read. -/
theorem exec_read_of_not_isReadable (intake : Intake) (h : isReadable w.files report = false) :
    (intake.read tool report).exec w = (.ok [], w) := by
  cases intake with
  | many folder =>
    show (readMany tool folder report).exec w = _
    rw [exec_readMany, digest_of_not_isReadable h]
  | single seed =>
    unfold read readSingle
    rw [Action.exec_bind, Action.exec_bind_of_ok (Action.exec_files w), h]
    rfl

/-- A report about a registered file is not looked into. -/
theorem exec_read_of_registered {seed : Path}
    (hthere : w.index.isRegistered seed.absolute.render = true)
    (hreadable : isReadable w.files report = true) :
    ((Intake.single seed).read tool report).exec w =
      (.error (.repeatedSeed seed.absolute.render report.render),
        { w with journal := w.journal ++ [⟨.critical,
          s!"Repeat process: {seed.absolute.render}, report: {report.render}"⟩] }) := by
  unfold read readSingle
  rw [Action.exec_bind, Action.exec_bind_of_ok (Action.exec_files w), if_pos hreadable,
    Action.exec_bind_of_ok (Action.exec_get w)]
  simp only [hthere, if_true]
  rfl

/-- A refused call ends early unless it has nothing to read. -/
theorem exec_read_of_isRefused (h : intake.isRefused w.index = true) :
    (Action.exec (intake.read tool report) w).2.index = w.index ∧
      ∀ merged, (Action.exec (intake.read tool report) w).1 = .ok merged → merged = [] := by
  cases intake with
  | many folder => exact absurd h Bool.false_ne_true
  | single seed =>
    cases hreadable : isReadable w.files report with
    | false =>
      rw [exec_read_of_not_isReadable _ hreadable]
      exact ⟨rfl, fun merged hmerged => (Except.ok.inj hmerged).symm⟩
    | true =>
      rw [exec_read_of_registered h hreadable]
      exact ⟨rfl, fun merged hmerged => nomatch hmerged⟩

/-- What a call does that is not refused. -/
theorem exec_read (h : intake.isRefused w.index = false) :
    Action.exec (intake.read tool report) w =
      match digest w.files tool intake.folder report with
      | .empty => (.ok [], w)
      | .unreadable => (.ok [], w.withUnreadable report.render)
      | .stuck fault => (.error fault, w)
      | .found found =>
        let merged := intake.merge tool report found w.index
        (Action.answer (intake.reports tool found) merged.2, { w with index := merged.1 }) := by
  cases intake with
  | many folder => exact exec_readMany tool folder report w
  | single seed =>
    unfold read
    rw [Action.exec_bind, exec_readSingle tool seed report h]
    show _ = match digest w.files tool seed.absolute.parent report with
      | .empty => _ | .unreadable => _ | .stuck fault => _ | .found found => _
    cases digest w.files tool seed.absolute.parent report with
    | empty => rfl
    | unreadable => rfl
    | stuck fault => rfl
    | found found =>
      simp only [merge, reports]
      cases (w.index.register (singleReport tool seed found) report.render).2 <;> rfl

/-- A call that brings no findings leaves the index alone. -/
theorem exec_read_of_brings_none (h : intake.brings tool report w = none) :
    (Action.exec (intake.read tool report) w).2.index = w.index ∧
      ∀ merged, (Action.exec (intake.read tool report) w).1 = .ok merged → merged = [] := by
  cases hrefused : intake.isRefused w.index with
  | true => exact exec_read_of_isRefused hrefused
  | false =>
    simp only [brings, hrefused, Bool.false_eq_true, if_false] at h
    rw [exec_read hrefused]
    cases hdigest : digest w.files tool intake.folder report with
    | empty => exact ⟨rfl, fun merged hmerged => (Except.ok.inj hmerged).symm⟩
    | unreadable => exact ⟨rfl, fun merged hmerged => (Except.ok.inj hmerged).symm⟩
    | stuck fault => exact ⟨rfl, fun merged hmerged => nomatch hmerged⟩
    | found found => rw [hdigest] at h; exact nomatch h

/-- A call that brings findings merges them. -/
theorem exec_read_of_brings {found : List Violation}
    (h : intake.brings tool report w = some found) :
    intake.isRefused w.index = false ∧
      Action.exec (intake.read tool report) w =
        (Action.answer (intake.reports tool found) (intake.merge tool report found w.index).2,
          { w with index := (intake.merge tool report found w.index).1 }) := by
  cases hrefused : intake.isRefused w.index with
  | true =>
    simp only [brings, hrefused, if_true] at h
    exact nomatch h
  | false =>
    simp only [brings, hrefused, Bool.false_eq_true, if_false] at h
    rw [exec_read hrefused]
    cases hdigest : digest w.files tool intake.folder report with
    | empty => rw [hdigest] at h; exact nomatch h
    | unreadable => rw [hdigest] at h; exact nomatch h
    | stuck fault => rw [hdigest] at h; exact nomatch h
    | found other =>
      rw [hdigest] at h
      cases h
      exact ⟨rfl, rfl⟩

/-- A call whose findings all have kinds that are keys merges all of them or leaves the index
alone. -/
theorem read_settles
    (h : ∀ found, intake.brings tool report w = some found →
      ∀ v ∈ found, v.bugType.isKey = true) :
    ∃ merged, (Action.exec (intake.read tool report) w).2.index = intake.settle w.index merged ∧
      ((Action.exec (intake.read tool report) w).1 = .ok merged ∨ merged = []) := by
  cases hbrings : intake.brings tool report w with
  | none =>
    obtain ⟨hindex, -⟩ := exec_read_of_brings_none hbrings
    exact ⟨[], by rw [hindex, settle_nil], .inr rfl⟩
  | some found =>
    obtain ⟨hnew, hread⟩ := exec_read_of_brings hbrings
    have hmerge := merge_of_keys tool report hnew
      (List.all_eq_true.mpr (h found hbrings))
    rw [hread, hmerge]
    exact ⟨intake.reports tool found, rfl, .inl rfl⟩

/-- A call that brings a kind that is no key fails, and leaves findings in the index. -/
theorem read_spills {found : List Violation} (h : intake.brings tool report w = some found)
    (hkeys : ¬ ∀ v ∈ found, v.bugType.isKey = true) :
    (Action.exec (intake.read tool report) w).1 = .error .notKey ∧
      w.index.stored < (Action.exec (intake.read tool report) w).2.index.stored := by
  obtain ⟨hnew, hread⟩ := exec_read_of_brings h
  have hall : found.all (·.bugType.isKey) = false :=
    Bool.eq_false_iff.mpr fun htrue => hkeys (List.all_eq_true.mp htrue)
  obtain ⟨left, hmerge, hmore⟩ := merge_of_not_keys tool report hnew hall
  rw [hread, hmerge]
  exact ⟨rfl, hmore⟩

/-- A call that does not return reports that it merged leaves the index as it was, if no kind that
it brings fails to be a key, and only then; and then whatever is merged is merged as a whole. -/
theorem read_atomic_iff (intake : Intake) (tool : Tool) (report : Path) (w : World) :
    (((∀ merged, (Action.exec (intake.read tool report) w).1 = .ok merged → merged = []) →
        (Action.exec (intake.read tool report) w).2.index = w.index) ↔
      ∀ found, intake.brings tool report w = some found → ∀ v ∈ found, v.bugType.isKey = true) ∧
    ((∀ found, intake.brings tool report w = some found → ∀ v ∈ found, v.bugType.isKey = true) →
      ∃ merged, (Action.exec (intake.read tool report) w).2.index = intake.settle w.index merged ∧
        ((Action.exec (intake.read tool report) w).1 = .ok merged ∨ merged = [])) := by
  refine ⟨⟨?spill, ?settle⟩, read_settles⟩
  case spill =>
    intro hatomic found hbrings
    by_contra hkeys
    obtain ⟨hfault, hmore⟩ := read_spills hbrings hkeys
    have hsame := hatomic fun merged hmerged => nomatch hfault.symm.trans hmerged
    rw [hsame] at hmore
    exact Nat.lt_irrefl _ hmore
  case settle =>
    intro hkeys hnone
    obtain ⟨merged, hindex, hanswer⟩ := read_settles hkeys
    have hempty : merged = [] := hanswer.elim (hnone merged) id
    rw [hindex, hempty, settle_nil]

/-! ## A list for a kind -/

/-- A corpus and a report on one of its files, whose only finding has a list for its kind. -/
def oddWorld : World :=
  let files := do
    let fs ← FileSystem.initial.ensureDirectories (Path.ofString "/tmp/w/seeds")
    fs.write (Path.ofString "/tmp/w/r.json")
      "[\x7b\"file\": \"A.java\", \"line\": 1, \"bug_type\": [1]\x7d]".toUTF8.data.toList
  { World.initial with files := files.toOption.getD .initial }

/-- Reading the report fails, and the finding stays in the index with its line. -/
theorem read_oddWorld_spills :
    let intake := Intake.many (Path.ofString "/tmp/w/seeds")
    let after := Action.exec (intake.read .infer (Path.ofString "/tmp/w/r.json")) oddWorld
    ¬ ((∀ merged, after.1 = .ok merged → merged = []) → after.2.index = oddWorld.index) := by
  intro intake after hatomic
  have hfault : after.1.toOption.isNone = true := by decide +kernel
  have hrows : after.2.index.rowsOf "/tmp/w/seeds/A.java" = [1] := by decide +kernel
  have hempty : oddWorld.index.rowsOf "/tmp/w/seeds/A.java" = [] := rfl
  have hsame : after.2.index = oddWorld.index := by
    refine hatomic fun merged hmerged => ?_
    rw [hmerged] at hfault
    exact nomatch hfault
  rw [hsame, hempty] at hrows
  exact nomatch hrows

end Intake

end Crosscheck.Native
