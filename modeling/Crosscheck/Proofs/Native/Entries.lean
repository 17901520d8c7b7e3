import Crosscheck.Proofs.Action
import Crosscheck.Proofs.Native.RoundTrip
import Mathlib.Data.List.Forall2
/-!
# Findings entry by entry

Reading makes one violation of each finding that an entry tells, in the order of the document, as
long as the files that the entries name can all be located (`parse_entrywise_iff`). A `Regular`
entry then contributes all its findings, and nothing that another entry holds has any bearing on it.
A name that is too long to be looked up ends the reading with all that the other entries tell
(`parse_longNamed`).
-/

namespace Crosscheck.Native

open Crosscheck.Document Crosscheck.Files Crosscheck.Text

section Report

variable {fs : FileSystem} {folder report : Path} {tool : Tool}

/-- Whether the place for the findings of an entry holds a list or nothing. Only entries of PMD have
such a place. -/
def Listed : (tool : Tool) → Node tool → Prop
  | .pmd, entry => Value.getD entry "violations" = .null ∨
    ∃ items, Value.getD entry "violations" = .list items
  | _, _ => True

/-- Whether an entry can be read. -/
structure Regular (tool : Tool) (entry : Node tool) : Prop where
  /-- No line is a numeral of too many digits. -/
  short : ∀ x ∈ mentions tool entry, ∀ y : Numeral, x.line = .text y.text →
    y.digits.length ≤ digitLimit
  listed : (fileOf? tool entry).isSome = true → Listed tool entry

theorem Listed.iterable {entry : Node tool} (h : Listed tool entry) : Iterable tool entry := by
  cases tool with
  | pmd =>
    rcases h with hnull | ⟨items, hitems⟩
    · exact ⟨[], by rw [hnull]; rfl⟩
    · refine ⟨items, ?_⟩
      rw [hitems]
      unfold membersOf
      cases items <;> rfl
  | _ => trivial

/-- Whether it can be found out where a file is that a report names. -/
def Located (fs : FileSystem) (folder : Path) (tool : Tool) (file : String) : Prop :=
  tool = .codenavi ∨ Reachable fs folder file

theorem exists_placeOf_of_located {file : String} (h : Located fs folder tool file) :
    ∃ place, placeOf fs folder tool file = .ok place := by
  by_cases htool : tool = .codenavi
  · exact ⟨file, if_pos htool⟩
  · rw [placeOf_of_ne htool]
    exact exists_resolve_of_reachable (h.resolve_left htool)

/-- A file that cannot be located is refused for the length of its name. -/
theorem placeOf_eq_error {file : String} (h : ¬ Located fs folder tool file) :
    ∃ subject, placeOf fs folder tool file = .error (.access ⟨.nameTooLong, subject⟩) := by
  obtain ⟨htool, hunreachable⟩ := not_or.mp h
  rw [placeOf_of_ne htool]
  exact resolve_eq_error hunreachable

/-- The violation of a mention in a file that is located, with no known line where none can be
read. -/
def violationOf (fs : FileSystem) (folder : Path) (tool : Tool) (x : Mention) : Violation where
  path := (placeOf fs folder tool x.file).toOption.getD x.file
  line := (lineOf x.line).toOption.getD unknownLine
  bugType := Violation.bugTypeOf x.kind
  tool := tool

/-- What an entry contributes to the findings of its report. -/
def contribution (fs : FileSystem) (folder : Path) (tool : Tool) (entry : Node tool) :
    List Violation := (mentions tool entry).map (violationOf fs folder tool)

/-- A regular entry contributes all that it tells, if its file can be located. -/
theorem readEntry_of_located {entry : Node tool} (h : Regular tool entry)
    (hlocated : ∀ file ∈ fileOf? tool entry, Located fs folder tool file) :
    readEntry fs folder tool entry = .ok (contribution fs folder tool entry) := by
  unfold contribution
  cases hfile : fileOf? tool entry with
  | none =>
    rw [readEntry_of_unnamed hfile, mentions_of_unnamed hfile]
    rfl
  | some file =>
    obtain ⟨place, hplace⟩ := exists_placeOf_of_located (hlocated file hfile)
    have hgiven := givenOf_of_iterable (h.listed (by rw [hfile]; rfl)).iterable
    have hshort := h.short
    rw [mentions_of_named hfile] at hshort ⊢
    rw [readEntry_of_named hfile, readIn_of_givenOf hplace hgiven, answered_bind, List.map_map]
    refine mapM_eq_ok_map fun x hx => ?_
    obtain ⟨n, hn⟩ := exists_lineOf (hshort _ (List.mem_map_of_mem hx))
    unfold Violation.create
    rw [hn, Function.comp_apply, violationOf, hplace, hn]
    rfl

/-- An entry whose file cannot be located is a fault, whatever else it holds. -/
theorem readEntry_of_not_located {entry : Node tool} {file : String}
    (hfile : fileOf? tool entry = some file) (h : ¬ Located fs folder tool file) :
    ∃ subject, readEntry fs folder tool entry = .error (.access ⟨.nameTooLong, subject⟩) := by
  obtain ⟨subject, hplace⟩ := placeOf_eq_error h
  refine ⟨subject, ?_⟩
  rw [readEntry_of_named hfile, readIn, hplace]
  rfl

/-- Entries are read by what is there, not by what is in it. -/
theorem readEntry_congr {fs' : FileSystem} (h : ∀ path, fs'.isPresent path = fs.isPresent path) :
    readEntry fs' folder tool = readEntry fs folder tool := by
  funext entry
  rw [readEntry_eq, readEntry_eq]
  unfold readIn placeOf
  rw [resolve_congr h]

theorem violationOf_congr {fs' : FileSystem} (h : ∀ path, fs'.isPresent path = fs.isPresent path) :
    violationOf fs' folder tool = violationOf fs folder tool := by
  funext x
  unfold violationOf placeOf
  rw [resolve_congr h]

/-- Entries that contribute nothing can be left out. -/
theorem ofEntries_filter {α : Type} {entry : α → Except Fault (List Violation)} {p : α → Bool}
    (h : ∀ x, p x = false → entry x = .ok []) (entries : List α) :
    ofEntries entry (entries.filter p) = ofEntries entry entries := by
  unfold ofEntries
  induction entries with
  | nil => rfl
  | cons x rest ih =>
    cases hx : p x with
    | true =>
      rw [List.filter_cons_of_pos hx, List.mapM_cons, List.mapM_cons]
      simp only [bind_assoc, pure_bind, List.flatten_cons]
      refine congrArg (entry x >>= ·) (funext fun own => ?_)
      have hrest := congrArg (fun found => do return own ++ (← found)) ih
      simpa only [bind_assoc, pure_bind] using hrest
    | false =>
      rw [List.filter_cons_of_neg (by rw [hx]; exact Bool.false_ne_true), ih, List.mapM_cons, h x hx]
      simp only [answered_bind, bind_assoc, pure_bind, List.flatten_cons, List.nil_append]

/-- A report with a place for entries, which holds these entries, all of them regular. -/
structure HasEntries (fs : FileSystem) (tool : Tool) (report : Path) (entries : List (Node tool)) :
    Prop where
  placed : ∃ root, treeOf fs report tool = .ok root ∧ entries? tool root = some entries
  regular : ∀ entry ∈ entries, Regular tool entry

/-- The files that entries name can all be located. -/
def AllLocated (fs : FileSystem) (folder : Path) (tool : Tool) (entries : List (Node tool)) : Prop :=
  ∀ entry ∈ entries, ∀ file ∈ fileOf? tool entry, Located fs folder tool file

namespace HasEntries

variable {entries : List (Node tool)} (h : HasEntries fs tool report entries)

include h

/-- Where all files are located, the findings are the contributions of the entries. -/
theorem parse_of_allLocated (hlocated : AllLocated fs folder tool entries) :
    parse fs tool folder report =
      .ok (some (entries.flatMap (contribution fs folder tool))) := by
  obtain ⟨root, hroot, hentries⟩ := h.placed
  have hread : entries.mapM (readEntry fs folder tool) =
      .ok (entries.map (contribution fs folder tool)) :=
    mapM_eq_ok_map fun entry hentry =>
      readEntry_of_located (h.regular entry hentry) (hlocated entry hentry)
  rw [parse_of_entries hroot hentries]
  unfold ofEntries
  rw [hread, List.flatMap_def]
  rfl

/-- A file that cannot be located is all that comes of a report. -/
theorem parse_of_not_allLocated (hnot : ¬ AllLocated fs folder tool entries) :
    ∃ subject, parse fs tool folder report = .error (.access ⟨.nameTooLong, subject⟩) := by
  obtain ⟨root, hroot, hentries⟩ := h.placed
  rw [parse_of_entries hroot hentries]
  unfold ofEntries
  cases hread : entries.mapM (readEntry fs folder tool) with
  | ok parts =>
    -- Every entry is read then, so every file is located.
    refine absurd (fun entry hentry file hfile => ?_) hnot
    by_contra hmissing
    obtain ⟨own, hown⟩ := (mapM_ok_iff _ _).mp ⟨parts, hread⟩ entry hentry
    obtain ⟨subject, hrefused⟩ := readEntry_of_not_located hfile hmissing
    exact nomatch hown.symm.trans hrefused
  | error fault =>
    obtain ⟨entry, hentry, hfault⟩ := mapM_eq_error hread
    by_cases hlocated : ∀ file ∈ fileOf? tool entry, Located fs folder tool file
    · exact nomatch hfault.symm.trans (readEntry_of_located (h.regular entry hentry) hlocated)
    · push Not at hlocated
      obtain ⟨file, hfile, hmissing⟩ := hlocated
      obtain ⟨subject, hrefused⟩ := readEntry_of_not_located hfile hmissing
      obtain rfl := Except.error.inj (hfault.symm.trans hrefused)
      exact ⟨subject, rfl⟩

end HasEntries

/-- A regular entry contributes what it tells. -/
theorem forall₂_becomes_contribution {entry : Node tool} (h : Regular tool entry)
    (hlocated : ∀ file ∈ fileOf? tool entry, Located fs folder tool file) :
    List.Forall₂ (Becomes fs folder tool) (mentions tool entry)
      (contribution fs folder tool entry) :=
  forall₂_becomes_of_readEntry (readEntry_of_located h hlocated)

/-- A report is read entry by entry exactly if the files that it names can all be located: its
findings are then what the entries contribute, one after the other, and an entry contributes one
violation for each finding that it tells, whatever line and kind are given. A file that cannot be
located is a name too long to be looked up, which ends the reading. Reports that tell the same in
files that are located give the same. So do reports that have the same entries but for some that name
no file, wherever these stand. -/
theorem parse_entrywise_iff {entries : List (Node tool)} (h : HasEntries fs tool report entries) :
    ((∃ own : Node tool → List Violation,
        parse fs tool folder report = .ok (some (entries.flatMap own)) ∧
        ∀ entry ∈ entries,
          List.Forall₂ (Becomes fs folder tool) (mentions tool entry) (own entry)) ↔
      AllLocated fs folder tool entries) ∧
    (¬ AllLocated fs folder tool entries → ∃ subject,
      parse fs tool folder report = .error (.access ⟨.nameTooLong, subject⟩)) ∧
    ∀ (fs' : FileSystem) (report' : Path),
      (∀ path, fs'.isPresent path = fs.isPresent path) →
      (∀ others, HasEntries fs' tool report' others → AllLocated fs folder tool entries →
        AllLocated fs' folder tool others →
        others.flatMap (mentions tool) = entries.flatMap (mentions tool) →
        parse fs' tool folder report' = parse fs tool folder report) ∧
      ∀ root others, treeOf fs' report' tool = .ok root → entries? tool root = some others →
        others.filter (fun entry => (fileOf? tool entry).isSome) =
          entries.filter (fun entry => (fileOf? tool entry).isSome) →
        parse fs' tool folder report' = parse fs tool folder report := by
  refine ⟨⟨?all, fun hlocated => ?each⟩, h.parse_of_not_allLocated, fun fs' report' hpresent =>
    ⟨fun others hothers hlocated hlocated' htell => ?told, ?named⟩⟩
  case all =>
    rintro ⟨own, hparse, -⟩
    by_contra hnot
    obtain ⟨subject, hrefused⟩ := h.parse_of_not_allLocated hnot
    exact nomatch hparse.symm.trans hrefused
  case each =>
    exact ⟨_, h.parse_of_allLocated hlocated, fun entry hentry =>
      forall₂_becomes_contribution (h.regular entry hentry) (hlocated entry hentry)⟩
  case told =>
    rw [h.parse_of_allLocated hlocated, hothers.parse_of_allLocated hlocated']
    unfold contribution
    rw [violationOf_congr hpresent, ← List.map_flatMap, ← List.map_flatMap, htell]
  case named =>
    intro root' others hroot' hentries' hnamed
    obtain ⟨root, hroot, hentries⟩ := h.placed
    have hnone (entry : Node tool) (hentry : (fileOf? tool entry).isSome = false) :
        readEntry fs folder tool entry = .ok [] :=
      readEntry_of_unnamed (Option.isNone_iff_eq_none.mp (Option.isSome_eq_false_iff.mp hentry))
    rw [parse_of_entries hroot hentries, parse_of_entries hroot' hentries', readEntry_congr hpresent,
      ← ofEntries_filter hnone others, hnamed, ofEntries_filter hnone entries]

end Report

/-- A text of no more characters than digits are read is no numeral of too many digits. -/
theorem length_digits_le {s : String} (h : s.length ≤ digitLimit) (x : Numeral) (htext : s = x.text) :
    x.digits.length ≤ digitLimit := by
  rw [htext, Numeral.text, Numeral.core, String.length_ofList] at h
  simp only [List.length_append] at h
  omega

/-- A file of CheckStyle with two findings, the second without a line. -/
def fileEntry : Xml.Element :=
  .mk "file" [("name", "A")] "" [.mk "error" [("line", " +7")] "" [], .mk "error" [] "" []]

/-- An entry of CheckStyle with a finding. -/
def loneEntry (attributes : List (String × String)) : Xml.Element :=
  .mk "file" attributes "" [.mk "error" [] "" []]

/-- Two reports. One of them has entries without a name before and behind the file. -/
def spottedFiles : FileSystem :=
  let file := "<file name='A'><error line=' +7'/><error/></file>"
  let report (entries : List String) :=
    ("<checkstyle>" ++ "".intercalate entries ++ "</checkstyle>").toUTF8.data.toList
  let files := do
    let fs ← FileSystem.initial.write (Path.ofString "/tmp/w/clean.xml") (report [file])
    fs.write (Path.ofString "/tmp/w/spotted.xml")
      (report ["<file><error/></file>", file, "<file name=' '><error/></file>"])
  files.toOption.getD .initial

/-- The two findings in the file are read from both reports. -/
theorem parse_spottedFiles :
    let folder := Path.ofString "/tmp/w"
    let spotted := parse spottedFiles .checkstyle folder (Path.ofString "/tmp/w/spotted.xml")
    let clean := parse spottedFiles .checkstyle folder (Path.ofString "/tmp/w/clean.xml")
    HasEntries spottedFiles .checkstyle (Path.ofString "/tmp/w/clean.xml") [fileEntry] ∧
      AllLocated spottedFiles folder .checkstyle [fileEntry] ∧ spotted = clean ∧
      clean.toOption.map (·.map (·.map fun v => (v.path, v.line))) =
        some (some [("/tmp/w/A", 7), ("/tmp/w/A", -1)]) := by
  intro folder spotted clean
  have hroot (report : Path) (root : Xml.Element)
      (h : (xmlRoot spottedFiles report).toOption = some root) :
      treeOf spottedFiles report .checkstyle = .ok root := Action.ok_of_toOption h
  have hentries : HasEntries spottedFiles .checkstyle (Path.ofString "/tmp/w/clean.xml")
      [fileEntry] := by
    refine ⟨⟨.mk "checkstyle" [] "" [fileEntry], hroot _ _ (by decide +kernel), rfl⟩, ?_⟩
    refine List.forall_mem_singleton.mpr ⟨?_, fun _ => trivial⟩
    have hlines : (mentions .checkstyle fileEntry).map (·.line) = [.text " +7", .null] := rfl
    intro x hx y hy
    have hline : x.line ∈ [Value.text " +7", .null] := hlines ▸ List.mem_map_of_mem hx
    rw [hy] at hline
    simp only [List.mem_cons, Value.text.injEq, reduceCtorEq, List.not_mem_nil, or_false] at hline
    exact length_digits_le (by decide) y hline.symm
  have hspotted : treeOf spottedFiles (Path.ofString "/tmp/w/spotted.xml") .checkstyle =
      .ok (Xml.Element.mk "checkstyle" [] ""
        [loneEntry [], fileEntry, loneEntry [("name", " ")]]) :=
    hroot _ _ (by decide +kernel)
  obtain ⟨hread, -, hothers⟩ := @parse_entrywise_iff _ folder _ _ _ hentries
  have hlocated : AllLocated spottedFiles folder .checkstyle [fileEntry] := by
    have hfile : fileOf? .checkstyle fileEntry = some "A" := by decide +kernel
    refine List.forall_mem_singleton.mpr fun file hnamed => ?_
    obtain rfl := Option.some.inj (hfile.symm.trans hnamed)
    have hshort : spottedFiles.isTooLong (folder.child "A") = false :=
      FileSystem.isTooLong_of_short (by decide +kernel) (by decide +kernel)
    exact .inr (.inr (.inr ⟨hshort, .inr hshort⟩))
  have hnamed : [loneEntry [], fileEntry, loneEntry [("name", " ")]].filter
      (fun entry => (fileOf? .checkstyle entry).isSome) =
        [fileEntry].filter fun entry => (fileOf? .checkstyle entry).isSome := rfl
  obtain ⟨own, hclean, -⟩ := hread.mpr hlocated
  refine ⟨hentries, hlocated, ?_, by decide +kernel⟩
  exact (hothers spottedFiles (Path.ofString "/tmp/w/spotted.xml") fun _ => rfl).2 _ _ hspotted
    rfl hnamed

/-- The name of a source, of so many letters before its suffix. -/
def stretched (count : Nat) : String := String.ofList (List.replicate count 'x') ++ ".java"

theorem toList_stretched (count : Nat) :
    (stretched count).toList = List.replicate count 'x' ++ ".java".toList := by
  rw [stretched, String.toList_append, String.toList_ofList]

theorem mem_of_mem_stretched {count : Nat} {c : Char} (h : c ∈ (stretched count).toList) :
    c ∈ "x.java".toList := by
  rw [toList_stretched, List.mem_append, List.mem_replicate] at h
  rcases h with ⟨-, rfl⟩ | h
  · decide
  · exact List.mem_cons_of_mem 'x' h

theorem trim_stretched (count : Nat) : trim (stretched count) = stretched count := by
  -- Not by deciding a statement about all characters, of which there are too many.
  have hblank : ("x.java".toList.all fun c => !isBlank c) = true := by decide
  have hsolid {c : Char} (hc : c ∈ (stretched count).toList) : isBlank c = false := by
    simpa using List.all_eq_true.mp hblank c (mem_of_mem_stretched hc)
  refine trim_eq_self (fun c hc => ?_) fun c hc => ?_
  · exact hsolid (List.mem_of_mem_head? hc)
  · exact hsolid (List.mem_of_mem_getLast? hc)

theorem isName_stretched (count : Nat) : isName (stretched count) = true := by
  have hends {s : String} (hlast : s.toList.getLast? ≠ some 'a') : stretched count ≠ s := by
    rintro rfl
    rw [toList_stretched] at hlast
    exact hlast (List.getLast?_append_of_ne_nil _ (by decide))
  refine isName_iff.mpr ⟨hends (by decide), hends (by decide), hends (by decide), fun h => ?_⟩
  exact absurd (mem_of_mem_stretched h) (by decide)

/-- An entry of CheckStyle with a finding at a line of a file. -/
def entryAt (file line : String) : Xml.Element :=
  .mk "file" [("name", file)] "" [.mk "error" [("line", line)] "" []]

theorem fileOf?_entryAt {file : String} (htrim : trim file = file) (hne : file ≠ "") (line : String) :
    fileOf? .checkstyle (entryAt file line) = some file := by
  have hname : (entryAt file line).attribute? "name" = some file := rfl
  rw [fileOf?_checkstyle, hname, Option.bind_some]
  exact named?_eq_some htrim hne

theorem mentions_entryAt {file : String} (htrim : trim file = file) (hne : file ≠ "")
    (line : String) :
    mentions .checkstyle (entryAt file line) = [⟨file, .text line, .null⟩] :=
  mentions_of_named (fileOf?_entryAt htrim hne line)

theorem regular_entryAt {file line : String} (htrim : trim file = file) (hne : file ≠ "")
    (hshort : line.length ≤ digitLimit) : Regular .checkstyle (entryAt file line) := by
  refine ⟨fun x hx y hy => ?_, fun _ => trivial⟩
  rw [mentions_entryAt htrim hne] at hx
  obtain rfl := List.mem_singleton.mp hx
  exact length_digits_le hshort y (Value.text.inj hy)

/-- A folder with a file, and a report with a finding in it and, before that, one in a file whose
name is too long by a byte. -/
def longNamed : FileSystem :=
  let text := "<checkstyle><file name='" ++ stretched 251 ++ "'><error line='1'/></file>" ++
    "<file name='A.java'><error line='2'/></file></checkstyle>"
  let files := do
    let fs ← FileSystem.initial.ensureDirectories (Path.ofString "/tmp/w/seeds")
    let fs ← fs.write (Path.ofString "/tmp/w/seeds/A.java") []
    fs.write (Path.ofString "/tmp/w/r.xml") text.toUTF8.data.toList
  files.toOption.getD .initial

theorem not_reachable_longNamed :
    ¬ Reachable longNamed (Path.ofString "/tmp/w/seeds") (stretched 251) := by
  have hfolder : Path.ofString "/tmp/w/seeds" = ⟨.slash, ["tmp", "w", "seeds"]⟩ := by
    decide +kernel
  have hread : Path.ofString (stretched 251) = ⟨.here, [stretched 251]⟩ :=
    Path.ofString_of_isName (isName_stretched 251)
  have hchild : (Path.ofString "/tmp/w/seeds").child (stretched 251) =
      ⟨.slash, ["tmp", "w", "seeds", stretched 251]⟩ := by
    rw [Path.child_of_isName _ (isName_stretched 251), hfolder]
    rfl
  have hlast : (Path.ofString (stretched 251)).name = stretched 251 := by
    rw [hread]
    rfl
  have hpresent : longNamed.isPresent ⟨.slash, ["tmp", "w", "seeds", stretched 251]⟩ = false := by
    decide +kernel
  have hlong : longNamed.isTooLong ⟨.slash, ["tmp", "w", "seeds", stretched 251]⟩ = true := by
    have hnull : ¬ (stretched 251).toList.contains '\x00' = true := fun h =>
      absurd (mem_of_mem_stretched (List.contains_iff_mem.mp h)) (by decide)
    have hplain : ["tmp", "w", "seeds", stretched 251].any (·.toList.contains '\x00') = false := by
      rw [List.any_eq_false]
      simp only [List.forall_mem_cons, List.not_mem_nil, false_implies, implies_true, and_true]
      exact ⟨by decide, by decide, by decide, hnull⟩
    have hmeets : longNamed.meetsLongName [] ["tmp", "w", "seeds", stretched 251] = true := by
      decide +kernel
    have hparts : (Path.absolute ⟨.slash, ["tmp", "w", "seeds", stretched 251]⟩).parts =
      ["tmp", "w", "seeds", stretched 251] := rfl
    rw [FileSystem.isTooLong, hplain, hparts, hmeets, Bool.or_true]
    rfl
  unfold Reachable FileSystem.Admits
  rw [hlast, hchild, hpresent, hlong, hread]
  decide

/-- No finding is read from the report, neither the one with the long name nor the other. -/
theorem parse_longNamed :
    let folder := Path.ofString "/tmp/w/seeds"
    let report := Path.ofString "/tmp/w/r.xml"
    let entries : List (Node .checkstyle) := [entryAt (stretched 251) "1", entryAt "A.java" "2"]
    HasEntries longNamed .checkstyle report entries ∧
      (entries.flatMap (mentions .checkstyle)).map Mention.file = [stretched 251, "A.java"] ∧
      ¬ ∃ own : Node .checkstyle → List Violation,
        parse longNamed .checkstyle folder report = .ok (some (entries.flatMap own)) := by
  intro folder report entries
  have hlong : trim (stretched 251) = stretched 251 := trim_stretched 251
  have hsome : stretched 251 ≠ "" := (isName_iff.mp (isName_stretched 251)).1
  have hshort : trim "A.java" = "A.java" := by decide +kernel
  have htree : (xmlRoot longNamed report).toOption = some (.mk "checkstyle" [] "" entries) := by
    decide +kernel
  have hentries : HasEntries longNamed .checkstyle report entries :=
    ⟨⟨_, Action.ok_of_toOption htree, rfl⟩,
      List.forall_mem_cons.mpr ⟨regular_entryAt hlong hsome (by decide),
        List.forall_mem_singleton.mpr (regular_entryAt hshort (by decide) (by decide))⟩⟩
  have hmissing : ¬ AllLocated longNamed folder .checkstyle entries := fun hlocated =>
    (hlocated _ List.mem_cons_self _ (fileOf?_entryAt hlong hsome "1")).elim nofun
      not_reachable_longNamed
  refine ⟨hentries, ?_, ?_⟩
  · show ((mentions .checkstyle _ ++ (mentions .checkstyle _ ++ [])).map Mention.file) = _
    rw [mentions_entryAt hlong hsome, mentions_entryAt hshort (by decide)]
    rfl
  · rintro ⟨own, hparse⟩
    obtain ⟨subject, hrefused⟩ := hentries.parse_of_not_allLocated hmissing
    exact nomatch hparse.symm.trans hrefused

end Crosscheck.Native
