import Crosscheck.Proofs.Native.Mentions
/-!
# What a report can cause

Reading a report can fail in three ways. It is malformed, or it or a file that it names is refused,
which is recorded as a failure of the report; or it holds one of the few things that end the reading
and more than that. A `Careful` computation fails in no other way, and all readers of native reports
are careful.
-/

namespace Crosscheck.Native

open Crosscheck.Document Crosscheck.Files Crosscheck.Text

/-- A fault that a report can cause and that is not recorded as a failure to read it. -/
def EndsReading (fault : Fault) : Prop :=
  fault = .tooManyDigits ∨ fault = .notIterable ∨ fault = .unknownEncoding ∨ fault = .wideEncoding

/-- A fault that a report can cause. -/
def Caused (fault : Fault) : Prop :=
  EndsReading fault ∨ (∃ e, fault = .report e) ∨ ∃ e, fault = .access e

/-- A computation whose faults are all caused by a report. -/
def Careful {α : Type} (result : Except Fault α) : Prop :=
  ∀ fault, result = .error fault → Caused fault

namespace Careful

variable {α β : Type}

/-- An answer is careful. -/
theorem ok (a : α) : Careful (.ok a) := fun _ h => nomatch h

/-- A fault is careful if a report can cause it. -/
theorem error {fault : Fault} (h : Caused fault) : Careful (.error fault : Except Fault α) := by
  intro other heq
  cases heq
  exact h

/-- Careful steps make a careful computation. -/
theorem bind {result : Except Fault α} {next : α → Except Fault β} (h : Careful result)
    (hnext : ∀ a, Careful (next a)) : Careful (result >>= next) := by
  cases result with
  | error fault => exact error (h fault rfl)
  | ok a => exact hnext a

/-- A traversal is careful if each step is. -/
theorem mapM {f : α → Except Fault β} (h : ∀ a, Careful (f a)) (items : List α) :
    Careful (items.mapM f) := by
  induction items with
  | nil => exact ok []
  | cons item rest ih =>
    rw [List.mapM_cons]
    exact (h item).bind fun _ => ih.bind fun _ => ok _

end Careful

/-! ## Values -/

/-- Of line and kind, only a numeral of too many digits is a fault. -/
theorem careful_create (path : String) (line bugType : Value) (tool : Tool) :
    Careful (Violation.create path line bugType tool) := by
  refine .bind ?_ fun _ => .ok _
  unfold lineOf
  split
  · exact .ok _
  · unfold lineOfText
    split
    · exact .ok _
    · split
      · exact .error (.inl (.inl rfl))
      · exact .ok _
  · exact .ok _

/-! ## Documents -/

/-- A report that cannot be opened is an access refused. -/
theorem careful_contentOf (fs : FileSystem) (report : Path) : Careful (contentOf fs report) := by
  unfold contentOf
  split
  · exact .ok _
  · exact .error (.inr (.inr ⟨_, rfl⟩))

/-- An XML report is malformed, or in an encoding that cannot be read. -/
theorem careful_xmlRoot (fs : FileSystem) (report : Path) : Careful (xmlRoot fs report) := by
  refine .bind (careful_contentOf fs report) fun content => ?_
  split
  · exact .ok _
  · exact .error (.inr (.inl ⟨_, rfl⟩))
  · exact .error (.inl (.inr (.inr (.inl rfl))))
  · exact .error (.inl (.inr (.inr (.inr rfl))))

/-- A JSON report is malformed, or holds a numeral of too many digits. -/
theorem careful_jsonValue (fs : FileSystem) (report : Path) : Careful (jsonValue fs report) := by
  refine .bind (careful_contentOf fs report) fun content => ?_
  split
  · exact .error (.inr (.inl ⟨_, rfl⟩))
  · split
    · exact .ok _
    · exact .error (.inr (.inl ⟨_, rfl⟩))
    · exact .error (.inl (.inl rfl))

/-- A place for entries that holds no list makes a report malformed. -/
theorem careful_entriesIn (report : Path) (field : String) (value : Value) :
    Careful (entriesIn report field value) := by
  unfold entriesIn
  split
  · exact .ok _
  · exact .ok _
  · exact .error (.inr (.inl ⟨_, rfl⟩))

/-- The tree of a report is its XML root or its JSON value. -/
theorem careful_treeOf (fs : FileSystem) (report : Path) (tool : Tool) :
    Careful (treeOf fs report tool) := by
  cases tool with
  | codenavi | spotbugs | checkstyle => exact careful_xmlRoot fs report
  | pmd | infer | sonarqube => exact careful_jsonValue fs report

/-- Only the trees of PMD and SonarQube have a place for entries that may hold something else. -/
theorem careful_entriesOf (report : Path) {tool : Tool} (root : Node tool) :
    Careful (entriesOf report tool root) := by
  cases tool with
  | codenavi | spotbugs | checkstyle | infer => exact .ok _
  | pmd | sonarqube => exact careful_entriesIn report _ root

/-! ## Entries and reports -/

/-- A name is resolved, or refused for its length. -/
theorem careful_resolve (fs : FileSystem) (folder : Path) (name : String) :
    Careful (resolve fs folder name) := by
  by_cases h : Reachable fs folder name
  · obtain ⟨text, htext⟩ := exists_resolve_of_reachable h
    rw [htext]
    exact .ok text
  · obtain ⟨subject, hrefused⟩ := resolve_eq_error h
    rw [hrefused]
    exact .error (.inr (.inr ⟨_, rfl⟩))

/-- The file of a finding is taken as it is named, or the name is resolved. -/
theorem careful_placeOf (fs : FileSystem) (folder : Path) (tool : Tool) (file : String) :
    Careful (placeOf fs folder tool file) := by
  unfold placeOf
  split
  · exact .ok _
  · exact careful_resolve fs folder file

/-- A value in the place of a list has members, or cannot be gone through. -/
theorem careful_membersOf (value : Value) : Careful (membersOf value) := by
  unfold membersOf
  split
  · split
    · exact .ok _
    · exact .ok _
    · exact .ok _
    · exact .error (.inl (.inr (.inl rfl)))
  · exact .ok _

/-- Only the violations of PMD are a list that may be something else. -/
theorem careful_givenOf {tool : Tool} (entry : Node tool) : Careful (givenOf tool entry) := by
  cases tool with
  | pmd => exact (careful_membersOf _).bind fun _ => .ok _
  | _ => exact .ok _

/-- An entry fails by its file, by what it gives, or by one of its lines. -/
theorem careful_readEntry (fs : FileSystem) (folder : Path) {tool : Tool} (entry : Node tool) :
    Careful (readEntry fs folder tool entry) := by
  rw [readEntry_eq]
  cases fileOf? tool entry with
  | none => exact .ok _
  | some file =>
    exact (careful_placeOf fs folder tool file).bind fun place =>
      (careful_givenOf entry).bind fun given => .mapM (fun _ => careful_create place _ _ tool) given

/-- Whatever a report holds, reading it fails in one of the ways that a report can cause. -/
theorem careful_parse (fs : FileSystem) (tool : Tool) (folder report : Path) :
    Careful (parse fs tool folder report) := by
  rw [parse_eq]
  refine .bind (careful_treeOf fs report tool) fun root =>
    .bind (careful_entriesOf report root) fun place => ?_
  cases place with
  | none => exact .ok _
  | some entries =>
    have hentries : Careful (ofEntries (readEntry fs folder tool) entries) :=
      .bind (.mapM (careful_readEntry fs folder) entries) fun _ => .ok _
    exact hentries.bind fun _ => .ok _

end Crosscheck.Native
