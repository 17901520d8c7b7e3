import Crosscheck.Proofs.Finding.Line
import Crosscheck.Proofs.Native.Resolution
import Mathlib.Data.List.Forall2
/-!
# What reports tell

All readers have one form. A report is a tree with a place for entries; an entry names a file and
gives a line and a kind for each finding in it, and one that names no file tells nothing. `mentions`
says so for the six analyzers, without regard to what the values are. An entry is read by locating
its file and then finding by finding (`readEntry_eq`), and a report entry by entry (`parse_eq`), so
nothing else that is proved of reports has to look into a reader again.

Whatever a report holds, what is read from it is what it tells (`forall₂_becomes_of_parse`).
-/

namespace Crosscheck.Native

open Crosscheck.Document Crosscheck.Files Crosscheck.Text

/-! ## Trees and their entries -/

/-- What the reports of an analyzer are made of. -/
def Node : Tool → Type
  | .codenavi | .spotbugs | .checkstyle => Xml.Element
  | .pmd | .infer | .sonarqube => Value

/-- The tree of a report. -/
def treeOf (fs : FileSystem) (report : Path) : (tool : Tool) → Except Fault (Node tool)
  | .codenavi | .spotbugs | .checkstyle => xmlRoot fs report
  | .pmd | .infer | .sonarqube => jsonValue fs report

/-- The members of a list. -/
def members? : Value → Option (List Value)
  | .list items => some items
  | _ => none

/-- The entries of a report, none where it has no place for them. -/
def entries? : (tool : Tool) → Node tool → Option (List (Node tool))
  | .codenavi, root => (Xml.Element.child? root "errors").map (·.childrenNamed "error")
  | .spotbugs, root =>
    if Xml.Element.tag root = "BugCollection" then
      some (Xml.Element.childrenNamed root "BugInstance")
    else none
  | .checkstyle, root =>
    if Xml.Element.tag root = "checkstyle" then some (Xml.Element.childrenNamed root "file")
    else none
  | .pmd, value => (Value.get? value "files").bind members?
  | .infer, value => members? value
  | .sonarqube, value => (Value.get? value "issues").bind members?

/-- The entries of a report as the reader looks for them. A place that holds no list is a fault in a
report of PMD or SonarQube. -/
def entriesOf (report : Path) : (tool : Tool) → Node tool → Except Fault (Option (List (Node tool)))
  | .pmd, value => entriesIn report "files" value
  | .sonarqube, value => entriesIn report "issues" value
  | .codenavi, root => .ok (entries? .codenavi root)
  | .spotbugs, root => .ok (entries? .spotbugs root)
  | .checkstyle, root => .ok (entries? .checkstyle root)
  | .infer, value => .ok (entries? .infer value)

theorem entries?_spotbugs (root : Xml.Element) :
    entries? .spotbugs root =
      if root.tag = "BugCollection" then some (root.childrenNamed "BugInstance") else none := rfl

theorem entries?_checkstyle (root : Xml.Element) :
    entries? .checkstyle root =
      if root.tag = "checkstyle" then some (root.childrenNamed "file") else none := rfl

theorem entries?_pmd (value : Value) :
    entries? .pmd value = (value.get? "files").bind members? := rfl

theorem entries?_sonarqube (value : Value) :
    entries? .sonarqube value = (value.get? "issues").bind members? := rfl

/-! ## What an entry tells -/

/-- The file that a text names: a blank text names none. -/
def named? (text : String) : Option String := if trim text = "" then none else some (trim text)

/-- The text under a key of an entry, empty where the value says nothing. -/
def textUnder (entry : Value) (key : String) : String :=
  if (entry.getD key).isTruthy then (entry.getD key).render else ""

/-- The file that a component names: what follows the key of the project, if anything does. -/
def namedIn? (component : String) : Option String :=
  if afterColon component = "" then none else some (afterColon component)

/-- The file that an `error` element names, if it names one. -/
def codenaviName? (e : Xml.Element) : Option String :=
  (e.child? "defectInfo").bind fun info =>
    let name := trimmedText (info.child? "fileName")
    if name == "" then none else some name

/-- The file that an entry names. There is none if the entry does not have the shape of an entry or
if the name is missing or blank. -/
def fileOf? : (tool : Tool) → Node tool → Option String
  | .codenavi, e => codenaviName? e
  | .spotbugs, e =>
    (Xml.Element.child? e "SourceLine").bind fun line =>
      (((line.attribute? "sourcepath").filter (· ≠ "")).or (line.attribute? "sourcefile")).bind
        named?
  | .checkstyle, e => (Xml.Element.attribute? e "name").bind named?
  | .pmd, entry => if isMap entry then named? (textUnder entry "filename") else none
  | .infer, entry => if isMap entry then named? (textUnder entry "file") else none
  | .sonarqube, entry =>
    if isMap entry then (named? (textUnder entry "component")).bind namedIn? else none

theorem fileOf?_codenavi (e : Xml.Element) : fileOf? .codenavi e = codenaviName? e := rfl

theorem fileOf?_spotbugs (e : Xml.Element) :
    fileOf? .spotbugs e = (e.child? "SourceLine").bind fun line =>
      (((line.attribute? "sourcepath").filter (· ≠ "")).or (line.attribute? "sourcefile")).bind
        named? := rfl

theorem fileOf?_checkstyle (e : Xml.Element) :
    fileOf? .checkstyle e = (e.attribute? "name").bind named? := rfl

theorem fileOf?_pmd (entry : Value) :
    fileOf? .pmd entry = if isMap entry then named? (textUnder entry "filename") else none := rfl

theorem fileOf?_infer (entry : Value) :
    fileOf? .infer entry = if isMap entry then named? (textUnder entry "file") else none := rfl

theorem fileOf?_sonarqube (entry : Value) :
    fileOf? .sonarqube entry =
      if isMap entry then (named? (textUnder entry "component")).bind namedIn? else none := rfl

/-- The kind that an error of CheckStyle gives: the last part of the name of a check, if it names
one. -/
def checkKind (error : Xml.Element) : Value :=
  (((error.attribute? "source").filter (· ≠ "")).map fun source =>
    Value.text (afterLastDot source)).getD .null

/-- The lines and kinds that an entry gives, one for each finding. -/
def givenBy : (tool : Tool) → Node tool → List (Value × Value)
  | .codenavi, e =>
    (Xml.Element.child? e "defectInfo").toList.map fun info =>
      (((info.child? "reportLine").map fun line => Value.text line.text).getD .null,
        .text codenaviBugType)
  | .spotbugs, e =>
    (Xml.Element.child? e "SourceLine").toList.map fun line =>
      (attributeValue line "start", attributeValue e "type")
  | .checkstyle, e =>
    (Xml.Element.childrenNamed e "error").map fun error =>
      (attributeValue error "line", checkKind error)
  | .pmd, entry =>
    (((members? (Value.getD entry "violations")).getD []).filter isMap).map fun item =>
      (item.getD "beginline", item.getD "rule")
  | .infer, entry => [(Value.getD entry "line", Value.getD entry "bug_type")]
  | .sonarqube, entry => [(Value.getD entry "line", Value.getD entry "rule")]

theorem givenBy_codenavi (e : Xml.Element) :
    givenBy .codenavi e = (e.child? "defectInfo").toList.map fun info =>
      (((info.child? "reportLine").map fun line => Value.text line.text).getD .null,
        .text codenaviBugType) := rfl

theorem givenBy_spotbugs (e : Xml.Element) :
    givenBy .spotbugs e = (e.child? "SourceLine").toList.map fun line =>
      (attributeValue line "start", attributeValue e "type") := rfl

theorem givenBy_checkstyle (e : Xml.Element) :
    givenBy .checkstyle e = (e.childrenNamed "error").map fun error =>
      (attributeValue error "line", checkKind error) := rfl

theorem givenBy_pmd (entry : Value) :
    givenBy .pmd entry =
      (((members? (entry.getD "violations")).getD []).filter isMap).map fun item =>
        (item.getD "beginline", item.getD "rule") := rfl

theorem givenBy_infer (entry : Value) :
    givenBy .infer entry = [(entry.getD "line", entry.getD "bug_type")] := rfl

theorem givenBy_sonarqube (entry : Value) :
    givenBy .sonarqube entry = [(entry.getD "line", entry.getD "rule")] := rfl

/-- A finding as a report tells it: the name of the file, and what is given for line and kind. -/
structure Mention where
  file : String
  line : Value
  kind : Value

/-- The findings that an entry tells. -/
def mentions (tool : Tool) (entry : Node tool) : List Mention :=
  match fileOf? tool entry with
  | none => []
  | some file => (givenBy tool entry).map fun (line, kind) => ⟨file, line, kind⟩

/-- The lines and kinds that an entry gives, as the reader comes by them. What PMD has in the place
for findings may be nothing that can be gone through. -/
def givenOf : (tool : Tool) → Node tool → Except Fault (List (Value × Value))
  | .pmd, entry => do
    let items ← membersOf (Value.getD entry "violations")
    return (items.filter isMap).map fun item => (item.getD "beginline", item.getD "rule")
  | .codenavi, e => .ok (givenBy .codenavi e)
  | .spotbugs, e => .ok (givenBy .spotbugs e)
  | .checkstyle, e => .ok (givenBy .checkstyle e)
  | .infer, entry => .ok (givenBy .infer entry)
  | .sonarqube, entry => .ok (givenBy .sonarqube entry)

theorem givenOf_pmd (entry : Value) :
    givenOf .pmd entry = do
      let items ← membersOf (entry.getD "violations")
      return (items.filter isMap).map fun item => (item.getD "beginline", item.getD "rule") := rfl

/-- Whether what an entry has in the place for findings can be gone through. -/
def Iterable : (tool : Tool) → Node tool → Prop
  | .pmd, entry => ∃ items, membersOf (Value.getD entry "violations") = .ok items
  | _, _ => True

/-- What PMD has in the place of findings is gone through for maps. -/
theorem filter_isMap_of_membersOf {value : Value} {items : List Value}
    (h : membersOf value = .ok items) :
    items.filter isMap = ((members? value).getD []).filter isMap := by
  unfold membersOf at h
  cases value with
  | list own =>
    split at h
    · cases h
      rfl
    · next hempty =>
      cases h
      have : own = [] := by simpa [Value.isTruthy] using hempty
      rw [this]
      rfl
  | text | map =>
    split at h <;> cases h <;> rfl
  | _ =>
    split at h
    · exact nomatch h
    · cases h
      rfl

/-- Where the list is one, what an entry gives is read. -/
theorem givenOf_of_iterable {tool : Tool} {entry : Node tool} (h : Iterable tool entry) :
    givenOf tool entry = .ok (givenBy tool entry) := by
  cases tool with
  | pmd =>
    obtain ⟨items, hitems⟩ := h
    have hgiven : givenOf .pmd entry = _ := givenOf_pmd entry
    have hlisted : givenBy .pmd entry = _ := givenBy_pmd entry
    rw [hgiven, hitems, hlisted, ← filter_isMap_of_membersOf hitems]
    rfl
  | _ => rfl

/-- What is read is what the entry gives. -/
theorem eq_givenBy_of_givenOf {tool : Tool} {entry : Node tool} {given : List (Value × Value)}
    (h : givenOf tool entry = .ok given) : given = givenBy tool entry := by
  have hiterable : Iterable tool entry := by
    cases tool with
    | pmd =>
      obtain ⟨items, hitems, -⟩ := bind_eq_ok_iff.mp h
      exact ⟨items, hitems⟩
    | _ => trivial
  exact Except.ok.inj (h.symm.trans (givenOf_of_iterable hiterable))

/-- Where a finding that is told is recorded. CodeNavi's names are taken as they are. -/
def placeOf (fs : FileSystem) (folder : Path) (tool : Tool) (file : String) : Except Fault String :=
  if tool = .codenavi then .ok file else resolve fs folder file

/-- CodeNavi's names are taken as they stand. -/
theorem placeOf_codenavi (fs : FileSystem) (folder : Path) (file : String) :
    placeOf fs folder .codenavi file = .ok file := if_pos rfl

/-- All other names are resolved. -/
theorem placeOf_of_ne {tool : Tool} (h : tool ≠ .codenavi) (fs : FileSystem) (folder : Path)
    (file : String) : placeOf fs folder tool file = resolve fs folder file := if_neg h

/-- What a mention comes to: it is recorded where its file is located, the line is the one that the
value gives, and a kind that says nothing is unknown. -/
structure Becomes (fs : FileSystem) (folder : Path) (tool : Tool) (x : Mention) (v : Violation) :
    Prop where
  path : placeOf fs folder tool x.file = .ok v.path
  line : GivesLine x.line v.line
  kind : v.bugType = if x.kind.isTruthy then x.kind else .text "UNKNOWN"
  tool : v.tool = tool

/-! ## Reading an entry -/

/-- The findings of an entry as they are read. -/
def readEntry (fs : FileSystem) (folder : Path) :
    (tool : Tool) → Node tool → Except Fault (List Violation)
  | .codenavi => codenaviEntry
  | .spotbugs => spotbugsEntry fs folder
  | .checkstyle => checkstyleEntry fs folder
  | .pmd => pmdEntry fs folder
  | .infer => inferEntry fs folder
  | .sonarqube => sonarqubeEntry fs folder

section Entry

variable {fs : FileSystem} {folder : Path} {tool : Tool}

/-- The findings of an entry in a file that it names: the file is located, and what the entry gives
is read one by one. -/
def readIn (fs : FileSystem) (folder : Path) (tool : Tool) (entry : Node tool) (file : String) :
    Except Fault (List Violation) := do
  let place ← placeOf fs folder tool file
  (← givenOf tool entry).mapM fun given => Violation.create place given.1 given.2 tool

/-- One step of a traversal. -/
theorem mapM_singleton {α β : Type} (f : α → Except Fault β) (a : α) :
    [a].mapM f = do return [← f a] := by
  rw [List.mapM_cons]
  rfl

/-- With its file located, an entry contributes what it gives, one by one. -/
theorem readIn_of_givenOf {entry : Node tool} {given : List (Value × Value)} {file : String}
    {located : Except Fault String} (hplace : placeOf fs folder tool file = located)
    (hgiven : givenOf tool entry = .ok given) :
    readIn fs folder tool entry file =
      located >>= fun place => given.mapM fun x => Violation.create place x.1 x.2 tool := by
  unfold readIn
  rw [hplace, hgiven]
  rfl

/-- An entry that gives a line and a kind is read in one step once its file is located. -/
theorem readIn_of_givenOf_singleton {entry : Node tool} {line kind : Value} {file : String}
    {located : Except Fault String} (hplace : placeOf fs folder tool file = located)
    (hgiven : givenOf tool entry = .ok [(line, kind)]) :
    readIn fs folder tool entry file = do
      return [← Violation.create (← located) line kind tool] := by
  rw [readIn_of_givenOf hplace hgiven]
  simp only [mapM_singleton]

theorem codenaviEntry_eq (e : Xml.Element) :
    codenaviEntry e =
      match fileOf? .codenavi e with
      | none => .ok []
      | some file => readIn fs folder .codenavi e file := by
  rw [fileOf?_codenavi]
  unfold codenaviEntry codenaviName?
  cases hinfo : e.child? "defectInfo" with
  | none => rfl
  | some info =>
    have hgiven : givenOf .codenavi e = .ok (givenBy .codenavi e) := rfl
    rw [givenBy_codenavi, hinfo] at hgiven
    dsimp only [Option.bind_some]
    split
    · rfl
    · exact (readIn_of_givenOf_singleton (placeOf_codenavi fs folder _) hgiven).symm

/-- The file of SpotBugs is named by the first of two attributes that says something. -/
theorem named?_sourceLine (line : Xml.Element) :
    (((line.attribute? "sourcepath").filter (· ≠ "")).or (line.attribute? "sourcefile")).bind named? =
      named? (((["sourcepath", "sourcefile"].filterMap line.attribute?).find? (· != "")).getD "") := by
  have hempty : named? "" = none := rfl
  have hsecond (given : Option String) :
      given.bind named? = named? ((given.toList.find? (· != "")).getD "") := by
    rcases given with _ | text
    · rfl
    · by_cases htext : text = ""
      · rw [htext]
        rfl
      · simp [htext]
  have hgiven : ["sourcepath", "sourcefile"].filterMap line.attribute? =
      (line.attribute? "sourcepath").toList ++ (line.attribute? "sourcefile").toList := by
    cases hpath : line.attribute? "sourcepath" <;> cases hfile : line.attribute? "sourcefile" <;>
      simp [hpath, hfile]
  rw [hgiven]
  rcases line.attribute? "sourcepath" with _ | path
  · exact hsecond _
  · by_cases hpath : path = ""
    · rw [hpath]
      exact hsecond _
    · have hkept : (some path).filter (fun text => decide (text ≠ "")) = some path :=
        Option.filter_some_pos (decide_eq_true hpath)
      have hfound : (path :: (line.attribute? "sourcefile").toList).find? (· != "") = some path :=
        List.find?_cons_of_pos (p := (· != "")) (bne_iff_ne.mpr hpath)
      rw [hkept, Option.some_or, Option.bind_some, Option.toList_some, List.singleton_append, hfound,
        Option.getD_some]

theorem spotbugsEntry_eq (e : Xml.Element) :
    spotbugsEntry fs folder e =
      match fileOf? .spotbugs e with
      | none => .ok []
      | some file => readIn fs folder .spotbugs e file := by
  have hother : Tool.spotbugs ≠ .codenavi := nofun
  rw [fileOf?_spotbugs]
  unfold spotbugsEntry
  cases hline : e.child? "SourceLine" with
  | none => rfl
  | some line =>
    have hgiven : givenOf .spotbugs e = .ok (givenBy .spotbugs e) := rfl
    rw [givenBy_spotbugs, hline] at hgiven
    dsimp only [Option.bind_some]
    rw [named?_sourceLine, named?]
    simp only [beq_iff_eq]
    split
    · rfl
    · exact (readIn_of_givenOf_singleton (placeOf_of_ne hother fs folder _) hgiven).symm

/-- The kind of a finding is what follows the last dot of its source. -/
theorem checkKind_eq (error : Xml.Element) :
    checkKind error =
      if (error.attribute? "source").getD "" = "" then .null
      else .text (afterLastDot ((error.attribute? "source").getD "")) := by
  unfold checkKind
  rcases error.attribute? "source" with _ | source
  · rfl
  · by_cases hsource : source = ""
    · rw [hsource]
      rfl
    · have hkept : (some source).filter (fun text => decide (text ≠ "")) = some source :=
        Option.filter_some_pos (decide_eq_true hsource)
      rw [hkept, Option.getD_some, if_neg hsource]
      rfl

theorem checkstyleEntry_eq (e : Xml.Element) :
    checkstyleEntry fs folder e =
      match fileOf? .checkstyle e with
      | none => .ok []
      | some file => readIn fs folder .checkstyle e file := by
  have hother : Tool.checkstyle ≠ .codenavi := nofun
  have hname : (e.attribute? "name").bind named? = named? ((e.attribute? "name").getD "") := by
    cases e.attribute? "name" <;> rfl
  rw [fileOf?_checkstyle, hname, named?]
  unfold checkstyleEntry
  simp only [beq_iff_eq]
  split
  · rfl
  · dsimp only
    have hgiven : givenOf .checkstyle e = .ok (givenBy .checkstyle e) := rfl
    rw [givenBy_checkstyle] at hgiven
    rw [readIn_of_givenOf (placeOf_of_ne hother fs folder _) hgiven]
    simp only [List.mapM_map, Function.comp_def, checkKind_eq]

theorem pmdEntry_eq (entry : Value) :
    pmdEntry fs folder entry =
      match fileOf? .pmd entry with
      | none => .ok []
      | some file => readIn fs folder .pmd entry file := by
  have hother : Tool.pmd ≠ .codenavi := nofun
  have hname : fileNameOf (entry.getD "filename") = trim (textUnder entry "filename") := rfl
  rw [fileOf?_pmd]
  unfold pmdEntry
  dsimp only
  rw [hname, named?]
  cases isMap entry with
  | false => rfl
  | true =>
    simp only [beq_iff_eq, Bool.not_true, Bool.false_eq_true, if_false, if_true]
    split
    · rfl
    · dsimp only
      have hgiven : givenOf .pmd entry = _ := givenOf_pmd entry
      unfold readIn
      rw [placeOf_of_ne hother, hgiven]
      simp only [bind_assoc, pure_bind, List.mapM_map, Function.comp_def]

theorem inferEntry_eq (entry : Value) :
    inferEntry fs folder entry =
      match fileOf? .infer entry with
      | none => .ok []
      | some file => readIn fs folder .infer entry file := by
  have hother : Tool.infer ≠ .codenavi := nofun
  have hname : fileNameOf (entry.getD "file") = trim (textUnder entry "file") := rfl
  rw [fileOf?_infer]
  unfold inferEntry
  dsimp only
  rw [hname, named?]
  cases isMap entry with
  | false => rfl
  | true =>
    simp only [beq_iff_eq, Bool.not_true, Bool.false_eq_true, if_false, if_true]
    split
    · rfl
    · have hgiven : givenOf .infer entry = .ok (givenBy .infer entry) := rfl
      rw [givenBy_infer] at hgiven
      exact (readIn_of_givenOf_singleton (placeOf_of_ne hother fs folder _) hgiven).symm

theorem sonarqubeEntry_eq (entry : Value) :
    sonarqubeEntry fs folder entry =
      match fileOf? .sonarqube entry with
      | none => .ok []
      | some file => readIn fs folder .sonarqube entry file := by
  have hother : Tool.sonarqube ≠ .codenavi := nofun
  have hname : fileNameOf (entry.getD "component") = trim (textUnder entry "component") := rfl
  have hnamed : (named? (textUnder entry "component")).bind namedIn? =
      namedIn? (trim (textUnder entry "component")) := by
    unfold named?
    split
    · next hempty =>
      have hnone : namedIn? "" = none := if_pos (by decide)
      rw [hempty, hnone, Option.bind_none]
    · exact Option.bind_some ..
  rw [fileOf?_sonarqube, hnamed]
  unfold sonarqubeEntry
  dsimp only
  rw [hname, namedIn?]
  cases isMap entry with
  | false => rfl
  | true =>
    simp only [beq_iff_eq, Bool.not_true, Bool.false_eq_true, if_false, if_true]
    split
    · rfl
    · have hgiven : givenOf .sonarqube entry = .ok (givenBy .sonarqube entry) := rfl
      rw [givenBy_sonarqube] at hgiven
      exact (readIn_of_givenOf_singleton (placeOf_of_ne hother fs folder _) hgiven).symm

/-- An entry is read in the file that it names, if it names one. -/
theorem readEntry_eq (entry : Node tool) :
    readEntry fs folder tool entry =
      match fileOf? tool entry with
      | none => .ok []
      | some file => readIn fs folder tool entry file := by
  cases tool with
  | codenavi => exact codenaviEntry_eq entry
  | spotbugs => exact spotbugsEntry_eq entry
  | checkstyle => exact checkstyleEntry_eq entry
  | pmd => exact pmdEntry_eq entry
  | infer => exact inferEntry_eq entry
  | sonarqube => exact sonarqubeEntry_eq entry

/-- An entry that names a file is read in that file. -/
theorem readEntry_of_named {entry : Node tool} {file : String} (h : fileOf? tool entry = some file) :
    readEntry fs folder tool entry = readIn fs folder tool entry file := by
  rw [readEntry_eq, h]

/-- An entry that names a file mentions it with all that it gives. -/
theorem mentions_of_named {entry : Node tool} {file : String} (h : fileOf? tool entry = some file) :
    mentions tool entry = (givenBy tool entry).map fun x => ⟨file, x.1, x.2⟩ := by
  rw [mentions, h]

/-- An entry that names no file is read as nothing, whatever else it holds. -/
theorem readEntry_of_unnamed {entry : Node tool} (h : fileOf? tool entry = none) :
    readEntry fs folder tool entry = .ok [] := by
  rw [readEntry_eq, h]

/-- An entry that names no file tells nothing. -/
theorem mentions_of_unnamed {entry : Node tool} (h : fileOf? tool entry = none) :
    mentions tool entry = [] := by
  rw [mentions, h]

/-- A traversal relates its items to its answers as each step does. -/
theorem forall₂_of_mapM {α β : Type} {R : α → β → Prop} {f : α → Except Fault β}
    (hstep : ∀ {a b}, f a = .ok b → R a b) {items : List α} {answers : List β}
    (h : items.mapM f = .ok answers) : List.Forall₂ R items answers := by
  induction items generalizing answers with
  | nil =>
    cases h
    exact .nil
  | cons a rest ih =>
    rw [List.mapM_cons] at h
    obtain ⟨answer, ha, h⟩ := bind_eq_ok_iff.mp h
    obtain ⟨others, hrest, ⟨⟩⟩ := bind_eq_ok_iff.mp h
    exact .cons (hstep ha) (ih hrest)

/-- What is made of a line and a kind once the file is located. -/
theorem becomes_of_create {x : Mention} {v : Violation} {place : String}
    (hplace : placeOf fs folder tool x.file = .ok place)
    (h : Violation.create place x.line x.kind tool = .ok v) : Becomes fs folder tool x v := by
  obtain ⟨n, hn, ⟨⟩⟩ := bind_eq_ok_iff.mp h
  exact ⟨hplace, givesLine_of_lineOf hn, rfl, rfl⟩

/-- What is read of an entry is what it tells, in its order. -/
theorem forall₂_becomes_of_readEntry {entry : Node tool} {own : List Violation}
    (h : readEntry fs folder tool entry = .ok own) :
    List.Forall₂ (Becomes fs folder tool) (mentions tool entry) own := by
  cases hfile : fileOf? tool entry with
  | none =>
    obtain rfl := Except.ok.inj ((readEntry_of_unnamed hfile).symm.trans h)
    rw [mentions_of_unnamed hfile]
    exact .nil
  | some file =>
    rw [readEntry_of_named hfile] at h
    obtain ⟨place, hplace, h⟩ := bind_eq_ok_iff.mp h
    obtain ⟨given, hgiven, h⟩ := bind_eq_ok_iff.mp h
    obtain rfl := eq_givenBy_of_givenOf hgiven
    rw [mentions_of_named hfile]
    have hstep {x : Value × Value} {v : Violation}
        (hv : Violation.create place x.1 x.2 tool = .ok v) :
        Becomes fs folder tool ⟨file, x.1, x.2⟩ v :=
      becomes_of_create (x := ⟨file, x.1, x.2⟩) hplace hv
    exact List.forall₂_map_left_iff.mpr (forall₂_of_mapM hstep h)

end Entry

/-! ## Reading a report -/

section Report

variable {fs : FileSystem} {folder report : Path} {tool : Tool}

/-- The findings that a report tells, in the order of the document. -/
def told (fs : FileSystem) (tool : Tool) (report : Path) : List Mention :=
  match treeOf fs report tool with
  | .ok root => ((entries? tool root).getD []).flatMap (mentions tool)
  | .error _ => []

/-- A field of a JSON report holds entries exactly if it is a list. -/
theorem entriesIn_eq_some_iff {value : Value} {field : String} {entries : List Value} :
    entriesIn report field value = .ok (some entries) ↔
      (value.get? field).bind members? = some entries := by
  unfold entriesIn
  cases value.get? field with
  | none => exact iff_of_false (fun h => nomatch h) fun h => nomatch h
  | some own =>
    cases own with
    | list items => simp [members?]
    | _ => exact iff_of_false (fun h => nomatch h) fun h => nomatch h

/-- A report has the entries that its tree has. -/
theorem entriesOf_eq_some_iff {root : Node tool} {entries : List (Node tool)} :
    entriesOf report tool root = .ok (some entries) ↔ entries? tool root = some entries := by
  cases tool with
  | pmd | sonarqube => exact entriesIn_eq_some_iff
  | _ => exact ⟨Except.ok.inj, congrArg Except.ok⟩

/-- A report is read entry by entry, if it has a place for entries. -/
theorem parse_eq (fs : FileSystem) (tool : Tool) (folder report : Path) :
    parse fs tool folder report = do
      match ← entriesOf report tool (← treeOf fs report tool) with
      | none => return none
      | some entries => return some (← ofEntries (readEntry fs folder tool) entries) := by
  cases tool with
  | codenavi =>
    refine congrArg (xmlRoot fs report >>= ·) (funext fun root => ?_)
    show _ = (Except.ok ((root.child? "errors").map (·.childrenNamed "error")) >>= _)
    cases root.child? "errors" with
    | none => rfl
    | some errors => rfl
  | spotbugs | checkstyle =>
    refine congrArg (xmlRoot fs report >>= ·) (funext fun root => ?_)
    show _ = (Except.ok (if root.tag = _ then some (root.childrenNamed _) else none) >>= _)
    split
    · next hother =>
      rw [if_neg (bne_iff_ne.mp hother)]
      rfl
    · next htag =>
      rw [if_pos (by simpa using htag)]
      rfl
  | infer =>
    refine congrArg (jsonValue fs report >>= ·) (funext fun value => ?_)
    cases value with
    | list items => rfl
    | _ => rfl
  | pmd | sonarqube =>
    refine congrArg (jsonValue fs report >>= ·) (funext fun value =>
      congrArg (entriesIn report _ value >>= ·) (funext fun entries => ?_))
    cases entries with
    | none => rfl
    | some entries => rfl

/-- A report with a place for entries. -/
theorem parse_of_entries {root : Node tool} {entries : List (Node tool)}
    (hroot : treeOf fs report tool = .ok root) (hentries : entries? tool root = some entries) :
    parse fs tool folder report = do
      return some (← ofEntries (readEntry fs folder tool) entries) := by
  rw [parse_eq, hroot]
  show (entriesOf report tool root >>= _) = _
  rw [entriesOf_eq_some_iff.mpr hentries]
  rfl

/-- A report that gives findings has a place for entries. -/
theorem exists_entries_of_parse {found : List Violation}
    (h : parse fs tool folder report = .ok (some found)) :
    ∃ root entries, treeOf fs report tool = .ok root ∧ entries? tool root = some entries := by
  rw [parse_eq] at h
  obtain ⟨root, hroot, h⟩ := bind_eq_ok_iff.mp h
  obtain ⟨place, hplace, h⟩ := bind_eq_ok_iff.mp h
  cases place with
  | none => exact nomatch h
  | some entries => exact ⟨root, entries, hroot, entriesOf_eq_some_iff.mp hplace⟩

/-- What a report tells is what its entries mention, in their order. -/
theorem told_of_entries {root : Node tool} {entries : List (Node tool)}
    (hroot : treeOf fs report tool = .ok root) (hentries : entries? tool root = some entries) :
    told fs tool report = entries.flatMap (mentions tool) := by
  unfold told
  rw [hroot]
  dsimp only
  rw [hentries, Option.getD_some]

/-- The findings that are read are those that the report tells, in their order. -/
theorem forall₂_becomes_of_parse {found : List Violation}
    (h : parse fs tool folder report = .ok (some found)) :
    List.Forall₂ (Becomes fs folder tool) (told fs tool report) found := by
  obtain ⟨root, entries, hroot, hentries⟩ := exists_entries_of_parse h
  rw [parse_of_entries hroot hentries] at h
  obtain ⟨own, hown, ⟨⟩⟩ := bind_eq_ok_iff.mp h
  obtain ⟨parts, hparts, ⟨⟩⟩ := bind_eq_ok_iff.mp hown
  rw [told_of_entries hroot hentries, List.flatMap_def]
  refine List.rel_flatten (List.forall₂_map_left_iff.mpr ?_)
  exact forall₂_of_mapM (f := readEntry fs folder tool) forall₂_becomes_of_readEntry hparts

end Report

end Crosscheck.Native
