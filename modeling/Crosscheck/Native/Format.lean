import Crosscheck.Document.Xml.Reader
import Crosscheck.Finding.Violation
/-!
# Native reports

How each analyzer writes its findings. A report is a list of entries; an entry gives findings one by
one, and one that does not have the expected shape gives none. A well-formed document without the
place where entries belong is no report at all, which is something else than a report without
findings.
-/

namespace Crosscheck.Native

open Crosscheck.Document Crosscheck.Files Crosscheck.Text

/-! ## Documents -/

/-- The content of a report file. -/
def contentOf (fs : FileSystem) (report : Path) : Except Fault Bytes :=
  match fs.read report with
  | .ok content => .ok content
  | .error e => .error (.access e)

/-- The root of an XML report. -/
def xmlRoot (fs : FileSystem) (report : Path) : Except Fault Xml.Element := do
  match Xml.parse (← contentOf fs report) with
  | .ok root => return root
  | .error .malformed => throw (.report (.malformedXml report))
  | .error .unknownEncoding => throw .unknownEncoding
  | .error .wideEncoding => throw .wideEncoding

/-- The value of a JSON report. -/
def jsonValue (fs : FileSystem) (report : Path) : Except Fault Value := do
  match ofUtf8? (← contentOf fs report) with
  | none => throw (.report (.malformedJson report))
  | some text =>
    match Json.parse text with
    | .ok value => return value
    | .error .malformed => throw (.report (.malformedJson report))
    | .error .tooManyDigits => throw .tooManyDigits

/-! ## File names -/

/-- Whether anything is at a path. -/
def isThere (fs : FileSystem) (path : Path) : Except Fault Bool :=
  match fs.lookUp path with
  | .ok found => .ok found
  | .error e => .error (.access e)

/-- The absolute path of a file that a report names. A relative name counts from the scanned folder;
where nothing is there, and the folder itself holds a file of the last name, that file is meant. A
name that is too long to be looked up is a fault. -/
def resolve (fs : FileSystem) (folder : Path) (name : String) : Except Fault String := do
  let path := Path.ofString name
  if path.isAbsolute then return path.render
  let direct := folder.join path
  if ← isThere fs direct then return direct.absolute.render
  let inside := folder.child path.name
  return (if ← isThere fs inside then inside else direct).absolute.render

/-- The text of a value that names a file, without blanks at its ends. Nothing is named by a value
that says nothing. -/
def fileNameOf (value : Value) : String := trim (if value.isTruthy then value.render else "")

/-! ## XML reports -/

/-- The text of an element without blanks at its ends. -/
def trimmedText (e : Option Xml.Element) : String := trim ((e.map (·.text)).getD "")

/-- The value that an attribute gives, null where there is none. -/
def attributeValue (e : Xml.Element) (name : String) : Value :=
  ((e.attribute? name).map Value.text).getD .null

/-- The kind of every finding of CodeNavi. -/
def codenaviBugType : String := "CODENAVI_DEFECT"

/-- The findings of an `error` element of CodeNavi. File names are taken as they are. -/
def codenaviEntry (e : Xml.Element) : Except Fault (List Violation) :=
  match e.child? "defectInfo" with
  | none => .ok []
  | some info => do
    let name := trimmedText (info.child? "fileName")
    if name == "" then return []
    let line := ((info.child? "reportLine").map fun l => Value.text l.text).getD .null
    return [← Violation.create name line (.text codenaviBugType) .codenavi]

/-- The findings of a `BugInstance` element of SpotBugs. -/
def spotbugsEntry (fs : FileSystem) (folder : Path) (e : Xml.Element) :
    Except Fault (List Violation) :=
  match e.child? "SourceLine" with
  | none => .ok []
  | some line => do
    let given := ["sourcepath", "sourcefile"].filterMap line.attribute?
    let name := trim ((given.find? (· != "")).getD "")
    if name == "" then return []
    return [← Violation.create (← resolve fs folder name) (attributeValue line "start")
      (attributeValue e "type") .spotbugs]

/-- What follows the last dot of a text. -/
def afterLastDot (s : String) : String :=
  String.ofList (s.toList.reverse.takeWhile (· != '.')).reverse

/-- The findings of a `file` element of CheckStyle. The kind is the last part of a check's name. -/
def checkstyleEntry (fs : FileSystem) (folder : Path) (e : Xml.Element) :
    Except Fault (List Violation) := do
  let name := trim ((e.attribute? "name").getD "")
  if name == "" then return []
  let path ← resolve fs folder name
  (e.childrenNamed "error").mapM fun error =>
    let source := (error.attribute? "source").getD ""
    let kind := if source == "" then Value.null else .text (afterLastDot source)
    Violation.create path (attributeValue error "line") kind .checkstyle

/-! ## JSON reports -/

/-- The members of a value in the place of a list. Nothing that says nothing has members; text and
maps have members that are no findings; numbers have none to go through. -/
def membersOf (value : Value) : Except Fault (List Value) :=
  if value.isTruthy then
    match value with
    | .list items => .ok items
    | .text _ | .map _ => .ok []
    | _ => .error .notIterable
  else .ok []

/-- Whether a value is a map. -/
def isMap : Value → Bool
  | .map _ => true
  | _ => false

/-- The findings of an entry of PMD, which lists those of one file. -/
def pmdEntry (fs : FileSystem) (folder : Path) (entry : Value) :
    Except Fault (List Violation) := do
  if !isMap entry then return []
  let name := fileNameOf (entry.getD "filename")
  if name == "" then return []
  let path ← resolve fs folder name
  let items ← membersOf (entry.getD "violations")
  (items.filter isMap).mapM fun item =>
    Violation.create path (item.getD "beginline") (item.getD "rule") .pmd

/-- The findings of an entry of Infer. -/
def inferEntry (fs : FileSystem) (folder : Path) (entry : Value) :
    Except Fault (List Violation) := do
  if !isMap entry then return []
  let name := fileNameOf (entry.getD "file")
  if name == "" then return []
  return [← Violation.create (← resolve fs folder name) (entry.getD "line") (entry.getD "bug_type")
    .infer]

/-- What follows the first colon of a text, the whole text where there is none. -/
def afterColon (s : String) : String :=
  match s.toList.dropWhile (· != ':') with
  | _ :: rest => String.ofList rest
  | [] => s

/-- The findings of an entry of SonarQube. A component is the key of a project and a file name with
a colon between them. -/
def sonarqubeEntry (fs : FileSystem) (folder : Path) (entry : Value) :
    Except Fault (List Violation) := do
  if !isMap entry then return []
  let name := afterColon (fileNameOf (entry.getD "component"))
  if name == "" then return []
  return [← Violation.create (← resolve fs folder name) (entry.getD "line") (entry.getD "rule")
    .sonarqube]

/-- The entries in a field of a JSON report that is a map, none where there is no such field. -/
def entriesIn (report : Path) (field : String) (value : Value) :
    Except Fault (Option (List Value)) :=
  match value.get? field with
  | none => .ok none
  | some (.list items) => .ok (some items)
  | some _ => .error (.report (.notList field report))

/-! ## Reports -/

/-- The findings of entries, one entry after the other. -/
def ofEntries {α : Type} (entry : α → Except Fault (List Violation)) (entries : List α) :
    Except Fault (List Violation) := do
  return (← entries.mapM entry).flatten

/-- The findings of a report in document order, none where the document has no place for them. -/
def parse (fs : FileSystem) (tool : Tool) (folder report : Path) :
    Except Fault (Option (List Violation)) := do
  match tool with
  | .codenavi =>
    let root ← xmlRoot fs report
    match root.child? "errors" with
    | none => return none
    | some errors => return some (← ofEntries codenaviEntry (errors.childrenNamed "error"))
  | .spotbugs =>
    let root ← xmlRoot fs report
    if root.tag != "BugCollection" then return none
    return some (← ofEntries (spotbugsEntry fs folder) (root.childrenNamed "BugInstance"))
  | .checkstyle =>
    let root ← xmlRoot fs report
    if root.tag != "checkstyle" then return none
    return some (← ofEntries (checkstyleEntry fs folder) (root.childrenNamed "file"))
  | .pmd =>
    match ← entriesIn report "files" (← jsonValue fs report) with
    | none => return none
    | some entries => return some (← ofEntries (pmdEntry fs folder) entries)
  | .infer =>
    match ← jsonValue fs report with
    | .list entries => return some (← ofEntries (inferEntry fs folder) entries)
    | _ => return none
  | .sonarqube =>
    match ← entriesIn report "issues" (← jsonValue fs report) with
    | none => return none
    | some entries => return some (← ofEntries (sonarqubeEntry fs folder) entries)

end Crosscheck.Native
