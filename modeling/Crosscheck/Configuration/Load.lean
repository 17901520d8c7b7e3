import Crosscheck.Configuration.Properties
import Crosscheck.Configuration.Settings
import Crosscheck.Document.Toml.Load
import Crosscheck.Document.Yaml.Complaint
import Crosscheck.Document.Yaml.Load
import Crosscheck.World
/-!
# Configuration files

Loads settings from a file. The suffix of its name tells the notation.
-/

namespace Crosscheck.Configuration

open Crosscheck.Document Crosscheck.Files Crosscheck.Text

/-- The notations by suffix. -/
def notationOf? (suffix : String) : Option Notation :=
  if suffix == ".yaml" || suffix == ".yml" then some .yaml
  else if suffix == ".toml" then some .toml
  else if suffix == ".properties" then some .properties
  else none

/-- A text with all line ends as line feeds. -/
def unifyLines : List Char → List Char
  | [] => []
  | '\r' :: '\n' :: rest => '\n' :: unifyLines rest
  | '\r' :: rest => '\n' :: unifyLines rest
  | c :: rest => c :: unifyLines rest

/-- The text of a file. -/
def textOf (bytes : Bytes) : Except Fault String :=
  match ofUtf8? bytes with
  | some s => .ok (String.ofList (unifyLines s.toList))
  | none => .error .notUtf8

/-- The fault of a YAML file with a text. -/
def yamlFault (path : Path) (text : String) : Yaml.Failure → Fault
  | .malformed complaint => .configuration (.malformed .yaml path (complaint.render text))
  | .unfit => .unfitText
  | .unknownWord => .unknownWord
  | .emptyNumber => .cutShort
  | .unfitMoment => .unfitMoment

/-- The fault of a TOML file. -/
def tomlFault (path : Path) : Toml.Failure → Fault
  | .malformed => .configuration (.malformed .toml path "the text breaks the rules of TOML")
  | .cutShort => .cutShort
  | .notTable => .notTable
  | .notArray => .notArray

/-- The content of a file in a notation. A YAML file that says nothing is an empty map. -/
def content (format : Notation) (path : Path) (text : String) : Except Fault Value :=
  match format with
  | .yaml => do
    let value ← (Yaml.parse text).mapError (yamlFault path text)
    return if value.isTruthy then value else .map []
  | .toml => (Toml.parse text).mapError (tomlFault path)
  | .properties =>
    .ok (.map ((Properties.parse text).entries.map fun (key, value) => (.text key, .text value)))

/-- The settings in a text, which has to be a map. -/
def settingsOf (format : Notation) (path : Path) (text : String) : Except Fault Settings := do
  match ← content format path text with
  | .map entries => Settings.ofEntries entries
  | _ => throw (.configuration (.notMapping path))

/-- The settings in a file. -/
def settingsIn (fs : FileSystem) (path : Path) : Except Fault Settings := do
  if !fs.isFile path then throw (.configuration (.missing path))
  match notationOf? (lower path.suffix) with
  | none => throw (.configuration (.unknownFormat path))
  | some format =>
    let bytes ← (fs.read path).mapError fun e => .configuration (.malformed format path e.message)
    settingsOf format path (← textOf bytes)

/-- Loads the settings in a file. -/
def load (path : Path) : Action Settings := do
  Action.lift (settingsIn (← Action.files) path)

/-- The analyzer that a run uses: the first that is enabled. If several are, that is noted. -/
def selected (settings : Settings) : Action Tool := do
  match settings.enabled with
  | [] => throw (.configuration .noAnalyzer)
  | [tool] => return tool
  | tool :: others =>
    let titles := ", ".intercalate ((tool :: others).map Tool.title)
    Action.note .warning s!"Several analyzers enabled ({titles}); using {tool.title}"
    return tool

end Crosscheck.Configuration
