import Crosscheck.Document.Value
import Crosscheck.Finding.Tool
import Crosscheck.Number.Numeral
import Crosscheck.Fault
/-!
# Settings

What a run is told to do, and how it is read from the content of a configuration file. Keys are the
same in upper and lower case. What concerns an analyzer is either written with its name in front of
the key, or in a table of its own below `analyzers`.
-/

namespace Crosscheck.Configuration

open Crosscheck.Document Crosscheck.Files Crosscheck.Text

/-- What is set for an analyzer: whether it runs, where it is, and its own options. -/
structure Analyzer where
  enabled : Bool
  path : String
  options : OrderedMap String String
  deriving DecidableEq, Repr

/-- An analyzer for which nothing is set. -/
def Analyzer.unset : Analyzer := ⟨false, "", .empty⟩

/-- The options that an analyzer has from the start. -/
def defaultOptions : Tool → OrderedMap String String
  | .pmd => ⟨[("ruleset", "category/java/bestpractices.xml")]⟩
  | .spotbugs => ⟨[("javac", "javac")]⟩
  | .checkstyle => ⟨[("config", "/google_checks.xml"), ("java", "java")]⟩
  | .infer => ⟨[("javac", "javac")]⟩
  | .sonarqube => ⟨[("host", "http://localhost:9000"), ("token", ""), ("curl", "curl")]⟩
  | .codenavi => ⟨[("checker_dir", ""), ("java", "java")]⟩

/-- What an analyzer is called by if nothing is set. -/
def defaultExecutable : Tool → String
  | .pmd => "pmd"
  | .spotbugs => "spotbugs"
  | .checkstyle => "checkstyle.jar"
  | .infer => "infer"
  | .sonarqube => "sonar-scanner"
  | .codenavi => ""

namespace Analyzer

/-- The value of an option: the one that is set, else the one from the start, else nothing. -/
def option (analyzer : Analyzer) (tool : Tool) (key : String) : String :=
  (analyzer.options.get? key).getD (((defaultOptions tool).get? key).getD "")

/-- What the analyzer is called by. -/
def executable (analyzer : Analyzer) (tool : Tool) : String :=
  if analyzer.path == "" then defaultExecutable tool else analyzer.path

end Analyzer

/-- Everything that a run needs to know. -/
structure Settings where
  seedPath : Path
  resultsDirectory : Path
  analyzers : Tool → Analyzer
  mutation : Bool
  cleanup : Bool
  /-- The number of workers, left to the machine if there is none. -/
  workers : Option Int
  /-- How many seconds a process may take, without bound if there is none. -/
  timeout : Option Binary64
  debug : Bool

namespace Settings

/-- The settings of an empty configuration. -/
def initial : Settings :=
  ⟨⟨.here, ["seeds"]⟩, ⟨.here, ["results"]⟩, fun _ => .unset, true, true, none, none, false⟩

/-- The analyzers that are to run, in order of precedence. -/
def enabled (settings : Settings) : List Tool :=
  Tool.all.filter fun tool => (settings.analyzers tool).enabled

/-- Changes what is set for one analyzer. -/
def withAnalyzer (settings : Settings) (tool : Tool) (analyzer : Analyzer) : Settings :=
  { settings with
    analyzers := fun other => if other = tool then analyzer else settings.analyzers other }

end Settings

/-! ## Reading values -/

/-- The text of a value, if it can be written. -/
def written (value : Value) : Except Fault String :=
  if value.isWritable then .ok value.render else .error .tooManyDigits

/-- The words that mean yes. -/
def yesWords : List String := ["true", "yes", "on", "1"]

/-- Whether a value means yes. -/
def truth : Value → Except Fault Bool
  | .bool b => .ok b
  | value => return yesWords.contains (lower (trim (← written value)))

/-- A failure to read a number. -/
def badNumber {α : Type} (details : String) : Except Fault α :=
  .error (.configuration (.badNumber details))

/-- The number in a text, if it can be read. -/
def orBadNumber {α : Type} (details : String) : Option α → Except Fault α
  | some n => .ok n
  | none => badNumber details

/-- A complaint about a text that is no whole number. -/
def notWhole (s : String) : String := s!"invalid literal for int() with base 10: {quoted s}"

/-- A complaint about a text that is no number. -/
def notDouble (s : String) : String := s!"could not convert string to float: {quoted s}"

/-- A complaint about a value of which no number can be made. -/
def notNumber : String := "argument must be a string or a real number"

/-- Bytes as text, if they are ASCII. -/
def asciiText? (bytes : Bytes) : Option String :=
  if bytes.all (· < 0x80) then ofUtf8? bytes else none

/-- The whole number that a value gives. A fraction is dropped. -/
def wholeNumber : Value → Except Fault Int
  | .bool b => .ok (if b then 1 else 0)
  | .int n => .ok n
  | .float (.infinite _) => .error .overflow
  | .float x => orBadNumber "cannot convert float NaN to integer" x.truncate?
  | .text s => orBadNumber (notWhole s) (integerOf? s)
  | .bytes b => orBadNumber notNumber ((asciiText? b).bind integerOf?)
  | _ => badNumber notNumber

/-- The double that a value gives. -/
def double : Value → Except Fault Binary64
  | .bool b => .ok (Binary64.ofInt (if b then 1 else 0))
  | .int n =>
    match Binary64.ofInt n with
    | .infinite _ => .error .overflow
    | x => .ok x
  | .float x => .ok x
  | .text s => orBadNumber (notDouble s) (doubleOf? s)
  | .bytes b => orBadNumber notNumber ((asciiText? b).bind doubleOf?)
  | _ => badNumber notNumber

/-- Whether a value stands for a number that is not given. -/
def isBlankNumber : Value → Bool
  | .null => true
  | .text s => s == ""
  | _ => false

/-! ## Reading settings -/

/-- A key of a configuration. -/
inductive Key
  | text (s : String)
  | bytes (b : Bytes)
  deriving DecidableEq, Repr

namespace Key

/-- The key that a value is. -/
def ofValue : Value → Except Fault Key
  | .text s => .ok (.text s)
  | .bytes b => .ok (.bytes b)
  | _ => .error .keyNotText

/-- Whether a key is a word, in upper or lower case. Bytes are no word. -/
def isWord (word : String) : Key → Bool
  | .text s => lower s == word
  | .bytes _ => false

/-- A byte in upper case, if it is a letter. -/
def upperByte (b : UInt8) : UInt8 := if 0x61 ≤ b && b ≤ 0x7A then b - 0x20 else b

/-- A key in upper case. -/
def inUpperCase : Key → Key
  | .text s => .text (upper s)
  | .bytes b => .bytes (b.map upperByte)

/-- A key as a part of a longer one. -/
def render : Key → String
  | .text s => s
  | .bytes b => quotedBytes b

end Key

/-- A configuration with all keys on one level and in upper case. -/
abbrev Flat := OrderedMap Key Value

/-- Adds a key of the table of an analyzer, with the analyzer's name in front. The key `enabled` is
another word for `mutation`. -/
def addOption (name : Value) (flat : Flat) (entry : Value × Value) : Except Fault Flat := do
  let key ← Key.ofValue entry.1
  let word := if key.isWord "enabled" then "mutation" else key.render
  return flat.insert (.text (upper ((← written name) ++ "_" ++ word))) entry.2

/-- Adds the table of an analyzer. What is no table is passed over. -/
def addAnalyzer (flat : Flat) (entry : Value × Value) : Except Fault Flat :=
  match entry.2 with
  | .map table => table.foldlM (addOption entry.1) flat
  | _ => .ok flat

/-- Adds a value under a key, or the tables of analyzers that it holds. -/
def addUnder (flat : Flat) (key : Key) (value : Value) : Except Fault Flat :=
  match key.isWord "analyzers", value with
  | true, .map tables => tables.foldlM addAnalyzer flat
  | _, value => .ok (flat.insert key.inUpperCase value)

/-- Adds an entry of a configuration. -/
def addEntry (flat : Flat) (entry : Value × Value) : Except Fault Flat := do
  addUnder flat (← Key.ofValue entry.1) entry.2

/-- A configuration on one level. -/
def flatten (entries : List (Value × Value)) : Except Fault Flat := entries.foldlM addEntry .empty

/-- The value of a number that may be missing. -/
def number? {α : Type} (read : Value → Except Fault α) (flat : Flat) (key : String) :
    Except Fault (Option α) :=
  match flat.get? (.text key) with
  | none => .ok none
  | some value => if isBlankNumber value then .ok none else (read value).map some

/-- What follows the name of an analyzer in a key, which has to be text. -/
def keyOf? (tool : Tool) : Key → Except Fault (Option String)
  | .text s =>
    let name := (tool.key ++ "_").toList
    .ok <| if name.isPrefixOf s.toList then some (String.ofList (s.toList.drop name.length))
      else none
  | .bytes _ => .error .notText

/-- Sets what a key of an analyzer says. -/
def Analyzer.set (analyzer : Analyzer) (key : String) (value : Value) : Except Fault Analyzer := do
  if key == "MUTATION" then return { analyzer with enabled := ← truth value }
  else if key == "PATH" then return { analyzer with path := ← written value }
  else
    let text ← written value
    return { analyzer with options := analyzer.options.insert (lower key) text }

/-- Sets what an entry of a configuration says of an analyzer. -/
def Analyzer.take (tool : Tool) (analyzer : Analyzer) (entry : Key × Value) :
    Except Fault Analyzer := do
  match ← keyOf? tool entry.1 with
  | some key => analyzer.set key entry.2
  | none => return analyzer

/-- What a configuration sets for an analyzer. -/
def analyzerOf (flat : Flat) (tool : Tool) : Except Fault Analyzer :=
  flat.entries.foldlM (Analyzer.take tool) .unset

/-- Settings with what a configuration sets for an analyzer. -/
def setAnalyzer (flat : Flat) (settings : Settings) (tool : Tool) : Except Fault Settings :=
  return settings.withAnalyzer tool (← analyzerOf flat tool)

/-- What the value of a key gives, if the key is there. -/
def valueOr {α : Type} (read : Value → Except Fault α) (flat : Flat) (key : String) (default : α) :
    Except Fault α :=
  match flat.get? (.text key) with
  | none => .ok default
  | some value => read value

/-- The path that a value names. -/
def pathOf (value : Value) : Except Fault Path := return Path.ofString (← written value)

/-- The settings that a configuration on one level gives. -/
def Settings.ofFlat (flat : Flat) : Except Fault Settings := do
  let start := Settings.initial
  let seedPath ← valueOr pathOf flat "SEED_PATH" start.seedPath
  let resultsDirectory ← valueOr pathOf flat "RESULTS_DIR" start.resultsDirectory
  let mutation ← valueOr truth flat "MUTATION" start.mutation
  let cleanup ← valueOr truth flat "CLEANUP_MUTANTS" start.cleanup
  let debug ← valueOr truth flat "DEBUG" start.debug
  let workers ← number? wholeNumber flat "MAX_WORKERS"
  let timeout ← number? double flat "TIMEOUT"
  Tool.all.foldlM (setAnalyzer flat)
    { start with seedPath, resultsDirectory, mutation, cleanup, workers, timeout, debug }

/-- The settings that the entries of a configuration give. -/
def Settings.ofEntries (entries : List (Value × Value)) : Except Fault Settings := do
  Settings.ofFlat (← flatten entries)

end Crosscheck.Configuration
