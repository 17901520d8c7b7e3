import Crosscheck.Analysis.Process
import Crosscheck.Configuration.Settings
import Crosscheck.Corpus
/-!
# Adapters of analyzers

How each analyzer is run over a folder of sources, and where it leaves its report. An adapter never
looks into reports: it says only whether all processes were launched.
-/

namespace Crosscheck.Analysis

open Crosscheck.Configuration Crosscheck.Document Crosscheck.Files Crosscheck.Text

/-- An analyzer as it is set up for a run. -/
structure Adapter where
  tool : Tool
  analyzer : Analyzer
  /-- How long a process may take. -/
  timeout : Option Value
  /-- Whether scripts carry a suffix, as they do on Windows. -/
  windows : Bool

/-- What a script is called by. Where scripts carry a suffix, it is added to a name without one. -/
def launcher (windows : Bool) (name : String) : String :=
  if windows && (Path.ofString name).suffix == "" then name ++ ".bat" else name

namespace Adapter

/-- The value of an option. -/
def option (adapter : Adapter) (key : String) : String := adapter.analyzer.option adapter.tool key

/-- What the analyzer is called by. -/
def executable (adapter : Adapter) : String := adapter.analyzer.executable adapter.tool

/-- What the analyzer is called by, if it comes as a script. -/
def script (adapter : Adapter) : String := launcher adapter.windows adapter.executable

end Adapter

/-! ## Places -/

/-- The suffix of reports. -/
def reportSuffix : Tool → String
  | .pmd | .infer | .sonarqube => ".json"
  | .spotbugs | .checkstyle | .codenavi => ".xml"

/-- Where the report on a folder is written. Infer writes a directory of its own for a folder. -/
def reportPath (tool : Tool) (results folder : Path) : Path :=
  match tool with
  | .infer => (results.child folder.name).child "report.json"
  | _ => results.child (folder.name ++ reportSuffix tool)

/-- A path with another last part, which only a path with a last part can have. -/
def renamed (path : Path) (name : String) : Except Fault Path :=
  if path.name == "" then .error (.emptyName path) else .ok (path.sibling name)

/-- Where compiled classes are written, for an analyzer that needs them. -/
def classesPath? (tool : Tool) (report : Path) : Except Fault (Option Path) :=
  match tool with
  | .spotbugs => (renamed report (report.stem ++ "_classes")).map some
  | .infer => (renamed report.parent (report.parent.name ++ "_classes")).map some
  | _ => .ok none

/-- Where the processes run, if it matters. Infer's reports name files from that directory. -/
def workingDirectory? (tool : Tool) (folder : Path) : Option Path :=
  match tool with
  | .infer => some folder
  | _ => none

/-! ## Commands -/

/-- The name of a folder's project on a server. -/
def projectKey (folder : Path) : String := s!"statfier_{folder.name}"

/-- A text without slashes at its end. -/
def dropSlashes (s : String) : String :=
  String.ofList (s.toList.reverse.dropWhile (· == '/')).reverse

namespace Adapter

/-- Runs on sources. -/
def pmdCommands (adapter : Adapter) (folder report : Path) : List (List String) :=
  [[adapter.script, "check", "-d", folder.render, "-R", adapter.option "ruleset", "-f", "json",
    "-r", report.render, "--no-cache"]]

/-- Compiles the sources, then runs on the classes. -/
def spotbugsCommands (adapter : Adapter) (folder report : Path) (classes : String)
    (sources : List String) : List (List String) :=
  [[adapter.option "javac", "-g", "-d", classes] ++ sources,
    [adapter.script, "-textui", "-xml:withMessages", "-sourcepath", folder.render, "-output",
      report.render, classes]]

/-- Runs on sources. -/
def checkstyleCommands (adapter : Adapter) (folder report : Path) : List (List String) :=
  [[adapter.option "java", "-jar", adapter.executable, "-c", adapter.option "config", "-f", "xml",
    "-o", report.render, folder.render]]

/-- Watches a compiler at work. -/
def inferCommands (adapter : Adapter) (report : Path) (classes : String)
    (sources : List String) : List (List String) :=
  [[adapter.executable, "run", "-o", report.parent.render, "--", adapter.option "javac", "-d",
    classes] ++ sources]

/-- Sends the sources to a server, then fetches what it found. -/
def sonarqubeCommands (adapter : Adapter) (folder report : Path) : List (List String) :=
  let key := projectKey folder
  let host := dropSlashes (adapter.option "host")
  let token := adapter.option "token"
  let scan := [adapter.script, s!"-Dsonar.projectKey={key}",
    s!"-Dsonar.projectBaseDir={folder.render}", "-Dsonar.sources=.", "-Dsonar.java.binaries=.",
    s!"-Dsonar.host.url={host}", "-Dsonar.qualitygate.wait=true"]
  let fetch := [adapter.option "curl", "-s", "-o", report.render]
  let address := s!"{host}/api/issues/search?componentKeys={key}&ps=500"
  if token == "" then [scan, fetch ++ [address]]
  else [scan ++ [s!"-Dsonar.token={token}"], fetch ++ ["-u", s!"{token}:", address]]

/-- Runs on sources. -/
def codenaviCommands (adapter : Adapter) (folder report : Path) : List (List String) :=
  [[adapter.option "java", "-Dfile.encoding=UTF-8",
    "--add-opens=java.base/java.lang.reflect=ALL-UNNAMED", "--enable-preview", "-cp",
    adapter.executable, "com.huawei.secbrella.kirin.Main", "--pugin", "--language", "java",
    "--outputFormat", "xml", "--dir", folder.render, "--checkerDir", adapter.option "checker_dir",
    "--output", report.render]]

/-- The commands that run an analyzer over a folder, in order. -/
def commands (adapter : Adapter) (fs : FileSystem) (folder report : Path) :
    Except Fault (List (List String)) := do
  let classes := ((← classesPath? adapter.tool report).map Path.render).getD ""
  let sources := (Corpus.sources fs folder).map Path.render
  return match adapter.tool with
    | .pmd => adapter.pmdCommands folder report
    | .spotbugs => adapter.spotbugsCommands folder report classes sources
    | .checkstyle => adapter.checkstyleCommands folder report
    | .infer => adapter.inferCommands report classes sources
    | .sonarqube => adapter.sonarqubeCommands folder report
    | .codenavi => adapter.codenaviCommands folder report

/-! ## Running -/

/-- Makes the directories that are written to, and removes a report from an earlier run. -/
def prepare (adapter : Adapter) (report : Path) : Action Unit := do
  Action.makeDirectories report.parent
  Action.access fun fs => fs.unlinkIfPresent report
  match ← Action.lift (classesPath? adapter.tool report) with
  | none => return
  | some classes => Action.makeDirectories classes

/-- Runs commands one after the other, up to one that is not launched. -/
def runAll (adapter : Adapter) (directory : Option Path) : List (List String) → Action Bool
  | [] => return true
  | command :: rest => do
    if ← launch ⟨command, directory, adapter.timeout⟩ then runAll adapter directory rest
    else
      Action.toolFailure (shellLine command)
      return false

/-- Runs an analyzer over a folder: whether all its processes were launched. -/
def invoke (adapter : Adapter) (folder report : Path) : Action Bool := do
  let folder := folder.absolute
  let report := report.absolute
  match ← Action.attempt (adapter.prepare report) with
  | .error (.access e) =>
    Action.note .error s!"Cannot prepare output for {folder.render}: {e.message}"
    Action.toolFailure s!"{adapter.tool.id}: prepare {report.render}"
    return false
  | .error fault => throw fault
  | .ok _ =>
    let commands ← Action.lift (adapter.commands (← Action.files) folder report)
    runAll adapter (workingDirectory? adapter.tool folder) commands

end Adapter

end Crosscheck.Analysis
