import Crosscheck.Finding.Index
import Crosscheck.Finding.Ledger
/-!
# What a run works on

A run reads and changes a `World`: the files, the journal of notices, the child processes, the
findings and failures collected so far, and what a command has said. An `Action` may end early with
a fault; what it changed before stays changed.

Child processes are a script of outcomes, taken in the order of the calls.
-/

namespace Crosscheck

open Crosscheck.Files Crosscheck.Text

/-- How grave a notice is. -/
inductive Gravity
  | warning
  | error
  | critical
  deriving DecidableEq, Repr

/-- The name of a gravity. -/
def Gravity.name : Gravity → String
  | .warning => "WARNING"
  | .error => "ERROR"
  | .critical => "CRITICAL"

/-- An entry of the journal. -/
structure Notice where
  gravity : Gravity
  message : String
  deriving DecidableEq, Repr

/-- A notice in print. -/
def Notice.render (n : Notice) : String := s!"{n.gravity.name}: {n.message}"

/-- How a child process ends. -/
inductive ChildEnd
  | exited (status : Int)
  | timedOut
  | notStarted (refusal : Refusal)
  | raised (message : String)
  deriving DecidableEq, Repr

/-- What a child process does: the files it writes, and how it ends. -/
structure Child where
  writes : List (Path × Bytes)
  ending : ChildEnd

/-- A child that writes nothing and succeeds. -/
def Child.idle : Child := ⟨[], .exited 0⟩

/-- A started child process. -/
structure Call where
  command : List String
  directory : Option Path
  timeout : Option Document.Value

/-- What a command has said: the lines of its answer, the lines of its complaint, and, for every
time that logging was set up, whether details are logged. -/
structure Transcript where
  printed : List String
  complained : List String
  detailed : List Bool
  deriving DecidableEq, Repr

/-- Nothing said. -/
def Transcript.empty : Transcript := ⟨[], [], []⟩

/-- Everything that a run reads and changes. -/
structure World where
  files : FileSystem
  journal : List Notice
  script : List Child
  calls : List Call
  index : Index
  ledger : Ledger
  transcript : Transcript

/-- A world in which nothing has happened yet. -/
def World.initial : World := ⟨.initial, [], [], [], .empty, .empty, .empty⟩

/-- A step of a run. -/
abbrev Action := ExceptT Fault (StateM World)

namespace Action

/-- Writes a notice into the journal. -/
def note (gravity : Gravity) (message : String) : Action Unit :=
  modify fun w => { w with journal := w.journal ++ [⟨gravity, message⟩] }

/-- The files. -/
def files : Action FileSystem := return (← get).files

/-- Replaces the files. -/
def setFiles (fs : FileSystem) : Action Unit := modify fun w => { w with files := fs }

/-- Changes the files, or fails as the access does. -/
def access (f : FileSystem → Except AccessError FileSystem) : Action Unit := do
  match f (← files) with
  | .ok fs => setFiles fs
  | .error e => throw (.access e)

/-- Makes a directory and those that lead to it. Those that were made before an error stay. -/
def makeDirectories (path : Path) : Action Unit := do
  let (fs, refused) := (← files).makeDirectories path
  setFiles fs
  match refused with
  | none => return
  | some e => throw (.access e)

/-- Goes on with a result, or fails with its fault. -/
def lift {α : Type} : Except Fault α → Action α
  | .ok a => return a
  | .error fault => throw fault

/-- Changes the index, and fails if the change was cut short. -/
def updateIndex (f : Index → Index × Option Fault) : Action Unit := do
  let (index, fault) := f (← get).index
  modify fun w => { w with index }
  match fault with
  | none => return
  | some fault => throw fault

/-- Records a report that could not be read. -/
def reportFailure (report : String) : Action Unit := do
  modify fun w => { w with ledger := w.ledger.addReport report }
  note .warning s!"Failed to parse report: {report}"

/-- Records a tool that could not be run. -/
def toolFailure (command : String) : Action Unit := do
  modify fun w => { w with ledger := w.ledger.addTool command }
  note .warning s!"Tool execution failed: {command}"

/-- Says more. -/
def say (f : Transcript → Transcript) : Action Unit :=
  modify fun w => { w with transcript := f w.transcript }

/-- Prints lines. -/
def print (lines : List String) : Action Unit :=
  say fun t => { t with printed := t.printed ++ lines }

/-- Complains in lines. -/
def complain (lines : List String) : Action Unit :=
  say fun t => { t with complained := t.complained ++ lines }

/-- Sets logging up, with details or without. -/
def setLogging (detailed : Bool) : Action Unit :=
  say fun t => { t with detailed := t.detailed ++ [detailed] }

/-- Runs an action, and takes its fault as a result. -/
def attempt {α : Type} (action : Action α) : Action (Except Fault α) :=
  ExceptT.mk do return .ok (← action.run)

end Action

end Crosscheck
