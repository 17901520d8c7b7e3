import Crosscheck.Text.ShellWord
import Crosscheck.World
/-!
# Child processes

Starts a child process and waits until it ends. The process counts as launched however it exits:
analyzers report findings by their exit status. Only one that never started, ran out of time or was
killed has failed.
-/

namespace Crosscheck.Analysis

open Crosscheck.Files Crosscheck.Text

/-- Writes the files of a child after the directories that lead to them, up to one that cannot be
written. -/
def writeAll : List (Path × Bytes) → Action (Option AccessError)
  | [] => return none
  | (path, content) :: rest => do
    let (fs, refused) := (← Action.files).makeDirectories path.parent
    Action.setFiles fs
    match refused with
    | some e => return some e
    | none =>
      match fs.write path content with
      | .error e => return some e
      | .ok fs =>
        Action.setFiles fs
        writeAll rest

/-- The next child of the script, which is taken from it. -/
def nextChild : Action Child := do
  match (← get).script with
  | [] => return .idle
  | child :: rest =>
    modify fun w => { w with script := rest }
    return child

/-- Complains about a process. -/
def failed (message : String) : Action Bool := do
  Action.note .error message
  return false

/-- Starts a child process and waits for its end: whether it was launched. -/
def launch (call : Call) : Action Bool := do
  modify fun w => { w with calls := w.calls ++ [call] }
  let program := call.command.headD ""
  let line := shellLine call.command
  let notLaunched (e : AccessError) := failed s!"Failed to launch {program}: {e.message}"
  let child ← nextChild
  match ← writeAll child.writes with
  | some e => notLaunched e
  | none =>
    match child.ending with
    | .exited status =>
      if status < 0 then failed s!"Killed by signal {-status}: {line}" else return true
    | .timedOut =>
      let limit := (call.timeout.getD .null).render
      failed s!"Timed out after {limit}s: {line}"
    | .notStarted refusal => notLaunched ⟨refusal, program⟩
    | .raised message => throw (.raised message)

end Crosscheck.Analysis
