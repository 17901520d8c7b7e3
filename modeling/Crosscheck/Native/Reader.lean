import Crosscheck.Native.Format
import Crosscheck.World
/-!
# Reading reports into the index

A report that covers many files is merged file by file. A report of a single file registers that
file, which happens once in a run. A report that cannot be read is recorded and otherwise passed
over.
-/

namespace Crosscheck.Native

open Crosscheck.Files

/-- Whether there is anything to read: a missing or an empty report is no failure. -/
def isReadable (fs : FileSystem) (report : Path) : Bool :=
  match fs.entry? report with
  | some (.file content) => !content.isEmpty
  | _ => false

/-- The findings of a report. One that is malformed or cannot be opened, or that names a file by a
name too long to be looked up, is recorded. -/
def findings (tool : Tool) (folder report : Path) : Action (Option (List Violation)) := do
  match parse (← Action.files) tool folder report with
  | .ok found => return found
  | .error (.report _) | .error (.access _) =>
    Action.reportFailure report.render
    return none
  | .error fault => throw fault

/-- Findings by file, in the order in which the files come up. -/
def byFile (tool : Tool) (found : List Violation) : List Report :=
  let grouped : OrderedMap String (List Violation) :=
    found.foldl (fun map v => map.push v.path [v]) .empty
  grouped.entries.map fun (path, violations) => ⟨path, tool, violations⟩

/-- Merges reports one after the other. -/
def mergeAll : List Report → Action Unit
  | [] => return
  | report :: rest => do
    Action.updateIndex fun index => index.merge report
    mergeAll rest

/-- Reads a report that covers many files. -/
def readMany (tool : Tool) (folder report : Path) : Action (List Report) := do
  if isReadable (← Action.files) report then
    match ← findings tool folder report with
    | none => return []
    | some found =>
      let reports := byFile tool found
      mergeAll reports
      return reports
  else return []

/-- Reads a report of a single file. All findings in it count for that file. -/
def readSingle (tool : Tool) (seed report : Path) : Action (Option Report) := do
  if isReadable (← Action.files) report then
    let seed := seed.absolute
    let path := seed.render
    if (← get).index.isRegistered path then
      Action.note .critical s!"Repeat process: {path}, report: {report.render}"
      throw (.repeatedSeed path report.render)
    match ← findings tool seed.parent report with
    | none => return none
    | some found =>
      let registered : Report := ⟨path, tool, found.map fun v => { v with path }⟩
      Action.updateIndex fun index => index.register registered report.render
      return some registered
  else return none

end Crosscheck.Native
