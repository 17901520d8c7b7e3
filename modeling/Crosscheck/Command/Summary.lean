import Crosscheck.Analysis.Campaign
import Crosscheck.Console.Table
/-!
# The summary of a campaign in print

A table of numbers, a table of inconsistencies if there are any, and the failures.
-/

namespace Crosscheck.Command

open Crosscheck.Analysis Crosscheck.Console Crosscheck.Document Crosscheck.Files

/-- The width of the screen. -/
def screenWidth : Nat := 400

/-- Goes on with styled text as it is shown. -/
def shownOrFault {α : Type} : Option α → Action α
  | some a => return a
  | none => throw .strayMark

/-- Prints styled text. -/
def printStyled (s : String) : Action Unit := do
  let shown ← shownOrFault (shown? s)
  Action.print ((wrap screenWidth .fold .plain shown).map String.ofList)

/-- Prints styled texts one after the other. -/
def printAll : List String → Action Unit
  | [] => return
  | s :: rest => do
    printStyled s
    printAll rest

/-- Prints a table. -/
def printTable (table : Table) : Action Unit := do
  Action.print (← shownOrFault (table.render? screenWidth))

/-- The numbers of a campaign. Its children run in no time. -/
def numbersTable (summary : Summary) : Table where
  title := s!"{summary.tool.title} run summary"
  columns := [⟨"Metric", .left⟩, ⟨"Value", .right⟩]
  rows := [
    ["Seed folders", toString summary.folders],
    ["Seeds", toString summary.seeds],
    ["Mutants generated", toString summary.mutants],
    ["Invocations launched", s!"{summary.launched}/{summary.invocations}"],
    ["Files with violations", toString summary.filesWithViolations],
    ["Total violations", toString summary.totalViolations],
    ["Inconsistencies", toString summary.inconsistencies.length],
    ["Elapsed", "0.00s"]]

/-- The row of an inconsistency. Only a kind that is text can be printed. -/
def inconsistencyRow (i : Inconsistency) : Except Fault (List String) :=
  match i.bugType with
  | .text kind =>
    .ok [(Path.ofString i.mutant).name, kind, toString i.seedCount, toString i.mutantCount, i.kind]
  | _ => .error .notPrintable

/-- The inconsistencies of a campaign. -/
def inconsistenciesTable (found : List Inconsistency) : Except Fault Table := do
  return {
    title := "Inconsistencies"
    columns := [⟨"Mutant", .left⟩, ⟨"Bug type", .left⟩, ⟨"Seed", .right⟩, ⟨"Mutant", .right⟩,
      ⟨"Kind", .left⟩]
    rows := ← found.mapM inconsistencyRow }

/-- Prints failures under a title, if there are any. -/
def printFailures (title : String) (failures : List String) : Action Unit := do
  if !failures.isEmpty then
    printStyled s!"[bold red]{title}:[/bold red]"
    printAll (failures.map ("  " ++ ·))

/-- Prints the summary of a campaign. -/
def printSummary (summary : Summary) : Action Unit := do
  printTable (numbersTable summary)
  if !summary.inconsistencies.isEmpty then
    printTable (← Action.lift (inconsistenciesTable summary.inconsistencies))
  printFailures "Failed report paths" summary.failures.reports
  printFailures "Failed tool executions" summary.failures.tools

end Crosscheck.Command
