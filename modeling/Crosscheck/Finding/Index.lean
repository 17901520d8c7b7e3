import Crosscheck.Finding.Violation
/-!
# The index of findings

All findings of a run by file. A report is merged step by step, and a finding whose kind cannot be a
key ends the merge where it stands; what was recorded before it stays.
-/

namespace Crosscheck

open Crosscheck.Document

/-- The findings of a run: by file their lines, their lines by kind, and the findings themselves,
and the reports that were registered for single files. -/
structure Index where
  rows : OrderedMap String (List Int)
  bugs : OrderedMap String (OrderedMap Value (List Int))
  reports : OrderedMap String Report
  violations : OrderedMap String (List Violation)

namespace Index

/-- No findings. -/
def empty : Index := ⟨.empty, .empty, .empty, .empty⟩

instance : Inhabited Index := ⟨empty⟩

/-- Makes room for a file and adds its findings, but not their lines. -/
def makeRoom (index : Index) (report : Report) : Index :=
  { index with
    rows := index.rows.push report.path []
    bugs := index.bugs.alter report.path fun old => old.getD .empty
    violations := index.violations.push report.path report.violations }

/-- Adds the line of one finding. -/
def addRow (index : Index) (path : String) (v : Violation) : Index :=
  { index with rows := index.rows.push path [v.line] }

/-- Adds the line of one finding to those of its kind. -/
def addBug (index : Index) (path : String) (v : Violation) : Index :=
  { index with bugs := index.bugs.alter path fun old => (old.getD .empty).push v.bugType [v.line] }

/-- Adds the lines of findings in one file, up to one whose kind cannot be a key. -/
def addLines (path : String) : List Violation → Index → Index × Option Fault
  | [], index => (index, none)
  | v :: rest, index =>
    let index := index.addRow path v
    if v.bugType.isKey then addLines path rest (index.addBug path v) else (index, some .notKey)

/-- Merges a report. -/
def merge (index : Index) (report : Report) : Index × Option Fault :=
  addLines report.path report.violations (index.makeRoom report)

/-- Whether a file is registered. -/
def isRegistered (index : Index) (path : String) : Bool := index.reports.contains path

/-- Registers the report of a single file and merges it. No file is registered twice. -/
def register (index : Index) (report : Report) (source : String) : Index × Option Fault :=
  if index.isRegistered report.path then (index, some (.repeatedSeed report.path source))
  else { index with reports := index.reports.insert report.path report }.merge report

/-- The lines of the findings in a file. -/
def rowsOf (index : Index) (path : String) : List Int := (index.rows.get? path).getD []

/-- The lines of the findings in a file by kind. -/
def bugsOf (index : Index) (path : String) : OrderedMap Value (List Int) :=
  (index.bugs.get? path).getD .empty

/-- The number of findings in a file by kind. -/
def bugCounts (index : Index) (path : String) : OrderedMap Value Nat :=
  (index.bugsOf path).mapValues List.length

/-- The findings in a file. -/
def violationsOf (index : Index) (path : String) : List Violation :=
  (index.violations.get? path).getD []

/-- The files with findings, sorted. -/
def files (index : Index) : List String := index.rows.keys.mergeSort (· ≤ ·)

/-- The number of findings. -/
def total (index : Index) : Nat := index.rows.values.flatten.length

/-- Whether a file has an entry. -/
def contains (index : Index) (path : String) : Bool := index.rows.contains path

/-- The number of files. -/
def size (index : Index) : Nat := index.rows.size

end Index

end Crosscheck
