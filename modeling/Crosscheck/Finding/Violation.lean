import Crosscheck.Finding.Line
import Crosscheck.Finding.Tool
/-!
# Violations

What an analyzer found: single violations, and the violations of one file in a report.
-/

namespace Crosscheck

open Crosscheck.Document

/-- The kind of a finding whose report gives none. -/
def unknownBugType : String := "UNKNOWN"

/-- One finding. The kind is text in every sound report, but a report may hold any value there. -/
structure Violation where
  path : String
  line : Int
  bugType : Value
  tool : Tool
  deriving Repr

namespace Violation

/-- The kind of a finding as a report gives it. -/
def bugTypeOf (raw : Value) : Value := if raw.isTruthy then raw else .text unknownBugType

/-- A finding from what a report gives. -/
def create (path : String) (line bugType : Value) (tool : Tool) : Except Fault Violation := do
  return ⟨path, ← lineOf line, bugTypeOf bugType, tool⟩

/-- A finding in print. -/
def render (v : Violation) : String := s!"[{v.tool.title}] {v.bugType.render} at line {v.line}"

end Violation

/-- The findings of one file, in the order of the report. -/
structure Report where
  path : String
  tool : Tool
  violations : List Violation
  deriving Repr

/-- A report in print: a title and a line for every finding. -/
def Report.render (r : Report) : String :=
  "\n".intercalate (s!"{r.tool.title} Report: {r.path}" :: r.violations.map Violation.render)

end Crosscheck
