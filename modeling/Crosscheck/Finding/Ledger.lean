/-!
# The ledger of failures

Which reports could not be read and which tools could not be run, in the order in which it happened.
-/

namespace Crosscheck

/-- Failures of a run. -/
structure Ledger where
  reports : List String
  tools : List String
  deriving DecidableEq, Repr, Inhabited

namespace Ledger

/-- No failures. -/
def empty : Ledger := ⟨[], []⟩

/-- Adds a report that could not be read. -/
def addReport (ledger : Ledger) (report : String) : Ledger :=
  { ledger with reports := ledger.reports ++ [report] }

/-- Adds a tool that could not be run. -/
def addTool (ledger : Ledger) (command : String) : Ledger :=
  { ledger with tools := ledger.tools ++ [command] }

/-- Whether nothing failed. -/
def isEmpty (ledger : Ledger) : Bool := ledger.reports.isEmpty && ledger.tools.isEmpty

end Ledger

end Crosscheck
