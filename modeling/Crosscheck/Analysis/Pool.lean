import Crosscheck.Analysis.Adapter
import Crosscheck.OrderedMap
/-!
# The pool of workers

Workers take up tasks as they become free, so tasks may be worked off in any order, their results
may come in in any other, and the run may be cancelled in between. A schedule says in what order it
happens. Whatever the schedule, the results are put in the order of the tasks at the end, each at
the place where its task stands. Tasks are told apart by what they are and not by what they say; one
that stands in the list twice has the last of its places.
-/

namespace Crosscheck.Analysis

open Crosscheck.Files

/-- One run of an analyzer: over which folder, and with which report. -/
structure Task where
  /-- What tells the task from others with the same folder and report. -/
  identity : Nat
  folder : Path
  report : Path
  deriving DecidableEq, Repr

/-- What came of a task. -/
structure Result where
  task : Task
  launched : Bool
  skipped : Bool
  deriving DecidableEq, Repr

/-- What happens next in a pool: a worker takes up the task with a number, the result of that task
comes in, or the run is cancelled. -/
inductive Turn
  | work (task : Nat)
  | finish (task : Nat)
  | cancel
  deriving DecidableEq, Repr

/-- The schedule that takes so many tasks in their order, one at a time. -/
def inOrder (tasks : Nat) : List Turn :=
  (List.range tasks).flatMap fun number => [.work number, .finish number]

/-- Works off a task. A cancelled run skips it. A fault is recorded and counts as a failed
launch. -/
def workOff (adapter : Adapter) (cancelled : Bool) (task : Task) : Action Result := do
  if cancelled then return ⟨task, false, true⟩
  match ← Action.attempt (adapter.invoke task.folder task.report) with
  | .ok launched => return ⟨task, launched, false⟩
  | .error fault =>
    let folder := task.folder.render
    Action.note .error
      s!"Worker error invoking {adapter.tool.title} on {folder}: {fault.message}"
    Action.toolFailure s!"{adapter.tool.id}: {folder}"
    return ⟨task, false, false⟩

/-- The state of a pool: the results that are still to come in and those that have come in, by the
numbers of their tasks, and whether the run is cancelled. -/
structure Pool where
  cancelled : Bool
  running : List (Nat × Result)
  finished : List (Nat × Result)
  deriving DecidableEq, Repr

namespace Pool

/-- A pool before its first turn. -/
def start (cancelled : Bool) : Pool := ⟨cancelled, [], []⟩

/-- Whether a worker has taken up the task with a number. -/
def hasTaken (pool : Pool) (number : Nat) : Bool :=
  (pool.running ++ pool.finished).any (·.1 == number)

/-- The task with a number, if there is one and no worker has taken it up. -/
def open? (pool : Pool) (tasks : List Task) (number : Nat) : Option Task :=
  if pool.hasTaken number then none else tasks[number]?

/-- Takes a turn. A worker looks once whether the run is cancelled, before it starts. -/
def turn (adapter : Adapter) (tasks : List Task) (pool : Pool) : Turn → Action Pool
  | .cancel => return { pool with cancelled := true }
  | .finish number => return { pool with
      running := pool.running.filter (·.1 != number)
      finished := pool.finished ++ pool.running.filter (·.1 == number) }
  | .work number => do
    match pool.open? tasks number with
    | none => return pool
    | some task =>
      let result ← workOff adapter pool.cancelled task
      return { pool with running := pool.running ++ [(number, result)] }

/-- Takes turns one after the other. -/
def follow (adapter : Adapter) (tasks : List Task) (pool : Pool) : List Turn → Action Pool
  | [] => return pool
  | next :: rest => do
    (← pool.turn adapter tasks next).follow adapter tasks rest

end Pool

/-! ## Results in order -/

section ByPlace

variable {α : Type} (place : α → Nat)

/-- Puts an item before the first one whose place is not before its own. -/
def insertBy (item : α) : List α → List α
  | [] => [item]
  | other :: rest =>
    if place item ≤ place other then item :: other :: rest else other :: insertBy item rest

/-- Items by their places. Those with one place stay in their order. -/
def sortBy (items : List α) : List α := items.foldr (insertBy place) []

end ByPlace

/-- The places of tasks in a list, the last one for each of them. -/
def places (tasks : List Task) : OrderedMap Nat Nat :=
  .ofList (tasks.zipIdx.map fun (task, number) => (task.identity, number))

/-- The place of a task in a list. -/
def placeIn (tasks : List Task) (task : Task) : Nat := ((places tasks).get? task.identity).getD 0

/-- Results as they came in, in the order of their tasks. -/
def inTaskOrder (tasks : List Task) (results : List Result) : List Result :=
  sortBy (fun result => placeIn tasks result.task) results

/-- Works off tasks by a schedule. -/
def invokeAll (adapter : Adapter) (cancelled : Bool) (tasks : List Task) (schedule : List Turn) :
    Action (List Result) := do
  let pool ← (Pool.start cancelled).follow adapter tasks schedule
  return inTaskOrder tasks (pool.finished.map Prod.snd)

end Crosscheck.Analysis
