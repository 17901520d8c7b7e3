import Crosscheck.Analysis.Pool
import Crosscheck.Comparison
import Crosscheck.Configuration.Load
import Crosscheck.Mutation.Generate
import Crosscheck.Native.Reader
/-!
# Campaigns

A campaign tests one analyzer on a corpus: it generates the mutants of all seeds, runs the analyzer
over every folder, reads the reports, and compares each mutant with its seed.
-/

namespace Crosscheck.Analysis

open Crosscheck.Configuration Crosscheck.Files

/-- A campaign: what it is told to do, and whether it was called off. -/
structure Campaign where
  settings : Settings
  cancelled : Bool

/-- What a campaign came to. -/
structure Summary where
  tool : Tool
  folders : Nat
  seeds : Nat
  mutants : Nat
  invocations : Nat
  launched : Nat
  skipped : Nat
  filesWithViolations : Nat
  totalViolations : Nat
  failures : Ledger
  inconsistencies : List Inconsistency
  deriving Repr

/-- Forgets all findings and failures. -/
def reset : Action Unit := modify fun w => { w with index := .empty, ledger := .empty }

namespace Campaign

/-- A campaign by settings, which starts with no findings. -/
def start (settings : Settings) : Action Campaign := do
  reset
  return ⟨settings, false⟩

/-- Calls a campaign off. -/
def cancel (campaign : Campaign) : Campaign := { campaign with cancelled := true }

/-- The number of workers, at least one. -/
def workers (campaign : Campaign) : Option Int := campaign.settings.workers.map (max 1)

/-- The adapter of an analyzer. -/
def adapter (campaign : Campaign) (tool : Tool) : Adapter :=
  ⟨tool, campaign.settings.analyzers tool, campaign.settings.timeout.map .float, false⟩

/-- Generates the mutants of a seed anew: their number. -/
def mutateSeed (campaign : Campaign) (transforms : List Mutation.Transform) (seed : Path) :
    Action Nat := do
  if campaign.settings.cleanup then
    let _ ← Mutation.removeMutantsOf seed
  return (← Mutation.generate seed transforms).length

/-- Generates the mutants of seeds one after the other: their number. A fault costs one seed. -/
def mutateAll (campaign : Campaign) (transforms : List Mutation.Transform) :
    List Path → Action Nat
  | [] => return 0
  | seed :: rest => do
    if campaign.cancelled then
      Action.note .warning "Cancelled during mutation"
      return 0
    match ← Action.attempt (campaign.mutateSeed transforms seed) with
    | .ok mutants => return mutants + (← campaign.mutateAll transforms rest)
    | .error fault =>
      Action.note .error s!"Error mutating {seed.render}: {fault.message}"
      campaign.mutateAll transforms rest

/-- Generates the mutants of all seeds in folders with transforms: the numbers of seeds and of
mutants. -/
def mutateSeedsBy (campaign : Campaign) (transforms : List Mutation.Transform)
    (folders : List Path) : Action (Nat × Nat) := do
  let fs ← Action.files
  let seeds := folders.flatMap (Corpus.seeds fs)
  return (seeds.length, ← campaign.mutateAll transforms seeds)

/-- Generates the mutants of all seeds in folders with the rules of the catalog. -/
def mutateSeeds (campaign : Campaign) (folders : List Path) : Action (Nat × Nat) :=
  campaign.mutateSeedsBy (Mutation.transformsOf Variation.Catalog.standard.rules) folders

/-- The numbers of seeds and of mutants that the analyzer is to run on. -/
def prepareSeeds (campaign : Campaign) (folders : List Path) : Action (Nat × Nat) := do
  if campaign.settings.mutation then campaign.mutateSeeds folders
  else
    let fs ← Action.files
    return ((folders.flatMap (Corpus.seeds fs)).length, 0)

/-- The tasks of an analyzer, one of its own for each folder. -/
def tasks (campaign : Campaign) (tool : Tool) (folders : List Path) : List Task :=
  let results := campaign.settings.resultsDirectory.absolute.child tool.id
  folders.mapIdx fun number folder => ⟨number, folder, reportPath tool results folder⟩

/-- Reads the reports of the tasks that were not skipped. -/
def readReports (tool : Tool) : List Result → Action Unit
  | [] => return
  | result :: rest => do
    if !result.skipped then
      let _ ← Native.readMany tool result.task.folder result.task.report
    readReports tool rest

/-- The inconsistencies of the mutants in folders. -/
def compareMutants (folders : List Path) : Action (List Inconsistency) := do
  let w ← get
  let mutants := folders.flatMap (Corpus.mutants w.files)
  Action.lift (inconsistencies w.index (mutants.map Path.render))

/-- Tests an analyzer on a corpus, with its tasks worked off by a schedule for their number. -/
def executeBy (campaign : Campaign) (schedule : Nat → List Turn) (tool : Tool) (corpus : String) :
    Action Summary := do
  let folders := Corpus.folders (← Action.files) (Path.ofString corpus)
  if folders.isEmpty then Action.note .warning s!"No seed folders found under {corpus}"
  let (seeds, mutants) ← campaign.prepareSeeds folders
  let tasks := campaign.tasks tool folders
  let results ← invokeAll (campaign.adapter tool) campaign.cancelled tasks (schedule tasks.length)
  readReports tool results
  let found ← compareMutants folders
  let w ← get
  return {
    tool
    folders := folders.length
    seeds
    mutants
    invocations := results.length
    launched := results.countP (·.launched)
    skipped := results.countP (·.skipped)
    filesWithViolations := w.index.size
    totalViolations := w.index.total
    failures := w.ledger
    inconsistencies := found }

/-- Tests an analyzer on a corpus. -/
def execute (campaign : Campaign) (tool : Tool) (corpus : String) : Action Summary :=
  campaign.executeBy inOrder tool corpus

/-- Tests the analyzer that is selected on the corpus that is set. -/
def run (campaign : Campaign) : Action Summary := do
  let tool ← selected campaign.settings
  campaign.execute tool campaign.settings.seedPath.render

end Campaign

end Crosscheck.Analysis
