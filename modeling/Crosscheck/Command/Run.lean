import Crosscheck.Command.Arguments
import Crosscheck.Command.Summary
/-!
# Commands

The two commands of the program and their exit statuses: one runs a campaign, one generates the
mutants of a single seed.
-/

namespace Crosscheck.Command

open Crosscheck.Analysis Crosscheck.Configuration Crosscheck.Files

/-- The path of an option that is given and not empty. -/
def pathOr (fallback : Path) : Option String → Path
  | none => fallback
  | some s => if s == "" then fallback else Path.ofString s

/-- Settings with what the command line says in their place. -/
def override (settings : Settings) (arguments : Arguments) : Settings :=
  { settings with
    seedPath := pathOr settings.seedPath arguments.seedPath
    resultsDirectory := pathOr settings.resultsDirectory arguments.resultsDirectory
    workers := arguments.workers <|> settings.workers
    timeout := arguments.timeout <|> settings.timeout
    mutation := settings.mutation && !arguments.noMutation
    debug := settings.debug || arguments.debug }

/-- Runs the campaign that a command line asks for. -/
def runCampaign (arguments : Arguments) : Action Summary := do
  let settings ← load (Path.ofString (arguments.config.getD ""))
  let settings := override settings arguments
  Action.setLogging settings.debug
  (← Campaign.start settings).run

/-- Runs a campaign and prints its summary. A configuration that cannot be used is complained about
in the journal. -/
def analyze (words : List String) : Action Int := do
  match Arguments.ofWords words with
  | .error stop => return stop.status
  | .ok arguments =>
    Action.setLogging arguments.debug
    match ← Action.attempt (runCampaign arguments) with
    | .error (.configuration fault) =>
      Action.note .error fault.fullMessage
      return 1
    | .error (.repeatedSeed seed source) =>
      Action.note .critical (Fault.repeatedSeed seed source).message
      return 1
    | .error fault => throw fault
    | .ok summary =>
      printSummary summary
      printStyled "Analysis completed successfully."
      return 0

/-- How the command that generates mutants is called. -/
def usage : List String :=
  ["Usage: statfier-mutate <file_path> [transform_name]",
    "  file_path: Path to the Java file to transform",
    "  transform_name: Optional specific transform name",
    "Available transforms:"] ++ Variation.Catalog.standard.names.map ("  - " ++ ·)

/-- Generates the mutants of a seed, by one transform if it is named, else by all. -/
def mutate : List String → Action Int
  | [] => do
    Action.complain usage
    return 1
  | file :: rest => do
    Action.setLogging false
    let seed := Path.ofString file
    let made ← match rest with
      | [] => Mutation.generateAll .standard seed
      | name :: _ => Mutation.generateOne .standard seed name
    Action.print (s!"Generated {made.length} mutants:" :: made.map fun path => "  " ++ path.render)
    return 0

end Crosscheck.Command
