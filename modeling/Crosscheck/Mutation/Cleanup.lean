import Crosscheck.Mutation.Naming
import Crosscheck.World
/-!
# Removing mutants

Two ways to remove mutants: by what their names begin and end with, or exactly those of one seed.
-/

namespace Crosscheck.Mutation

open Crosscheck.Files

/-- The suffix of sources. -/
def sourceSuffix : String := ".java"

/-- Removes files that are there, and counts those that it removed. -/
def removeAll : List Path → Action Nat
  | [] => return 0
  | path :: rest => do
    match (← Action.files).unlink path with
    | .ok fs =>
      Action.setFiles fs
      return (← removeAll rest) + 1
    | .error ⟨.notFound, _⟩ => removeAll rest
    | .error e => throw (.access e)

/-- Removes the files of a directory whose names begin with the base and the marker and end with the
extension. -/
def cleanupMutants (directory : Path) (base extension : String) : Action Nat := do
  let fs ← Action.files
  if fs.isDirectory directory then
    let opening := (base ++ marker).toList
    removeAll <| (fs.children directory).filterMap fun (path, entry) =>
      if entry.isFile && opening.isPrefixOf path.name.toList
          && extension.toList.isSuffixOf path.name.toList
      then some path else none
  else return 0

/-- The pattern that lists candidates for the mutants of a seed. -/
def candidatePattern (seed : Path) : String := seed.stem ++ marker ++ "*" ++ seed.suffix

/-- Removes the mutants of one seed. They are looked for with the name of the seed as a pattern, so
what stands for other text in a pattern does so in the name. -/
def removeMutantsOf (seed : Path) : Action Nat := do
  let seed := seed.absolute
  let fs ← Action.files
  if fs.isDirectory seed.parent then
    let pattern := candidatePattern seed
    if Wildcard.isRecursive pattern.toList then throw .recursivePattern
    removeAll <| (fs.matching seed.parent pattern).filterMap fun (path, entry) =>
      if entry.isFile && seedOf path == some seed then some path else none
  else return 0

end Crosscheck.Mutation
