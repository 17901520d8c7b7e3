import Crosscheck.Mutation.Cleanup
import Crosscheck.Variation.Catalog
/-!
# Generating mutants

Every transform is tried at every site it finds in a seed, each time on the seed as it stands in its
file. What succeeds is written beside the seed under the next number. A failure costs one attempt
and no number.
-/

namespace Crosscheck.Mutation

open Crosscheck.Files Crosscheck.Text Crosscheck.Java Crosscheck.Variation

/-- A transform as the generator sees it: finding sites may fail, and so may the attempt at each of
them, which knows how many attempts went before. -/
structure Transform where
  name : String
  scan : Node → Except Fault (List Site)
  apply : Nat → Site → Bytes → Node → Except Fault Outcome

/-- A rule as a transform, which never fails. -/
def Transform.ofRule (rule : Rule) : Transform where
  name := rule.name
  scan tree := .ok (rule.scan tree)
  apply _ site source tree := .ok (rule.applyIn site source tree)

/-- A mutant that was written. -/
structure Mutant where
  path : Path
  seed : Path
  transform : String
  site : Site
  number : Nat
  deriving DecidableEq, Repr

/-- Tries a transform at a site, after so many mutants. -/
def tryAt (seed : Path) (source : Bytes) (tree : Node) (transform : Transform) (attempts made : Nat)
    (site : Site) : Action (Option Mutant) := do
  match transform.apply attempts site source tree with
  | .error fault =>
    Action.note .error s!"Error applying {transform.name} at {site.render}: {fault.message}"
    return none
  | .ok (.edited edited) =>
    let path := mutantPath seed (made + 1)
    match (← Action.files).write path edited with
    | .error e =>
      Action.note .error s!"Error writing {path.render}: {e.message}"
      return none
    | .ok fs =>
      Action.setFiles fs
      return some ⟨path, seed, transform.name, site, made + 1⟩
  | .ok _ => return none

/-- Tries a transform at sites one after the other, and adds to the mutants made so far. -/
def trySites (seed : Path) (source : Bytes) (tree : Node) (transform : Transform) :
    Nat → List Site → List Mutant → Action (List Mutant)
  | _, [], made => return made
  | attempts, site :: rest, made => do
    let mutant ← tryAt seed source tree transform attempts made.length site
    trySites seed source tree transform (attempts + 1) rest (made ++ mutant.toList)

/-- Tries transforms one after the other. -/
def tryTransforms (seed : Path) (source : Bytes) (tree : Node) :
    List Transform → List Mutant → Action (List Mutant)
  | [], made => return made
  | transform :: rest, made => do
    match transform.scan tree with
    | .error fault =>
      Action.note .error s!"Error scanning {seed.render} with {transform.name}: {fault.message}"
      tryTransforms seed source tree rest made
    | .ok sites =>
      tryTransforms seed source tree rest
        (← trySites seed source tree transform 0 sites made)

/-- Generates the mutants of a seed, numbered from one across all transforms. -/
def generate (seed : Path) (transforms : List Transform) : Action (List Mutant) := do
  let seed := seed.absolute
  match (← Action.files).read seed with
  | .error e =>
    let fault := Fault.unreadableSource seed e
    Action.note .error s!"Error processing file {seed.render}: {fault.message}"
    return []
  | .ok source =>
    match parse source with
    | none =>
      Action.note .warning s!"Parse errors in {seed.render}, skipping mutation"
      return []
    | some tree => tryTransforms seed source tree transforms []

/-! ## With rules of a catalog -/

/-- Rules as transforms. -/
def transformsOf (rules : List Rule) : List Transform := rules.map Transform.ofRule

/-- Generates with rules. -/
def generateWith (seed : Path) (rules : List Rule) : Action (List Path) := do
  return (← generate seed (transformsOf rules)).map (·.path)

/-- Generates with all rules of a catalog. -/
def generateAll (catalog : Catalog) (seed : Path) : Action (List Path) :=
  generateWith seed catalog.rules

/-- Looks a rule up, and notes if there is none. -/
def findRule (catalog : Catalog) (name : String) : Action (Option Rule) := do
  match catalog.find? name with
  | some rule => return some rule
  | none =>
    let fault := Fault.unknownRule name
    let available := ", ".intercalate catalog.names
    Action.note .error s!"{fault.message}. Available: {available}"
    return none

/-- Generates with one rule. -/
def generateOne (catalog : Catalog) (seed : Path) (name : String) : Action (List Path) := do
  match ← findRule catalog name with
  | some rule => generateWith seed [rule]
  | none => return []

/-- Looks rules up, leaving out those that are not there. -/
def findRules (catalog : Catalog) : List String → Action (List Rule)
  | [] => return []
  | name :: rest => do
    let rule ← findRule catalog name
    return rule.toList ++ (← findRules catalog rest)

/-- Generates with several rules under one numbering. -/
def generateMany (catalog : Catalog) (seed : Path) (names : List String) :
    Action (List Path) := do
  match ← findRules catalog names with
  | [] => return []
  | rules => generateWith seed rules

end Crosscheck.Mutation
