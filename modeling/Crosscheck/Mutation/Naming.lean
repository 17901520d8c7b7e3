import Crosscheck.Files.Path
import Crosscheck.Text.PrintableTable
/-!
# Names of mutants

The mutants of a seed stand beside it under numbered names: `Foo_iter1.java` is the first mutant of
`Foo.java`. `mutantPath` gives the name, `seedOf` reads it back.
-/

namespace Crosscheck.Mutation

open Crosscheck.Files Crosscheck.Text

/-- What stands between the name of a seed and the number of a mutant. -/
def marker : String := "_iter"

/-- The path of a numbered mutant. -/
def mutantPath (seed : Path) (number : Int) : Path :=
  let seed := seed.absolute
  seed.parent.child (seed.stem ++ marker ++ toString number ++ seed.suffix)

/-- The stem of the seed, if the characters are the stem of a mutant: a name without line feeds, the
marker, and a number in digits of any script. A line feed at the very end does not count. -/
def seedStem? (cs : List Char) : Option (List Char) :=
  let reversed := cs.reverse
  let reversed := if reversed.head? == some '\n' then reversed.drop 1 else reversed
  let digits := reversed.takeWhile fun c => (digitValue? c).isSome
  let front := reversed.drop digits.length
  let base := front.drop marker.length
  if digits != [] && front.take marker.length == marker.toList.reverse && base != []
      && !base.contains '\n'
  then some base.reverse
  else none

/-- The seed of a mutant, none if the path is not that of a mutant. -/
def seedOf (path : Path) : Option Path :=
  (seedStem? path.stem.toList).map fun base =>
    path.parent.child (String.ofList base ++ path.suffix)

/-- Whether a path is that of a mutant. -/
def isMutant (path : Path) : Bool := (seedOf path).isSome

end Crosscheck.Mutation
