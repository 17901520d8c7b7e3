import Crosscheck.Mutation.Naming
import Crosscheck.Finding.Index
/-!
# Comparing seeds with their mutants

A mutant means the same as its seed, so an analyzer should find the same in both. Compared is the
number of findings of every kind; lines do not count, since a variation moves them.
-/

namespace Crosscheck

open Crosscheck.Document Crosscheck.Files Crosscheck.Mutation

/-- A kind of finding that comes up in a seed and in its mutant a different number of times. -/
structure Inconsistency where
  seed : String
  mutant : String
  bugType : Value
  seedCount : Nat
  mutantCount : Nat
  deriving Repr

/-- What is suspected: findings that a mutant gains are false, findings that it loses are missed. -/
def Inconsistency.kind (i : Inconsistency) : String :=
  if i.mutantCount > i.seedCount then "false_positive" else "false_negative"

/-- The text of a value that is text. -/
def textOf? : Value → Option String
  | .text s => some s
  | _ => none

/-- The number that a value is, held exactly. -/
def exactNumber? : Value → Option Binary64
  | .bool b => some (.finite false (if b then 1 else 0) 0)
  | .int n => some (.finite (n < 0) n.natAbs 0)
  | .float x => some x
  | _ => none

/-- Kinds of findings in order. Text is in order with text, and numbers with numbers. -/
def sortKinds (kinds : List Value) : Except Fault (List Value) :=
  match kinds.mapM textOf? with
  | some texts => .ok ((texts.mergeSort (· ≤ ·)).map .text)
  | none =>
    if kinds.length ≤ 1 then .ok kinds
    else
      match kinds.mapM fun kind => (exactNumber? kind).map (·, kind) with
      | some numbers => .ok ((numbers.mergeSort fun x y => !y.1.lt x.1).map (·.2))
      | none => .error .notOrdered

/-- The kinds that come up on either side, each once. -/
def kindsOf (left right : OrderedMap Value Nat) : List Value :=
  left.keys ++ right.keys.filter fun kind => !left.contains kind

/-- The kinds of findings that come up a different number of times in seed and mutant, sorted. -/
def compare (index : Index) (seed mutant : String) : Except Fault (List Inconsistency) := do
  let left := index.bugCounts seed
  let right := index.bugCounts mutant
  return (← sortKinds (kindsOf left right)).filterMap fun kind =>
    let here := (left.get? kind).getD 0
    let there := (right.get? kind).getD 0
    if here == there then none else some ⟨seed, mutant, kind, here, there⟩

/-- The seeds of those paths that are paths of mutants, each with its mutant. -/
def pairs (paths : List String) : List (String × String) :=
  paths.filterMap fun text =>
    let mutant := Path.ofString text
    (seedOf mutant).map fun seed => (seed.render, mutant.render)

/-- The inconsistencies of several mutants, one mutant after the other. -/
def inconsistencies (index : Index) (paths : List String) :
    Except Fault (List Inconsistency) := do
  return (← (pairs paths).mapM fun (seed, mutant) => compare index seed mutant).flatten

end Crosscheck
