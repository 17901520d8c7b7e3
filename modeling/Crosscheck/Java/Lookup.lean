import Crosscheck.Java.Tree
/-!
# Finding a node again

A site remembers a node by its kind and the bytes it spans. `Node.lookup` finds the node again: it
takes a hint where the bytes are, climbs from there as long as the nodes span exactly these bytes,
and goes through the whole tree if that comes to nothing. `Node.narrowest` is the hint that is used:
the narrowest node around the bytes.
-/

namespace Crosscheck.Java

/-- A node in its place in a tree: with the nodes above it, the nearest first. -/
structure Lineage where
  node : Node
  above : List Node

/-- The node that the node hangs under. -/
def Lineage.parent? (lineage : Lineage) : Option Node := lineage.above.head?

/-- The nearest node of a kind among a node and those above it, as long as they span exactly these
bytes. -/
def climb (kind : String) (start stop : Nat) (node : Node) (above : List Node) : Option Lineage :=
  if node.start == start && node.stop == stop then
    if node.kind == kind then some ⟨node, above⟩
    else
      match above with
      | [] => none
      | parent :: above => climb kind start stop parent above
  else none

namespace Node

/-- The nodes of a tree in pre-order, each in its place. -/
def lineages (above : List Node) : Node → List Lineage
  | node@⟨_, _, _, _, _, _, children⟩ => ⟨node, above⟩ :: lineagesUnder (node :: above) children
where
  /-- The nodes of several trees that hang under one node. -/
  lineagesUnder (above : List Node) : List Node → List Lineage
    | [] => []
    | node :: rest => lineages above node ++ lineagesUnder above rest

/-- Whether a node ends before it could hold the bytes. -/
def endsBefore (node : Node) (start stop : Nat) : Bool :=
  node.stop < stop || (if node.start == node.stop then node.stop < start else node.stop ≤ start)

/-- The narrowest node around the bytes, the whole tree if no other node is around them. -/
def narrowest (start stop : Nat) (above : List Node) : Node → Lineage
  | node@⟨_, _, _, _, _, _, children⟩ =>
    (narrowestOf start stop (node :: above) children).getD ⟨node, above⟩
where
  /-- The narrowest node in the first of several trees that does not end before the bytes. -/
  narrowestOf (start stop : Nat) (above : List Node) : List Node → Option Lineage
    | [] => none
    | node :: rest =>
      if node.endsBefore start stop then narrowestOf start stop above rest
      else if start < node.start then none
      else some (narrowest start stop above node)

/-- The node of a kind that spans exactly these bytes, looked for from a hint and then in all of the
tree. -/
def lookup (tree : Node) (hint : Option Lineage) (kind : String) (start stop : Nat) :
    Option Lineage :=
  match hint.bind fun lineage => climb kind start stop lineage.node lineage.above with
  | some found => some found
  | none => (tree.lineages []).find? fun lineage => lineage.node.spans kind start stop

end Node

end Crosscheck.Java
