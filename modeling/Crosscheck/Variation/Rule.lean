import Crosscheck.Java.Edit
import Crosscheck.Java.Lookup
/-!
# Rules of variation

A rule says which nodes of a tree it may change and what text it puts in their place, so that the
program still behaves the same. `Rule.scan` lists the places in a tree that the rule accepts;
`Rule.apply` changes one of them.
-/

namespace Crosscheck.Variation

open Crosscheck.Text Crosscheck.Java

/-- A place in a source that a rule may change. -/
structure Site where
  rule : String
  kind : String
  start : Nat
  stop : Nat
  line : Nat
  deriving DecidableEq, Repr

/-- How a site is written in messages. -/
def Site.render (site : Site) : String := s!"{site.rule}@{site.kind}:{site.line}"

/-- A named change that keeps the behaviour of the program. -/
structure Rule where
  name : String
  description : String
  /-- Whether the node, given the node it hangs under, may be changed. -/
  accepts : Option Node → Node → Bool
  /-- The text to put in place of a node, if the rule does not decline it. -/
  replacement : Bytes → Node → Option Glyphs

/-- The site of a node. -/
def Rule.site (rule : Rule) (node : Node) : Site :=
  ⟨rule.name, node.kind, node.start, node.stop, node.line⟩

/-- The nodes that the rule accepts, in pre-order. -/
def Rule.accepted (rule : Rule) (tree : Node) : List (Option Node × Node) :=
  (tree.visits none).filter fun (parent, node) => rule.accepts parent node

/-- The sites that the rule accepts, in pre-order. -/
def Rule.scan (rule : Rule) (tree : Node) : List Site :=
  (rule.accepted tree).map fun (_, node) => rule.site node

/-- How the attempt to change a site ends. -/
inductive Outcome
  /-- The site was changed. -/
  | edited (source : Bytes)
  /-- Nothing was changed. -/
  | declined
  /-- What came out is not well-formed. -/
  | broken (source : Bytes)
  deriving DecidableEq, Repr

/-- Puts the replacement of a node in its place. -/
def Rule.rewrite (rule : Rule) (source : Bytes) (node : Node) : Outcome :=
  match rule.replacement source node with
  | none => .declined
  | some text =>
    let changed := node.replace source text
    if wellFormed changed then .edited changed else .broken changed

/-- Changes one site of a source that reads as `tree`. The node is looked for from a hint. -/
def Rule.applyFrom (rule : Rule) (hint : Option Lineage) (site : Site) (source : Bytes)
    (tree : Node) : Outcome :=
  match tree.lookup hint site.kind site.start site.stop with
  | none => .declined
  | some lineage =>
    if rule.accepts lineage.parent? lineage.node then rule.rewrite source lineage.node
    else .declined

/-- Changes one site of a source that reads as `tree`. -/
def Rule.applyIn (rule : Rule) (site : Site) (source : Bytes) (tree : Node) : Outcome :=
  rule.applyFrom (some (tree.narrowest site.start site.stop [])) site source tree

/-- Changes one site of a source. -/
def Rule.apply (rule : Rule) (site : Site) (source : Bytes) : Outcome :=
  match parse source with
  | none => .declined
  | some tree => rule.applyIn site source tree

end Crosscheck.Variation
