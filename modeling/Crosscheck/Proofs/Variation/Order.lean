import Crosscheck.Proofs.Java.Traversal
import Crosscheck.Variation.Catalog
/-!
# The order of the sites

A rule is asked of one node after the other, so that its sites stand in the order of the addresses of
their nodes (`Rule.map_scan`). Where every node has its children in it, one after the other, this is
an order in the source, too: no site begins before one that is listed earlier, and a site under
another one ends with it or before (`Rule.places_ordered`).
-/

namespace Crosscheck.Variation

open Crosscheck.Text Crosscheck.Java

variable {tree : Node}

/-- The addresses of the nodes that a rule accepts, in their order. -/
def Rule.places (rule : Rule) (tree : Node) : List (List Nat) :=
  tree.addresses.filter fun path => (tree.at? path).any (rule.accepts (tree.above? none path))

/-- What a scan accepts are the nodes at the places of a rule. -/
theorem Rule.map_accepted (rule : Rule) (tree : Node) :
    (rule.accepted tree).map some =
      (rule.places tree).map fun path => (tree.at? path).map (tree.above? none path, ·) := by
  have haccepted : (rule.accepted tree).map some =
      ((tree.visits none).map some).filter (Option.any fun visit => rule.accepts visit.1 visit.2) := by
    rw [List.filter_map]
    rfl
  rw [haccepted, tree.map_visits none, List.filter_map]
  refine congrArg (List.map _) (List.filter_congr fun path _ => ?_)
  rw [Function.comp_apply, Option.any_map]

/-- A scan lists the sites at the places of a rule. -/
theorem Rule.map_scan (rule : Rule) (tree : Node) :
    (rule.scan tree).map some = (rule.places tree).map fun path => (tree.at? path).map rule.site := by
  have hscan : (rule.scan tree).map some =
      ((rule.accepted tree).map some).map (Option.map fun visit => rule.site visit.2) := by
    rw [scan, List.map_map, List.map_map]
    rfl
  rw [hscan, rule.map_accepted, List.map_map]
  refine List.map_congr_left fun path _ => ?_
  rw [Function.comp_apply, Option.map_map]
  rfl

/-- The places of a rule come in the order of their addresses, and each is there once. -/
theorem Rule.places_sorted (rule : Rule) (tree : Node) :
    (rule.places tree).Pairwise (· < ·) :=
  tree.addresses_sorted.filter _

/-- Whether two nodes come in their order in a source: the second one does not begin before the
first, and if it is under the first, it ends with it or before. -/
structure InOrder (tree : Node) (path path' : List Nat) : Prop where
  start : ∀ node ∈ tree.at? path, ∀ other ∈ tree.at? path', node.start ≤ other.start
  stop : path <+: path' → ∀ node ∈ tree.at? path, ∀ other ∈ tree.at? path', other.stop ≤ node.stop

/-- In a nested tree the places of a rule are in their order in the source. -/
theorem Rule.places_ordered (h : tree.Nested) (rule : Rule) :
    (rule.places tree).Pairwise (InOrder tree) := by
  refine (rule.places_sorted tree).imp fun {path path'} hlt => ⟨?_, ?_⟩
  · exact fun node hnode other hother => h.start_le hlt hnode hother
  · rintro ⟨further, rfl⟩ node hnode other hother
    exact h.stop_le hnode hother

/-- In a nested tree no site begins before an earlier one. -/
theorem Rule.starts_ordered (h : tree.Nested) (rule : Rule) :
    (rule.scan tree).Pairwise fun site other => site.start ≤ other.start := by
  have hsites : ((rule.scan tree).map some).Pairwise fun site other =>
      ∀ a ∈ site, ∀ b ∈ other, a.start ≤ b.start := by
    rw [rule.map_scan, List.pairwise_map]
    refine (Rule.places_ordered h rule).imp fun {path path'} horder a ha b hb => ?_
    obtain ⟨node, hnode, rfl⟩ := Option.map_eq_some_iff.mp ha
    obtain ⟨other, hother, rfl⟩ := Option.map_eq_some_iff.mp hb
    exact horder.start node hnode other hother
  rw [List.pairwise_map] at hsites
  exact hsites.imp fun horder => horder _ rfl _ rfl

/-- A tree is listed with a stack in as many rounds as it has nodes, and what is listed are its nodes
in pre-order: those at its addresses, each once, an address before those that go on from it and
before those that part from it at a later child. The sites of a rule are those of the nodes that it
accepts, in this order; in a nested tree no site begins before an earlier one, and a site under an
earlier one ends with it or before. -/
theorem traversal_in_order (tree : Node) :
    (∀ n listed, (Tour.start tree).run n = some ⟨listed, []⟩ ↔
      n = tree.size ∧ listed = walk [tree]) ∧
    walk [tree] = tree.preorder ∧ (walk [tree]).map some = tree.addresses.map tree.at? ∧
    (∀ path, path ∈ tree.addresses ↔ (tree.at? path).isSome = true) ∧
    tree.addresses.Pairwise (· < ·) ∧
    ∀ rule : Rule,
      (rule.scan tree).map some =
        (rule.places tree).map (fun path => (tree.at? path).map rule.site) ∧
      (rule.places tree).Pairwise (· < ·) ∧
      (tree.Nested → (rule.scan tree).Pairwise (fun site other => site.start ≤ other.start) ∧
        (rule.places tree).Pairwise (InOrder tree)) := by
  have hwalk := walk_singleton tree
  refine ⟨fun n listed => ?_, hwalk, ?_, fun path => Node.mem_addresses_iff,
    tree.addresses_sorted, fun rule => ⟨rule.map_scan tree, rule.places_sorted tree, fun h =>
      ⟨rule.starts_ordered h, rule.places_ordered h⟩⟩⟩
  · have hleft : (Tour.start tree).left = walk [tree] := rfl
    rw [Tour.run_eq_some_iff, hleft, length_walk_singleton]
    exact Iff.rfl
  · rw [hwalk, tree.map_preorder]

/-- A source with a loop whose body is a conditional statement, with a body of its own. -/
def loopSource : Bytes := utf8 "class A \x7b void f() \x7b while (a) if (b) c(); \x7d \x7d"

theorem isSome_parse_loopSource : (parse loopSource).isSome = true := by
  decide +kernel

/-- Its tree. -/
def loopTree : Node := (parse loopSource).get isSome_parse_loopSource

/-- The two bodies are sites, the second one in the first, with which it ends. -/
theorem traversal_loopTree :
    loopTree.Nested ∧ (Tour.start loopTree).run 35 = some ⟨walk [loopTree], []⟩ ∧
      addBrackets.places loopTree = [[0, 2, 1, 3, 1, 2], [0, 2, 1, 3, 1, 2, 2]] ∧
      (addBrackets.scan loopTree).map (fun site => (site.start, site.stop)) =
        [(31, 42), (38, 42)] ∧
      (addBrackets.scan loopTree).Pairwise (fun site other => site.start ≤ other.start) ∧
      (addBrackets.places loopTree).Pairwise (InOrder loopTree) := by
  obtain ⟨hnested, hsize, hplaces, hspans⟩ :
      loopTree.Nested ∧ 35 = loopTree.size ∧
        addBrackets.places loopTree = [[0, 2, 1, 3, 1, 2], [0, 2, 1, 3, 1, 2, 2]] ∧
        (addBrackets.scan loopTree).map (fun site => (site.start, site.stop)) =
          [(31, 42), (38, 42)] := by
    decide +kernel
  obtain ⟨hrun, -, -, -, -, hrules⟩ := traversal_in_order loopTree
  obtain ⟨-, -, hordered⟩ := hrules addBrackets
  exact ⟨hnested, (hrun 35 _).mpr ⟨hsize, rfl⟩, hplaces, hspans, hordered hnested⟩

end Crosscheck.Variation
