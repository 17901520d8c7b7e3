import Crosscheck.Proofs.Java.Lookup
import Crosscheck.Variation.Catalog
/-!
# Scanned sites are found again

A scan tells a site by a rule, a kind and a span; to change the site is to find the node again and
to ask the rule again. In a tree whose nodes can be told apart nothing is lost on that way
(`Rule.applyFrom_site`): it is the scanned node, in its place, that the rule gets to rewrite, so a
site stays as it is only if the rule declines the node or what comes out is not well-formed
(`Rule.rewrite_ne_edited_iff`).
-/

namespace Crosscheck.Variation

open Crosscheck.Text Crosscheck.Java

variable {tree : Node} {l : Lineage} {source : Bytes}

/-- The places in a tree that the rule accepts, in pre-order. -/
def Rule.candidates (rule : Rule) (tree : Node) : List Lineage :=
  (tree.lineages []).filter fun l => rule.accepts l.parent? l.node

/-- A scan lists the sites of the accepted places. -/
theorem Rule.scan_eq_map_candidates (rule : Rule) (tree : Node) :
    rule.scan tree = (rule.candidates tree).map fun l => rule.site l.node := by
  have hvisits : tree.visits none = (tree.lineages []).map fun l => (l.parent?, l.node) :=
    tree.visits_eq_map []
  rw [Rule.scan, Rule.accepted, hvisits, List.filter_map, List.map_map]
  rfl

theorem Rule.mem_candidates_iff {rule : Rule} :
    l ∈ rule.candidates tree ↔ l ∈ tree.lineages [] ∧ rule.accepts l.parent? l.node = true :=
  List.mem_filter

/-- A node is left as it is only if the rule declines it or what comes out is not well-formed. -/
theorem Rule.rewrite_ne_edited_iff (rule : Rule) (source : Bytes) (node : Node) :
    (∀ result, rule.rewrite source node ≠ .edited result) ↔
      rule.replacement source node = none ∨
        ∃ text, rule.replacement source node = some text ∧
          wellFormed (node.replace source text) = false := by
  unfold Rule.rewrite
  cases htext : rule.replacement source node with
  | none => simp
  | some text =>
    cases hformed : wellFormed (node.replace source text) with
    | true => simp [hformed]
    | false => simp [hformed]

/-- From wherever the node is looked for, the rule gets to rewrite the scanned one. -/
theorem Rule.applyFrom_site (rule : Rule) {hint : Option Lineage} (hhint : Hints tree hint)
    (hdistinct : tree.IsDistinct) (hl : l ∈ rule.candidates tree) :
    rule.applyFrom hint (rule.site l.node) source tree = rule.rewrite source l.node := by
  obtain ⟨hmem, haccepts⟩ := Rule.mem_candidates_iff.mp hl
  have hfound : tree.lookup hint (rule.site l.node).kind (rule.site l.node).start
      (rule.site l.node).stop = some l := lookup_eq_some hhint hdistinct hmem
  rw [Rule.applyFrom, hfound]
  exact if_pos haccepts

/-- Sites resolve. A lookup finds a node of a kind and a span exactly if the tree has one, whatever
place of the tree it starts from. In a tree without two nodes of one kind and one span, a rule finds
each site that it scanned at its node, accepts it again, and rewrites it; the site is left as it is
only if the rule declines the node or what comes out is not well-formed. -/
theorem sites_resolve (tree : Node) :
    (∀ hint, Hints tree hint → ∀ kind start stop,
      ((tree.lookup hint kind start stop).isSome = true ↔
        ∃ node ∈ tree.preorder, node.kind = kind ∧ node.start = start ∧ node.stop = stop) ∧
      ∀ l, tree.lookup hint kind start stop = some l →
        l.node ∈ tree.preorder ∧
          l.node.kind = kind ∧ l.node.start = start ∧ l.node.stop = stop) ∧
    (tree.IsDistinct → ∀ (rule : Rule) (source : Bytes),
      rule.scan tree = (rule.candidates tree).map (fun l => rule.site l.node) ∧
      ∀ l ∈ rule.candidates tree,
        (∀ hint, Hints tree hint →
          tree.lookup hint (rule.site l.node).kind (rule.site l.node).start
              (rule.site l.node).stop = some l ∧
            rule.accepts l.parent? l.node = true ∧
            rule.applyFrom hint (rule.site l.node) source tree = rule.rewrite source l.node ∧
            ((∀ result, rule.applyFrom hint (rule.site l.node) source tree ≠ .edited result) ↔
              rule.replacement source l.node = none ∨
                ∃ text, rule.replacement source l.node = some text ∧
                  wellFormed (l.node.replace source text) = false)) ∧
        (parse source = some tree →
          rule.apply (rule.site l.node) source = rule.rewrite source l.node)) := by
  constructor
  · intro hint hhint kind start stop
    constructor
    · simp only [isSome_lookup_iff hhint, Node.spans_iff]
    · intro l hl
      obtain ⟨hmem, hspans⟩ := mem_of_lookup hhint hl
      exact ⟨Node.mem_preorder_of_mem_lineages hmem, Node.spans_iff.mp hspans⟩
  · intro hdistinct rule source
    refine ⟨rule.scan_eq_map_candidates tree, fun l hl => ⟨?_, ?_⟩⟩
    · intro hint hhint
      obtain ⟨hmem, haccepts⟩ := Rule.mem_candidates_iff.mp hl
      have happly : rule.applyFrom hint (rule.site l.node) source tree =
          rule.rewrite source l.node := rule.applyFrom_site hhint hdistinct hl
      refine ⟨lookup_eq_some hhint hdistinct hmem, haccepts, happly, ?_⟩
      rw [happly]
      exact rule.rewrite_ne_edited_iff source l.node
    · intro hparse
      rw [Rule.apply, hparse]
      exact rule.applyFrom_site (hints_narrowest tree _ _) hdistinct hl

/-! ## An example -/

/-- A source with a literal. -/
def literalSource : Bytes := utf8 "class A \x7b int x = 1; \x7d"

theorem isSome_parse_literalSource : (parse literalSource).isSome = true := by
  decide +kernel

/-- Its tree. The type `int` is two nodes, one in the other, that span the same bytes. -/
def literalTree : Node := (parse literalSource).get isSome_parse_literalSource

/-- The place of the literal. -/
def literalPlace : Lineage := literalTree.narrowest 18 19 []

/-- The literal is found from the root of the tree, too, and gets its zero. -/
theorem sites_resolve_literal :
    literalTree.IsDistinct ∧ literalPlace ∈ addZero.candidates literalTree ∧
      literalTree.lookup (some ⟨literalTree, []⟩) "decimal_integer_literal" 18 19 =
        some literalPlace ∧
      addZero.apply (addZero.site literalPlace.node) literalSource =
        .edited (utf8 "class A \x7b int x = (1 + 0); \x7d") := by
  have hdistinct : literalTree.IsDistinct := by
    decide +kernel
  have haccepts : addZero.accepts literalPlace.parent? literalPlace.node = true := by
    decide +kernel
  have hcandidate : literalPlace ∈ addZero.candidates literalTree :=
    Rule.mem_candidates_iff.mpr ⟨literalTree.narrowest_mem 18 19 [], haccepts⟩
  have hroot : Hints literalTree (some ⟨literalTree, []⟩) := by
    intro l hl
    cases hl
    exact literalTree.root_mem_lineages []
  have hplace : literalPlace.node.Coincides
      ⟨"decimal_integer_literal", true, none, 18, 19, 0, []⟩ := by
    decide +kernel
  have hparse : parse literalSource = some literalTree := (Option.some_get _).symm
  obtain ⟨hfrom, happly⟩ :=
    ((sites_resolve literalTree).2 hdistinct addZero literalSource).2 literalPlace hcandidate
  obtain ⟨hlookup, -⟩ := hfrom _ hroot
  rw [Rule.site, hplace.1, hplace.2.1, hplace.2.2] at hlookup
  refine ⟨hdistinct, hcandidate, hlookup, ?_⟩
  rw [happly hparse]
  decide +kernel

end Crosscheck.Variation
