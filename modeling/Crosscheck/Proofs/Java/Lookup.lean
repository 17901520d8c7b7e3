import Crosscheck.Java.Lookup
import Mathlib.Data.List.Pairwise
/-!
# What a lookup finds

A lookup climbs from a hint and then goes through the tree, and both find what is asked for: a node
of the kind that spans the bytes. Wherever in the tree the hint is, the lookup finds a node exactly
if there is one (`isSome_lookup_iff`), since what a climb passes is in the tree (`mem_of_climb`). If
no two nodes have one kind and one span, there is nothing to choose, and every node is found again
(`lookup_eq_some`).
-/

namespace Crosscheck.Java

variable {tree : Node} {kind : String} {start stop : Nat} {l : Lineage}

/-! ## Places in a tree -/

namespace Node

mutual

/-- The places of a tree are those of its nodes. -/
theorem map_node_lineages (tree : Node) (above : List Node) :
    (tree.lineages above).map (·.node) = tree.preorder := by
  match tree with
  | ⟨kind, named, role, start, stop, row, children⟩ =>
    rw [lineages, preorder, List.map_cons, map_node_lineagesUnder children]

theorem map_node_lineagesUnder (nodes above : List Node) :
    (lineages.lineagesUnder above nodes).map (·.node) = preorder.preorders nodes := by
  match nodes with
  | [] => rfl
  | node :: rest =>
    rw [lineages.lineagesUnder, preorder.preorders, List.map_append, map_node_lineages node,
      map_node_lineagesUnder rest]

end

theorem root_mem_lineages (tree : Node) (above : List Node) :
    ⟨tree, above⟩ ∈ tree.lineages above := by
  cases tree
  rw [lineages]
  exact List.mem_cons_self

theorem mem_preorder_of_mem_lineages (h : l ∈ tree.lineages []) : l.node ∈ tree.preorder :=
  tree.map_node_lineages [] ▸ List.mem_map_of_mem h

mutual

/-- A listing with the node that each hangs under leaves out what is further above. -/
theorem visits_eq_map (tree : Node) (above : List Node) :
    tree.visits above.head? = (tree.lineages above).map fun l => (l.parent?, l.node) := by
  match tree with
  | ⟨kind, named, role, start, stop, row, children⟩ =>
    rw [visits, lineages, List.map_cons, visitsUnder_eq_map children]
    rfl

theorem visitsUnder_eq_map (nodes : List Node) (parent : Node) (above : List Node) :
    visits.visitsUnder parent nodes =
      (lineages.lineagesUnder (parent :: above) nodes).map fun l => (l.parent?, l.node) := by
  match nodes with
  | [] => rfl
  | node :: rest =>
    have hfirst := visits_eq_map node (parent :: above)
    rw [List.head?_cons] at hfirst
    rw [visits.visitsUnder, lineages.lineagesUnder, List.map_append, hfirst,
      visitsUnder_eq_map rest parent above]

end

mutual

/-- The node above a place is in its place in the tree, too. -/
theorem above_of_mem_lineages (tree : Node) {base : List Node} (h : l ∈ tree.lineages base) :
    l.above = base ∨
      ∃ parent above, l.above = parent :: above ∧ ⟨parent, above⟩ ∈ tree.lineages base := by
  match tree with
  | ⟨kind, named, role, start, stop, row, children⟩ =>
    rw [lineages] at h ⊢
    rcases List.mem_cons.mp h with rfl | h
    · exact .inl rfl
    · rcases above_of_mem_lineagesUnder children h with habove | ⟨parent, above, habove, hmem⟩
      · exact .inr ⟨_, base, habove, List.mem_cons_self⟩
      · exact .inr ⟨parent, above, habove, List.mem_cons_of_mem _ hmem⟩

theorem above_of_mem_lineagesUnder (nodes : List Node) {base : List Node}
    (h : l ∈ lineages.lineagesUnder base nodes) :
    l.above = base ∨ ∃ parent above, l.above = parent :: above ∧
      ⟨parent, above⟩ ∈ lineages.lineagesUnder base nodes := by
  match nodes with
  | [] => exact nomatch h
  | node :: rest =>
    rw [lineages.lineagesUnder] at h ⊢
    rcases List.mem_append.mp h with h | h
    · exact (above_of_mem_lineages node h).imp_right fun ⟨parent, above, habove, hmem⟩ =>
        ⟨parent, above, habove, List.mem_append_left _ hmem⟩
    · exact (above_of_mem_lineagesUnder rest h).imp_right fun ⟨parent, above, habove, hmem⟩ =>
        ⟨parent, above, habove, List.mem_append_right _ hmem⟩

end

mutual

/-- The narrowest node around some bytes is a node of the tree. -/
theorem narrowest_mem (tree : Node) (start stop : Nat) (above : List Node) :
    tree.narrowest start stop above ∈ tree.lineages above := by
  match tree with
  | ⟨kind, named, role, first, last, row, children⟩ =>
    rw [narrowest, lineages]
    rcases Option.eq_none_or_eq_some (narrowest.narrowestOf start stop
        (⟨kind, named, role, first, last, row, children⟩ :: above) children) with
      hnone | ⟨found, hfound⟩
    · rw [hnone]
      exact List.mem_cons_self
    · rw [hfound]
      exact List.mem_cons_of_mem _ (mem_of_narrowestOf children start stop _ hfound)

theorem mem_of_narrowestOf (nodes : List Node) (start stop : Nat) (above : List Node) {l : Lineage}
    (h : narrowest.narrowestOf start stop above nodes = some l) :
    l ∈ lineages.lineagesUnder above nodes := by
  match nodes with
  | [] => exact nomatch h
  | node :: rest =>
    rw [narrowest.narrowestOf] at h
    rw [lineages.lineagesUnder]
    split at h
    · exact List.mem_append_right _ (mem_of_narrowestOf rest start stop above h)
    · split at h
      · exact nomatch h
      · rw [← Option.some.inj h]
        exact List.mem_append_left _ (narrowest_mem node start stop above)

end

end Node

/-! ## Climbing -/

/-- A climb ends at its first node, or goes on from the one above. -/
theorem climb_cases {node : Node} {above : List Node}
    (h : climb kind start stop node above = some l) :
    (node.spans kind start stop = true ∧ l = ⟨node, above⟩) ∨
      ∃ parent rest, above = parent :: rest ∧ climb kind start stop parent rest = some l := by
  unfold climb at h
  split at h
  · next hrange =>
    split at h
    · next hkind =>
      cases h
      refine .inl ⟨?_, rfl⟩
      simp only [Node.spans, Bool.and_assoc, hkind, hrange, Bool.and_self]
    · cases above with
      | nil => exact nomatch h
      | cons parent rest => exact .inr ⟨parent, rest, rfl, h⟩
  · exact nomatch h

/-- A climb in a tree stays in the tree, and what it ends at is what it was looking for. -/
theorem mem_of_climb {node : Node} {above : List Node} (hmem : ⟨node, above⟩ ∈ tree.lineages [])
    (h : climb kind start stop node above = some l) :
    l ∈ tree.lineages [] ∧ l.node.spans kind start stop = true := by
  induction above generalizing node with
  | nil =>
    rcases climb_cases h with ⟨hspans, rfl⟩ | ⟨parent, rest, habove, -⟩
    · exact ⟨hmem, hspans⟩
    · exact nomatch habove
  | cons parent above ih =>
    rcases climb_cases h with ⟨hspans, rfl⟩ | ⟨next, rest, habove, hclimb⟩
    · exact ⟨hmem, hspans⟩
    · obtain ⟨rfl, rfl⟩ := List.cons.inj habove
      rcases tree.above_of_mem_lineages hmem with hnil | ⟨other, further, habove, hparent⟩
      · exact nomatch hnil
      · obtain ⟨rfl, rfl⟩ := List.cons.inj habove
        exact ih hparent hclimb

/-! ## Looking up -/

/-- Whether a hint, if there is one, is a place in the tree. -/
def Hints (tree : Node) (hint : Option Lineage) : Prop := ∀ l, hint = some l → l ∈ tree.lineages []

/-- Looking around some bytes is looking from a place in the tree. -/
theorem hints_narrowest (tree : Node) (start stop : Nat) :
    Hints tree (some (tree.narrowest start stop [])) := by
  intro l hl
  cases hl
  exact tree.narrowest_mem start stop []

section Lookup

variable {hint : Option Lineage} (hhint : Hints tree hint)

include hhint

/-- What is found is in the tree, and is what was looked for. -/
theorem mem_of_lookup (h : tree.lookup hint kind start stop = some l) :
    l ∈ tree.lineages [] ∧ l.node.spans kind start stop = true := by
  unfold Node.lookup at h
  split at h
  · next found hclimb =>
    cases h
    obtain ⟨place, hplace, hclimb⟩ := Option.bind_eq_some_iff.mp hclimb
    exact mem_of_climb (hhint place hplace) hclimb
  · have hspans := List.find?_some h
    exact ⟨List.mem_of_find?_eq_some h, hspans⟩

/-- Something is found exactly if there is a node of the kind that spans the bytes. -/
theorem isSome_lookup_iff : (tree.lookup hint kind start stop).isSome = true ↔
    ∃ node ∈ tree.preorder, node.spans kind start stop = true := by
  rw [← tree.map_node_lineages []]
  constructor
  · intro h
    obtain ⟨l, hl⟩ := Option.isSome_iff_exists.mp h
    obtain ⟨hmem, hspans⟩ := mem_of_lookup hhint hl
    exact ⟨l.node, List.mem_map_of_mem hmem, hspans⟩
  · rintro ⟨node, hnode, hspans⟩
    obtain ⟨l, hmem, rfl⟩ := List.mem_map.mp hnode
    unfold Node.lookup
    split
    · rfl
    · exact List.find?_isSome.mpr ⟨l, hmem, hspans⟩

end Lookup

/-- Without a hint it is the first such node that is found. -/
theorem map_node_lookup_none :
    (tree.lookup none kind start stop).map (·.node) = tree.find? kind start stop := by
  rw [Node.find?, ← tree.map_node_lineages [], List.find?_map]
  rfl

/-! ## Trees whose nodes can be told apart -/

/-- Whether two nodes have one kind and span the same bytes. -/
def Node.Coincides (a b : Node) : Prop := a.kind = b.kind ∧ a.start = b.start ∧ a.stop = b.stop

/-- Whether no two nodes of a tree have one kind and one span. -/
def Node.IsDistinct (tree : Node) : Prop := tree.preorder.Pairwise fun a b => ¬ a.Coincides b

instance (a b : Node) : Decidable (a.Coincides b) := inferInstanceAs (Decidable (_ ∧ _))

instance (tree : Node) : Decidable tree.IsDistinct :=
  inferInstanceAs (Decidable (List.Pairwise _ _))

theorem Node.spans_iff {node : Node} : node.spans kind start stop = true ↔
    node.kind = kind ∧ node.start = start ∧ node.stop = stop := by
  simp only [spans, Bool.and_eq_true, beq_iff_eq, and_assoc]

/-- In such a tree the kind and the span tell the place of a node. -/
theorem Node.IsDistinct.eq_of_coincides (h : tree.IsDistinct) {a b : Lineage}
    (ha : a ∈ tree.lineages []) (hb : b ∈ tree.lineages []) (hsame : a.node.Coincides b.node) :
    a = b := by
  have hpairs : (tree.lineages []).Pairwise fun a b => ¬ a.node.Coincides b.node := by
    have hnodes : tree.preorder.Pairwise _ := h
    rw [← tree.map_node_lineages []] at hnodes
    exact List.pairwise_map.mp hnodes
  have : Std.Symm fun a b : Lineage => ¬ a.node.Coincides b.node :=
    ⟨fun a b hab hba => hab ⟨hba.1.symm, hba.2.1.symm, hba.2.2.symm⟩⟩
  by_contra hne
  exact hpairs.forall ha hb hne hsame

/-- In such a tree every node is found again, from wherever one looks. -/
theorem lookup_eq_some {hint : Option Lineage} (hhint : Hints tree hint)
    (hdistinct : tree.IsDistinct) (hl : l ∈ tree.lineages []) :
    tree.lookup hint l.node.kind l.node.start l.node.stop = some l := by
  have hnode : l.node ∈ tree.preorder := Node.mem_preorder_of_mem_lineages hl
  have hspans : l.node.spans l.node.kind l.node.start l.node.stop = true :=
    Node.spans_iff.mpr ⟨rfl, rfl, rfl⟩
  obtain ⟨found, hfound⟩ := Option.isSome_iff_exists.mp
    ((isSome_lookup_iff hhint).mpr ⟨l.node, hnode, hspans⟩)
  obtain ⟨hmem, hsame⟩ := mem_of_lookup hhint hfound
  rw [hfound, hdistinct.eq_of_coincides hmem hl (Node.spans_iff.mp hsame)]

end Crosscheck.Java
