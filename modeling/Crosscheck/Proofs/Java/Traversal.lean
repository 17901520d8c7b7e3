import Crosscheck.Proofs.Java.Lookup
import Mathlib.Data.List.Basic
import Mathlib.Data.List.Induction
/-!
# Trees listed in pre-order

A tree is listed with a stack of the nodes still to visit, its last node on top (`Tour`). What is left
to list is told by the stack alone, the top node with all that is under it first, and every round
lists the first of it (`Tour.next?_left`). So a tour ends, after as many rounds as the tree has nodes,
and what it lists is `walk`, which is the listing by recursion (`walk_singleton`).

Two nodes of a tree may be alike, so that it is their addresses that tell them apart. A listing goes
through all the addresses of a tree, each once and in their order (`Node.addresses_sorted`): an
address comes before those that go on from it, and otherwise it is the first step apart that counts.
-/

namespace Crosscheck.Java

/-! ## Listing with a stack -/

namespace Node

theorem preorders_append (nodes others : List Node) :
    preorder.preorders (nodes ++ others) =
      preorder.preorders nodes ++ preorder.preorders others := by
  induction nodes with
  | nil => rfl
  | cons node rest ih =>
    rw [List.cons_append, preorder.preorders, preorder.preorders, ih, List.append_assoc]

theorem preorder_eq (node : Node) :
    node.preorder = node :: preorder.preorders node.children := by
  cases node
  rw [preorder]

theorem size_eq (node : Node) : node.size = 1 + size.sizes node.children := by
  cases node
  rw [size]

end Node

/-- A stack lists its trees, one after the other. -/
theorem walk_eq_preorders (pending : List Node) :
    walk pending = Node.preorder.preorders pending := by
  induction pending using walk.induct with
  | case1 => rw [walk, Node.preorder.preorders]
  | case2 node pending ih =>
    rw [walk, ih, Node.preorders_append, Node.preorder.preorders, node.preorder_eq,
      List.cons_append]

theorem walk_singleton (tree : Node) : walk [tree] = tree.preorder := by
  rw [walk_eq_preorders, Node.preorder.preorders, Node.preorder.preorders, List.append_nil]

theorem length_walk (pending : List Node) : (walk pending).length = Node.size.sizes pending := by
  induction pending using walk.induct with
  | case1 => rw [walk, List.length_nil, Node.size.sizes]
  | case2 node pending ih =>
    rw [walk, List.length_cons, ih, Node.sizes_append, Node.size.sizes, node.size_eq]
    omega

theorem length_walk_singleton (tree : Node) : (walk [tree]).length = tree.size := by
  rw [length_walk, Node.size.sizes, Node.size.sizes, Nat.add_zero]

/-- A listing under way: what was listed, and the nodes still to visit, the next one last. -/
structure Tour where
  listed : List Node
  stack : List Node

namespace Tour

variable {tour next : Tour} {listed : List Node}

/-- A tour that begins. -/
def start (tree : Node) : Tour := ⟨[], [tree]⟩

/-- One round: the last node of the stack is taken off and listed, and its children are put there, the
first of them last. A tour ends when the stack is empty. -/
def next? (tour : Tour) : Option Tour :=
  tour.stack.getLast?.map fun node =>
    ⟨tour.listed ++ [node], tour.stack.dropLast ++ node.children.reverse⟩

/-- Some rounds, if there are that many. -/
def run : Nat → Tour → Option Tour
  | 0, tour => some tour
  | n + 1, tour => tour.next?.bind (run n)

/-- What is left to list. -/
def left (tour : Tour) : List Node := walk tour.stack.reverse

theorem next?_concat (listed stack : List Node) (node : Node) :
    next? ⟨listed, stack ++ [node]⟩ = some ⟨listed ++ [node], stack ++ node.children.reverse⟩ := by
  simp [next?]

/-- A round lists the first node of what is left. -/
theorem next?_left (h : tour.next? = some next) :
    ∃ node, next.listed = tour.listed ++ [node] ∧ tour.left = node :: next.left := by
  obtain ⟨listed, stack⟩ := tour
  cases stack using List.reverseRecOn with
  | nil => exact nomatch h
  | append_singleton stack node =>
    rw [next?_concat] at h
    cases h
    refine ⟨node, rfl, ?_⟩
    rw [left, left, List.reverse_concat, walk, List.reverse_append, List.reverse_reverse]

theorem left_eq_nil_iff : tour.left = [] ↔ tour.stack = [] := by
  rw [left, ← @List.reverse_eq_nil_iff _ tour.stack]
  cases tour.stack.reverse with
  | nil => simp [walk]
  | cons node rest => simp [walk]

/-- A tour goes on as long as there is something left. -/
theorem next?_eq_none_iff : tour.next? = none ↔ tour.left = [] := by
  rw [left_eq_nil_iff, next?, Option.map_eq_none_iff, List.getLast?_eq_none_iff]

/-- A tour comes to its end after as many rounds as there are nodes left, and has then listed them all
in their order. -/
theorem run_eq_some_iff {n : Nat} :
    tour.run n = some ⟨listed, []⟩ ↔ n = tour.left.length ∧ listed = tour.listed ++ tour.left := by
  induction n generalizing tour with
  | zero =>
    rw [run, Option.some.injEq, eq_comm (a := 0), List.length_eq_zero_iff, left_eq_nil_iff]
    constructor
    · rintro rfl
      have hleft : left ⟨listed, []⟩ = [] := left_eq_nil_iff.mpr rfl
      exact ⟨rfl, by rw [hleft, List.append_nil]⟩
    · rintro ⟨hstack, rfl⟩
      rw [left_eq_nil_iff.mpr hstack, List.append_nil, ← hstack]
  | succ n ih =>
    rw [run]
    cases hnext : tour.next? with
    | none =>
      rw [next?_eq_none_iff.mp hnext]
      simp
    | some next =>
      obtain ⟨node, hlisted, hleft⟩ := next?_left hnext
      rw [Option.bind_some, ih, hlisted, hleft, List.length_cons, Nat.add_right_cancel_iff,
        List.append_assoc, List.singleton_append]

end Tour

/-! ## Addresses -/

namespace Node

/-- The node at an address, which tells the child to go to, step by step. -/
def at? (tree : Node) : List Nat → Option Node
  | [] => some tree
  | i :: path => tree.children[i]?.bind (at? · path)

/-- The node above that at an address, in a tree that hangs under `parent`. -/
def above? (tree : Node) (parent : Option Node) : List Nat → Option Node
  | [] => parent
  | i :: path => tree.at? (i :: path).dropLast

/-- The addresses of a tree, in the order in which its nodes are listed. -/
def addresses : Node → List (List Nat)
  | ⟨_, _, _, _, _, _, children⟩ => [] :: addressesFrom 0 children
where
  /-- The addresses of nodes that are children of one node, the first of them the child `i`. -/
  addressesFrom (i : Nat) : List Node → List (List Nat)
    | [] => []
    | node :: rest => (addresses node).map (i :: ·) ++ addressesFrom (i + 1) rest


@[simp]
theorem at?_nil (tree : Node) : tree.at? [] = some tree := rfl

theorem at?_cons (tree : Node) (i : Nat) (path : List Nat) :
    tree.at? (i :: path) = tree.children[i]?.bind (at? · path) := rfl

theorem at?_append (tree : Node) (path further : List Nat) :
    tree.at? (path ++ further) = (tree.at? path).bind (at? · further) := by
  induction path generalizing tree with
  | nil => rfl
  | cons i path ih =>
    rw [List.cons_append, at?_cons, at?_cons, Option.bind_assoc]
    exact Option.bind_congr fun child _ => ih child

/-- Above a node that is not the child itself is the same node in the tree of the child. -/
theorem above?_cons {tree child : Node} (parent : Option Node) {i : Nat}
    (h : tree.children[i]? = some child) (path : List Nat) :
    tree.above? parent (i :: path) = child.above? (some tree) path := by
  cases path with
  | nil => rfl
  | cons j path =>
    show tree.at? (i :: (j :: path).dropLast) = child.at? (j :: path).dropLast
    rw [at?_cons, h, Option.bind_some]

mutual

/-- The nodes at the addresses of a tree, in their order, are those of the listing. -/
theorem map_visits (tree : Node) (parent : Option Node) :
    (tree.visits parent).map some =
      tree.addresses.map fun path => (tree.at? path).map (tree.above? parent path, ·) := by
  match tree with
  | ⟨kind, named, role, start, stop, row, children⟩ =>
    rw [visits, addresses, List.map_cons, List.map_cons,
      map_visitsUnder ⟨kind, named, role, start, stop, row, children⟩ parent 0 children rfl]
    rfl

theorem map_visitsUnder (tree : Node) (parent : Option Node) (i : Nat) (nodes : List Node)
    (h : tree.children.drop i = nodes) :
    (visits.visitsUnder tree nodes).map some =
      (addresses.addressesFrom i nodes).map fun path =>
        (tree.at? path).map (tree.above? parent path, ·) := by
  match nodes with
  | [] => rfl
  | node :: rest =>
    have hchild : tree.children[i]? = some node := by
      rw [← List.head?_drop, h, List.head?_cons]
    have hrest : tree.children.drop (i + 1) = rest := by
      rw [← List.tail_drop, h, List.tail_cons]
    rw [visits.visitsUnder, addresses.addressesFrom, List.map_append, List.map_append,
      map_visits node, map_visitsUnder tree parent (i + 1) rest hrest, List.map_map]
    congr 1
    refine List.map_congr_left fun path _ => ?_
    rw [Function.comp_apply, at?_cons, hchild, Option.bind_some, above?_cons parent hchild]

end

theorem addresses_eq (tree : Node) :
    tree.addresses = [] :: addresses.addressesFrom 0 tree.children := by
  cases tree
  rw [addresses]

theorem mem_addressesFrom_iff {nodes : List Node} {i : Nat} {path : List Nat} :
    path ∈ addresses.addressesFrom i nodes ↔
      ∃ j node rest, path = (i + j) :: rest ∧ nodes[j]? = some node ∧ rest ∈ node.addresses := by
  induction nodes generalizing i with
  | nil => simp [addresses.addressesFrom]
  | cons first others ih =>
    rw [addresses.addressesFrom, List.mem_append, List.mem_map, ih]
    constructor
    · rintro (⟨rest, hrest, rfl⟩ | ⟨j, node, rest, rfl, hnode, hrest⟩)
      · exact ⟨0, first, rest, rfl, rfl, hrest⟩
      · exact ⟨j + 1, node, rest, by rw [Nat.add_assoc, Nat.add_comm 1], hnode, hrest⟩
    · rintro ⟨j, node, rest, rfl, hnode, hrest⟩
      cases j with
      | zero =>
        cases hnode
        exact .inl ⟨rest, hrest, rfl⟩
      | succ j =>
        exact .inr ⟨j, node, rest, by rw [Nat.add_assoc, Nat.add_comm 1], hnode, hrest⟩

theorem isSome_at?_cons_iff {tree : Node} {i : Nat} {path : List Nat} :
    (tree.at? (i :: path)).isSome = true ↔
      ∃ child, tree.children[i]? = some child ∧ (child.at? path).isSome = true := by
  rw [at?_cons]
  cases tree.children[i]? with
  | none => simp
  | some child => simp

/-- The addresses of a tree are those that lead to a node. -/
theorem mem_addresses_iff {tree : Node} {path : List Nat} :
    path ∈ tree.addresses ↔ (tree.at? path).isSome = true := by
  induction path generalizing tree with
  | nil => simp [addresses_eq]
  | cons i path ih =>
    rw [addresses_eq, List.mem_cons, mem_addressesFrom_iff, isSome_at?_cons_iff]
    simp only [reduceCtorEq, false_or, Nat.zero_add, List.cons.injEq]
    constructor
    · rintro ⟨_, child, _, ⟨rfl, rfl⟩, hchild, hpath⟩
      exact ⟨child, hchild, ih.mp hpath⟩
    · rintro ⟨child, hchild, hpath⟩
      exact ⟨i, child, path, ⟨rfl, rfl⟩, hchild, ih.mpr hpath⟩

mutual

/-- The addresses of a tree are in their order, and each is there once. -/
theorem addresses_sorted (tree : Node) : tree.addresses.Pairwise (· < ·) := by
  match tree with
  | ⟨kind, named, role, start, stop, row, children⟩ =>
    rw [addresses, List.pairwise_cons]
    refine ⟨fun path hpath => ?_, addressesFrom_sorted 0 children⟩
    obtain ⟨j, node, rest, rfl, -⟩ := mem_addressesFrom_iff.mp hpath
    exact List.nil_lt_cons _ _

theorem addressesFrom_sorted (i : Nat) (nodes : List Node) :
    (addresses.addressesFrom i nodes).Pairwise (· < ·) := by
  match nodes with
  | [] => exact .nil
  | node :: rest =>
    rw [addresses.addressesFrom, List.pairwise_append]
    refine ⟨List.pairwise_map.mpr ?_, addressesFrom_sorted (i + 1) rest, ?_⟩
    · exact (addresses_sorted node).imp fun h => List.cons_lt_cons_iff.mpr (.inr ⟨rfl, h⟩)
    · intro path hpath other hother
      obtain ⟨further, -, rfl⟩ := List.mem_map.mp hpath
      obtain ⟨j, node, further, rfl, -⟩ := mem_addressesFrom_iff.mp hother
      exact List.cons_lt_cons_iff.mpr (.inl (by omega))

end

theorem map_snd_visits (tree : Node) (parent : Option Node) :
    (tree.visits parent).map (·.2) = tree.preorder := by
  have hhead : parent.toList.head? = parent := by cases parent <;> rfl
  have hvisits := tree.visits_eq_map parent.toList
  rw [hhead] at hvisits
  rw [hvisits, List.map_map]
  exact tree.map_node_lineages _

/-- The listing goes through the nodes at the addresses. -/
theorem map_preorder (tree : Node) : tree.preorder.map some = tree.addresses.map tree.at? := by
  have hvisits := congrArg (List.map (Option.map (·.2))) (tree.map_visits none)
  rw [List.map_map, List.map_map] at hvisits
  rw [← tree.map_snd_visits none, List.map_map]
  refine hvisits.trans (List.map_congr_left fun path _ => ?_)
  rw [Function.comp_apply, Option.map_map]
  exact Option.map_id'

/-- The nodes of a tree are those at its addresses. -/
theorem mem_preorder_iff {tree node : Node} :
    node ∈ tree.preorder ↔ ∃ path, tree.at? path = some node := by
  rw [← List.mem_map_of_injective fun _ _ => Option.some.inj, map_preorder, List.mem_map]
  constructor
  · rintro ⟨path, -, hat⟩
    exact ⟨path, hat⟩
  · rintro ⟨path, hat⟩
    exact ⟨path, mem_addresses_iff.mpr (by rw [hat, Option.isSome_some]), hat⟩

end Node

/-! ## Nodes within nodes -/

/-- Whether the children of a node lie in it, one after the other. -/
structure Node.Orderly (node : Node) : Prop where
  range : node.start ≤ node.stop
  inside : ∀ child ∈ node.children, node.start ≤ child.start ∧ child.stop ≤ node.stop
  apart : node.children.Pairwise fun a b => a.stop ≤ b.start

/-- Whether the children of every node of a tree do. -/
def Node.Nested (tree : Node) : Prop := ∀ node ∈ tree.preorder, node.Orderly

instance (node : Node) : Decidable node.Orderly :=
  decidable_of_iff (_ ∧ _ ∧ _)
    ⟨fun h => ⟨h.1, h.2.1, h.2.2⟩, fun h => ⟨h.range, h.inside, h.apart⟩⟩

instance (tree : Node) : Decidable tree.Nested :=
  inferInstanceAs (Decidable (∀ node ∈ tree.preorder, node.Orderly))

namespace Node.Nested

variable {tree node other : Node} {path further : List Nat}

theorem of_at? (h : tree.Nested) (hnode : tree.at? path = some node) : node.Nested := by
  intro inner hinner
  obtain ⟨further, hfurther⟩ := mem_preorder_iff.mp hinner
  refine h inner (mem_preorder_iff.mpr ⟨path ++ further, ?_⟩)
  rw [at?_append, hnode, Option.bind_some, hfurther]

theorem orderly (h : tree.Nested) : tree.Orderly :=
  h tree (mem_preorder_iff.mpr ⟨[], rfl⟩)

theorem child {i : Nat} (h : tree.Nested) (hchild : tree.children[i]? = some node) :
    node.Nested := by
  have hat : tree.at? [i] = some node := by rw [at?_cons, hchild, Option.bind_some, at?_nil]
  exact h.of_at? hat

/-- What is under a node lies in it. -/
theorem within (h : tree.Nested) (hnode : tree.at? path = some node) :
    tree.start ≤ node.start ∧ node.stop ≤ tree.stop := by
  induction path generalizing tree with
  | nil =>
    cases hnode
    exact ⟨Nat.le_refl _, Nat.le_refl _⟩
  | cons i path ih =>
    obtain ⟨child, hchild, hrest⟩ := Option.bind_eq_some_iff.mp hnode
    obtain ⟨hstart, hstop⟩ := h.orderly.inside child (List.mem_of_getElem? hchild)
    obtain ⟨hstart', hstop'⟩ := ih (h.child hchild) hrest
    exact ⟨Nat.le_trans hstart hstart', Nat.le_trans hstop' hstop⟩

theorem stop_le (h : tree.Nested) (hnode : tree.at? path = some node)
    (hother : tree.at? (path ++ further) = some other) : other.stop ≤ node.stop := by
  rw [at?_append, hnode, Option.bind_some] at hother
  exact ((h.of_at? hnode).within hother).2

/-- Of two nodes the one whose address comes first does not begin later. -/
theorem start_le (h : tree.Nested) {path' : List Nat} (hlt : path < path')
    (hnode : tree.at? path = some node) (hother : tree.at? path' = some other) :
    node.start ≤ other.start := by
  induction path generalizing tree path' with
  | nil =>
    cases hnode
    exact (h.within hother).1
  | cons i path ih =>
    cases path' with
    | nil => exact absurd hlt (List.not_lt_nil _)
    | cons j path' =>
      obtain ⟨child, hchild, hrest⟩ := Option.bind_eq_some_iff.mp hnode
      obtain ⟨child', hchild', hrest'⟩ := Option.bind_eq_some_iff.mp hother
      rcases List.cons_lt_cons_iff.mp hlt with hij | ⟨rfl, hless⟩
      · -- the steps part: the node lies in a child, and the other one in a later child
        obtain ⟨hi, rfl⟩ := List.getElem?_eq_some_iff.mp hchild
        obtain ⟨hj, rfl⟩ := List.getElem?_eq_some_iff.mp hchild'
        calc node.start ≤ node.stop := ((h.child hchild).of_at? hrest).orderly.range
          _ ≤ tree.children[i].stop := ((h.child hchild).within hrest).2
          _ ≤ tree.children[j].start := List.pairwise_iff_getElem.mp h.orderly.apart i j hi hj hij
          _ ≤ other.start := ((h.child hchild').within hrest').1
      · cases hchild.symm.trans hchild'
        exact ih (h.child hchild) hless hrest hrest'

end Node.Nested

end Crosscheck.Java
