import Crosscheck.Text.Glyph
/-!
# Syntax trees of Java sources

A `Node` is one piece of syntax with the bytes it spans. Punctuation and keywords are nodes too,
but not `named` ones. The `role` of a node is the part it plays in its parent, where the rules
ask for it.

A tree is listed in pre-order in two ways: `Node.preorder` by recursion, and `walk` with a stack of
the nodes still to visit.
-/

namespace Crosscheck.Java

open Crosscheck.Text

/-- The part a node plays in its parent. -/
inductive Role
  | body
  | condition
  | init
  | update
  | consequence
  | alternative
  | operator
  deriving DecidableEq, Repr

/-- A piece of syntax: the bytes from `start` up to `stop`, on the line after `row` line feeds. -/
structure Node where
  kind : String
  named : Bool
  role : Option Role
  start : Nat
  stop : Nat
  row : Nat
  children : List Node
  deriving Inhabited

namespace Node

/-- The number of nodes of a tree. -/
def size : Node → Nat
  | ⟨_, _, _, _, _, _, children⟩ => 1 + sizes children
where
  /-- The number of nodes of several trees. -/
  sizes : List Node → Nat
    | [] => 0
    | node :: rest => size node + sizes rest

/-- The nodes of a tree, each before what is under it. -/
def preorder : Node → List Node
  | node@⟨_, _, _, _, _, _, children⟩ => node :: preorders children
where
  /-- The nodes of several trees, one tree after the other. -/
  preorders : List Node → List Node
    | [] => []
    | node :: rest => preorder node ++ preorders rest

/-- The nodes of a tree in pre-order, each with the node it hangs under. -/
def visits (parent : Option Node) : Node → List (Option Node × Node)
  | node@⟨_, _, _, _, _, _, children⟩ => (parent, node) :: visitsUnder node children
where
  /-- The nodes of several trees that hang under one node. -/
  visitsUnder (parent : Node) : List Node → List (Option Node × Node)
    | [] => []
    | node :: rest => visits (some parent) node ++ visitsUnder parent rest

/-- The line the node starts on, counted from one. -/
def line (node : Node) : Nat := node.row + 1

/-- The children that play a part. -/
def playing (node : Node) (role : Role) : List Node :=
  node.children.filter (·.role == some role)

/-- The first child that plays a part. -/
def part? (node : Node) (role : Role) : Option Node :=
  node.children.find? (·.role == some role)

/-- The bytes a node spans. -/
def bytes (node : Node) (source : Bytes) : Bytes :=
  (source.drop node.start).take (node.stop - node.start)

/-- The text a node spans. -/
def text (node : Node) (source : Bytes) : Glyphs := decode (node.bytes source)

/-- The nodes of one kind. -/
def ofKind (node : Node) (kind : String) : List Node :=
  node.preorder.filter (·.kind == kind)

/-- Whether the tree has a node of the kind. -/
def hasKind (node : Node) (kind : String) : Bool :=
  node.preorder.any (·.kind == kind)

/-- Whether a node has the kind and spans exactly these bytes. -/
def spans (node : Node) (kind : String) (start stop : Nat) : Bool :=
  node.kind == kind && node.start == start && node.stop == stop

/-- The first node of the kind that spans exactly these bytes. -/
def find? (node : Node) (kind : String) (start stop : Nat) : Option Node :=
  node.preorder.find? (·.spans kind start stop)

/-- The children that are named. -/
def namedChildren (node : Node) : List Node := node.children.filter (·.named)

end Node

theorem Node.sizes_append (xs ys : List Node) :
    Node.size.sizes (xs ++ ys) = Node.size.sizes xs + Node.size.sizes ys := by
  induction xs with
  | nil => simp [Node.size.sizes]
  | cons x xs ih => simp [Node.size.sizes, ih]; omega

/-- The listing that a stack of pending nodes gives: the top node, then its children above the
rest. -/
def walk : List Node → List Node
  | [] => []
  | node :: pending => node :: walk (node.children ++ pending)
termination_by pending => Node.size.sizes pending
decreasing_by
  cases node
  simp [Node.size.sizes, Node.size, Node.sizes_append]

/-- What a tree says, with layout and punctuation left out. -/
inductive Signature
  /-- A node without named children, with its text. -/
  | leaf (kind : String) (text : Glyphs)
  /-- A node with named children. -/
  | branch (kind : String) (children : List Signature)

/-- The signature of a tree over the source it was read from. -/
def Node.signature (source : Bytes) : Node → Signature
  | ⟨kind, named, role, start, stop, row, children⟩ =>
    match signatures children with
    | [] => .leaf kind ((Node.mk kind named role start stop row children).text source)
    | parts => .branch kind parts
where
  /-- The signatures of the named ones of several trees. -/
  signatures : List Node → List Signature
    | [] => []
    | node :: rest =>
      if node.named then Node.signature source node :: signatures rest else signatures rest

end Crosscheck.Java
