import Crosscheck.Java.Source
import Crosscheck.Proofs.Text.Glyph
import Mathlib.Data.List.Basic
/-!
# Nodes lie in their source

Reading a phrase moves the cursor forwards: what was read and what is left take together as many
bytes as before, and the parts lie one after the other between the two cursors (`Reads`). One lemma
for each way of reading gives it for all phrases (`reads_of_read`). So every node of a tree begins
where it ends or before, and ends in the source (`Node.within_of_parse`).
-/

namespace Crosscheck.Java

open Crosscheck.Text

/-! ## Nodes in a text -/

/-- Whether a node and those under it begin no later than they end, and end by the limit. -/
def Node.Within (limit : Nat) (node : Node) : Prop :=
  ∀ other ∈ node.preorder, other.start ≤ other.stop ∧ other.stop ≤ limit

namespace Node

variable {limit : Nat}

theorem Within.start_le {node : Node} (h : node.Within limit) :
    node.start ≤ node.stop ∧ node.stop ≤ limit := by
  refine h node ?_
  cases node
  rw [preorder]
  exact List.mem_cons_self

theorem mem_preorders_iff {nodes : List Node} {other : Node} :
    other ∈ preorder.preorders nodes ↔ ∃ node ∈ nodes, other ∈ node.preorder := by
  induction nodes with
  | nil => simp [preorder.preorders]
  | cons node rest ih => simp [preorder.preorders, ih]

/-- A node lies in a text if its own bounds do and what is under it does. -/
theorem within_mk {kind : String} {named : Bool} {role : Option Role} {start stop row : Nat}
    {children : List Node} (hstart : start ≤ stop) (hstop : stop ≤ limit)
    (hchildren : ∀ child ∈ children, child.Within limit) :
    (Node.mk kind named role start stop row children).Within limit := by
  intro other hother
  rw [preorder, List.mem_cons, mem_preorders_iff] at hother
  rcases hother with rfl | ⟨child, hchild, hmem⟩
  · exact ⟨hstart, hstop⟩
  · exact hchildren child hchild other hmem

/-- Which part a node plays does not matter. -/
theorem Within.withRole {node : Node} (h : node.Within limit) (role : Option Role) :
    { node with role := role }.Within limit := by
  obtain ⟨hstart, hstop⟩ := h.start_le
  refine within_mk hstart hstop fun child hchild other hother => h other ?_
  cases node
  rw [preorder]
  exact List.mem_cons_of_mem _ (mem_preorders_iff.mpr ⟨child, hchild, hother⟩)

end Node

/-! ## Cursors -/

namespace Cursor

/-- The number of bytes before a cursor and after it. -/
def limit (c : Cursor) : Nat := c.offset + extent c.rest

theorem offset_le_limit (c : Cursor) : c.offset ≤ c.limit := Nat.le_add_right _ _

theorem limit_start (text : Glyphs) : (start text).limit = extent text := by
  unfold start
  split
  · rfl
  · exact Nat.zero_add _

/-- Whether the second cursor stands in the same text, no less far. -/
structure Precedes (c d : Cursor) : Prop where
  limit : d.limit = c.limit
  offset : c.offset ≤ d.offset

theorem Precedes.refl (c : Cursor) : c.Precedes c := ⟨rfl, Nat.le_refl _⟩

theorem Precedes.trans {c d e : Cursor} (h : c.Precedes d) (h' : d.Precedes e) : c.Precedes e :=
  ⟨h'.limit.trans h.limit, Nat.le_trans h.offset h'.offset⟩

theorem precedes_step {c : Cursor} {g : Glyph} {rest : Glyphs} (h : c.rest = g :: rest) :
    c.Precedes (c.step g rest) where
  limit := by
    rw [Cursor.limit, Cursor.limit, h, step, extent, Nat.add_assoc]
  offset := Nat.le_add_right _ _

theorem precedes_skip (c : Cursor) (n : Nat) : c.Precedes (c.skip n) := by
  induction n generalizing c with
  | zero => exact .refl c
  | succ n ih =>
    rw [skip]
    split
    · exact .refl c
    · next hrest => exact (precedes_step hrest).trans (ih _)

/-- A leaf lies between the cursor and what follows. -/
theorem within_leaf (c : Cursor) (kind : String) (named : Bool) (n : Nat) :
    (c.leaf kind named n).1.Within c.limit := by
  have hskip := c.precedes_skip n
  have hlimit : (c.skip n).offset ≤ c.limit := hskip.limit ▸ (c.skip n).offset_le_limit
  exact Node.within_mk hskip.offset hlimit fun child hchild => nomatch hchild

theorem within_of_comment? {c after : Cursor} {node : Node} (h : c.comment? = some (node, after)) :
    node.Within c.limit ∧ c.Precedes after := by
  unfold comment? at h
  split at h
  · cases h
    exact ⟨c.within_leaf _ _ _, c.precedes_skip _⟩
  · cases h
    exact ⟨c.within_leaf _ _ _, c.precedes_skip _⟩
  · exact nomatch h

/-- Layout is passed over, and its comments lie in the text. -/
theorem within_layout (fuel : Nat) (c : Cursor) :
    (∀ comment ∈ (c.layout fuel).1, comment.Within c.limit) ∧ c.Precedes (c.layout fuel).2 := by
  induction fuel generalizing c with
  | zero => exact ⟨(fun comment hcomment => nomatch hcomment), .refl c⟩
  | succ fuel ih =>
    rw [layout]
    split
    · exact ⟨(fun comment hcomment => nomatch hcomment), .refl c⟩
    · next g rest hrest =>
      split
      · have hstep := precedes_step hrest
        obtain ⟨hcomments, hafter⟩ := ih (c.step g rest)
        exact ⟨hstep.limit ▸ hcomments, hstep.trans hafter⟩
      · split
        · exact ⟨(fun comment hcomment => nomatch hcomment), .refl c⟩
        · next node after hcomment =>
          obtain ⟨hnode, hprecedes⟩ := within_of_comment? hcomment
          obtain ⟨hcomments, hafter⟩ := ih after
          refine ⟨fun comment hmem => ?_, hprecedes.trans hafter⟩
          rcases List.mem_cons.mp hmem with rfl | hmem
          · exact hnode
          · exact hprecedes.limit ▸ hcomments comment hmem

end Cursor

/-! ## Parts between two cursors -/

/-- Whether parts lie one after the other in a text, from one offset to another. -/
def Covers (limit : Nat) : Nat → List Part → Nat → Prop
  | lo, [], hi => lo ≤ hi
  | lo, part :: rest, hi =>
    (∀ comment ∈ part.before, comment.Within limit) ∧ part.node.Within limit ∧
      lo ≤ part.node.start ∧ Covers limit part.node.stop rest hi

section Covers

variable {limit lo mid hi : Nat} {parts more : List Part}

theorem Covers.append (h : Covers limit lo parts mid) (h' : Covers limit mid more hi) :
    Covers limit lo (parts ++ more) hi := by
  induction parts generalizing lo with
  | nil =>
    cases more with
    | nil => exact Nat.le_trans h h'
    | cons part rest => exact ⟨h'.1, h'.2.1, Nat.le_trans h h'.2.2.1, h'.2.2.2⟩
  | cons part rest ih => exact ⟨h.1, h.2.1, h.2.2.1, ih h.2.2.2⟩

/-- Nodes that play a part lie where they lay. -/
theorem Covers.playing (h : Covers limit lo parts hi) (role : Role) :
    Covers limit lo (parts.map (Part.playing role)) hi := by
  induction parts generalizing lo with
  | nil => exact h
  | cons part rest ih =>
    exact ⟨h.1, h.2.1.withRole (some role), h.2.2.1, ih h.2.2.2⟩

/-- The nodes of the parts lie in the text, with the comments in front of them. -/
theorem Covers.within (h : Covers limit lo parts hi) :
    ∀ node ∈ parts.flatMap fun part => part.before ++ [part.node], node.Within limit := by
  induction parts generalizing lo with
  | nil => exact fun node hnode => nomatch hnode
  | cons part rest ih =>
    intro node hnode
    rw [List.flatMap_cons, List.mem_append, List.mem_append, List.mem_singleton] at hnode
    rcases hnode with (hnode | rfl) | hnode
    · exact h.1 node hnode
    · exact h.2.1
    · exact ih h.2.2.2 node hnode

/-- A node and the parts after it end where the last of them ends. -/
theorem Covers.getLast? {node : Node} (hnode : node.Within limit)
    (h : Covers limit node.stop parts hi) :
    ∃ last, (node :: parts.flatMap fun part => part.before ++ [part.node]).getLast? = some last ∧
      node.stop ≤ last.stop ∧ last.stop ≤ hi ∧ last.Within limit := by
  induction parts generalizing node with
  | nil => exact ⟨node, rfl, Nat.le_refl _, h, hnode⟩
  | cons part rest ih =>
    obtain ⟨-, hpart, hstart, hrest⟩ := h
    obtain ⟨last, hlast, hle, hhi, hwithin⟩ := ih hpart hrest
    refine ⟨last, ?_, Nat.le_trans hstart (Nat.le_trans hpart.start_le.1 hle), hhi, hwithin⟩
    rw [List.flatMap_cons, List.append_assoc, ← List.cons_append, List.singleton_append,
      List.getLast?_append_of_ne_nil _ (List.cons_ne_nil _ _)]
    exact hlast

/-- A node that is closed around parts lies where they lay. -/
theorem Covers.close (h : Covers limit lo parts hi) (kind : String) :
    Covers limit lo (Part.close kind parts) hi := by
  cases parts with
  | nil => exact h
  | cons first rest =>
    obtain ⟨hbefore, hfirst, hstart, hrest⟩ := h
    obtain ⟨last, hlast, hle, hhi, hwithin⟩ := Covers.getLast? hfirst hrest
    rw [Part.close, hlast]
    have hstop := Nat.le_trans hfirst.start_le.1 hle
    refine ⟨hbefore, Node.within_mk hstop hwithin.start_le.2 ?_, hstart, hhi⟩
    intro child hchild
    rcases List.mem_cons.mp hchild with rfl | hchild
    · exact hfirst
    · exact hrest.within child hchild

end Covers

/-- Whether the parts lie between two cursors, of which one follows the other. -/
structure Reads (c : Cursor) (parts : List Part) (after : Cursor) : Prop where
  limit : after.limit = c.limit
  covers : Covers c.limit c.offset parts after.offset

namespace Reads

variable {c d e : Cursor} {parts more : List Part}

theorem nil (c : Cursor) : Reads c [] c := ⟨rfl, Nat.le_refl _⟩

theorem append (h : Reads c parts d) (h' : Reads d more e) : Reads c (parts ++ more) e :=
  ⟨h'.limit.trans h.limit, h.covers.append (h.limit ▸ h'.covers)⟩

theorem close (h : Reads c parts d) (kind : String) : Reads c (Part.close kind parts) d :=
  ⟨h.limit, h.covers.close kind⟩

theorem playing (h : Reads c parts d) (role : Role) :
    Reads c (parts.map (Part.playing role)) d :=
  ⟨h.limit, h.covers.playing role⟩

/-- A leaf after layout. -/
theorem leaf {comments : List Node} (hcomments : ∀ comment ∈ comments, comment.Within c.limit)
    (h : c.Precedes d) (kind : String) (named : Bool) (n : Nat) :
    Reads c [⟨comments, (d.leaf kind named n).1⟩] (d.leaf kind named n).2 := by
  have hskip := d.precedes_skip n
  exact ⟨(h.trans hskip).limit, hcomments, h.limit ▸ d.within_leaf kind named n, h.offset,
    Nat.le_refl _⟩

end Reads

/-! ## Reading -/

namespace Reader

variable {c c₀ after : Cursor} {parts : List Part}

theorem reads_of_lexeme {kind : String} {named : Bool} {scan : Glyphs → Option Nat}
    (h : lexeme kind named scan c = some (parts, after)) : Reads c parts after := by
  obtain ⟨hcomments, hlayout⟩ := c.within_layout c.rest.length
  obtain ⟨n, -, hn⟩ := Option.map_eq_some_iff.mp h
  cases hn
  exact Reads.leaf hcomments hlayout kind named n

section Reading

variable {read : Phrase → Cursor → Outcome}
  (hread : ∀ phrase c parts after, read phrase c = some (parts, after) → Reads c parts after)

include hread

theorem reads_of_inOrder {phrases : List Phrase}
    (h : inOrder read phrases c = some (parts, after)) : Reads c parts after := by
  induction phrases generalizing c parts after with
  | nil =>
    cases h
    exact .nil c
  | cons phrase rest ih =>
    obtain ⟨⟨first, mid⟩, hfirst, h⟩ := Option.bind_eq_some_iff.mp h
    obtain ⟨⟨more, last⟩, hmore, h⟩ := Option.map_eq_some_iff.mp h
    cases h
    exact (hread _ _ _ _ hfirst).append (ih hmore)

theorem reads_of_extension {floor : Nat} {growths : List Growth} {grown : List Part}
    (hparts : Reads c₀ parts c)
    (h : extension read floor parts c growths = some (grown, after)) : Reads c₀ grown after := by
  induction growths with
  | nil => exact nomatch h
  | cons growth growths ih =>
    obtain ⟨level, onto, kind, rest⟩ := growth
    rw [extension] at h
    rcases Option.or_eq_some_iff.mp (Option.orElse_eq_or.symm.trans h) with h | ⟨-, h⟩
    · obtain ⟨-, h⟩ := Option.ite_none_right_eq_some.mp h
      obtain ⟨⟨more, last⟩, hmore, h⟩ := Option.map_eq_some_iff.mp h
      cases h
      exact (hparts.append (hread _ _ _ _ hmore)).close kind
    · exact ih h

theorem reads_of_extend {floor fuel : Nat} {growths : List Growth} {grown : List Part}
    (hparts : Reads c₀ parts c)
    (h : extend read floor growths fuel parts c = (grown, after)) : Reads c₀ grown after := by
  induction fuel generalizing parts c with
  | zero =>
    cases h
    exact hparts
  | succ fuel ih =>
    rw [extend] at h
    split at h
    · next hextension => exact ih (reads_of_extension hread hparts hextension) h
    · cases h
      exact hparts

end Reading

theorem reads_of_often {read : Cursor → Outcome}
    (hread : ∀ c parts after, read c = some (parts, after) → Reads c parts after) {fuel : Nat}
    (h : often read fuel c = (parts, after)) : Reads c parts after := by
  induction fuel generalizing c parts with
  | zero =>
    cases h
    exact .nil _
  | succ fuel ih =>
    rw [often] at h
    split at h
    · next hfirst =>
      split at h
      · cases h
        exact .nil _
      · cases h
        exact (hread _ _ _ hfirst).append (ih rfl)
    · cases h
      exact .nil _

/-- What a phrase reads lies between where reading begins and where it goes on. -/
theorem reads_of_read {rules : Category → Phrase} {fuel : Nat} {phrase : Phrase}
    (h : read rules fuel phrase c = some (parts, after)) : Reads c parts after := by
  induction fuel generalizing phrase c parts after with
  | zero => exact nomatch h
  | succ fuel ih =>
    have hread : ∀ phrase c parts after, read rules fuel phrase c = some (parts, after) →
        Reads c parts after := fun _ _ _ _ h => ih h
    unfold read at h
    cases phrase with
    | nothing =>
      cases h
      exact .nil c
    | sign text => exact reads_of_lexeme h
    | closer => exact reads_of_lexeme h
    | word text => exact reads_of_lexeme h
    | atom kind text => exact reads_of_lexeme h
    | name kind keywords => exact reads_of_lexeme h
    | number =>
      obtain ⟨hcomments, hlayout⟩ := c.within_layout c.rest.length
      obtain ⟨⟨kind, n⟩, -, hn⟩ := Option.map_eq_some_iff.mp h
      cases hn
      exact Reads.leaf hcomments hlayout kind true n
    | character => exact reads_of_lexeme h
    | tight text =>
      obtain ⟨-, h⟩ := Option.ite_none_right_eq_some.mp h
      cases h
      exact Reads.leaf (List.forall_mem_nil _) (.refl c) text false text.length
    | piece kind scan =>
      obtain ⟨n, -, hn⟩ := Option.map_eq_some_iff.mp h
      cases hn
      exact Reads.leaf (List.forall_mem_nil _) (.refl c) kind true n
    | seq phrases => exact reads_of_inOrder hread h
    | first options =>
      obtain ⟨option, -, hoption⟩ := List.exists_of_findSome?_eq_some h
      exact ih hoption
    | many part => exact reads_of_often (hread part) (Option.some.inj h)
    | ahead part =>
      obtain ⟨_, -, h⟩ := Option.map_eq_some_iff.mp h
      cases h
      exact .nil c
    | «unless» words part =>
      obtain ⟨-, h⟩ := Option.ite_none_left_eq_some.mp h
      exact ih h
    | only kinds part =>
      dsimp only at h
      split at h
      · next hpart =>
        obtain ⟨-, h⟩ := Option.ite_none_right_eq_some.mp h
        cases h
        exact ih hpart
      · exact nomatch h
    | node kind phrases =>
      obtain ⟨⟨inner, last⟩, hinner, h⟩ := Option.map_eq_some_iff.mp h
      cases h
      exact (reads_of_inOrder hread hinner).close kind
    | playing role part =>
      obtain ⟨⟨inner, last⟩, hinner, h⟩ := Option.map_eq_some_iff.mp h
      cases h
      exact (ih hinner).playing role
    | grow floor seed growths =>
      obtain ⟨⟨inner, last⟩, hinner, h⟩ := Option.map_eq_some_iff.mp h
      exact reads_of_extend hread (ih hinner) h
    | use category => exact ih h

end Reader

/-! ## Trees -/

/-- A file lies in its text if all that it is closed around does. -/
theorem within_closeFile (first : Cursor) {parts : List Part} {trailing : List Node} {stop : Nat}
    (hparts : ∀ node ∈ parts.flatMap fun part => part.before ++ [part.node], node.Within stop)
    (htrailing : ∀ comment ∈ trailing, comment.Within stop) :
    (Part.closeFile first parts trailing stop).Within stop := by
  have hchildren : ∀ child ∈ parts.flatMap (fun part => part.before ++ [part.node]) ++ trailing,
      child.Within stop := List.forall_mem_append.mpr ⟨hparts, htrailing⟩
  refine Node.within_mk ?_ (Nat.le_refl _) hchildren
  cases hhead : (parts.flatMap (fun part => part.before ++ [part.node]) ++ trailing).head? with
  | none => exact Nat.le_refl _
  | some head =>
    have hbounds := (hchildren head (List.mem_of_head? hhead)).start_le
    exact Nat.le_trans hbounds.1 hbounds.2

/-- The tree of a text lies in it. -/
theorem within_of_parseText {text : Glyphs} {tree : Node} (h : parseText text = some tree) :
    tree.Within (extent text) := by
  unfold parseText at h
  dsimp only at h
  split at h
  · exact nomatch h
  · next parts c hread =>
    obtain ⟨hempty, h⟩ := Option.ite_none_right_eq_some.mp h
    have hreads := Reader.reads_of_read hread
    have hlimit := hreads.limit.trans (Cursor.limit_start text)
    obtain ⟨htrailing, hlayout⟩ := c.within_layout c.rest.length
    have hend : (c.layout c.rest.length).2.offset = extent text := by
      have hall := hlayout.limit.trans hlimit
      rw [Cursor.limit, List.isEmpty_iff.mp hempty] at hall
      exact hall
    cases h
    rw [hend]
    rw [hlimit] at htrailing
    have hcovers := hreads.covers
    rw [Cursor.limit_start] at hcovers
    exact within_closeFile _ hcovers.within htrailing

/-- Every node of a source lies in it. -/
theorem within_of_parse {source : Bytes} {tree : Node} (h : parse source = some tree) :
    tree.Within source.length := by
  have hwithin := within_of_parseText h
  rw [extent_decode] at hwithin
  exact hwithin

end Crosscheck.Java
