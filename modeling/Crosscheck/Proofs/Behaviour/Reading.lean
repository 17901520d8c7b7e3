import Crosscheck.Proofs.Behaviour.Statement
import Crosscheck.Variation.Catalog
import Mathlib.Data.List.Forall2
/-!
# Nodes as statements

`reads` says when a node of a syntax tree is a statement: its kind and its parts are those of the
statement, and its text spells the statement's words. A node of a kind that is not looked into reads
as an opaque statement.
-/

namespace Crosscheck.Behaviour

open Crosscheck.Java Crosscheck.Text Crosscheck.Variation

/-! ## Kinds -/

/-- Kinds of statements that are looked into. -/
def knownKinds : List String :=
  ["block", ";", "expression_statement", "local_variable_declaration", "if_statement",
    "for_statement", "while_statement", "do_statement", "break_statement", "continue_statement",
    "labeled_statement", "return_statement"]

namespace Statement

/-- Whether a statement is of a kind. Opaque statements are of the kinds that are not known. -/
def isOfKind : Statement → String → Bool
  | .block _, kind => kind == "block"
  | .empty, kind => kind == ";"
  | .expression _, kind => kind == "expression_statement"
  | .declaration _, kind => kind == "local_variable_declaration"
  | .ifThen _ _, kind | .ifElse _ _ _, kind => kind == "if_statement"
  | .forLoop _ _ _ _, kind => kind == "for_statement"
  | .whileLoop _ _, kind => kind == "while_statement"
  | .doLoop _ _, kind => kind == "do_statement"
  | .exit _, kind => kind == "break_statement"
  | .next _, kind => kind == "continue_statement"
  | .labeled _ _ _, kind => kind == "labeled_statement"
  | .result _, kind => kind == "return_statement"
  | .other _ _, kind => !knownKinds.contains kind

variable {s : Statement}

/-- Only blocks are of the kind of a block. -/
theorem isOfKind_block_iff {kind : String} (h : s.isOfKind kind = true) :
    kind = "block" ↔ ∃ body, s = .block body := by
  refine ⟨?_, ?_⟩
  · rintro rfl
    cases s with
    | block body => exact ⟨body, rfl⟩
    | _ => simp [isOfKind, knownKinds] at h
  · rintro ⟨body, rfl⟩
    exact beq_iff_eq.mp h

/-- Only the empty statement is a lone semicolon. -/
theorem isOfKind_empty_iff {kind : String} (h : s.isOfKind kind = true) :
    kind = ";" ↔ s = .empty := by
  refine ⟨?_, ?_⟩
  · rintro rfl
    cases s with
    | empty => rfl
    | _ => simp [isOfKind, knownKinds] at h
  · rintro rfl
    exact beq_iff_eq.mp h

/-- A statement of the kind is an expression. -/
theorem exists_expression (h : s.isOfKind "expression_statement" = true) :
    ∃ e, s = .expression e := by
  cases s with
  | expression e => exact ⟨e, rfl⟩
  | _ => simp [isOfKind, knownKinds] at h

/-- A statement of the kind is a `for` loop. -/
theorem exists_forLoop (h : s.isOfKind "for_statement" = true) :
    ∃ inits c updates body, s = .forLoop inits c updates body := by
  cases s with
  | forLoop inits c updates body => exact ⟨inits, c, updates, body, rfl⟩
  | _ => simp [isOfKind, knownKinds] at h

/-- A statement of the kind is a `while` loop. -/
theorem exists_whileLoop (h : s.isOfKind "while_statement" = true) :
    ∃ c body, s = .whileLoop c body := by
  cases s with
  | whileLoop c body => exact ⟨c, body, rfl⟩
  | _ => simp [isOfKind, knownKinds] at h

/-- A statement of the kind is a choice with one branch or two. -/
theorem exists_choice (h : s.isOfKind "if_statement" = true) :
    (∃ c a, s = .ifThen c a) ∨ ∃ c a b, s = .ifElse c a b := by
  cases s with
  | ifThen c a => exact .inl ⟨c, a, rfl⟩
  | ifElse c a b => exact .inr ⟨c, a, b, rfl⟩
  | _ => simp [isOfKind, knownKinds] at h

end Statement

/-! ## Reading -/

/-- Whether a text spells words. -/
def spells (text : Glyphs) (said : List Word) : Bool := closed text && words text == said

theorem spells_iff {text : Glyphs} {said : List Word} :
    spells text said = true ↔ Spells text said := by
  unfold spells
  rw [Bool.and_eq_true, beq_iff_eq]
  exact ⟨fun h => ⟨h.1, h.2⟩, fun h => ⟨h.closed, h.words⟩⟩

/-- Whether a node is written as a statement is. -/
def isWritten (source : Bytes) (s : Statement) (node : Node) : Bool :=
  s.isOfKind node.kind && spells (node.text source) s.words

/-- Whether a list of nodes reads as a list of items, one as the other. -/
def readsEach {α : Type} (read : α → Node → Bool) : List α → List Node → Bool
  | [], [] => true
  | item :: items, node :: nodes => read item node && readsEach read items nodes
  | _, _ => false

/-- Whether a node is an expression in parentheses. -/
def readsParenthesized (source : Bytes) (c : Condition) (node : Node) : Bool :=
  match c with
  | .given e => node.kind == "parenthesized_expression" && spells (inside (node.text source)) e
  | _ => false

/-- Whether what stands between the semicolons of a `for` loop is a condition. -/
def readsOptional (source : Bytes) (c : Condition) (node : Option Node) : Bool :=
  match c, node with
  | .always, none => true
  | .given e, some node => spells (node.text source) e
  | _, _ => false

/-- Whether a text has its own semicolon at the end. -/
def isTerminated (text : Glyphs) : Bool := text.getLast? == some (.char ';')

/-- Whether a node is an init of a `for` loop. A declaration has its own semicolon. -/
def readsInit (source : Bytes) (init : Init) (node : Node) : Bool :=
  match init with
  | .declaration d =>
    isTerminated (node.text source) && spells (node.text source) (terminated d)
  | .expression e => !isTerminated (node.text source) && spells (node.text source) e

/-- Whether a node is an update of a `for` loop. -/
def readsUpdate (source : Bytes) (e : Expression) (node : Node) : Bool :=
  spells (node.text source) e

/-- Whether a node has a label, or none. -/
def readsLabel (source : Bytes) (label : Option Word) (node : Node) : Bool :=
  (node.children.find? (·.kind == "identifier")).map (·.text source) == label

/-- The statements in a block. -/
def statementsIn (node : Node) : List Node :=
  node.children.filter fun child =>
    !(isComment child.kind || child.kind == "\x7b" || child.kind == "\x7d")

/-- Whether a node is a statement. -/
def reads (source : Bytes) : Statement → Node → Bool
  | .block body, node =>
    isWritten source (.block body) node && readsAll source body (statementsIn node)
  | .ifThen c a, node =>
    isWritten source (.ifThen c a) node
      && (node.part? .condition).any (readsParenthesized source c)
      && (node.part? .consequence).any (fun part => reads source a part)
      && (node.part? .alternative).isNone
  | .ifElse c a b, node =>
    isWritten source (.ifElse c a b) node
      && (node.part? .condition).any (readsParenthesized source c)
      && (node.part? .consequence).any (fun part => reads source a part)
      && (node.part? .alternative).any (fun part => reads source b part)
  | .forLoop inits c updates body, node =>
    isWritten source (.forLoop inits c updates body) node
      && readsEach (readsInit source) inits (node.playing .init)
      && readsOptional source c (node.part? .condition)
      && readsEach (readsUpdate source) updates (node.playing .update)
      && (node.part? .body).any (fun part => reads source body part)
  | .whileLoop c body, node =>
    isWritten source (.whileLoop c body) node
      && (node.part? .condition).any (readsParenthesized source c)
      && (node.part? .body).any (fun part => reads source body part)
  | .doLoop body c, node =>
    isWritten source (.doLoop body c) node
      && (node.part? .condition).any (readsParenthesized source c)
      && (node.part? .body).any (fun part => reads source body part)
  | .exit label, node => isWritten source (.exit label) node && readsLabel source label node
  | .next label, node => isWritten source (.next label) node && readsLabel source label node
  | .labeled label head body, node =>
    isWritten source (.labeled label head body) node && readsLabel source (some label) node
      && node.children.getLast?.any (fun part => reads source body part)
  | .other pieces parts, node =>
    isWritten source (.other pieces parts) node
      && (!(Statement.other pieces parts).hasNext || node.hasKind "continue_statement")
      && (pieces.bodies || (bodyRoles node.kind).isEmpty)
  | s, node => isWritten source s node
where
  /-- Whether nodes are statements, one as the other. -/
  readsAll (source : Bytes) : List Statement → List Node → Bool
    | [], [] => true
    | s :: rest, node :: nodes => reads source s node && readsAll source rest nodes
    | _, _ => false

section Reading

variable {source : Bytes} {s : Statement} {node : Node}

/-- A node that reads as a statement is written as it. -/
theorem isWritten_of_reads (h : reads source s node = true) : isWritten source s node = true := by
  cases s with
  | empty => exact h
  | expression e => exact h
  | declaration d => exact h
  | result e => exact h
  | block body => exact (Bool.and_eq_true_iff.mp h).1
  | exit label => exact (Bool.and_eq_true_iff.mp h).1
  | next label => exact (Bool.and_eq_true_iff.mp h).1
  | _ =>
    simp only [reads, Bool.and_eq_true] at h
    simp only [h]

theorem isOfKind_of_reads (h : reads source s node = true) : s.isOfKind node.kind = true :=
  (Bool.and_eq_true_iff.mp (isWritten_of_reads h)).1

theorem spells_of_reads (h : reads source s node = true) : Spells (node.text source) s.words :=
  spells_iff.mp (Bool.and_eq_true_iff.mp (isWritten_of_reads h)).2

/-- What is written of each node spells what is said by each item. -/
theorem forall₂_map_of_readsEach {α : Type} {read : α → Node → Bool} {text : Node → Glyphs}
    {said : α → List Word}
    (hread : ∀ item node, read item node = true → Spells (text node) (said item)) :
    ∀ {items : List α} {nodes : List Node}, readsEach read items nodes = true →
      List.Forall₂ Spells (nodes.map text) (items.map said)
  | [], [], _ => .nil
  | _ :: _, _ :: _, h =>
    have h := Bool.and_eq_true_iff.mp h
    .cons (hread _ _ h.1) (forall₂_map_of_readsEach hread h.2)

end Reading

/-! ## Where a `continue` is -/

section Kinds

variable {node child : Node} {kind : String}

theorem hasKind_of_kind (h : node.kind = kind) : node.hasKind kind = true := by
  obtain ⟨_, _, _, _, _, _, children⟩ := node
  exact List.any_eq_true.mpr ⟨_, List.mem_cons_self, beq_iff_eq.mpr h⟩

theorem mem_preorders {nodes : List Node} {other : Node} (hchild : child ∈ nodes)
    (h : other ∈ child.preorder) : other ∈ Node.preorder.preorders nodes := by
  induction nodes with
  | nil => exact nomatch hchild
  | cons first rest ih =>
    rcases List.mem_cons.mp hchild with rfl | hrest
    · exact List.mem_append_left _ h
    · exact List.mem_append_right _ (ih hrest)

/-- What is in a child of a node is in the node. -/
theorem hasKind_of_mem (hchild : child ∈ node.children) (h : child.hasKind kind = true) :
    node.hasKind kind = true := by
  obtain ⟨_, _, _, _, _, _, children⟩ := node
  obtain ⟨other, hmem, hkind⟩ := List.any_eq_true.mp h
  exact List.any_eq_true.mpr ⟨other, List.mem_cons_of_mem _ (mem_preorders hchild hmem), hkind⟩

/-- What is in a part of a node is in the node. -/
theorem hasKind_of_part {role : Role} {p : Node → Bool} (hpart : (node.part? role).any p = true)
    (h : ∀ part, p part = true → part.hasKind kind = true) : node.hasKind kind = true := by
  obtain ⟨part, hsome, hp⟩ := (Option.any_eq_true _ _).mp hpart
  exact hasKind_of_mem (List.mem_of_find?_eq_some hsome) (h part hp)

end Kinds

mutual

/-- A `continue` in a statement is one in the node. -/
theorem hasKind_of_hasNext {source : Bytes} (s : Statement) {node : Node}
    (h : reads source s node = true) (hnext : s.hasNext = true) :
    node.hasKind "continue_statement" = true := by
  match s with
  | .next label => exact hasKind_of_kind (beq_iff_eq.mp (isOfKind_of_reads h))
  | .block body =>
    rw [reads, Bool.and_eq_true] at h
    obtain ⟨child, hchild, hkind⟩ := exists_hasKind_of_haveNext body h.2 hnext
    exact hasKind_of_mem (List.mem_filter.mp hchild).1 hkind
  | .other pieces parts =>
    simp only [reads, hnext, Bool.not_true, Bool.false_or, Bool.and_eq_true] at h
    exact h.1.2
  | .ifThen c a =>
    simp only [reads, Bool.and_eq_true] at h
    exact hasKind_of_part h.1.2 fun _ hreads => hasKind_of_hasNext a hreads hnext
  | .ifElse c a b =>
    simp only [reads, Bool.and_eq_true] at h
    rcases Bool.or_eq_true_iff.mp hnext with ha | hb
    · exact hasKind_of_part h.1.2 fun _ hreads => hasKind_of_hasNext a hreads ha
    · exact hasKind_of_part h.2 fun _ hreads => hasKind_of_hasNext b hreads hb
  | .forLoop inits c updates body =>
    simp only [reads, Bool.and_eq_true] at h
    exact hasKind_of_part h.2 fun _ hreads => hasKind_of_hasNext body hreads hnext
  | .whileLoop c body =>
    simp only [reads, Bool.and_eq_true] at h
    exact hasKind_of_part h.2 fun _ hreads => hasKind_of_hasNext body hreads hnext
  | .doLoop body c =>
    simp only [reads, Bool.and_eq_true] at h
    exact hasKind_of_part h.2 fun _ hreads => hasKind_of_hasNext body hreads hnext
  | .labeled label head body =>
    simp only [reads, Bool.and_eq_true] at h
    obtain ⟨part, hpart, hreads⟩ := (Option.any_eq_true _ _).mp h.2
    exact hasKind_of_mem (List.mem_of_getLast? hpart) (hasKind_of_hasNext body hreads hnext)

/-- A `continue` in one of some statements is one in one of the nodes. -/
theorem exists_hasKind_of_haveNext {source : Bytes} (body : List Statement) {nodes : List Node}
    (h : reads.readsAll source body nodes = true)
    (hnext : Statement.hasNext.haveNext body = true) :
    ∃ node ∈ nodes, node.hasKind "continue_statement" = true := by
  match body, nodes with
  | s :: rest, node :: nodes =>
    rw [reads.readsAll, Bool.and_eq_true] at h
    rcases Bool.or_eq_true_iff.mp hnext with hfirst | hrest
    · exact ⟨node, List.mem_cons_self, hasKind_of_hasNext s h.1 hfirst⟩
    · obtain ⟨other, hother, hkind⟩ := exists_hasKind_of_haveNext rest h.2 hrest
      exact ⟨other, List.mem_cons_of_mem node hother, hkind⟩

end

end Crosscheck.Behaviour
