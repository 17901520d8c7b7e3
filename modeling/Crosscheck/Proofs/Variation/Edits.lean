import Crosscheck.Proofs.Java.Bounds
import Crosscheck.Proofs.Java.Lookup
import Crosscheck.Variation.Catalog
/-!
# Edits are local, byte for byte

A site is changed by writing one text in place of its bytes; what is before and after them stays as
it was, well-formed UTF-8 or not (`LocalEdit.edit`). Four rules only put text around what was
there: their texts keep the bytes of the node, so what they put in can be cut out again, and the
source is back (`LocalEdit.wraps`).
-/

namespace Crosscheck.Variation

open Crosscheck.Text Crosscheck.Java

/-! ## Cutting bytes out -/

/-- The bytes without `count` of them from `start` on. -/
def cut (start count : Nat) (bytes : Bytes) : Bytes :=
  bytes.take start ++ bytes.drop (start + count)

/-- What was put in is cut out. -/
theorem cut_append (before inserted after : Bytes) :
    cut before.length inserted.length (before ++ inserted ++ after) = before ++ after := by
  rw [cut, ← List.length_append, List.drop_left, List.append_assoc, List.take_left]

/-- A source is what is before a range, in it, and after it. -/
theorem take_append_range_append_drop (source : Bytes) {start stop : Nat} (h : start ≤ stop) :
    source.take start ++ (source.drop start).take (stop - start) ++ source.drop stop = source := by
  have hdrop : source.drop stop = (source.drop start).drop (stop - start) := by
    rw [List.drop_drop, Nat.add_sub_cancel' h]
  rw [hdrop, List.append_assoc, List.take_append_drop, List.take_append_drop]

/-! ## Rules that put text around a node -/

/-- The rules that keep a node and put text around it, with the text before and after it. -/
def wrappers : List (Rule × String × String) :=
  [(addBrackets, "\x7b ", " \x7d"), (wrapInIf, "if (true) \x7b ", " \x7d"),
    (wrapInWhile, "while (true) \x7b ", " break; \x7d"), (addZero, "(", " + 0)")]

/-- Such a rule never declines. -/
theorem replacement_of_mem_wrappers {rule : Rule} {front back : String}
    (h : (rule, front, back) ∈ wrappers) (source : Bytes) (node : Node) :
    rule.replacement source node = some (ofString front ++ node.text source ++ ofString back) := by
  simp only [wrappers, List.mem_cons, List.not_mem_nil, or_false, Prod.mk.injEq] at h
  rcases h with ⟨rfl, rfl, rfl⟩ | ⟨rfl, rfl, rfl⟩ | ⟨rfl, rfl, rfl⟩ | ⟨rfl, rfl, rfl⟩
  · rfl
  · rfl
  · rfl
  · rfl

/-- Whether text is plain ASCII. -/
def IsAscii (text : String) : Prop := ∀ c ∈ text.toList, c.toNat < 0x80

instance (text : String) : Decidable (IsAscii text) := List.decidableBAll _ _

/-- The text around a node is plain ASCII. -/
theorem isAscii_of_mem_wrappers {rule : Rule} {front back : String}
    (h : (rule, front, back) ∈ wrappers) : IsAscii front ∧ IsAscii back := by
  have hall : ∀ texts ∈ wrappers.map (·.2), IsAscii texts.1 ∧ IsAscii texts.2 := by
    decide
  exact hall _ (List.mem_map_of_mem h)

/-- The bytes of a node with text around it are its own with those of the text. -/
theorem encode_wrapped (front back : String) (source : Bytes) (node : Node) :
    encode (ofString front ++ node.text source ++ ofString back) =
      utf8 front ++ node.bytes source ++ utf8 back := by
  rw [encode_append, encode_append, Node.text, encode_decode]
  rfl

/-! ## Edits -/

/-- Whether a result is what a rule makes of a source by changing one node, at a site. -/
structure LocalEdit (rule : Rule) (site : Site) (source result : Bytes) (node : Node) : Prop where
  /-- The site tells the node. -/
  spans : node.kind = site.kind ∧ node.start = site.start ∧ node.stop = site.stop
  /-- The site lies in the source. -/
  bounds : site.start ≤ site.stop ∧ site.stop ≤ source.length
  /-- The text that the rule gives is in place of the site, and nothing else is changed. -/
  edit : ∃ text, rule.replacement source node = some text ∧
    result = source.take site.start ++ encode text ++ source.drop site.stop
  /-- A rule that puts text around a node keeps its bytes, and with that text cut out of the result
  the source is back. -/
  wraps : ∀ front back, (rule, front, back) ∈ wrappers →
    IsAscii front ∧ IsAscii back ∧
      result = source.take site.start ++
        (utf8 front ++ (source.drop site.start).take (site.stop - site.start) ++ utf8 back) ++
        source.drop site.stop ∧
      cut site.start (utf8 front).length
        (cut (site.start + (utf8 front).length + (site.stop - site.start)) (utf8 back).length
          result) = source

section Edits

variable {rule : Rule} {site : Site} {source result : Bytes} {tree : Node} {hint : Option Lineage}

/-- What was put around a range is cut out, the back first. -/
theorem cut_cut_wrapped (front back : Bytes) {start stop : Nat} (hstart : start ≤ stop)
    (hstop : stop ≤ source.length) :
    cut start front.length (cut (start + front.length + (stop - start)) back.length
      (source.take start ++ (front ++ (source.drop start).take (stop - start) ++ back) ++
        source.drop stop)) = source := by
  have hbefore : (source.take start).length = start := by
    rw [List.length_take]
    omega
  have hrange : ((source.drop start).take (stop - start)).length = stop - start := by
    rw [List.length_take, List.length_drop]
    omega
  have hfront : (source.take start ++ front ++ (source.drop start).take (stop - start)).length =
      start + front.length + (stop - start) := by
    rw [List.length_append, List.length_append, hbefore, hrange]
  have hback := cut_append (source.take start ++ front ++ (source.drop start).take (stop - start))
    back (source.drop stop)
  have hrest := cut_append (source.take start) front
    ((source.drop start).take (stop - start) ++ source.drop stop)
  rw [hfront] at hback
  rw [hbefore] at hrest
  simp only [List.append_assoc] at hback hrest ⊢
  rw [hback, hrest, ← List.append_assoc, take_append_range_append_drop source hstart]

/-- A rewritten node is replaced by the text that the rule gives. -/
theorem exists_text_of_rewrite {node : Node} (h : rule.rewrite source node = .edited result) :
    ∃ text, rule.replacement source node = some text ∧ result = node.replace source text := by
  unfold Rule.rewrite at h
  split at h
  · exact nomatch h
  · next text htext =>
    dsimp only at h
    split at h
    · cases h
      exact ⟨text, htext, rfl⟩
    · exact nomatch h

/-- A rewritten node is one edit of its source. -/
theorem localEdit_of_rewrite {node : Node}
    (hbounds : node.start ≤ node.stop ∧ node.stop ≤ source.length)
    (hspans : node.spans site.kind site.start site.stop = true)
    (h : rule.rewrite source node = .edited result) : LocalEdit rule site source result node := by
  obtain ⟨hkind, hstart, hstop⟩ := Node.spans_iff.mp hspans
  rw [hstart, hstop] at hbounds
  obtain ⟨text, htext, hedit⟩ := exists_text_of_rewrite h
  rw [Node.replace, replaceRange, hstart, hstop] at hedit
  refine ⟨⟨hkind, hstart, hstop⟩, hbounds, ⟨text, htext, hedit⟩, fun front back hwrapper => ?_⟩
  have hresult : result = source.take site.start ++
      (utf8 front ++ (source.drop site.start).take (site.stop - site.start) ++ utf8 back) ++
      source.drop site.stop := by
    rw [replacement_of_mem_wrappers hwrapper, Option.some.injEq] at htext
    rw [hedit, ← htext, encode_wrapped, Node.bytes, hstart, hstop]
  obtain ⟨hfront, hback⟩ := isAscii_of_mem_wrappers hwrapper
  refine ⟨hfront, hback, hresult, ?_⟩
  rw [hresult]
  exact cut_cut_wrapped _ _ hbounds.1 hbounds.2

/-- A site that was changed is a node of the tree, and the change is one edit of the source. -/
theorem exists_localEdit_of_applyFrom (hwithin : tree.Within source.length)
    (hhint : Hints tree hint) (h : rule.applyFrom hint site source tree = .edited result) :
    ∃ node ∈ tree.preorder, LocalEdit rule site source result node := by
  unfold Rule.applyFrom at h
  split at h
  · exact nomatch h
  · next l hlookup =>
    obtain ⟨hmem, hspans⟩ := mem_of_lookup hhint hlookup
    have hnode := Node.mem_preorder_of_mem_lineages hmem
    split at h
    · exact ⟨l.node, hnode, localEdit_of_rewrite (hwithin _ hnode) hspans h⟩
    · exact nomatch h

end Edits

/-- Mutants are local edits, byte for byte. Whatever the bytes of a source are, and wherever a node
is looked for, a changed site is the source with the encoded text of the rule in place of the bytes
of the site; the rules that put text around a node keep its bytes, and cutting the text out gives
back the source. So it is for the tree that the source reads as, and for any tree that lies in
it. -/
theorem edits_are_local (rule : Rule) (site : Site) (source result : Bytes) :
    (rule.apply site source = .edited result →
      ∃ tree, parse source = some tree ∧
        ∃ node ∈ tree.preorder, LocalEdit rule site source result node) ∧
    ∀ tree hint, tree.Within source.length → Hints tree hint →
      rule.applyFrom hint site source tree = .edited result →
      ∃ node ∈ tree.preorder, LocalEdit rule site source result node := by
  constructor
  · intro h
    unfold Rule.apply at h
    split at h
    · exact nomatch h
    · next tree hparse =>
      exact ⟨tree, hparse, exists_localEdit_of_applyFrom (within_of_parse hparse)
        (hints_narrowest tree _ _) h⟩
  · intro tree hint hwithin hhint h
    exact exists_localEdit_of_applyFrom hwithin hhint h

/-! ## An example -/

/-- A source with bytes that are no UTF-8, in a comment before a statement and in the statement. -/
def latinSource : Bytes :=
  utf8 "class A \x7b void f() \x7b /* caf" ++ [0xE9] ++ utf8 " */ g(\"" ++ [0xFC, 0xC3] ++
    utf8 "\"); \x7d \x7d"

/-- The source with the statement under a condition. -/
def latinResult : Bytes :=
  utf8 "class A \x7b void f() \x7b /* caf" ++ [0xE9] ++ utf8 " */ if (true) \x7b g(\"" ++
    [0xFC, 0xC3] ++ utf8 "\"); \x7d \x7d \x7d"

/-- The site of the statement. -/
def latinSite : Site := ⟨"CFWrapperWithIfTrue", "expression_statement", 32, 40, 1⟩

/-- No byte is lost, and with the text around the statement cut out the source is back. -/
theorem edits_are_local_latin :
    wrapInIf.apply latinSite latinSource = .edited latinResult ∧
      latinResult = latinSource.take 32 ++
        (utf8 "if (true) \x7b " ++ (latinSource.drop 32).take 8 ++ utf8 " \x7d") ++
        latinSource.drop 40 ∧
      cut 32 12 (cut 52 2 latinResult) = latinSource := by
  have hedited : wrapInIf.apply latinSite latinSource = .edited latinResult := by
    decide +kernel
  have hwrapper : (wrapInIf, "if (true) \x7b ", " \x7d") ∈ wrappers := by
    simp [wrappers]
  obtain ⟨tree, -, node, -, hlocal⟩ :=
    (edits_are_local wrapInIf latinSite latinSource latinResult).1 hedited
  obtain ⟨-, -, hresult, hcut⟩ := hlocal.wraps _ _ hwrapper
  exact ⟨hedited, hresult, hcut⟩

end Crosscheck.Variation
