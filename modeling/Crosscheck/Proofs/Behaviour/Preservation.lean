import Crosscheck.Proofs.Behaviour.Emission
/-!
# Rules that reshape statements

Six of the rules put a statement of another form in the place of a statement: `Reshaping.form`. The
form does the same as the statement wherever the rule accepts the node, in every context and on every
machine. The text that the rule writes spells the form unless a condition before other text ends with
a line comment: then what is behind it on the line is lost.
-/

namespace Crosscheck.Behaviour

open Crosscheck.Java Crosscheck.Text Crosscheck.Variation

/-- What a rule makes of a statement. -/
inductive Reshaping
  | brackets
  | asWhile
  | asFor
  | underIf
  | inWhile
  | swapped
  deriving DecidableEq, Repr

namespace Reshaping

/-- The rule. -/
def rule : Reshaping → Rule
  | .brackets => addBrackets
  | .asWhile => loopConversion1
  | .asFor => loopConversion2
  | .underIf => wrapInIf
  | .inWhile => wrapInWhile
  | .swapped => swapBranches

/-- The statement in the place of a statement. -/
def form : Reshaping → Statement → Statement
  | .brackets, s => .block [s]
  | .asWhile, .forLoop inits c updates body => .asWhile inits c updates body
  | .asFor, .whileLoop c body => .forLoop [] c [] body
  | .underIf, s => .ifThen .always (.block [s])
  | .inWhile, s => .whileLoop .always (.block [s, .exit none])
  | .swapped, .ifElse (.given e) a b => .ifElse (.negated e) b.asBlock a.asBlock
  | _, s => s

/-- Where the rule writes text behind a condition. -/
def seam? (source : Bytes) (node : Node) : Reshaping → Option Seam
  | .asFor => loopSeam? source node
  | .swapped => choiceSeam? source node
  | _ => none

/-- Whether nothing is lost behind a condition. -/
def Seamless (source : Bytes) (node : Node) (reshaping : Reshaping) : Prop :=
  ∀ seam, reshaping.seam? source node = some seam → seam.Holds

end Reshaping

/-- The parent of a node reads as the innermost frame around it; a node without a parent is not
in a frame. -/
def Hangs (source : Bytes) (s : Statement) : Option Node → Context → Prop
  | none, [] => True
  | some parent, frame :: _ => reads source (frame.fill s) parent = true
  | _, _ => False

section Rules

variable {source : Bytes} {parent : Option Node} {node : Node} {s : Statement} {context : Context}

/-! ## Text -/

theorem exists_body_of_accepts (haccepts : loopConversion1.accepts parent node = true) :
    node.kind = "for_statement" ∧ ∃ body, node.part? .body = some body ∧
      body.hasKind "continue_statement" = false := by
  simp only [loopConversion1, Bool.and_eq_true, beq_iff_eq] at haccepts
  obtain ⟨hkind, hbody⟩ := haccepts
  cases hpart : node.part? .body with
  | none =>
    rw [hpart] at hbody
    exact absurd hbody Bool.false_ne_true
  | some body =>
    rw [hpart, Bool.and_eq_true, Bool.not_eq_true'] at hbody
    exact ⟨hkind, body, rfl, hbody.1⟩

/-- A loop that is made a `while` loop has no `continue`. -/
theorem exists_forLoop_of_accepts (hreads : reads source s node = true)
    (haccepts : loopConversion1.accepts parent node = true) :
    ∃ inits c updates body, s = .forLoop inits c updates body ∧ body.hasNext = false := by
  obtain ⟨hkind, part, hpart, hnone⟩ := exists_body_of_accepts haccepts
  obtain ⟨inits, c, updates, body, rfl⟩ :=
    Statement.exists_forLoop (hkind ▸ isOfKind_of_reads hreads)
  refine ⟨inits, c, updates, body, rfl, Bool.eq_false_iff.mpr fun hnext => ?_⟩
  simp only [reads, hpart, Option.any_some, Bool.and_eq_true] at hreads
  rw [hasKind_of_hasNext body hreads.2 hnext] at hnone
  exact nomatch hnone

theorem exists_whileLoop_of_accepts (hreads : reads source s node = true)
    (haccepts : loopConversion2.accepts parent node = true) : ∃ c body, s = .whileLoop c body := by
  have hkind : node.kind = "while_statement" := beq_iff_eq.mp haccepts
  exact Statement.exists_whileLoop (hkind ▸ isOfKind_of_reads hreads)

theorem exists_expression_of_accepts (hreads : reads source s node = true)
    (haccepts : isPlainStatement parent node = true) : ∃ e, s = .expression e := by
  have hkind : node.kind = "expression_statement" :=
    beq_iff_eq.mp (Bool.and_eq_true_iff.mp haccepts).1
  exact Statement.exists_expression (hkind ▸ isOfKind_of_reads hreads)

/-- A choice whose branches are exchanged has both. -/
theorem exists_ifElse_of_accepts (hreads : reads source s node = true)
    (haccepts : swapBranches.accepts parent node = true) : ∃ c a b, s = .ifElse c a b := by
  obtain ⟨hkind, halternative⟩ := Bool.and_eq_true_iff.mp haccepts
  rcases Statement.exists_choice (beq_iff_eq.mp hkind ▸ isOfKind_of_reads hreads) with
    ⟨c, a, rfl⟩ | hboth
  · simp only [reads, Bool.and_eq_true] at hreads
    rw [Option.isSome_iff_ne_none] at halternative
    exact absurd (Option.isNone_iff_eq_none.mp hreads.2) halternative
  · exact hboth

/-- What is written without a seam is always seamless. -/
theorem iff_seamless {reshaping : Reshaping} {text : Glyphs} {said : List Word}
    (hseam : reshaping.seam? source node = none) (h : Spells text said) :
    Spells text said ↔ reshaping.Seamless source node :=
  iff_of_true h fun _ hsome => nomatch hseam.symm.trans hsome

theorem seamless_iff {reshaping : Reshaping} {seam : Seam}
    (hseam : reshaping.seam? source node = some seam) :
    reshaping.Seamless source node ↔ seam.Holds :=
  ⟨fun h => h seam hseam, fun h _ hother => Option.some.inj (hseam.symm.trans hother) ▸ h⟩

/-- A rule has a text for every node that it accepts, and it spells the form if nothing is lost
behind a condition. -/
theorem exists_replacement (reshaping : Reshaping) (hreads : reads source s node = true)
    (haccepts : reshaping.rule.accepts parent node = true) :
    ∃ text, reshaping.rule.replacement source node = some text ∧
      (Spells text (reshaping.form s).words ↔ reshaping.Seamless source node) := by
  cases reshaping with
  | brackets =>
    obtain ⟨text, htext, hspells⟩ := spells_addBrackets hreads
    exact ⟨text, htext, iff_seamless rfl hspells⟩
  | asWhile =>
    obtain ⟨inits, c, updates, body, rfl, -⟩ := exists_forLoop_of_accepts hreads haccepts
    obtain ⟨text, htext, hspells⟩ := spells_loopConversion1 hreads
    exact ⟨text, htext, iff_seamless rfl hspells⟩
  | asFor =>
    obtain ⟨c, body, rfl⟩ := exists_whileLoop_of_accepts hreads haccepts
    obtain ⟨text, seam, htext, hseam, hiff⟩ := spells_loopConversion2_iff hreads
    have hseamless : Reshaping.asFor.Seamless source node ↔ seam.Holds := seamless_iff hseam
    exact ⟨text, htext, hiff.trans hseamless.symm⟩
  | underIf =>
    obtain ⟨text, htext, hspells⟩ := spells_wrapInIf hreads
    exact ⟨text, htext, iff_seamless rfl hspells⟩
  | inWhile =>
    obtain ⟨text, htext, hspells⟩ := spells_wrapInWhile hreads
    exact ⟨text, htext, iff_seamless rfl hspells⟩
  | swapped =>
    obtain ⟨c, a, b, rfl⟩ := exists_ifElse_of_accepts hreads haccepts
    obtain ⟨e, text, seam, rfl, htext, hseam, hiff⟩ := spells_swapBranches_iff hreads
    have hseamless : Reshaping.swapped.Seamless source node ↔ seam.Holds := seamless_iff hseam
    exact ⟨text, htext, hiff.trans hseamless.symm⟩

/-! ## Behaviour -/

/-- Only a body is put into braces. -/
theorem exists_isBody_of_accepts (haccepts : addBrackets.accepts parent node = true)
    (hangs : Hangs source s parent context) :
    ∃ frame outer, context = frame :: outer ∧ frame.isBody = true := by
  obtain ⟨-, hrole⟩ := Bool.and_eq_true_iff.mp haccepts
  match parent, context with
  | none, _ => exact nomatch hrole
  | some parent, frame :: outer =>
    refine ⟨frame, outer, rfl, ?_⟩
    have hroles : bodyRoles parent.kind ≠ [] := fun hnone => by
      simp only [bodyRole?, Option.bind_some, hnone, List.find?_nil] at hrole
      exact nomatch hrole
    have hkind := isOfKind_of_reads hangs
    cases frame with
    | block before after =>
      rw [show parent.kind = "block" from beq_iff_eq.mp hkind] at hroles
      exact absurd rfl hroles
    | labeled label head =>
      rw [show parent.kind = "labeled_statement" from beq_iff_eq.mp hkind] at hroles
      exact absurd rfl hroles
    | other pieces before after =>
      rw [Hangs, Frame.fill, reads, Bool.and_eq_true, Bool.or_eq_true, List.isEmpty_iff] at hangs
      exact hangs.2.resolve_right hroles
    | _ => rfl

/-- In the place of a statement that a rule accepts, the form does the same. -/
theorem runs_form (reshaping : Reshaping) (M : Machine) (hreads : reads source s node = true)
    (haccepts : reshaping.rule.accepts parent node = true) (hangs : Hangs source s parent context)
    (hscoped : (context.fill s).isScoped = true) (labels : List Word) :
    (context.fill (reshaping.form s)).runs M labels = (context.fill s).runs M labels := by
  have hown := isScoped_of_fill hscoped
  cases reshaping with
  | brackets =>
    obtain ⟨frame, outer, rfl, hbody⟩ := exists_isBody_of_accepts haccepts hangs
    have houter : (Context.fill outer (frame.fill s)).isScoped = true := hscoped
    have hplain := (isScoped_of_fill_frame (isScoped_of_fill houter)).2 hbody
    exact runs_fill (runs_fill_body hbody (runs_block_singleton hown hplain [])) labels
  | asWhile =>
    obtain ⟨inits, c, updates, body, rfl, hnext⟩ := exists_forLoop_of_accepts hreads haccepts
    exact runs_fill (runs_asWhile hown hnext) labels
  | asFor =>
    obtain ⟨c, body, rfl⟩ := exists_whileLoop_of_accepts hreads haccepts
    exact runs_fill (runs_asFor hown) labels
  | underIf =>
    obtain ⟨e, rfl⟩ := exists_expression_of_accepts hreads haccepts
    exact runs_fill (runs_guarded e) labels
  | inWhile =>
    obtain ⟨e, rfl⟩ := exists_expression_of_accepts hreads haccepts
    exact runs_fill (runs_looped e) labels
  | swapped =>
    obtain ⟨c, a, b, rfl⟩ := exists_ifElse_of_accepts hreads haccepts
    obtain ⟨e, -, -, rfl, -⟩ := spells_swapBranches_iff hreads
    exact runs_fill (runs_swapped e hown) labels

/-- A rule that accepts a node of a well-scoped program writes a text for it; the text spells a
statement exactly if nothing is lost behind a condition; and in the place of the node the statement
ends with the same outcomes in the same states, from every state and on every machine. -/
theorem reshaping_preserves (reshaping : Reshaping) (hreads : reads source s node = true)
    (haccepts : reshaping.rule.accepts parent node = true) (hangs : Hangs source s parent context)
    (hscoped : (context.fill s).isScoped = true) :
    ∃ text, reshaping.rule.replacement source node = some text ∧
      (Spells text (reshaping.form s).words ↔ reshaping.Seamless source node) ∧
      ∀ (M : Machine) (labels : List Word),
        (context.fill (reshaping.form s)).runs M labels = (context.fill s).runs M labels := by
  obtain ⟨text, htext, hspells⟩ := exists_replacement reshaping hreads haccepts
  exact ⟨text, htext, hspells,
    fun M labels => runs_form reshaping M hreads haccepts hangs hscoped labels⟩

end Rules

/-- The other rule of the catalog changes an expression. -/
example : standardRules =
    [Reshaping.brackets, .asWhile, .asFor, .underIf, .inWhile, .swapped].map Reshaping.rule
      ++ [addZero] :=
  rfl

/-! ## A condition that ends with a comment -/

/-- A call without arguments. -/
def call (name : String) : Expression := [word name, word "(", word ")"]

/-- A loop below a condition that ends with a line comment. -/
def commentedLoop : Bytes :=
  utf8 "class A \x7b void f() \x7b while (a() // x\n) for (;\n; ) b(); \x7d \x7d"

/-- The inner loop. -/
def commentedBody : Statement := .forLoop [] .always [] (.expression (call "b"))

/-- The outer loop. -/
def commentedStatement : Statement := .whileLoop (.given (call "a")) commentedBody

/-- A node of the loops. -/
def commentedNode (kind : String) (start stop : Nat) : Node :=
  ((parse commentedLoop).bind (·.find? kind start stop)).getD default

/-- Braces around the inner loop. -/
theorem brackets_commentedBody :
    ∃ text, addBrackets.replacement commentedLoop (commentedNode "for_statement" 39 54) = some text ∧
      (Spells text (Statement.block [commentedBody]).words ↔
        Reshaping.brackets.Seamless commentedLoop (commentedNode "for_statement" 39 54)) ∧
      ∀ (M : Machine) (labels : List Word),
        (Statement.whileLoop (.given (call "a")) (.block [commentedBody])).runs M labels =
          commentedStatement.runs M labels := by
  have hreads : reads commentedLoop commentedBody (commentedNode "for_statement" 39 54) = true := by
    decide +kernel
  have haccepts : Reshaping.brackets.rule.accepts (some (commentedNode "while_statement" 21 54))
      (commentedNode "for_statement" 39 54) = true := by
    decide +kernel
  have hparent : reads commentedLoop commentedStatement (commentedNode "while_statement" 21 54) =
      true := by
    decide +kernel
  have hangs : Hangs commentedLoop commentedBody (some (commentedNode "while_statement" 21 54))
      [.whileLoop (.given (call "a"))] := hparent
  exact reshaping_preserves .brackets hreads haccepts hangs rfl

/-- The outer loop as a `for` loop: the beginning of the inner one is lost in the comment. -/
def swallowedLoop : Bytes :=
  utf8 "class A \x7b void f() \x7b for (; a() // x; ) for (;\n; ) b(); \x7d \x7d"

/-- The loop that is left. -/
def swallowedStatement : Statement :=
  .forLoop [] (.given (call "a")) [] (.expression (call "b"))

/-- A machine with a flag in the store. A call of `a` answers the flag and clears it. -/
def flagMachine : Machine where
  Value := Bool
  Store := Bool
  truth v := v
  evaluate e σ r σ' :=
    r = .ok σ.store ∧ σ' = if e = call "a" then { σ with store := false } else σ
  evaluate_names := by
    rintro e σ r σ' ⟨-, rfl⟩
    split <;> rfl
  declare _ _ _ _ := False
  declare_names := False.elim
  perform _ _ _ _ _ _ := False
  perform_names _ _ _ _ := False.elim
  perform_continued _ _ _ _ _ := id

/-- A loop that always goes on has no end. -/
theorem not_loop_always {M : Machine} {body : Effect M.Value M.Store} {labels : List Word}
    (hbody : ∀ σ o σ', body σ o σ' → o = .normal) {σ σ' : State M.Value M.Store}
    {o : Outcome M.Value} : ¬ Loop .always body (sequence []) labels σ o σ' := by
  intro hrun
  induction hrun with
  | done htest => exact nomatch htest.1
  | fails htest => exact nomatch htest.1
  | leaves _ hrun hresumes =>
    obtain rfl := hbody _ _ _ hrun
    exact nomatch hresumes
  | stops _ _ _ hstop hne => exact hne hstop.1
  | again _ _ _ _ _ ih => exact ih

/-- On that machine the inner loop has no end. -/
theorem not_commentedBody (labels : List Word) (σ : State Bool Bool) (o : Outcome Bool)
    (σ' : State Bool Bool) : ¬ commentedBody.runs flagMachine labels σ o σ' := by
  rintro ⟨σ₁, hrun, -⟩
  have hloop : Loop (M := flagMachine) .always (flagMachine.express (call "b")) (sequence [])
      labels σ o σ₁ := by
    rcases hrun with ⟨σ₂, hrun, rfl, rfl⟩ | ⟨-, hrun⟩
    · exact hrun
    · exact hrun
  refine not_loop_always (fun σ o σ' hb => ?_) hloop
  obtain ⟨r, ⟨rfl, -⟩, rfl⟩ := hb
  rfl

/-- On that machine the loop that is left ends after one pass. -/
theorem runs_swallowedStatement :
    swallowedStatement.runs flagMachine [] ⟨[], true⟩ .normal ⟨[], false⟩ := by
  have hcall : ∀ flag : Bool, flagMachine.test (.given (call "a")) ⟨[], flag⟩ (.ok flag)
      ⟨[], false⟩ := fun flag => ⟨.ok flag, ⟨rfl, (if_pos rfl).symm⟩, rfl⟩
  have hbody : flagMachine.express (call "b") ⟨[], false⟩ .normal ⟨[], false⟩ :=
    ⟨.ok false, ⟨rfl, (if_neg (by decide)).symm⟩, rfl⟩
  have hloop : Loop (.given (call "a")) (flagMachine.express (call "b")) (sequence []) []
      ⟨[], true⟩ .normal ⟨[], false⟩ :=
    .again (hcall true) hbody rfl ⟨rfl, rfl⟩ (.done (hcall false))
  exact ⟨⟨[], false⟩, .inl ⟨_, hloop, rfl, rfl⟩, rfl⟩

/-- The rule makes a loop that ends of a loop that does not. -/
theorem loopConversion2_commentedLoop :
    loopConversion2.apply ⟨"LoopConversion2", "while_statement", 21, 54, 1⟩ commentedLoop =
        .edited swallowedLoop ∧
      ((parse commentedLoop).bind (·.find? "while_statement" 21 54)).any
        (reads commentedLoop commentedStatement) = true ∧
      ((parse swallowedLoop).bind (·.find? "for_statement" 21 55)).any
        (reads swallowedLoop swallowedStatement) = true ∧
      commentedStatement.isScoped = true ∧
      ∃ (M : Machine) (σ : State M.Value M.Store),
        (∃ o σ', swallowedStatement.runs M [] σ o σ') ∧
          ∀ o σ', ¬ commentedStatement.runs M [] σ o σ' := by
  refine ⟨by decide +kernel, by decide +kernel, by decide +kernel, rfl, flagMachine, ⟨[], true⟩,
    ⟨.normal, ⟨[], false⟩, runs_swallowedStatement⟩, fun o σ' hrun => ?_⟩
  cases hrun with
  | done htest =>
    obtain ⟨r, ⟨rfl, -⟩, hanswer⟩ := htest
    exact nomatch hanswer
  | fails htest =>
    obtain ⟨r, ⟨rfl, -⟩, hanswer⟩ := htest
    exact nomatch hanswer
  | leaves _ hbody _ => exact not_commentedBody _ _ _ _ hbody
  | stops _ hbody _ _ _ => exact not_commentedBody _ _ _ _ hbody
  | again _ hbody _ _ _ => exact not_commentedBody _ _ _ _ hbody

end Crosscheck.Behaviour
