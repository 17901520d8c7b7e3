import Crosscheck.Proofs.Behaviour.Effects
/-!
# Statements that do the same

Every statement that a variation changes has a form that does the same: below the same labels, from
every state, on every machine, it ends with the same outcomes in the same states. What does the same
can stand for one another in every context.
-/

namespace Crosscheck.Behaviour

variable {M : Machine}

/-! ## Laws of the control structures -/

theorem within_of_keeps {b : Effect M.Value M.Store} (h : b.Keeps) : within b = b := by
  funext σ o σ'
  refine propext ⟨?_, fun hrun => ⟨σ', hrun, (State.leave_of_names (h σ o σ' hrun)).symm⟩⟩
  rintro ⟨σ₁, hrun, rfl⟩
  rwa [State.leave_of_names (h σ o σ₁ hrun)]

theorem sequence_singleton (b : Effect M.Value M.Store) : sequence [b] = b := by
  funext σ o σ'
  refine propext ⟨?_, fun hrun => ?_⟩
  · rintro (⟨σ₁, hrun, rfl, rfl⟩ | ⟨-, hrun⟩)
    · exact hrun
    · exact hrun
  · by_cases hnormal : o = .normal
    · subst hnormal
      exact .inl ⟨σ', hrun, rfl, rfl⟩
    · exact .inr ⟨hnormal, hrun⟩

/-- Doing nothing first does nothing. -/
theorem sequence_empty_cons (bs : List (Effect M.Value M.Store)) :
    sequence (endWith .normal :: bs) = sequence bs := by
  funext σ o σ'
  refine propext ⟨?_, fun hrun => .inl ⟨σ, ⟨rfl, rfl⟩, hrun⟩⟩
  rintro (⟨σ₁, ⟨-, rfl⟩, hrun⟩ | ⟨hne, houtcome, -⟩)
  · exact hrun
  · exact absurd houtcome hne

/-- An outcome of a behaviour that never continues lets a loop go on only if it is normal. -/
theorem eq_normal_of_resumes {b : Effect M.Value M.Store} (h : b.NeverContinues)
    {σ σ' : State M.Value M.Store} {o : Outcome M.Value} {labels : List Word} (hrun : b σ o σ')
    (hresumes : o.resumes labels = true) : o = .normal := by
  cases o with
  | normal => rfl
  | continued label => exact absurd hrun (h σ label σ')
  | _ => exact nomatch hresumes

theorem ne_normal_of_resumes_eq_false {o : Outcome M.Value} {labels : List Word}
    (h : o.resumes labels = false) : o ≠ .normal := by
  rintro rfl
  exact nomatch h

theorem resumes_eq_false {b : Effect M.Value M.Store} (h : b.NeverContinues)
    {σ σ' : State M.Value M.Store} {o : Outcome M.Value} (hrun : b σ o σ') (hne : o ≠ .normal)
    (labels : List Word) : o.resumes labels = false :=
  Bool.eq_false_iff.mpr fun hresumes => hne (eq_normal_of_resumes h hrun hresumes)

/-- A run of expressions ends normally or throws. -/
theorem outcome_of_updates {updates : List Expression} {σ σ' : State M.Value M.Store}
    {o : Outcome M.Value} (h : sequence (updates.map M.express) σ o σ') :
    o = .normal ∨ ∃ v, o = .thrown v := by
  induction updates generalizing σ with
  | nil => exact .inl h.1
  | cons e rest ih =>
    rcases h with ⟨σ₁, -, hrest⟩ | ⟨-, r, -, houtcome⟩
    · exact ih hrest
    · cases r with
      | ok v => exact .inl houtcome
      | error v => exact .inr ⟨v, houtcome⟩

/-- The updates of a loop may stand at the end of a body without a `continue`. -/
theorem loop_updates (c : Condition) {body : Effect M.Value M.Store}
    (hbody : body.NeverContinues) (updates : List Expression) (labels : List Word) :
    Loop c body (sequence (updates.map M.express)) labels =
      Loop c (sequence (body :: updates.map M.express)) (sequence []) [] := by
  have hnever : (sequence (body :: updates.map M.express)).NeverContinues := by
    refine never_sequence (List.forall_mem_cons.mpr ⟨hbody, fun b hb => ?_⟩)
    obtain ⟨e, -, rfl⟩ := List.mem_map.mp hb
    exact never_express e
  funext σ o σ'
  refine propext ⟨fun hrun => ?_, fun hrun => ?_⟩
  · induction hrun with
    | done htest => exact .done htest
    | fails htest => exact .fails htest
    | leaves htest hrun hresumes =>
      have hne := ne_normal_of_resumes_eq_false hresumes
      exact .leaves htest (.inr ⟨hne, hrun⟩) (resumes_eq_false hbody hrun hne [])
    | @stops _ σ₁ _ σ' _ _ htest hrun hresumes hstop hne =>
      obtain rfl := eq_normal_of_resumes hbody hrun hresumes
      obtain rfl | ⟨v, rfl⟩ := outcome_of_updates hstop
      · exact absurd rfl hne
      · have hthrown : sequence (body :: updates.map M.express) σ₁ (.thrown v) σ' :=
          .inl ⟨_, hrun, hstop⟩
        exact .leaves htest hthrown rfl
    | @again _ _ _ σ₃ _ _ _ htest hrun hresumes hnext _ ih =>
      obtain rfl := eq_normal_of_resumes hbody hrun hresumes
      have hdone : sequence [] σ₃ .normal σ₃ := ⟨rfl, rfl⟩
      exact .again htest (Or.inl ⟨_, hrun, hnext⟩) rfl hdone ih
  · induction hrun with
    | done htest => exact .done htest
    | fails htest => exact .fails htest
    | leaves htest hrun hresumes =>
      rcases hrun with ⟨σ₂, hrun, hstop⟩ | ⟨hne, hrun⟩
      · obtain rfl | ⟨v, rfl⟩ := outcome_of_updates hstop
        · exact nomatch hresumes
        · exact .stops htest hrun rfl hstop nofun
      · exact .leaves htest hrun (resumes_eq_false hbody hrun hne labels)
    | stops _ _ _ hstop hne => exact absurd hstop.1 hne
    | again htest hrun hresumes hnext _ ih =>
      obtain rfl := eq_normal_of_resumes hnever hrun hresumes
      obtain ⟨-, rfl⟩ := hnext
      rcases hrun with ⟨σ₂, hrun, hstep⟩ | ⟨hne, -⟩
      · exact .again htest hrun rfl hstep ih
      · exact absurd rfl hne

/-! ## Forms -/

namespace Statement

/-- A statement as a block. -/
def asBlock : Statement → Statement
  | .block body => .block body
  | s => .block [s]

/-- A body as the statements of a block. -/
def asBody : Statement → List Statement
  | .empty => []
  | s => [s]

/-- A `for` loop as a `while` loop in a block. -/
def asWhile (inits : List Init) (c : Condition) (updates : List Expression) (body : Statement) :
    Statement :=
  .block (inits.map Init.statement
    ++ [.whileLoop c (.block (body.asBody ++ updates.map Statement.expression))])

end Statement

open Statement Effect

theorem effects_append (xs ys : List Statement) :
    runs.effects M (xs ++ ys) = runs.effects M xs ++ runs.effects M ys := by
  induction xs with
  | nil => rfl
  | cons s rest ih => simp only [List.cons_append, runs.effects, ih]

theorem effects_inits (inits : List Init) :
    runs.effects M (inits.map Init.statement) = inits.map (Init.runs M) := by
  induction inits with
  | nil => rfl
  | cons init rest ih =>
    simp only [List.map_cons, runs.effects, ih]
    cases init <;> rfl

theorem effects_updates (updates : List Expression) :
    runs.effects M (updates.map Statement.expression) = updates.map M.express := by
  induction updates with
  | nil => rfl
  | cons e rest ih =>
    simp only [List.map_cons, runs.effects, ih]
    rfl

/-- Braces around a statement do nothing. -/
theorem runs_block_singleton {s : Statement} (hscoped : s.isScoped = true)
    (hplain : s.isPlain = true) (labels : List Word) :
    (Statement.block [s]).runs M labels = s.runs M [] := by
  show within (sequence [s.runs M []]) = s.runs M []
  rw [sequence_singleton, within_of_keeps (keeps_runs s hscoped hplain [])]

theorem runs_asBlock {s : Statement} (hscoped : s.isScoped = true) (hplain : s.isPlain = true) :
    s.asBlock.runs M [] = s.runs M [] := by
  cases s with
  | block body => rfl
  | _ => exact runs_block_singleton hscoped hplain []

/-- The body of a loop and its updates, in a block. -/
theorem runs_body_updates {body : Statement} (hscoped : body.isScoped = true)
    (hplain : body.isPlain = true) (updates : List Expression) :
    (Statement.block (body.asBody ++ updates.map Statement.expression)).runs M [] =
      sequence (body.runs M [] :: updates.map M.express) := by
  have hkeeps : (sequence (body.runs M [] :: updates.map M.express)).Keeps := by
    refine keeps_sequence (List.forall_mem_cons.mpr
      ⟨keeps_runs body hscoped hplain [], fun b hb => ?_⟩)
    obtain ⟨e, -, rfl⟩ := List.mem_map.mp hb
    exact keeps_express e
  have hbody : sequence (runs.effects M (body.asBody ++ updates.map Statement.expression)) =
      sequence (body.runs M [] :: updates.map M.express) := by
    rw [effects_append, effects_updates]
    cases body with
    | empty => exact (sequence_empty_cons _).symm
    | _ => rfl
  show within (sequence (runs.effects M _)) = _
  rw [hbody, within_of_keeps hkeeps]

/-- A `for` loop without a `continue` in its body, as a `while` loop. -/
theorem runs_asWhile {inits : List Init} {c : Condition} {updates : List Expression}
    {body : Statement} (hscoped : (Statement.forLoop inits c updates body).isScoped = true)
    (hnext : body.hasNext = false) (labels : List Word) :
    (asWhile inits c updates body).runs M labels =
      (Statement.forLoop inits c updates body).runs M labels := by
  simp only [isScoped, Bool.and_eq_true] at hscoped
  have hloop : (Statement.whileLoop c
      (.block (body.asBody ++ updates.map Statement.expression))).runs M [] =
      Loop c (body.runs M []) (sequence (updates.map M.express)) labels := by
    rw [loop_updates c (never_runs body hnext []) updates labels,
      ← runs_body_updates hscoped.2 hscoped.1 updates]
    rfl
  show within (sequence (runs.effects M (inits.map Init.statement ++ [_]))) = _
  rw [effects_append, effects_inits]
  simp only [runs.effects, hloop]
  rfl

/-- A `while` loop as a `for` loop with only a condition. -/
theorem runs_asFor {c : Condition} {body : Statement}
    (hscoped : (Statement.whileLoop c body).isScoped = true) (labels : List Word) :
    (Statement.forLoop [] c [] body).runs M labels =
      (Statement.whileLoop c body).runs M labels := by
  show within (sequence [(Statement.whileLoop c body).runs M labels]) = _
  rw [sequence_singleton, within_of_keeps (keeps_runs _ hscoped rfl labels)]

/-- An expression statement under a condition that always holds. -/
theorem runs_guarded (e : Expression) (labels : List Word) :
    (Statement.ifThen .always (.block [.expression e])).runs M labels = M.express e := by
  show choose .always ((Statement.block [.expression e]).runs M []) (endWith .normal) = _
  rw [runs_block_singleton rfl rfl]
  funext σ o σ'
  refine propext ⟨?_, fun hrun => .inl ⟨σ, ⟨rfl, rfl⟩, hrun⟩⟩
  rintro (⟨σ₁, ⟨-, rfl⟩, hrun⟩ | ⟨σ₁, ⟨htest, -⟩, -⟩ | ⟨v, ⟨htest, -⟩, -⟩)
  · exact hrun
  · exact nomatch htest
  · exact nomatch htest

/-- An expression before a `break`: the break is reached, or the expression throws. -/
theorem sequence_exit_iff {e : Expression} {σ σ' : State M.Value M.Store} {o : Outcome M.Value} :
    sequence [M.express e, endWith (.broken none)] σ o σ' ↔
      (o = .broken none ∧ M.express e σ .normal σ') ∨
        ∃ v, o = .thrown v ∧ M.express e σ (.thrown v) σ' := by
  refine ⟨?_, ?_⟩
  · rintro (⟨σ₁, hrun, hexit⟩ | ⟨hne, r, heval, rfl⟩)
    · rw [sequence_singleton] at hexit
      obtain ⟨rfl, rfl⟩ := hexit
      exact .inl ⟨rfl, hrun⟩
    · cases r with
      | ok v => exact absurd rfl hne
      | error v => exact .inr ⟨v, rfl, .error v, heval, rfl⟩
  · rintro (⟨rfl, hrun⟩ | ⟨v, rfl, hrun⟩)
    · refine .inl ⟨σ', hrun, ?_⟩
      rw [sequence_singleton]
      exact ⟨rfl, rfl⟩
    · exact .inr ⟨nofun, hrun⟩

/-- An expression statement in a loop that is left after one pass. -/
theorem runs_looped (e : Expression) (labels : List Word) :
    (Statement.whileLoop .always (.block [.expression e, .exit none])).runs M labels =
      M.express e := by
  have hkeeps : (sequence [M.express e, endWith (.broken none)]).Keeps := by
    refine keeps_sequence fun b hb => ?_
    rcases List.mem_cons.mp hb with rfl | hb
    · exact keeps_express e
    · rw [List.mem_singleton.mp hb]
      exact keeps_endWith _
  show Loop .always (within (sequence [M.express e, endWith (.broken none)])) _ labels = _
  rw [within_of_keeps hkeeps]
  funext σ o σ'
  refine propext ⟨fun hrun => ?_, fun hrun => ?_⟩
  · cases hrun with
    | done htest => exact nomatch htest.1
    | fails htest => exact nomatch htest.1
    | leaves htest hrun _ =>
      obtain ⟨-, rfl⟩ := htest
      obtain ⟨rfl, hnormal⟩ | ⟨v, rfl, hthrown⟩ := sequence_exit_iff.mp hrun
      · exact hnormal
      · exact hthrown
    | stops _ _ _ hstop hne => exact absurd hstop.1 hne
    | again _ hrun hresumes _ _ =>
      obtain ⟨rfl, -⟩ | ⟨v, rfl, -⟩ := sequence_exit_iff.mp hrun
      · exact nomatch hresumes
      · exact nomatch hresumes
  · have htest : M.test .always σ (.ok true) σ := ⟨rfl, rfl⟩
    obtain ⟨r, heval, rfl⟩ := hrun
    cases r with
    | ok v =>
      exact .leaves htest (sequence_exit_iff.mpr (.inl ⟨rfl, .ok v, heval, rfl⟩)) rfl
    | error v =>
      exact .leaves htest (sequence_exit_iff.mpr (.inr ⟨v, rfl, .error v, heval, rfl⟩)) rfl

/-- A negated expression has the opposite answer. -/
theorem test_negated (e : Expression) (σ : State M.Value M.Store) (answer : Bool)
    (σ' : State M.Value M.Store) :
    M.test (.negated e) σ (.ok answer) σ' ↔ M.test (.given e) σ (.ok !answer) σ' := by
  refine exists_congr fun v => and_congr_right fun _ => ?_
  cases v with
  | error v => exact iff_of_false nofun nofun
  | ok v =>
    show Except.ok answer = Except.ok (!M.truth v) ↔ Except.ok (!answer) = Except.ok (M.truth v)
    rw [Except.ok.injEq, Except.ok.injEq, Bool.not_eq_eq_eq_not]

theorem test_negated_error (e : Expression) (σ : State M.Value M.Store) (v : M.Value)
    (σ' : State M.Value M.Store) :
    M.test (.negated e) σ (.error v) σ' ↔ M.test (.given e) σ (.error v) σ' := by
  refine exists_congr fun r => and_congr_right fun _ => ?_
  cases r with
  | error u => exact Iff.rfl
  | ok u => exact iff_of_false nofun nofun

/-- A choice with its condition negated and its branches exchanged. -/
theorem runs_swapped (e : Expression) {a b : Statement}
    (hscoped : (Statement.ifElse (.given e) a b).isScoped = true) (labels : List Word) :
    (Statement.ifElse (.negated e) b.asBlock a.asBlock).runs M labels =
      (Statement.ifElse (.given e) a b).runs M labels := by
  simp only [isScoped, Bool.and_eq_true] at hscoped
  obtain ⟨⟨⟨haplain, hascoped⟩, hbplain⟩, hbscoped⟩ := hscoped
  show choose _ (b.asBlock.runs M []) (a.asBlock.runs M []) = _
  rw [runs_asBlock hascoped haplain, runs_asBlock hbscoped hbplain]
  funext σ o σ'
  show ((∃ σ₁, _ ∧ _) ∨ (∃ σ₁, _ ∧ _) ∨ ∃ v, _ ∧ _) = _
  simp only [test_negated, test_negated_error, Bool.not_true, Bool.not_false]
  exact propext or_left_comm

/-! ## Contexts -/

theorem areScoped_append (xs ys : List Statement) :
    isScoped.areScoped (xs ++ ys) = (isScoped.areScoped xs && isScoped.areScoped ys) := by
  induction xs with
  | nil => rfl
  | cons s rest ih => simp only [List.cons_append, isScoped.areScoped, ih, Bool.and_assoc]

theorem arePlain_append (xs ys : List Statement) :
    isScoped.arePlain (xs ++ ys) = (isScoped.arePlain xs && isScoped.arePlain ys) := by
  induction xs with
  | nil => rfl
  | cons s rest ih => simp only [List.cons_append, isScoped.arePlain, ih, Bool.and_assoc]

/-- What stands in a scoped statement is scoped, and where a body stands is no declaration. -/
theorem isScoped_of_fill_frame {frame : Frame} {s : Statement}
    (h : (frame.fill s).isScoped = true) :
    s.isScoped = true ∧ (frame.isBody = true → s.isPlain = true) := by
  cases frame with
  | block before after =>
    simp only [Frame.fill, isScoped, areScoped_append, isScoped.areScoped, Bool.and_eq_true] at h
    exact ⟨h.2.1, nofun⟩
  | other pieces before after =>
    simp only [Frame.fill, isScoped, areScoped_append, arePlain_append, isScoped.areScoped,
      isScoped.arePlain, Bool.and_eq_true, Bool.or_eq_true, Bool.not_eq_true'] at h
    refine ⟨h.1.2.1, fun hbody => ?_⟩
    rcases h.2 with hnone | hplain
    · exact absurd (hnone.symm.trans hbody) Bool.false_ne_true
    · exact hplain.2.1
  | ifElse c b =>
    simp only [Frame.fill, isScoped, Bool.and_eq_true] at h
    exact ⟨h.1.1.2, fun _ => h.1.1.1⟩
  | orElse c a =>
    simp only [Frame.fill, isScoped, Bool.and_eq_true] at h
    exact ⟨h.2, fun _ => h.1.2⟩
  | _ =>
    simp only [Frame.fill, isScoped, Bool.and_eq_true] at h
    exact ⟨h.2, fun _ => h.1⟩

theorem isScoped_of_fill {context : Context} :
    ∀ {s : Statement}, (context.fill s).isScoped = true → s.isScoped = true := by
  induction context with
  | nil => exact id
  | cons frame outer ih => exact fun h => (isScoped_of_fill_frame (ih h)).1

/-- In the place of a body only what a statement does without labels counts. -/
theorem runs_fill_body {frame : Frame} {s t : Statement} (hbody : frame.isBody = true)
    (h : s.runs M [] = t.runs M []) (labels : List Word) :
    (frame.fill s).runs M labels = (frame.fill t).runs M labels := by
  cases frame with
  | block before after => exact nomatch hbody
  | labeled label head => exact nomatch hbody
  | other pieces before after =>
    simp only [Frame.fill, runs, effects_append, runs.effects, h]
  | _ => simp only [Frame.fill, runs, h]

theorem runs_fill_frame {frame : Frame} {s t : Statement}
    (h : ∀ labels, s.runs M labels = t.runs M labels) (labels : List Word) :
    (frame.fill s).runs M labels = (frame.fill t).runs M labels := by
  cases frame with
  | block before after => simp only [Frame.fill, runs, effects_append, runs.effects, h]
  | other pieces before after =>
    simp only [Frame.fill, runs, effects_append, runs.effects, h]
  | _ => simp only [Frame.fill, runs, h]

/-- Statements that do the same can stand for one another in every context. -/
theorem runs_fill {context : Context} :
    ∀ {s t : Statement}, (∀ labels, s.runs M labels = t.runs M labels) →
      ∀ labels, (context.fill s).runs M labels = (context.fill t).runs M labels := by
  induction context with
  | nil => exact id
  | cons frame outer ih => exact fun h => ih (runs_fill_frame h)

end Crosscheck.Behaviour
