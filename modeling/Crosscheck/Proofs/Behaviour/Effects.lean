import Crosscheck.Proofs.Behaviour.Semantics
/-!
# What runs leave alone

A statement that is more than a declaration leaves the names in scope as they are, and a statement
without a `continue` in it never ends with one. Both hold of every control structure if they hold of
what is in it, and so of every statement by induction over it.
-/

namespace Crosscheck.Behaviour

variable {M : Machine}

/-! ## Names -/

/-- Leaving a scope takes away the names that were added in it. -/
theorem State.names_leave {Value Store : Type} {σ σ' : State Value Store} {added : List Word}
    (h : σ'.names = added ++ σ.names) : (σ'.leave σ.locals.length).names = σ.names := by
  have hlength : σ'.locals.length = added.length + σ.locals.length := by
    have hlengths := congrArg List.length h
    simpa only [names, List.length_append, List.length_map] using hlengths
  have hcount : σ'.locals.length - σ.locals.length = added.length := by omega
  unfold leave
  show (σ'.locals.drop _).map (·.1) = σ.names
  rw [hcount, List.map_drop]
  show σ'.names.drop added.length = σ.names
  rw [h, List.drop_left]

/-- Leaving a scope in which no name was added leaves the state as it is. -/
theorem State.leave_of_names {Value Store : Type} {σ σ' : State Value Store}
    (h : σ'.names = σ.names) : σ'.leave σ.locals.length = σ' := by
  have hlength : σ'.locals.length = σ.locals.length := by
    have hlengths := congrArg List.length h
    simpa only [names, List.length_map] using hlengths
  unfold leave
  rw [hlength, Nat.sub_self, List.drop_zero]

namespace Effect

variable {Value Store : Type} {b : Effect Value Store}

/-- What leaves the names as they are adds none. -/
theorem Keeps.extends (h : b.Keeps) : b.Extends := fun σ o σ' hrun => ⟨[], h σ o σ' hrun⟩

end Effect

open Effect

/-- An expression names nothing. -/
theorem keeps_express (e : Expression) : (M.express e).Keeps :=
  fun _ _ _ ⟨_, heval, _⟩ => M.evaluate_names heval

/-- A declaration adds names to those in scope. -/
theorem extends_introduce (d : Expression) : (M.introduce d).Extends :=
  fun _ _ _ ⟨_, hdeclare, _⟩ => M.declare_names hdeclare

theorem keeps_giveBack (e : Option Expression) : (M.giveBack e).Keeps := by
  intro σ o σ' hrun
  cases e with
  | none => rw [hrun.2]
  | some e => exact M.evaluate_names hrun.choose_spec.1

/-- A condition names nothing. -/
theorem names_test {c : Condition} {σ σ' : State M.Value M.Store} {r : Except M.Value Bool}
    (h : M.test c σ r σ') : σ'.names = σ.names := by
  cases c with
  | given e => exact M.evaluate_names h.choose_spec.1
  | always => rw [h.2]
  | negated e => exact M.evaluate_names h.choose_spec.1

theorem keeps_endWith (outcome : Outcome M.Value) : (endWith outcome).Keeps := by
  intro σ o σ' hrun
  rw [hrun.2]

/-- A sequence leaves the names if each of its parts does. -/
theorem keeps_sequence {bs : List (Effect M.Value M.Store)} (h : ∀ b ∈ bs, b.Keeps) :
    (sequence bs).Keeps := by
  induction bs with
  | nil => exact fun σ o σ' hrun => congrArg State.names hrun.2
  | cons first rest ih =>
    intro σ o σ' hrun
    have hfirst := h first List.mem_cons_self
    rcases hrun with ⟨σ₁, hrun, hrest⟩ | ⟨-, hrun⟩
    · have hkeeps := ih fun b hb => h b (List.mem_cons_of_mem first hb)
      exact (hkeeps σ₁ o σ' hrest).trans (hfirst σ .normal σ₁ hrun)
    · exact hfirst σ o σ' hrun

/-- A sequence adds names at most if each of its parts does. -/
theorem extends_sequence {bs : List (Effect M.Value M.Store)} (h : ∀ b ∈ bs, b.Extends) :
    (sequence bs).Extends := by
  induction bs with
  | nil => exact fun σ o σ' hrun => ⟨[], congrArg State.names hrun.2⟩
  | cons first rest ih =>
    intro σ o σ' hrun
    have hfirst := h first List.mem_cons_self
    rcases hrun with ⟨σ₁, hrun, hrest⟩ | ⟨-, hrun⟩
    · have hextends := ih fun b hb => h b (List.mem_cons_of_mem first hb)
      obtain ⟨later, hlater⟩ := hextends σ₁ o σ' hrest
      obtain ⟨added, hadded⟩ := hfirst σ .normal σ₁ hrun
      exact ⟨later ++ added, by rw [hlater, hadded, List.append_assoc]⟩
    · exact hfirst σ o σ' hrun

/-- What is added in a scope is gone behind it. -/
theorem keeps_within {b : Effect M.Value M.Store} (h : b.Extends) : (within b).Keeps := by
  rintro σ o σ' ⟨σ₁, hrun, rfl⟩
  obtain ⟨added, hadded⟩ := h σ o σ₁ hrun
  exact State.names_leave hadded

/-- A choice leaves the names if both of its branches do. -/
theorem keeps_choose {c : Condition} {yes no : Effect M.Value M.Store} (hyes : yes.Keeps)
    (hno : no.Keeps) : (choose c yes no).Keeps := by
  rintro σ o σ' (⟨σ₁, htest, hrun⟩ | ⟨σ₁, htest, hrun⟩ | ⟨v, htest, -⟩)
  · exact (hyes σ₁ o σ' hrun).trans (names_test htest)
  · exact (hno σ₁ o σ' hrun).trans (names_test htest)
  · exact names_test htest

/-- A loop leaves the names if its body and its step do, however it ends. -/
theorem keeps_loop {c : Condition} {body step : Effect M.Value M.Store} {labels : List Word}
    (hbody : body.Keeps) (hstep : step.Keeps) : Keeps (Loop c body step labels) := by
  intro σ o σ' hrun
  induction hrun with
  | done htest => exact names_test htest
  | fails htest => exact names_test htest
  | leaves htest hrun _ => exact (hbody _ _ _ hrun).trans (names_test htest)
  | stops htest hrun _ hstop _ =>
    exact ((hstep _ _ _ hstop).trans (hbody _ _ _ hrun)).trans (names_test htest)
  | again htest hrun _ hnext _ ih =>
    exact ((ih.trans (hstep _ _ _ hnext)).trans (hbody _ _ _ hrun)).trans (names_test htest)

/-- A loop that tests behind its body leaves the names if the body does. -/
theorem keeps_loopAfter {c : Condition} {body : Effect M.Value M.Store} {labels : List Word}
    (hbody : body.Keeps) : (loopAfter c body labels).Keeps := by
  have hloop : Keeps (Loop c body (sequence []) labels) :=
    keeps_loop hbody (keeps_sequence fun b hb => nomatch hb)
  rintro σ o σ' (⟨o₁, hrun, -, -⟩ | ⟨o₁, σ₁, hrun, -, hrest⟩)
  · exact hbody σ o₁ σ' hrun
  · exact (hloop σ₁ o σ' hrest).trans (hbody σ o₁ σ₁ hrun)

theorem keeps_underLabel {label : Word} {b : Effect M.Value M.Store} (h : b.Keeps) :
    (underLabel label b).Keeps := by
  rintro σ o σ' (⟨hrun, -⟩ | ⟨-, hrun⟩)
  · exact h _ _ _ hrun
  · exact h _ _ _ hrun

theorem extends_init (init : Init) : (init.runs M).Extends := by
  cases init with
  | declaration d => exact extends_introduce d
  | expression e => exact (keeps_express e).extends

theorem keeps_updates (updates : List Expression) :
    (sequence (updates.map M.express)).Keeps := by
  refine keeps_sequence fun b hb => ?_
  obtain ⟨e, -, rfl⟩ := List.mem_map.mp hb
  exact keeps_express e

/-- The names of a `for` loop are gone behind it. -/
theorem keeps_forLoop {inits : List Init} {c : Condition} {updates : List Expression}
    {body : Effect M.Value M.Store} {labels : List Word} (hbody : body.Keeps) :
    (within (sequence (inits.map (Init.runs M)
      ++ [Loop c body (sequence (updates.map M.express)) labels]))).Keeps := by
  refine keeps_within (extends_sequence fun b hb => ?_)
  rcases List.mem_append.mp hb with hinit | hloop
  · obtain ⟨init, -, rfl⟩ := List.mem_map.mp hinit
    exact extends_init init
  · rw [List.mem_singleton.mp hloop]
    exact (keeps_loop hbody (keeps_updates updates)).extends

theorem Statement.eq_declaration {s : Statement} (h : s.isPlain = false) :
    ∃ d, s = .declaration d := by
  cases s with
  | declaration d => exact ⟨d, rfl⟩
  | _ => exact nomatch h

mutual

/-- A scoped statement that is more than a declaration leaves the names in scope as they are. -/
theorem keeps_runs (s : Statement) (hscoped : s.isScoped = true) (hplain : s.isPlain = true)
    (labels : List Word) : (s.runs M labels).Keeps := by
  match s with
  | .block body => exact keeps_within (extends_sequence (extends_effects body hscoped))
  | .empty => exact keeps_endWith .normal
  | .expression e => exact keeps_express e
  | .declaration d => exact absurd hplain Bool.false_ne_true
  | .ifThen c a =>
    simp only [Statement.isScoped, Bool.and_eq_true] at hscoped
    exact keeps_choose (keeps_runs a hscoped.2 hscoped.1 []) (keeps_endWith .normal)
  | .ifElse c a b =>
    simp only [Statement.isScoped, Bool.and_eq_true] at hscoped
    obtain ⟨⟨⟨haplain, hascoped⟩, hbplain⟩, hbscoped⟩ := hscoped
    exact keeps_choose (keeps_runs a hascoped haplain []) (keeps_runs b hbscoped hbplain [])
  | .forLoop inits c updates body =>
    simp only [Statement.isScoped, Bool.and_eq_true] at hscoped
    exact keeps_forLoop (keeps_runs body hscoped.2 hscoped.1 [])
  | .whileLoop c body =>
    simp only [Statement.isScoped, Bool.and_eq_true] at hscoped
    exact keeps_loop (keeps_runs body hscoped.2 hscoped.1 [])
      (keeps_sequence fun b hb => nomatch hb)
  | .doLoop body c =>
    simp only [Statement.isScoped, Bool.and_eq_true] at hscoped
    exact keeps_loopAfter (keeps_runs body hscoped.2 hscoped.1 [])
  | .exit label => exact keeps_endWith _
  | .next label => exact keeps_endWith _
  | .labeled label head body =>
    simp only [Statement.isScoped, Bool.and_eq_true] at hscoped
    exact keeps_underLabel (keeps_runs body hscoped.2 hscoped.1 (label :: labels))
  | .result e => exact keeps_giveBack e
  | .other pieces parts =>
    simp only [Statement.isScoped, Bool.and_eq_true] at hscoped
    exact M.perform_names (extends_effects parts hscoped.1)

/-- Scoped statements add names at most. -/
theorem extends_effects (body : List Statement)
    (hscoped : Statement.isScoped.areScoped body = true) :
    ∀ b ∈ Statement.runs.effects M body, b.Extends := by
  match body with
  | [] => exact fun b hb => nomatch hb
  | s :: rest =>
    simp only [Statement.isScoped.areScoped, Bool.and_eq_true] at hscoped
    refine List.forall_mem_cons.mpr ⟨?_, extends_effects rest hscoped.2⟩
    cases hplain : s.isPlain with
    | true => exact (keeps_runs s hscoped.1 hplain []).extends
    | false =>
      obtain ⟨d, rfl⟩ := Statement.eq_declaration hplain
      exact extends_introduce d

end

/-! ## Outcomes -/

/-- An expression ends normally or with a fault. -/
theorem never_express (e : Expression) : (M.express e).NeverContinues := by
  rintro σ label σ' ⟨r, -, houtcome⟩
  cases r <;> exact nomatch houtcome

theorem never_introduce (d : Expression) : (M.introduce d).NeverContinues := by
  rintro σ label σ' ⟨r, -, houtcome⟩
  cases r <;> exact nomatch houtcome

theorem never_init (init : Init) : (init.runs M).NeverContinues := by
  cases init with
  | declaration d => exact never_introduce d
  | expression e => exact never_express e

theorem never_giveBack (e : Option Expression) : (M.giveBack e).NeverContinues := by
  intro σ label σ' hrun
  cases e with
  | none => exact nomatch hrun.1
  | some e =>
    obtain ⟨r, -, houtcome⟩ := hrun
    cases r <;> exact nomatch houtcome

/-- A sequence never continues if none of its parts does. -/
theorem never_sequence {bs : List (Effect M.Value M.Store)}
    (h : ∀ b ∈ bs, b.NeverContinues) : (sequence bs).NeverContinues := by
  induction bs with
  | nil => exact fun σ label σ' hrun => nomatch hrun.1
  | cons first rest ih =>
    rintro σ label σ' (⟨σ₁, -, hrest⟩ | ⟨-, hrun⟩)
    · exact ih (fun b hb => h b (List.mem_cons_of_mem first hb)) σ₁ label σ' hrest
    · exact h first List.mem_cons_self σ label σ' hrun

theorem never_within {b : Effect M.Value M.Store} (h : b.NeverContinues) :
    (within b).NeverContinues :=
  fun σ label _ ⟨σ₁, hrun, _⟩ => h σ label σ₁ hrun

/-- A choice never continues if neither of its branches does. -/
theorem never_choose {c : Condition} {yes no : Effect M.Value M.Store}
    (hyes : yes.NeverContinues) (hno : no.NeverContinues) :
    (choose c yes no).NeverContinues := by
  rintro σ label σ' (⟨σ₁, -, hrun⟩ | ⟨σ₁, -, hrun⟩ | ⟨v, -, houtcome⟩)
  · exact hyes σ₁ label σ' hrun
  · exact hno σ₁ label σ' hrun
  · exact nomatch houtcome

/-- A loop that ends with a `continue` has one from its body, for a label of its own. -/
theorem Outcome.ofLoop_eq_continued {Value : Type} {o : Outcome Value} {label : Option Word}
    (h : o.ofLoop = .continued label) : o = .continued label := by
  cases o with
  | broken l => cases l <;> exact nomatch h
  | _ => exact h

/-- A loop never continues if neither its body nor its step does. -/
theorem never_loop {c : Condition} {body step : Effect M.Value M.Store} {labels : List Word}
    (hbody : body.NeverContinues) (hstep : step.NeverContinues) :
    NeverContinues (Loop c body step labels) := by
  intro σ label σ' hrun
  generalize houtcome : Outcome.continued label = o at hrun
  induction hrun with
  | done _ => exact nomatch houtcome
  | fails _ => exact nomatch houtcome
  | leaves _ hrun _ =>
    rw [Outcome.ofLoop_eq_continued houtcome.symm] at hrun
    exact hbody _ _ _ hrun
  | stops _ _ _ hstop _ =>
    rw [← houtcome] at hstop
    exact hstep _ _ _ hstop
  | again _ _ _ _ _ ih => exact ih houtcome

theorem never_loopAfter {c : Condition} {body : Effect M.Value M.Store} {labels : List Word}
    (hbody : body.NeverContinues) : (loopAfter c body labels).NeverContinues := by
  have hloop : NeverContinues (Loop c body (sequence []) labels) :=
    never_loop hbody (never_sequence fun b hb => nomatch hb)
  rintro σ label σ' (⟨o₁, hrun, -, houtcome⟩ | ⟨o₁, σ₁, -, -, hrest⟩)
  · rw [Outcome.ofLoop_eq_continued houtcome.symm] at hrun
    exact hbody σ label σ' hrun
  · exact hloop σ₁ label σ' hrest

theorem never_underLabel {label : Word} {b : Effect M.Value M.Store} (h : b.NeverContinues) :
    (underLabel label b).NeverContinues := by
  rintro σ other σ' (⟨-, houtcome⟩ | ⟨-, hrun⟩)
  · exact nomatch houtcome
  · exact h σ other σ' hrun

theorem never_endWith {outcome : Outcome M.Value} (h : ∀ label, outcome ≠ .continued label) :
    (endWith outcome).NeverContinues :=
  fun _ label _ hrun => h label hrun.1.symm

theorem never_updates (updates : List Expression) :
    (sequence (updates.map M.express)).NeverContinues := by
  refine never_sequence fun b hb => ?_
  obtain ⟨e, -, rfl⟩ := List.mem_map.mp hb
  exact never_express e

/-- A `for` loop never continues if its body does not. -/
theorem never_forLoop {inits : List Init} {c : Condition} {updates : List Expression}
    {body : Effect M.Value M.Store} {labels : List Word} (hbody : body.NeverContinues) :
    (within (sequence (inits.map (Init.runs M)
      ++ [Loop c body (sequence (updates.map M.express)) labels]))).NeverContinues := by
  refine never_within (never_sequence fun b hb => ?_)
  rcases List.mem_append.mp hb with hinit | hloop
  · obtain ⟨init, -, rfl⟩ := List.mem_map.mp hinit
    exact never_init init
  · rw [List.mem_singleton.mp hloop]
    exact never_loop hbody (never_updates updates)

mutual

/-- A statement without a `continue` never ends with one. -/
theorem never_runs (s : Statement) (h : s.hasNext = false) (labels : List Word) :
    (s.runs M labels).NeverContinues := by
  match s with
  | .block body => exact never_within (never_sequence (never_effects body h))
  | .empty => exact never_endWith fun _ h => nomatch h
  | .expression e => exact never_express e
  | .declaration d => exact never_introduce d
  | .ifThen c a =>
    exact never_choose (never_runs a h []) (never_endWith fun _ h => nomatch h)
  | .ifElse c a b =>
    simp only [Statement.hasNext, Bool.or_eq_false_iff] at h
    exact never_choose (never_runs a h.1 []) (never_runs b h.2 [])
  | .forLoop inits c updates body => exact never_forLoop (never_runs body h [])
  | .whileLoop c body =>
    exact never_loop (never_runs body h []) (never_sequence fun b hb => nomatch hb)
  | .doLoop body c => exact never_loopAfter (never_runs body h [])
  | .exit label => exact never_endWith fun _ h => nomatch h
  | .next label => exact absurd h.symm Bool.false_ne_true
  | .labeled label head body => exact never_underLabel (never_runs body h (label :: labels))
  | .result e => exact never_giveBack e
  | .other pieces parts =>
    simp only [Statement.hasNext, Bool.or_eq_false_iff] at h
    exact M.perform_continued h.1 (never_effects parts h.2)

/-- Statements without a `continue` never end with one. -/
theorem never_effects (body : List Statement)
    (h : Statement.hasNext.haveNext body = false) :
    ∀ b ∈ Statement.runs.effects M body, b.NeverContinues := by
  match body with
  | [] => exact fun b hb => nomatch hb
  | s :: rest =>
    simp only [Statement.hasNext.haveNext, Bool.or_eq_false_iff] at h
    exact List.forall_mem_cons.mpr ⟨never_runs s h.1 [], never_effects rest h.2⟩

end

end Crosscheck.Behaviour
