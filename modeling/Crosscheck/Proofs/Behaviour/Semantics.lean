import Crosscheck.Proofs.Behaviour.Statement
/-!
# What statements do

A big-step semantics. An `Effect` says with what outcome and in what state a run that starts in a
state may end; a run that does not end has no outcome. What expressions do is left to a `Machine`:
they may change the state and throw. So is what opaque statements do, given what the statements in
them do.

Locals stand in a list, the latest first. Leaving a block leaves the locals that were there before.
-/

namespace Crosscheck.Behaviour

/-! ## States and outcomes -/

/-- The state of a run: the local variables in scope, and everything else. -/
structure State (Value Store : Type) where
  locals : List (Word × Value)
  store : Store

namespace State

variable {Value Store : Type}

/-- The names of the locals in scope. -/
def names (σ : State Value Store) : List Word := σ.locals.map (·.1)

/-- Leaves a scope that was entered with so many locals. -/
def leave (σ : State Value Store) (count : Nat) : State Value Store :=
  { σ with locals := σ.locals.drop (σ.locals.length - count) }

end State

/-- How a run of a statement ends. -/
inductive Outcome (Value : Type)
  | normal
  | broken (label : Option Word)
  | continued (label : Option Word)
  | returned (value : Option Value)
  | thrown (value : Value)

namespace Outcome

variable {Value : Type}

/-- Whether a loop with these labels goes on after its body. -/
def resumes (labels : List Word) : Outcome Value → Bool
  | .normal | .continued none => true
  | .continued (some label) => labels.contains label
  | _ => false

/-- The outcome of a loop whose body ends it. -/
def ofLoop : Outcome Value → Outcome Value
  | .broken none => .normal
  | outcome => outcome

end Outcome

/-- From which states a run may end with which outcome in which state. -/
abbrev Effect (Value Store : Type) :=
  State Value Store → Outcome Value → State Value Store → Prop

namespace Effect

variable {Value Store : Type}

/-- A run leaves the names in scope as they are. -/
def Keeps (b : Effect Value Store) : Prop := ∀ σ o σ', b σ o σ' → σ'.names = σ.names

/-- A run adds names at most. -/
def Extends (b : Effect Value Store) : Prop :=
  ∀ σ o σ', b σ o σ' → ∃ added, σ'.names = added ++ σ.names

/-- A run never ends with a `continue`. -/
def NeverContinues (b : Effect Value Store) : Prop :=
  ∀ σ label σ', ¬ b σ (.continued label) σ'

end Effect

/-! ## Machines -/

/-- What a run takes for granted: what expressions, declarations and opaque statements do. -/
structure Machine where
  Value : Type
  Store : Type
  truth : Value → Bool
  /-- The evaluation of an expression gives a value or throws one. -/
  evaluate : Expression → State Value Store → Except Value Value → State Value Store → Prop
  evaluate_names : ∀ {e σ r σ'}, evaluate e σ r σ' → σ'.names = σ.names
  /-- A declaration brings names into scope; what its initial values throw is its answer. -/
  declare : Expression → State Value Store → Option Value → State Value Store → Prop
  declare_names : ∀ {d σ r σ'}, declare d σ r σ' → ∃ added, σ'.names = added ++ σ.names
  /-- An opaque statement with labels does what its parts let it do. -/
  perform : Pieces → List Word → List (Effect Value Store) → Effect Value Store
  perform_names : ∀ {pieces labels parts}, (∀ part ∈ parts, part.Extends) →
    (perform pieces labels parts).Keeps
  perform_continued : ∀ {pieces labels parts}, pieces.continues = false →
    (∀ part ∈ parts, part.NeverContinues) → (perform pieces labels parts).NeverContinues

namespace Machine

variable (M : Machine)

/-- The outcome of a step that may throw. -/
def outcome {α : Type} : Except M.Value α → Outcome M.Value
  | .ok _ => .normal
  | .error v => .thrown v

/-- Evaluates an expression for what it does. -/
def express (e : Expression) : Effect M.Value M.Store :=
  fun σ o σ' => ∃ r, M.evaluate e σ r σ' ∧ o = M.outcome r

/-- Declares locals. -/
def introduce (d : Expression) : Effect M.Value M.Store :=
  fun σ o σ' => ∃ r, M.declare d σ r σ' ∧ o = (r.map .thrown).getD .normal

/-- Evaluates the expression of a `return`. -/
def giveBack : Option Expression → Effect M.Value M.Store
  | none => fun σ o σ' => o = .returned none ∧ σ' = σ
  | some e => fun σ o σ' => ∃ r, M.evaluate e σ r σ' ∧
      o = match r with
        | .ok v => .returned (some v)
        | .error v => .thrown v

/-- Evaluates a condition. -/
def test : Condition → State M.Value M.Store → Except M.Value Bool → State M.Value M.Store → Prop
  | .given e => fun σ r σ' => ∃ v, M.evaluate e σ v σ' ∧ r = v.map M.truth
  | .always => fun σ r σ' => r = .ok true ∧ σ' = σ
  | .negated e => fun σ r σ' => ∃ v, M.evaluate e σ v σ' ∧ r = v.map fun v => !M.truth v

end Machine

/-! ## Control structures -/

section Structures

variable {M : Machine}

/-- One statement after the other, up to one that does not end normally. -/
def sequence : List (Effect M.Value M.Store) → Effect M.Value M.Store
  | [] => fun σ o σ' => o = .normal ∧ σ' = σ
  | first :: rest => fun σ o σ' =>
    (∃ σ₁, first σ .normal σ₁ ∧ sequence rest σ₁ o σ') ∨ (o ≠ .normal ∧ first σ o σ')

/-- A scope of its own. -/
def within (b : Effect M.Value M.Store) : Effect M.Value M.Store :=
  fun σ o σ' => ∃ σ₁, b σ o σ₁ ∧ σ' = σ₁.leave σ.locals.length

/-- A choice between two statements. -/
def choose (c : Condition) (yes no : Effect M.Value M.Store) : Effect M.Value M.Store :=
  fun σ o σ' =>
    (∃ σ₁, M.test c σ (.ok true) σ₁ ∧ yes σ₁ o σ') ∨
      (∃ σ₁, M.test c σ (.ok false) σ₁ ∧ no σ₁ o σ') ∨
      ∃ v, M.test c σ (.error v) σ' ∧ o = .thrown v

/-- A loop with labels, from where its condition is looked at. -/
inductive Loop (c : Condition) (body step : Effect M.Value M.Store) (labels : List Word) :
    State M.Value M.Store → Outcome M.Value → State M.Value M.Store → Prop
  /-- The condition does not hold. -/
  | done {σ σ'} : M.test c σ (.ok false) σ' → Loop c body step labels σ .normal σ'
  /-- The condition throws. -/
  | fails {σ σ' v} : M.test c σ (.error v) σ' → Loop c body step labels σ (.thrown v) σ'
  /-- The body ends the loop. -/
  | leaves {σ σ₁ σ' o} : M.test c σ (.ok true) σ₁ → body σ₁ o σ' → o.resumes labels = false →
    Loop c body step labels σ o.ofLoop σ'
  /-- The step behind the body ends the loop. -/
  | stops {σ σ₁ σ₂ σ' o o'} : M.test c σ (.ok true) σ₁ → body σ₁ o σ₂ → o.resumes labels = true →
    step σ₂ o' σ' → o' ≠ .normal → Loop c body step labels σ o' σ'
  /-- The loop goes on. -/
  | again {σ σ₁ σ₂ σ₃ σ' o o'} : M.test c σ (.ok true) σ₁ → body σ₁ o σ₂ →
    o.resumes labels = true → step σ₂ .normal σ₃ → Loop c body step labels σ₃ o' σ' →
    Loop c body step labels σ o' σ'

/-- A loop that looks at its condition behind the body. -/
def loopAfter (c : Condition) (body : Effect M.Value M.Store) (labels : List Word) :
    Effect M.Value M.Store :=
  fun σ o σ' =>
    (∃ o₁, body σ o₁ σ' ∧ o₁.resumes labels = false ∧ o = o₁.ofLoop) ∨
      ∃ o₁ σ₁, body σ o₁ σ₁ ∧ o₁.resumes labels = true ∧
        Loop c body (sequence []) labels σ₁ o σ'

/-- A statement with a label, which a `break` with that label leaves. -/
def underLabel (label : Word) (b : Effect M.Value M.Store) : Effect M.Value M.Store :=
  fun σ o σ' =>
    (b σ (.broken (some label)) σ' ∧ o = .normal) ∨ (o ≠ .broken (some label) ∧ b σ o σ')

/-- An end with an outcome, at once. -/
def endWith (outcome : Outcome M.Value) : Effect M.Value M.Store :=
  fun σ o σ' => o = outcome ∧ σ' = σ

end Structures

/-! ## Statements -/

/-- What an init of a `for` loop does. -/
def Init.runs (M : Machine) : Init → Effect M.Value M.Store
  | .declaration d => M.introduce d
  | .expression e => M.express e

/-- What a statement does below labels. -/
def Statement.runs (M : Machine) : Statement → List Word → Effect M.Value M.Store
  | .block body, _ => within (sequence (effects M body))
  | .empty, _ => endWith .normal
  | .expression e, _ => M.express e
  | .declaration d, _ => M.introduce d
  | .ifThen c a, _ => choose c (a.runs M []) (endWith .normal)
  | .ifElse c a b, _ => choose c (a.runs M []) (b.runs M [])
  | .forLoop inits c updates body, labels =>
    within (sequence (inits.map (Init.runs M)
      ++ [Loop c (body.runs M []) (sequence (updates.map M.express)) labels]))
  | .whileLoop c body, labels => Loop c (body.runs M []) (sequence []) labels
  | .doLoop body c, labels => loopAfter c (body.runs M []) labels
  | .exit label, _ => endWith (.broken label)
  | .next label, _ => endWith (.continued label)
  | .labeled label _ body, labels => underLabel label (body.runs M (label :: labels))
  | .result e, _ => M.giveBack e
  | .other pieces parts, labels => M.perform pieces labels (effects M parts)
where
  /-- What several statements do. -/
  effects (M : Machine) : List Statement → List (Effect M.Value M.Store)
    | [] => []
    | s :: rest => s.runs M [] :: effects M rest

end Crosscheck.Behaviour
