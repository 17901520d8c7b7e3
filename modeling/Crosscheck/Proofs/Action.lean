import Crosscheck.World
/-!
# Running actions

`exec` is an action as a function of worlds: its answer, or the fault that ended it early, and the
world after it. The equations below run an action step by step. Three properties pass from the steps
of an action to the whole: `Total`, never to end early, `Outward`, to leave the findings and the
ledger alone, and `Quiet`, to leave the findings and the unreadable reports alone.
-/

namespace Crosscheck.Action

variable {α β : Type}

/-- The answer of an action in a world, and the world after it. -/
def exec (action : Action α) (w : World) : Except Fault α × World := action.run.run w

/-! ## Steps -/

section Steps

variable (w : World)

@[simp] theorem exec_pure (a : α) : exec (pure a) w = (.ok a, w) := rfl

@[simp] theorem exec_throw (fault : Fault) : exec (throw fault : Action α) w = (.error fault, w) :=
  rfl

@[simp] theorem exec_get : exec get w = (.ok w, w) := rfl

@[simp] theorem exec_modify (f : World → World) : exec (modify f) w = (.ok ⟨⟩, f w) := rfl

/-- An action goes on with the answer of its first step, and ends with that step's fault. -/
theorem exec_bind (action : Action α) (next : α → Action β) :
    exec (action >>= next) w =
      match exec action w with
      | (.ok a, w') => exec (next a) w'
      | (.error fault, w') => (.error fault, w') := by
  show exec (ExceptT.mk (action.run >>= ExceptT.bindCont next)) w = _
  unfold exec
  show (ExceptT.bindCont next (action.run.run w).1).run (action.run.run w).2 = _
  rcases action.run.run w with ⟨_ | _, w'⟩ <;> rfl

theorem exec_bind_of_ok {action : Action α} {next : α → Action β} {a : α} {w w' : World}
    (h : exec action w = (.ok a, w')) : exec (action >>= next) w = exec (next a) w' := by
  rw [exec_bind, h]

theorem exec_bind_of_error {action : Action α} {next : α → Action β} {fault : Fault}
    {w w' : World} (h : exec action w = (.error fault, w')) :
    exec (action >>= next) w = (.error fault, w') := by
  rw [exec_bind, h]

/-- What holds after the first step, and is kept by what comes next, holds after both, also where the
first step ends early. -/
theorem after_bind (P : World → Prop) {w : World} {action : Action α} {next : α → Action β}
    (hfirst : P (exec action w).2) (hnext : ∀ a w', P w' → P (exec (next a) w').2) :
    P (exec (action >>= next) w).2 := by
  rw [exec_bind]
  rcases hrun : exec action w with ⟨fault | a, w'⟩
  · rw [hrun] at hfirst
    exact hfirst
  · rw [hrun] at hfirst
    exact hnext a w' hfirst

/-- An answer can be turned into another. -/
theorem exec_bind_pure (action : Action α) (f : α → β) :
    exec (action >>= fun a => pure (f a)) w =
      ((exec action w).1.map f, (exec action w).2) := by
  rw [exec_bind]
  rcases exec action w with ⟨fault | a, w'⟩ <;> rfl

@[simp] theorem exec_files : exec files w = (.ok w.files, w) := rfl

@[simp] theorem exec_setFiles (fs : Files.FileSystem) :
    exec (setFiles fs) w = (.ok ⟨⟩, { w with files := fs }) := rfl

@[simp] theorem exec_note (gravity : Gravity) (message : String) :
    exec (note gravity message) w =
      (.ok ⟨⟩, { w with journal := w.journal ++ [⟨gravity, message⟩] }) := rfl

@[simp] theorem exec_setLogging (detailed : Bool) :
    exec (setLogging detailed) w = (.ok ⟨⟩, { w with
      transcript := { w.transcript with detailed := w.transcript.detailed ++ [detailed] } }) := rfl

theorem exec_access (f : Files.FileSystem → Except Files.AccessError Files.FileSystem) :
    exec (access f) w =
      match f w.files with
      | .ok fs => (.ok ⟨⟩, { w with files := fs })
      | .error e => (.error (.access e), w) := by
  unfold access
  rw [exec_bind_of_ok (exec_files w)]
  cases f w.files <;> rfl

/-- What was made before an error stays. -/
theorem exec_makeDirectories (path : Files.Path) :
    exec (makeDirectories path) w =
      ((w.files.makeDirectories path).2.elim (.ok ⟨⟩) fun e => .error (.access e),
        { w with files := (w.files.makeDirectories path).1 }) := by
  unfold makeDirectories
  rw [exec_bind_of_ok (exec_files w)]
  rcases w.files.makeDirectories path with ⟨made, refused⟩
  cases refused <;> rfl

theorem exec_lift (result : Except Fault α) : exec (lift result) w = (result, w) := by
  cases result <;> rfl

/-- A run has one answer and one world after it. -/
theorem answer_inj {a b : α} {w w' : World}
    (h : ((.ok a : Except Fault α), w) = (.ok b, w')) : a = b ∧ w = w' :=
  (Prod.mk.inj h).imp_left Except.ok.inj

/-- A result with an answer, by its answer. -/
theorem ok_of_toOption {ε : Type} {result : Except ε α} {a : α} (h : result.toOption = some a) :
    result = .ok a := by
  cases result with
  | error e => exact nomatch h
  | ok b => exact congrArg Except.ok (Option.some.inj h)

/-- A run with an answer, by its answer. -/
theorem exec_of_toOption {action : Action α} {a : α} {w : World}
    (h : (exec action w).1.toOption = some a) : exec action w = (.ok a, (exec action w).2) :=
  Prod.ext (ok_of_toOption h) rfl

/-- The fault of an attempt is its answer. -/
@[simp] theorem exec_attempt (action : Action α) :
    exec (attempt action) w = (.ok (exec action w).1, (exec action w).2) := rfl

/-- The answer of a step that may have been cut short. -/
def answer (a : α) : Option Fault → Except Fault α
  | none => .ok a
  | some fault => .error fault

/-- A change of the index stays, also one that was cut short. -/
theorem exec_updateIndex (f : Index → Index × Option Fault) :
    exec (updateIndex f) w = (answer ⟨⟩ (f w.index).2, { w with index := (f w.index).1 }) := by
  unfold updateIndex
  rw [exec_bind_of_ok (exec_get w)]
  cases h : f w.index with
  | mk index fault =>
    cases fault <;> rfl

/-- A step that may have been cut short, and then an answer. -/
theorem exec_bind_pure_of_answer {action : Action α} {fault : Option Fault} {a : α} {w w' : World}
    (h : exec action w = (answer a fault, w')) (b : β) :
    exec (action >>= fun _ => pure b) w = (answer b fault, w') := by
  cases fault with
  | none => rw [exec_bind_of_ok h]; rfl
  | some fault => rw [exec_bind_of_error h]; rfl

end Steps

end Crosscheck.Action

namespace Crosscheck.World

/-- A world after a report was found to be unreadable. -/
def withUnreadable (w : World) (report : String) : World :=
  { w with
    ledger := w.ledger.addReport report
    journal := w.journal ++ [⟨.warning, s!"Failed to parse report: {report}"⟩] }

end Crosscheck.World

namespace Crosscheck.Action

variable {α β : Type}

@[simp] theorem exec_reportFailure (report : String) (w : World) :
    exec (reportFailure report) w = (.ok ⟨⟩, w.withUnreadable report) := rfl

/-! ## Actions that never end early -/

/-- An action that gives an answer in every world. -/
def Total (action : Action α) : Prop := ∀ w, ∃ a w', exec action w = (.ok a, w')

namespace Total

theorem pure (a : α) : Total (Pure.pure a) := fun w => ⟨a, w, rfl⟩

theorem bind {action : Action α} {next : α → Action β} (h : Total action)
    (hnext : ∀ a, Total (next a)) : Total (action >>= next) := by
  intro w
  obtain ⟨a, w', hrun⟩ := h w
  rw [exec_bind_of_ok hrun]
  exact hnext a w'

theorem modify (f : World → World) : Total (modify f) := fun w => ⟨⟨⟩, f w, rfl⟩

theorem attempt (action : Action α) : Total (attempt action) :=
  fun w => ⟨_, _, exec_attempt w action⟩

theorem files : Total files := fun w => ⟨_, _, exec_files w⟩

theorem note (gravity : Gravity) (message : String) : Total (note gravity message) :=
  modify _

end Total

/-! ## Properties of all steps -/

/-- A property of actions that passes from the steps of an action to the whole. Answers, looks at the
files, complaints and records of failures have it. -/
structure Inherited (P : {α : Type} → Action α → Prop) : Prop where
  pure : ∀ {α : Type} (a : α), P (Pure.pure a)
  bind : ∀ {α β : Type} {action : Action α} {next : α → Action β}, P action →
    (∀ a, P (next a)) → P (action >>= next)
  attempt : ∀ {α : Type} {action : Action α}, P action → P (attempt action)
  files : P files
  note : ∀ gravity message, P (note gravity message)
  toolFailure : ∀ command, P (toolFailure command)

/-! ## Actions that only reach outward -/

/-- An action that leaves the findings and the ledger as they are, however it ends: it works on
files and processes. -/
def Outward (action : Action α) : Prop :=
  ∀ w, (exec action w).2.index = w.index ∧ (exec action w).2.ledger = w.ledger

namespace Outward

theorem pure (a : α) : Outward (Pure.pure a) := fun _ => ⟨rfl, rfl⟩

theorem throw (fault : Fault) : Outward (throw fault : Action α) := fun _ => ⟨rfl, rfl⟩

theorem get : Outward get := fun _ => ⟨rfl, rfl⟩

theorem bind {action : Action α} {next : α → Action β} (h : Outward action)
    (hnext : ∀ a, Outward (next a)) : Outward (action >>= next) := by
  intro w
  refine after_bind (fun after => after.index = w.index ∧ after.ledger = w.ledger) (h w) ?_
  exact fun a w' hfirst => ⟨(hnext a w').1.trans hfirst.1, (hnext a w').2.trans hfirst.2⟩

theorem modify {f : World → World} (h : ∀ w, (f w).index = w.index ∧ (f w).ledger = w.ledger) :
    Outward (modify f) := h

theorem attempt {action : Action α} (h : Outward action) : Outward (attempt action) := h

theorem files : Outward files := fun _ => ⟨rfl, rfl⟩

theorem setFiles (fs : Files.FileSystem) : Outward (setFiles fs) := fun _ => ⟨rfl, rfl⟩

theorem note (gravity : Gravity) (message : String) : Outward (note gravity message) :=
  fun _ => ⟨rfl, rfl⟩

theorem lift (result : Except Fault α) : Outward (lift result) := by
  intro w
  rw [exec_lift]
  exact ⟨rfl, rfl⟩

theorem access (f : Files.FileSystem → Except Files.AccessError Files.FileSystem) :
    Outward (access f) := by
  refine files.bind fun fs => ?_
  cases f fs with
  | ok changed => exact setFiles changed
  | error e => exact throw _

theorem makeDirectories (path : Files.Path) : Outward (makeDirectories path) := by
  refine files.bind fun fs => ?_
  rcases fs.makeDirectories path with ⟨made, refused⟩
  refine (setFiles made).bind fun _ => ?_
  cases refused with
  | none => exact pure _
  | some e => exact throw _

end Outward

/-! ## Actions that find nothing -/

/-- An action that leaves the findings and the list of unreadable reports as they are, however it
ends. -/
def Quiet (action : Action α) : Prop :=
  ∀ w, (exec action w).2.index = w.index ∧ (exec action w).2.ledger.reports = w.ledger.reports

theorem Outward.quiet {action : Action α} (h : Outward action) : Quiet action :=
  fun w => ⟨(h w).1, congrArg Ledger.reports (h w).2⟩

namespace Quiet

theorem pure (a : α) : Quiet (Pure.pure a) := fun _ => ⟨rfl, rfl⟩

theorem throw (fault : Fault) : Quiet (throw fault : Action α) := fun _ => ⟨rfl, rfl⟩

theorem bind {action : Action α} {next : α → Action β} (h : Quiet action)
    (hnext : ∀ a, Quiet (next a)) : Quiet (action >>= next) := by
  intro w
  refine after_bind (fun after => after.index = w.index ∧ after.ledger.reports = w.ledger.reports)
    (h w) ?_
  exact fun a w' hfirst => ⟨(hnext a w').1.trans hfirst.1, (hnext a w').2.trans hfirst.2⟩

theorem attempt {action : Action α} (h : Quiet action) : Quiet (attempt action) := h

theorem files : Quiet files := fun _ => ⟨rfl, rfl⟩

theorem note (gravity : Gravity) (message : String) : Quiet (note gravity message) :=
  fun _ => ⟨rfl, rfl⟩

theorem toolFailure (command : String) : Quiet (toolFailure command) := fun _ => ⟨rfl, rfl⟩

theorem lift (result : Except Fault α) : Quiet (lift result) := (Outward.lift result).quiet

theorem inherited : Inherited Quiet := ⟨pure, bind, attempt, files, note, toolFailure⟩

end Quiet

end Crosscheck.Action
