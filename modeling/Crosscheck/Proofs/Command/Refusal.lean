import Crosscheck.Command.Run
import Crosscheck.Proofs.Analysis.Evaluation
import Crosscheck.Proofs.Configuration.Containment
/-!
# Refused commands

A command begins with its configuration: it loads the settings and selects an analyzer, which
touches no file and starts no process. What comes after that ends well, or with a fault of a report
or of the printing; the faults that a command answers with exit status 1 come up in the beginning
alone. So a command with that status has done nothing (`analyze_refused_iff`), whatever crew works
off the tasks of the commands that go on.
-/

namespace Crosscheck

/-! ## Actions that touch nothing -/

/-- Whether the files and the child processes of two worlds are the same. -/
structure World.Untouched (before after : World) : Prop where
  files : after.files = before.files
  calls : after.calls = before.calls
  script : after.script = before.script

theorem World.Untouched.trans {a b c : World} (hab : a.Untouched b) (hbc : b.Untouched c) :
    a.Untouched c :=
  ⟨hbc.files.trans hab.files, hbc.calls.trans hab.calls, hbc.script.trans hab.script⟩

namespace Action

variable {α β : Type}

/-- An action that changes no file and starts no process, however it ends. -/
def Harmless (action : Action α) : Prop := ∀ w : World, w.Untouched (exec action w).2

namespace Harmless

theorem pure (a : α) : Harmless (Pure.pure a) := fun _ => ⟨rfl, rfl, rfl⟩

theorem throw (fault : Fault) : Harmless (throw fault : Action α) := fun _ => ⟨rfl, rfl, rfl⟩

theorem bind {action : Action α} {next : α → Action β} (h : Harmless action)
    (hnext : ∀ a, Harmless (next a)) : Harmless (action >>= next) := by
  intro w
  exact after_bind w.Untouched (h w) fun a w' hfirst => hfirst.trans (hnext a w')

theorem note (gravity : Gravity) (message : String) : Harmless (note gravity message) :=
  fun _ => ⟨rfl, rfl, rfl⟩

theorem setLogging (detailed : Bool) : Harmless (setLogging detailed) := fun _ => ⟨rfl, rfl, rfl⟩

end Harmless

end Action

end Crosscheck

namespace Crosscheck.Command

open Crosscheck.Analysis Crosscheck.Configuration Crosscheck.Files

/-! ## Beginning and end of a command -/

/-- Whether a command line is accepted, and asks for no log file. -/
structure Accepted (words : List String) (arguments : Arguments) : Prop where
  read : Arguments.ofWords words = .ok arguments
  unlogged : arguments.logFile = none

/-- A fault that a command answers with exit status 1. -/
def IsRefusal (fault : Fault) : Prop :=
  (∃ cause, fault = .configuration cause) ∨ ∃ seed source, fault = .repeatedSeed seed source

/-- What a command does before it looks at the corpus. -/
def commence (arguments : Arguments) : Action (Campaign × Tool) := do
  Action.setLogging arguments.debug
  let settings ← load (Path.ofString (arguments.config.getD ""))
  let settings := override settings arguments
  Action.setLogging settings.debug
  let campaign ← Campaign.start settings
  return (campaign, ← selected campaign.settings)

/-- What a command makes of the outcome of its campaign. -/
def conclude : Except Fault Summary → Action Int
  | .error (.configuration fault) => do
    Action.note .error fault.fullMessage
    return 1
  | .error (.repeatedSeed seed source) => do
    Action.note .critical (Fault.repeatedSeed seed source).message
    return 1
  | .error fault => throw fault
  | .ok summary => do
    printSummary summary
    printStyled "Analysis completed successfully."
    return 0

theorem harmless_load (path : Path) : (load path).Harmless := by
  intro w
  rw [exec_load]
  exact ⟨rfl, rfl, rfl⟩

theorem harmless_selected (settings : Settings) : (selected settings).Harmless := by
  unfold selected
  split
  · exact .throw _
  · exact .pure _
  · exact .bind (.note _ _) fun _ => .pure _

/-- A campaign starts by forgetting findings and failures. -/
theorem harmless_start (settings : Settings) : (Campaign.start settings).Harmless := by
  have hreset : Analysis.reset.Harmless := fun _ => ⟨rfl, rfl, rfl⟩
  exact .bind hreset fun _ => .pure _

theorem harmless_commence (arguments : Arguments) : (commence arguments).Harmless := by
  refine .bind (.setLogging _) fun _ => .bind (harmless_load _) fun settings => ?_
  refine .bind (.setLogging _) fun _ => .bind (harmless_start _) fun campaign => ?_
  exact .bind (harmless_selected campaign.settings) fun tool => .pure _

theorem harmless_conclude_error (fault : Fault) : (conclude (.error fault)).Harmless := by
  cases fault with
  | configuration cause | repeatedSeed seed source => exact .bind (.note _ _) fun _ => .pure _
  | _ => exact .throw _

/-- A fault is answered with exit status 1 if it is a refusal, and raised else. -/
theorem exec_conclude_error_iff (fault : Fault) (w : World) :
    ((conclude (.error fault)).exec w).1 = .ok 1 ↔ IsRefusal fault := by
  cases fault with
  | configuration cause => exact iff_of_true rfl (.inl ⟨cause, rfl⟩)
  | repeatedSeed seed source => exact iff_of_true rfl (.inr ⟨seed, source, rfl⟩)
  | _ => exact iff_of_false (fun h => nomatch h) (by simp [IsRefusal])

/-- A command whose campaign gives a summary does not end with exit status 1. -/
theorem exec_conclude_ok_ne (summary : Summary) (w : World) :
    ((conclude (.ok summary)).exec w).1 ≠ .ok 1 := by
  unfold conclude
  rw [Action.exec_bind]
  rcases Action.exec (printSummary summary) w with ⟨fault | ⟨⟩, w'⟩
  · exact fun h => nomatch h
  · dsimp only
    rw [Action.exec_bind_pure w' (printStyled _) fun _ => (0 : Int)]
    cases (Action.exec (printStyled "Analysis completed successfully.") w').1 with
    | error fault => exact fun h => nomatch h
    | ok a =>
      intro h
      have hzero : (0 : Int) = 1 := Except.ok.inj h
      exact absurd hzero (by decide)

/-! ## Runs of commands -/

/-- The outcome of a command, and the world after it. Either the beginning ends the command, or a
crew does the fieldwork of the campaign, which is evaluated then. -/
inductive Runs (arguments : Arguments) (w : World) : Except Fault Int × World → Prop
  | ended {fault : Fault} {after : World}
      (h : (commence arguments).exec w = (.error fault, after)) :
      Runs arguments w ((conclude (.error fault)).exec after)
  | carried {campaign : Campaign} {tool : Tool} {ready field after : World} {workers : Nat}
      {trace : List Event} {work : Fieldwork} {outcome : Except Fault Summary}
      (h : (commence arguments).exec w = (.ok (campaign, tool), ready))
      (hfield : campaign.Fielded workers campaign.cancelled tool
        campaign.settings.seedPath.render ready trace work field)
      (hevaluate : (work.evaluate tool).exec field = (outcome, after)) :
      Runs arguments w ((conclude outcome).exec after)

theorem exec_analyze {words : List String} {arguments : Arguments}
    (h : Arguments.ofWords words = .ok arguments) (w : World) :
    (analyze words).exec w =
      let campaign := (commence arguments >>= fun (campaign, tool) =>
        campaign.execute tool campaign.settings.seedPath.render).exec w
      (conclude campaign.1).exec campaign.2 := by
  have hwhole : (commence arguments >>= fun (campaign, tool) =>
      campaign.execute tool campaign.settings.seedPath.render) =
        Action.setLogging arguments.debug >>= fun _ => runCampaign arguments := by
    unfold commence runCampaign Campaign.run
    simp only [bind_assoc, pure_bind]
  unfold analyze
  rw [h, hwhole]
  dsimp only
  rw [Action.exec_bind_of_ok (Action.exec_setLogging w _),
    Action.exec_bind_of_ok (Action.exec_setLogging w _),
    Action.exec_bind_of_ok (Action.exec_attempt _ _)]
  rcases Action.exec (runCampaign arguments) _ with ⟨fault | summary, w'⟩
  · cases fault <;> rfl
  · rfl

/-- The command is one of its runs. -/
theorem runs_analyze {words : List String} {arguments : Arguments}
    (h : Arguments.ofWords words = .ok arguments) (w : World) :
    Runs arguments w ((analyze words).exec w) := by
  rw [exec_analyze h]
  dsimp only
  rcases hcommence : (commence arguments).exec w with ⟨fault | ⟨campaign, tool⟩, ready⟩
  · rw [Action.exec_bind_of_error hcommence]
    exact .ended hcommence
  · rw [Action.exec_bind_of_ok hcommence]
    dsimp only
    obtain ⟨work, field, hwork, -⟩ :=
      campaign.exec_carryOut inOrder tool campaign.settings.seedPath.render ready
    obtain ⟨trace, hfield⟩ := campaign.fielded_carryOut 1 tool
      campaign.settings.seedPath.render Nat.one_pos orderly_inOrder hwork
    unfold Campaign.execute
    rw [Campaign.executeBy_eq, Action.exec_bind_of_ok hwork]
    exact .carried hcommence hfield rfl

/-- What ends an evaluation is no refusal. -/
theorem not_isRefusal_of_endsEvaluation {fault : Fault} (h : Fieldwork.EndsEvaluation fault) :
    ¬ IsRefusal fault := by
  rintro (⟨cause, rfl⟩ | ⟨seed, source, rfl⟩)
  · simp [Fieldwork.EndsEvaluation, Native.EndsReading] at h
  · simp [Fieldwork.EndsEvaluation, Native.EndsReading] at h

/-- A command ends with exit status 1 exactly if its beginning ends with a refusal. -/
theorem Runs.refused_iff {arguments : Arguments} {w : World} {run : Except Fault Int × World}
    (h : Runs arguments w run) :
    run.1 = .ok 1 ↔
      ∃ fault, ((commence arguments).exec w).1 = .error fault ∧ IsRefusal fault := by
  cases h with
  | @ended fault after hcommence =>
    rw [exec_conclude_error_iff, hcommence]
    refine ⟨fun hrefusal => ⟨fault, rfl, hrefusal⟩, fun ⟨other, heq, hrefusal⟩ => ?_⟩
    cases heq
    exact hrefusal
  | @carried campaign tool ready field after workers trace work outcome hcommence _ hevaluate =>
    rw [hcommence]
    refine iff_of_false ?_ fun ⟨_, heq, _⟩ => nomatch heq
    cases outcome with
    | ok summary => exact exec_conclude_ok_ne summary after
    | error fault =>
      rw [exec_conclude_error_iff]
      exact not_isRefusal_of_endsEvaluation (Fieldwork.endsEvaluation_of_exec hevaluate)

/-- A command that ends with exit status 1 has touched nothing. -/
theorem Runs.untouched {arguments : Arguments} {w : World} {run : Except Fault Int × World}
    (h : Runs arguments w run) (hstatus : run.1 = .ok 1) : w.Untouched run.2 := by
  obtain ⟨refusal, hrefusal, -⟩ := h.refused_iff.mp hstatus
  cases h with
  | @ended fault after hcommence =>
    have hbegin := harmless_commence arguments w
    rw [hcommence] at hbegin
    exact hbegin.trans (harmless_conclude_error fault after)
  | carried hcommence =>
    rw [hcommence] at hrefusal
    exact nomatch hrefusal

/-- A command that ends with exit status 1 has changed no file and started no process, whatever its
crew would have done. It does so exactly if the configuration is refused, and no refusal escapes
from a campaign: not from the generation of mutants, the work on tasks by any schedule, the reading
of reports, or the comparison. -/
theorem analyze_refused_iff {words : List String} {arguments : Arguments}
    (h : Accepted words arguments) (w : World) :
    Runs arguments w ((analyze words).exec w) ∧
    (∀ run, Runs arguments w run →
      (run.1 = .ok 1 → w.Untouched run.2) ∧
      (run.1 = .ok 1 ↔
        ∃ fault, ((commence arguments).exec w).1 = .error fault ∧ IsRefusal fault)) ∧
    ∀ (campaign : Campaign) (schedule : Nat → List Turn) (tool : Tool) (corpus : String)
      (before after : World) (fault : Fault),
      (campaign.executeBy schedule tool corpus).exec before = (.error fault, after) →
        ¬ IsRefusal fault := by
  refine ⟨runs_analyze h.read w, fun run hrun => ⟨hrun.untouched, hrun.refused_iff⟩, ?_⟩
  intro campaign schedule tool corpus before after fault hexecute
  obtain ⟨work, field, hwork, -⟩ := campaign.exec_carryOut schedule tool corpus before
  rw [Campaign.executeBy_eq, Action.exec_bind_of_ok hwork] at hexecute
  exact not_isRefusal_of_endsEvaluation (Fieldwork.endsEvaluation_of_exec hexecute)

/-- A world with a configuration that enables no analyzer. -/
def idleWorld : World :=
  let files := FileSystem.initial.write (Path.ofString "/tmp/w/c.properties")
    "debug = no".toUTF8.data.toList
  { World.initial with files := files.toOption.getD .initial }

/-- The command refuses the configuration. -/
theorem analyze_idleWorld :
    ∃ arguments, Accepted ["--config", "/tmp/w/c.properties"] arguments ∧
      ((analyze ["--config", "/tmp/w/c.properties"]).exec idleWorld).1.toOption = some 1 ∧
      idleWorld.Untouched ((analyze ["--config", "/tmp/w/c.properties"]).exec idleWorld).2 := by
  have haccepted : Accepted ["--config", "/tmp/w/c.properties"]
      { Arguments.empty with config := some "/tmp/w/c.properties" } := ⟨by rfl, rfl⟩
  have hstatus : ((analyze ["--config", "/tmp/w/c.properties"]).exec idleWorld).1.toOption =
      some 1 := by decide +kernel
  have hexec := congrArg Prod.fst (Action.exec_of_toOption hstatus)
  obtain ⟨hrun, hall, -⟩ := analyze_refused_iff haccepted idleWorld
  exact ⟨_, haccepted, hstatus, (hall _ hrun).1 hexec⟩

end Crosscheck.Command
