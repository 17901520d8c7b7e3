import Crosscheck.Analysis.Campaign
import Crosscheck.Proofs.Action
/-!
# Fieldwork

What a campaign does before it reads any report: it generates mutants and works off tasks. Mutants
and processes leave the findings and the ledger alone, and all of it leaves the list of unreadable
reports, however it ends. Faults on the way cost a seed or a task, never the campaign.
-/

namespace Crosscheck.Mutation

open Crosscheck.Files Crosscheck.Text Crosscheck.Java Crosscheck.Variation

/-! ## Generating -/

/-- Deleting files leaves findings and failures alone, also when one of them is refused. -/
theorem outward_removeAll (paths : List Path) : (removeAll paths).Outward := by
  induction paths with
  | nil => exact .pure 0
  | cons path rest ih =>
    unfold removeAll
    refine .bind .files fun fs => ?_
    split
    · next changed _ => exact .bind (.setFiles changed) fun _ => .bind ih fun _ => .pure _
    · exact ih
    · exact .throw _

/-- A cleanup that cannot list the folder fails before it deletes anything. -/
theorem outward_removeMutantsOf (seed : Path) : (removeMutantsOf seed).Outward := by
  unfold removeMutantsOf
  dsimp only
  refine .bind .files fun fs => ?_
  split
  · split
    · exact .bind (.throw _) fun _ => outward_removeAll _
    · exact outward_removeAll _
  · exact .pure 0

/-- A site that cannot be rewritten or written out costs a message. -/
theorem outward_tryAt (seed : Path) (source : Bytes) (tree : Node) (transform : Transform)
    (attempts made : Nat) (site : Site) :
    (tryAt seed source tree transform attempts made site).Outward := by
  unfold tryAt
  split
  · exact .bind (.note _ _) fun _ => .pure _
  · refine .bind .files fun fs => ?_
    split
    · exact .bind (.note _ _) fun _ => .pure _
    · exact .bind (.setFiles _) fun _ => .pure _
  · exact .pure none

/-- A site that fails leaves the next ones to be tried. -/
theorem outward_trySites (seed : Path) (source : Bytes) (tree : Node) (transform : Transform)
    (sites : List Site) :
    ∀ (attempts : Nat) (made : List Mutant),
      (trySites seed source tree transform attempts sites made).Outward := by
  induction sites with
  | nil => exact fun _ made => .pure made
  | cons site rest ih =>
    intro attempts made
    exact .bind (outward_tryAt seed source tree transform attempts made.length site) fun _ =>
      ih (attempts + 1) _

/-- A transform whose scan fails leaves the next ones to be tried. -/
theorem outward_tryTransforms (seed : Path) (source : Bytes) (tree : Node)
    (transforms : List Transform) :
    ∀ made : List Mutant, (tryTransforms seed source tree transforms made).Outward := by
  induction transforms with
  | nil => exact fun made => .pure made
  | cons transform rest ih =>
    intro made
    unfold tryTransforms
    split
    · exact .bind (.note _ _) fun _ => ih made
    · exact .bind (outward_trySites seed source tree transform _ 0 made) fun _ => ih _

/-- A seed that cannot be read or parsed has no mutants and costs a message. -/
theorem outward_generate (seed : Path) (transforms : List Transform) :
    (generate seed transforms).Outward := by
  unfold generate
  refine .bind .files fun fs => ?_
  split
  · exact .bind (.note _ _) fun _ => .pure []
  · split
    · exact .bind (.note _ _) fun _ => .pure []
    · exact outward_tryTransforms _ _ _ transforms []

end Crosscheck.Mutation

namespace Crosscheck.Analysis

open Crosscheck.Configuration Crosscheck.Files

namespace Campaign

variable (campaign : Campaign) (transforms : List Mutation.Transform)

/-- A seed is cleaned up after, if that is asked for, and then mutated. -/
theorem outward_mutateSeed (seed : Path) : (campaign.mutateSeed transforms seed).Outward := by
  have hgenerate := Mutation.outward_generate seed transforms
  unfold mutateSeed
  dsimp only
  split
  · exact .bind (Mutation.outward_removeMutantsOf seed) fun _ => .bind hgenerate fun _ => .pure _
  · exact .bind hgenerate fun _ => .pure _

/-- The generation of mutants leaves findings and failures alone, up to where it is called off. -/
theorem outward_mutateAll (seeds : List Path) : (campaign.mutateAll transforms seeds).Outward := by
  induction seeds with
  | nil => exact .pure 0
  | cons seed rest ih =>
    unfold mutateAll
    split
    · exact .bind (.note _ _) fun _ => .pure 0
    · refine .bind (.attempt (campaign.outward_mutateSeed transforms seed)) fun made => ?_
      cases made with
      | ok mutants => exact .bind ih fun _ => .pure _
      | error fault => exact .bind (.note _ _) fun _ => ih

/-- A fault costs one seed, so the generation of mutants comes to its end. -/
theorem total_mutateAll (seeds : List Path) : (campaign.mutateAll transforms seeds).Total := by
  induction seeds with
  | nil => exact .pure 0
  | cons seed rest ih =>
    unfold mutateAll
    split
    · exact .bind (.note _ _) fun _ => .pure 0
    · refine .bind (.attempt _) fun made => ?_
      cases made with
      | ok mutants => exact .bind ih fun _ => .pure _
      | error fault => exact .bind (.note _ _) fun _ => ih

/-- What comes before the tasks leaves findings and failures alone. -/
theorem outward_prepareSeeds (folders : List Path) : (campaign.prepareSeeds folders).Outward := by
  unfold prepareSeeds mutateSeeds mutateSeedsBy
  split
  · exact .bind .files fun _ => .bind (campaign.outward_mutateAll _ _) fun _ => .pure _
  · exact .bind .files fun _ => .pure _

/-- What comes before the tasks comes to its end. -/
theorem total_prepareSeeds (folders : List Path) : (campaign.prepareSeeds folders).Total := by
  unfold prepareSeeds mutateSeeds mutateSeedsBy
  split
  · exact .bind .files fun _ => .bind (campaign.total_mutateAll _ _) fun _ => .pure _
  · exact .bind .files fun _ => .pure _

end Campaign

/-! ## Running the analyzer -/

/-- A process writes files, up to the first that it cannot write. -/
theorem outward_writeAll (writes : List (Path × Text.Bytes)) : (writeAll writes).Outward := by
  induction writes with
  | nil => exact .pure none
  | cons write rest ih =>
    unfold writeAll
    refine .bind .files fun fs => ?_
    dsimp only
    refine .bind (.setFiles _) fun _ => ?_
    split
    · exact .pure _
    · split
      · exact .pure _
      · exact .bind (.setFiles _) fun _ => ih

/-- The next child is taken from the script. -/
theorem outward_nextChild : nextChild.Outward := by
  refine .bind .get fun w => ?_
  split
  · exact .pure _
  · exact .bind (.modify fun _ => ⟨rfl, rfl⟩) fun _ => .pure _

/-- A process that failed costs a message. -/
theorem outward_failed (message : String) : (failed message).Outward :=
  .bind (.note _ _) fun _ => .pure false

/-- A process that is run leaves findings and failures alone: who runs it records its failure. -/
theorem outward_launch (call : Call) : (launch call).Outward := by
  unfold launch
  dsimp only
  refine .bind (.modify fun _ => ⟨rfl, rfl⟩) fun _ => .bind outward_nextChild fun child => ?_
  refine .bind (outward_writeAll _) fun unwritten => ?_
  split
  · exact outward_failed _
  · split
    · split
      · exact outward_failed _
      · exact .pure true
    · exact outward_failed _
    · exact outward_failed _
    · exact .throw _

namespace Adapter

variable (adapter : Adapter)

/-- Preparations leave findings and failures alone, however far they come. -/
theorem outward_prepare (report : Path) : (adapter.prepare report).Outward := by
  unfold prepare
  refine .bind (.makeDirectories _) fun _ => .bind (.access _) fun _ =>
    .bind (.lift _) fun classes => ?_
  cases classes with
  | none => exact .pure _
  | some classes => exact .makeDirectories _

/-- Commands are run up to the first that fails, which is the only one recorded. -/
theorem quiet_runAll (directory : Option Path) (commands : List (List String)) :
    (adapter.runAll directory commands).Quiet := by
  induction commands with
  | nil => exact .pure true
  | cons command rest ih =>
    refine .bind (outward_launch _).quiet fun launched => ?_
    split
    · exact ih
    · exact .bind (.toolFailure _) fun _ => .pure false

/-- An invocation records one failure at most, of its preparations or of a command. -/
theorem quiet_invoke (folder report : Path) : (adapter.invoke folder report).Quiet := by
  unfold invoke
  dsimp only
  refine .bind (.attempt (adapter.outward_prepare _).quiet) fun prepared => ?_
  split
  · exact .bind (.note _ _) fun _ => .bind (.toolFailure _) fun _ => .pure false
  · exact .throw _
  · exact .bind .files fun _ => .bind (.lift _) fun _ => adapter.quiet_runAll _ _

end Adapter

/-! ## Tasks -/

section Tasks

variable (adapter : Adapter)

/-- A task records no report, whether it is skipped, launched or fails. -/
theorem quiet_workOff (cancelled : Bool) (task : Task) :
    (workOff adapter cancelled task).Quiet := by
  unfold workOff
  split
  · exact .pure _
  · refine .bind (.attempt (adapter.quiet_invoke _ _)) fun answer => ?_
    cases answer with
    | ok launched => exact .pure _
    | error fault => exact .bind (.note _ _) fun _ => .bind (.toolFailure _) fun _ => .pure _

/-- A task that is worked off has a result, whatever its processes do. -/
theorem exec_workOff (cancelled : Bool) (task : Task) (w : World) :
    ∃ result w', (workOff adapter cancelled task).exec w = (.ok result, w') ∧
      result.task = task ∧ result.skipped = cancelled := by
  unfold workOff
  cases cancelled with
  | true => exact ⟨_, _, rfl, rfl, rfl⟩
  | false =>
    simp only [Bool.false_eq_true, if_false]
    rw [Action.exec_bind_of_ok (Action.exec_attempt w _)]
    cases (Action.exec (adapter.invoke task.folder task.report) w).1 with
    | ok launched => exact ⟨_, _, rfl, rfl, rfl⟩
    | error fault => exact ⟨_, _, rfl, rfl, rfl⟩

end Tasks

end Crosscheck.Analysis
