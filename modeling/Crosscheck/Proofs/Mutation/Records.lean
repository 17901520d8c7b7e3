import Crosscheck.Analysis.Campaign
import Crosscheck.Proofs.Mutation.Cleanup
import Crosscheck.Proofs.Mutation.Numbering
/-!
# What a campaign generates

A campaign tells how many mutants it generates. `recordAll` is that generation with the records of
the mutants, so a path can be said to be one of a mutant that was generated, and from which seed.

`Renewed` says what becomes of the files when the mutants of one seed are removed and generated: all
that comes is recorded, and all that goes were mutants of the seed. `Recorded` says the same of all
seeds one after the other (`exec_recordAll`), and that a recorded mutant stays if no other seed has
a claim to its place.
-/

namespace Crosscheck.Mutation

open Crosscheck.Files

/-! ## The mutants of one seed -/

/-- What a generation for a seed makes of the files. -/
structure Generated (before : FileSystem) (seed : Path) (made : List Mutant) (after : FileSystem) :
    Prop where
  directories : FileSystem.SameDirectories before after
  /-- What stands elsewhere than the recorded mutants is as before. -/
  elsewhere : ∀ l, (∀ m ∈ made, before.locate m.path ≠ .ok l) → after.find? l = before.find? l
  record : ∀ m ∈ made, m.seed = seed ∧ ∃ number : Nat, m.path = mutantPath seed number
  /-- The recorded mutants are files. -/
  written : ∀ m ∈ made, ∃ l content, before.locate m.path = .ok l ∧
    after.find? l = some (.file content)
  /-- Mutants come from a seed that is a file. -/
  source : made ≠ [] → NotDirectory before seed

theorem Generated.nothing (fs : FileSystem) (seed : Path) : Generated fs seed [] fs where
  directories := .refl fs
  elsewhere _ _ := rfl
  record _ hm := absurd hm List.not_mem_nil
  written _ hm := absurd hm List.not_mem_nil
  source h := absurd rfl h

theorem Numbered.generated {seed : Path} {source : Text.Bytes} {tree : Java.Node}
    {before after : FileSystem} {tried : List Attempt} {succeeds : Nat → Bool} {made : List Mutant}
    (hread : before.read seed = .ok source)
    (h : Numbered seed source tree before tried succeeds made after) :
    Generated before seed made after where
  directories := h.directories
  elsewhere := h.elsewhere
  record m hm := by
    obtain ⟨k, hk⟩ := List.getElem?_of_mem hm
    refine ⟨?_, k + 1, (h.numbered k m hk).2⟩
    rw [h.made_eq] at hm
    obtain ⟨⟨a, i⟩, -, rfl⟩ := List.mem_map.mp hm
    rfl
  written m hm := by
    rw [h.made_eq] at hm
    obtain ⟨⟨a, i⟩, hlisted, rfl⟩ := List.mem_map.mp hm
    obtain ⟨htried, hsucceeds⟩ := List.mem_filter.mp hlisted
    have hattempt : tried[i]? = some a := List.mem_zipIdx_iff_getElem?.mp htried
    obtain ⟨edited, -, hedited⟩ := h.content i a hattempt hsucceeds
    obtain ⟨l, hl, hfile⟩ := FileSystem.read_eq_ok_iff.mp hedited
    rw [Attempt.path_mutant]
    exact ⟨l, edited, h.directories.locate_eq_ok_iff.mp hl, hfile⟩
  source _ := by
    obtain ⟨l, hl, hfile⟩ := FileSystem.read_eq_ok_iff.mp hread
    exact ⟨l, hl, by simp [hfile]⟩

/-- A generation comes to its end, and records all that it writes. -/
theorem exec_generate_generated (seed : Path) (transforms : List Transform) (w : World) :
    ∃ made after, (generate seed transforms).exec w = (.ok made, after) ∧
      Generated w.files seed.absolute made after.files := by
  rcases unread_or_den w.files seed.isAbsolute_absolute with
    hunread | ⟨home, source, tree, hden, hparse⟩
  · obtain ⟨after, hrun, hfiles⟩ := exec_generate_of_unread transforms hunread
    exact ⟨[], after, hrun, hfiles ▸ .nothing _ _⟩
  · obtain ⟨succeeds, made, after, hrun, hnumbered⟩ := hden.exec_generate transforms hparse
    exact ⟨made, after, hrun, hnumbered.generated hden.read⟩

/-- What becomes of the files when the mutants of a seed are removed, or not, and generated. -/
structure Renewed (before : FileSystem) (seed : Path) (made : List Mutant) (after : FileSystem) :
    Prop where
  directories : FileSystem.SameDirectories before after
  /-- What is neither recorded nor beside the seed as its mutant is as before. -/
  elsewhere : ∀ l, ¬ IsOffspring before seed l → (∀ m ∈ made, before.locate m.path ≠ .ok l) →
    after.find? l = before.find? l
  /-- What is not recorded was there before. -/
  old : ∀ l entry, after.find? l = some entry → (∀ m ∈ made, before.locate m.path ≠ .ok l) →
    before.find? l = some entry
  record : ∀ m ∈ made, m.seed = seed ∧ ∃ number : Nat, m.path = mutantPath seed number
  written : ∀ m ∈ made, ∃ l content, before.locate m.path = .ok l ∧
    after.find? l = some (.file content)
  source : made ≠ [] → NotDirectory before seed

/-- Whether every file that is read back as a mutant of the seed is one that was recorded. -/
def Fresh (before : FileSystem) (seed : Path) (made : List Mutant) (after : FileSystem) : Prop :=
  ∀ l content, IsOffspring before seed l → (∀ m ∈ made, before.locate m.path ≠ .ok l) →
    after.find? l ≠ some (.file content)

section Renewed

variable {before swept after : FileSystem} {seed : Path} {made : List Mutant}

/-- A removal that is not followed by a generation. -/
theorem Swept.renewed (h : Swept before seed after) : Renewed before seed [] after where
  directories := h.directories
  elsewhere l hl _ := h.find?_eq l hl
  old l entry hl _ := h.of_find? l entry hl
  record _ hm := absurd hm List.not_mem_nil
  written _ hm := absurd hm List.not_mem_nil
  source hmade := absurd rfl hmade

/-- A generation after a removal. -/
theorem Generated.renewed (hswept : Swept before seed swept)
    (h : Generated swept seed made after) : Renewed before seed made after := by
  have hlocate {path : Path} {l : Location} : swept.locate path = .ok l ↔
      before.locate path = .ok l := hswept.directories.locate_eq_ok_iff
  have helsewhere (l : Location) (hl : ∀ m ∈ made, before.locate m.path ≠ .ok l) :
      after.find? l = swept.find? l :=
    h.elsewhere l fun m hm hthere => hl m hm (hlocate.mp hthere)
  refine ⟨hswept.directories.trans h.directories, fun l hl hmade => ?_, fun l entry hl hmade => ?_,
    h.record, fun m hm => ?_, fun hmade => ?_⟩
  · rw [helsewhere l hmade, hswept.find?_eq l hl]
  · rw [helsewhere l hmade] at hl
    exact hswept.of_find? l entry hl
  · obtain ⟨l, content, hl, hfile⟩ := h.written m hm
    exact ⟨l, content, hlocate.mp hl, hfile⟩
  · exact (notDirectory_congr hswept.directories seed).mp (h.source hmade)

end Renewed

/-! ## The mutants of several seeds -/

/-- Whether a removal or a generation for a seed may touch a location. -/
def Claims (fs : FileSystem) (seed : Path) (l : Location) : Prop :=
  IsOffspring fs seed l ∨
    NotDirectory fs seed ∧ ∃ number : Nat, fs.locate (mutantPath seed number) = .ok l

theorem claims_congr {a b : FileSystem} (h : FileSystem.SameDirectories a b) (seed : Path)
    (l : Location) : Claims b seed l ↔ Claims a seed l := by
  unfold Claims
  simp only [isOffspring_congr h, notDirectory_congr h, h.locate_eq_ok_iff]

/-- What becomes of the files when the mutants of seeds are generated one seed after the other. -/
structure Recorded (cleanup : Bool) (before : FileSystem) (seeds : List Path) (made : List Mutant)
    (after : FileSystem) : Prop where
  directories : FileSystem.SameDirectories before after
  /-- Each record is that of a mutant of a seed that is no directory. -/
  record : ∀ m ∈ made, m.seed ∈ seeds ∧ NotDirectory before m.seed ∧
    ∃ number : Nat, m.path = mutantPath m.seed number
  /-- What no seed has a claim to is as before. -/
  elsewhere : ∀ l, (∀ seed ∈ seeds, ¬ Claims before seed l) → after.find? l = before.find? l
  /-- A file that was not recorded was there before, and after a cleanup it is no mutant of a seed
  whose name stands for itself. -/
  old : ∀ l content, after.find? l = some (.file content) →
    (∀ m ∈ made, before.locate m.path ≠ .ok l) → before.find? l = some (.file content) ∧
      (cleanup = true → ∀ seed ∈ seeds, IsLiteral seed → ¬ IsOffspring before seed l)
  /-- A mutant that was recorded stays where no other seed has a claim. -/
  stays : seeds.Nodup → ∀ m ∈ made, ∃ l, before.locate m.path = .ok l ∧
    ((∀ seed ∈ seeds, seed ≠ m.seed → ¬ Claims before seed l) →
      ∃ content, after.find? l = some (.file content))

section Recorded

variable {cleanup : Bool} {before middle after : FileSystem} {seed : Path} {rest seeds : List Path}
  {made more : List Mutant}

theorem Recorded.nil (cleanup : Bool) (fs : FileSystem) : Recorded cleanup fs [] [] fs where
  directories := .refl fs
  record _ hm := absurd hm List.not_mem_nil
  elsewhere _ _ := rfl
  old _ _ hfile _ := ⟨hfile, fun _ _ hseed => absurd hseed List.not_mem_nil⟩
  stays _ _ hm := absurd hm List.not_mem_nil

/-- A location without the claim of a seed is left when the mutants of the seed are renewed. -/
theorem Renewed.find?_of_not_claims {l : Location} (h : Renewed before seed made after)
    (hl : ¬ Claims before seed l) : after.find? l = before.find? l := by
  refine h.elsewhere l (fun hof => hl (.inl hof)) fun m hm hthere => hl (.inr ⟨?_, ?_⟩)
  · exact h.source (List.ne_nil_of_mem hm)
  · obtain ⟨-, number, hpath⟩ := h.record m hm
    exact ⟨number, hpath ▸ hthere⟩

/-- A location without the claim of a later seed is left by what comes after the first seed. -/
theorem Recorded.find?_of_not_claims {l : Location}
    (hdirs : FileSystem.SameDirectories before middle)
    (h : Recorded cleanup middle rest more after) (hl : ∀ seed ∈ rest, ¬ Claims before seed l) :
    after.find? l = middle.find? l := by
  refine h.elsewhere l fun seed hseed hclaims => ?_
  exact hl seed hseed ((claims_congr hdirs seed l).mp hclaims)

/-- One more seed at the front. -/
theorem Recorded.cons (hfirst : Renewed before seed made middle)
    (hfresh : cleanup = true → IsLiteral seed → Fresh before seed made middle)
    (h : Recorded cleanup middle rest more after) :
    Recorded cleanup before (seed :: rest) (made ++ more) after where
  directories := hfirst.directories.trans h.directories
  record m hm := by
    rcases List.mem_append.mp hm with hm | hm
    · obtain ⟨hseed, hnumber⟩ := hfirst.record m hm
      rw [hseed]
      exact ⟨List.mem_cons_self, hfirst.source (List.ne_nil_of_mem hm), hnumber⟩
    · obtain ⟨hseed, hkind, hnumber⟩ := h.record m hm
      exact ⟨List.mem_cons_of_mem _ hseed, (notDirectory_congr hfirst.directories _).mp hkind,
        hnumber⟩
  elsewhere l hl := by
    obtain ⟨hseed, hrest⟩ := List.forall_mem_cons.mp hl
    rw [h.find?_of_not_claims hfirst.directories hrest, hfirst.find?_of_not_claims hseed]
  old l content hfile hmade := by
    obtain ⟨hhere, hlater⟩ := List.forall_mem_append.mp hmade
    obtain ⟨hmiddle, hnone⟩ := h.old l content hfile fun m hm hthere =>
      hlater m hm (hfirst.directories.locate_eq_ok_iff.mp hthere)
    refine ⟨hfirst.old l _ hmiddle hhere, fun hcleanup => List.forall_mem_cons.mpr ⟨?_, ?_⟩⟩
    · intro hliteral hof
      exact hfresh hcleanup hliteral l content hof hhere hmiddle
    · intro other hother hliteral hof
      exact hnone hcleanup other hother hliteral
        ((isOffspring_congr hfirst.directories other l).mpr hof)
  stays hnodup m hm := by
    obtain ⟨hnew, hnodup⟩ := List.nodup_cons.mp hnodup
    rcases List.mem_append.mp hm with hm | hm
    · -- The seed itself is not among those that come later.
      obtain ⟨l, content, hl, hfile⟩ := hfirst.written m hm
      obtain ⟨hseed, -⟩ := hfirst.record m hm
      refine ⟨l, hl, fun hapart => ⟨content, ?_⟩⟩
      rw [h.find?_of_not_claims hfirst.directories fun other hother => ?_, hfile]
      refine hapart other (List.mem_cons_of_mem _ hother) ?_
      rintro rfl
      exact hnew (hseed ▸ hother)
    · obtain ⟨l, hl, hstays⟩ := h.stays hnodup m hm
      refine ⟨l, hfirst.directories.locate_eq_ok_iff.mp hl, fun hapart => hstays ?_⟩
      intro other hother hne hclaims
      exact hapart other (List.mem_cons_of_mem _ hother) hne
        ((claims_congr hfirst.directories other l).mp hclaims)

end Recorded

end Crosscheck.Mutation

namespace Crosscheck.Analysis.Campaign

open Crosscheck.Files Crosscheck.Mutation

/-! ## The records of a campaign -/

/-- Generates the mutants of a seed anew: their records. -/
def recordSeed (campaign : Campaign) (transforms : List Transform) (seed : Path) :
    Action (List Mutant) := do
  if campaign.settings.cleanup then
    let _ ← removeMutantsOf seed
  generate seed transforms

/-- Generates the mutants of seeds one after the other: their records. -/
def recordAll (campaign : Campaign) (transforms : List Transform) :
    List Path → Action (List Mutant)
  | [] => return []
  | seed :: rest => do
    if campaign.cancelled then
      Action.note .warning "Cancelled during mutation"
      return []
    match ← Action.attempt (campaign.recordSeed transforms seed) with
    | .ok mutants => return mutants ++ (← campaign.recordAll transforms rest)
    | .error fault =>
      Action.note .error s!"Error mutating {seed.render}: {fault.message}"
      campaign.recordAll transforms rest

variable {campaign : Campaign}

theorem exec_mutateSeed (campaign : Campaign) (transforms : List Transform) (seed : Path)
    (w : World) :
    (campaign.mutateSeed transforms seed).exec w =
      (((campaign.recordSeed transforms seed).exec w).1.map List.length,
        ((campaign.recordSeed transforms seed).exec w).2) := by
  unfold mutateSeed recordSeed
  dsimp only
  split
  · rw [Action.exec_bind, Action.exec_bind]
    rcases (removeMutantsOf seed).exec w with ⟨fault | removed, w'⟩
    · rfl
    · exact Action.exec_bind_pure w' _ List.length
  · exact Action.exec_bind_pure w _ List.length

/-- The number of mutants that a campaign tells is that of the records. -/
theorem exec_mutateAll (campaign : Campaign) (transforms : List Transform) (seeds : List Path)
    (w : World) :
    (campaign.mutateAll transforms seeds).exec w =
      (((campaign.recordAll transforms seeds).exec w).1.map List.length,
        ((campaign.recordAll transforms seeds).exec w).2) := by
  induction seeds generalizing w with
  | nil => rfl
  | cons seed rest ih =>
    unfold mutateAll recordAll
    split
    · rfl
    · rw [Action.exec_bind_of_ok (Action.exec_attempt w _),
        Action.exec_bind_of_ok (Action.exec_attempt w _), exec_mutateSeed]
      rcases (campaign.recordSeed transforms seed).exec w with ⟨fault | made, w'⟩
      · exact ih _
      · dsimp only [Except.map]
        rw [Action.exec_bind_pure, Action.exec_bind_pure, ih]
        rcases (campaign.recordAll transforms rest).exec w' with ⟨fault | more, after⟩
        · rfl
        · simp [Except.map]

/-- The mutants of a seed are renewed. If there is a fault, none are recorded. -/
theorem exec_recordSeed (campaign : Campaign) (transforms : List Transform) (seed : Path)
    (w : World) :
    ∃ answer after, (campaign.recordSeed transforms seed).exec w = (answer, after) ∧
      Renewed w.files seed.absolute (answer.toOption.getD []) after.files ∧
      (campaign.settings.cleanup = true → IsLiteral seed.absolute →
        Fresh w.files seed.absolute (answer.toOption.getD []) after.files) := by
  unfold recordSeed
  by_cases hcleanup : campaign.settings.cleanup = true
  · simp only [hcleanup, if_true]
    rw [Action.exec_bind]
    rcases exec_removeMutantsOf seed w with ⟨removed, swept, hremove, hwithout⟩ | ⟨hremove, hstar⟩
    · obtain ⟨made, after, hgenerate, hgenerated⟩ := exec_generate_generated seed transforms swept
      have hswept := hwithout.swept seed.isAbsolute_absolute
      rw [hremove]
      refine ⟨.ok made, after, hgenerate, hgenerated.renewed hswept, ?_⟩
      intro _ hliteral l content hof hmade
      obtain ⟨_, _, hagain, hgone⟩ := exec_removeMutantsOf_of_isLiteral hliteral w
      obtain ⟨rfl, rfl⟩ := Action.answer_inj (hremove.symm.trans hagain)
      rw [hgenerated.elsewhere l fun m hm hthere =>
        hmade m hm (hswept.directories.locate_eq_ok_iff.mp hthere)]
      exact hgone l content hof
    · rw [hremove]
      refine ⟨_, w, rfl, (Swept.refl _ _).renewed, fun _ hliteral => ?_⟩
      rw [isRecursive_candidatePattern, hliteral.2.isRecursive] at hstar
      exact nomatch hstar
  · obtain ⟨made, after, hgenerate, hgenerated⟩ := exec_generate_generated seed transforms w
    simp only [hcleanup]
    exact ⟨.ok made, after, hgenerate, hgenerated.renewed (.refl _ _), fun hon => nomatch hon⟩

/-- A campaign begins with its first seed, and goes on with the others also if there is a fault. -/
theorem exec_recordAll_cons (huncancelled : campaign.cancelled = false)
    {transforms : List Transform} {seed : Path} {answer : Except Fault (List Mutant)} {w w' : World}
    (h : (campaign.recordSeed transforms seed).exec w = (answer, w')) (rest : List Path) :
    ∃ noted, noted.files = w'.files ∧
      ∀ more after, (campaign.recordAll transforms rest).exec noted = (.ok more, after) →
        (campaign.recordAll transforms (seed :: rest)).exec w =
          (.ok (answer.toOption.getD [] ++ more), after) := by
  have hfirst : (Action.attempt (campaign.recordSeed transforms seed)).exec w =
      (.ok answer, w') := by
    rw [Action.exec_attempt, h]
  cases answer with
  | ok made =>
    refine ⟨w', rfl, fun more after hrest => ?_⟩
    rw [recordAll, huncancelled]
    simp only [Bool.false_eq_true, if_false]
    rw [Action.exec_bind_of_ok hfirst, Action.exec_bind_of_ok hrest]
    rfl
  | error fault =>
    obtain ⟨noted, hnote, hfiles⟩ : ∃ noted,
        (Action.note .error s!"Error mutating {seed.render}: {fault.message}").exec w' =
          (.ok ⟨⟩, noted) ∧ noted.files = w'.files := ⟨_, Action.exec_note w' _ _, rfl⟩
    refine ⟨noted, hfiles, fun more after hrest => ?_⟩
    rw [recordAll, huncancelled]
    simp only [Bool.false_eq_true, if_false]
    rw [Action.exec_bind_of_ok hfirst]
    dsimp only
    rw [Action.exec_bind_of_ok hnote]
    exact hrest

/-- A campaign that is not cancelled records the mutants of all its seeds, whatever fails. -/
theorem exec_recordAll (huncancelled : campaign.cancelled = false) (transforms : List Transform)
    {seeds : List Path} (hseeds : ∀ seed ∈ seeds, seed.isAbsolute = true) (w : World) :
    ∃ made after, (campaign.recordAll transforms seeds).exec w = (.ok made, after) ∧
      Recorded campaign.settings.cleanup w.files seeds made after.files := by
  induction seeds generalizing w with
  | nil => exact ⟨[], w, rfl, .nil _ _⟩
  | cons seed rest ih =>
    obtain ⟨hseed, hrest⟩ := List.forall_mem_cons.mp hseeds
    obtain ⟨answer, w', hfirst, hrenewed, hfresh⟩ := exec_recordSeed campaign transforms seed w
    obtain ⟨noted, hfiles, hrun⟩ := exec_recordAll_cons huncancelled hfirst rest
    rw [Path.absolute_of_isAbsolute hseed, ← hfiles] at hrenewed hfresh
    obtain ⟨more, after, hmore, hrecorded⟩ := ih hrest noted
    exact ⟨_, after, hrun more after hmore, .cons hrenewed hfresh hrecorded⟩

end Crosscheck.Analysis.Campaign
