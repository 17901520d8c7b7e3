import Crosscheck.Mutation.Generate
import Crosscheck.Proofs.Action
import Crosscheck.Proofs.Files.Access
import Crosscheck.Proofs.Mutation.Naming
/-!
# Attempts at mutants

A generation is a sequence of attempts: each transform whose scan succeeds at each of its sites. One
attempt takes the mutants made so far and the files to those after it (`Attempt.trial`), and a
generation does so for one attempt after the other (`exec_generate`). All mutants of a seed stand in
the directory of the seed, at their `place`s.
-/

namespace Crosscheck.Mutation

open Crosscheck.Files Crosscheck.Text Crosscheck.Java Crosscheck.Variation

/-- A transform at one of its sites, and how many of its attempts go before. -/
structure Attempt where
  transform : Transform
  before : Nat
  site : Site

/-- The attempts of a transform, one for each site. There are none if the scan fails. -/
def Transform.attempts (tree : Node) (transform : Transform) : List Attempt :=
  match transform.scan tree with
  | .error _ => []
  | .ok sites => sites.mapIdx fun before site => ⟨transform, before, site⟩

/-- The attempts of transforms, in the order of the transforms and of their scans. -/
def attempts (tree : Node) (transforms : List Transform) : List Attempt :=
  transforms.flatMap (Transform.attempts tree)

namespace Attempt

/-- The source as the attempt changes it, if it does. -/
def edit? (source : Bytes) (tree : Node) (a : Attempt) : Option Bytes :=
  match a.transform.apply a.before a.site source tree with
  | .ok (.edited edited) => some edited
  | _ => none

/-- The record of the attempt under a number. -/
def mutant (seed : Path) (number : Nat) (a : Attempt) : Mutant :=
  ⟨mutantPath seed number, seed, a.transform.name, a.site, number⟩

@[simp] theorem path_mutant (seed : Path) (number : Nat) (a : Attempt) :
    (a.mutant seed number).path = mutantPath seed number := by
  simp only [mutant]

/-- What an attempt makes of the mutants so far and the files. -/
def trial (seed : Path) (source : Bytes) (tree : Node) (state : List Mutant × FileSystem)
    (a : Attempt) : List Mutant × FileSystem :=
  match a.edit? source tree with
  | none => state
  | some edited =>
    match state.2.write (mutantPath seed (state.1.length + 1 : Nat)) edited with
    | .error _ => state
    | .ok fs => (state.1 ++ [a.mutant seed (state.1.length + 1)], fs)

end Attempt

section Generation

variable (seed : Path) (source : Bytes) (tree : Node)

/-- A site that is tried does what the attempt does. -/
theorem exec_tryAt (transform : Transform) (before : Nat) (site : Site) (made : List Mutant)
    (w : World) :
    ∃ mutant? after, (tryAt seed source tree transform before made.length site).exec w =
        (.ok mutant?, after) ∧
      Attempt.trial seed source tree (made, w.files) ⟨transform, before, site⟩ =
        (made ++ mutant?.toList, after.files) := by
  unfold tryAt Attempt.trial Attempt.edit?
  cases transform.apply before site source tree with
  | error fault => exact ⟨none, _, rfl, by simp⟩
  | ok outcome =>
    cases outcome with
    | declined => exact ⟨none, w, rfl, by simp⟩
    | broken text => exact ⟨none, w, rfl, by simp⟩
    | edited edited =>
      have hnumber : ((made.length + 1 : Nat) : Int) = (made.length : Int) + 1 :=
        Int.natCast_add _ _
      dsimp only [Attempt.mutant]
      rw [Action.exec_bind_of_ok (Action.exec_files w), hnumber]
      cases w.files.write (mutantPath seed (made.length + 1)) edited with
      | error e => exact ⟨none, _, rfl, by simp⟩
      | ok fs => exact ⟨some _, _, rfl, rfl⟩

/-- Sites that are tried do what their attempts do, one after the other. -/
theorem exec_trySites (transform : Transform) (sites : List Site) :
    ∀ (before : Nat) (made : List Mutant) (w : World),
      ∃ made' after, (trySites seed source tree transform before sites made).exec w =
          (.ok made', after) ∧
        (sites.mapIdx fun i site => ⟨transform, before + i, site⟩).foldl
          (Attempt.trial seed source tree) (made, w.files) = (made', after.files) := by
  induction sites with
  | nil => exact fun _ made w => ⟨made, w, rfl, rfl⟩
  | cons site rest ih =>
    intro before made w
    obtain ⟨mutant?, w', htry, htrial⟩ := exec_tryAt seed source tree transform before site made w
    obtain ⟨made', after, hrest, hfold⟩ := ih (before + 1) (made ++ mutant?.toList) w'
    refine ⟨made', after, ?_, ?_⟩
    · unfold trySites
      rw [Action.exec_bind_of_ok htry, hrest]
    · rw [List.mapIdx_cons, List.foldl_cons, Nat.add_zero, htrial, ← hfold]
      simp only [Nat.add_assoc, Nat.add_comm 1]

/-- Transforms that are tried do what all attempts do, one after the other. -/
theorem exec_tryTransforms (transforms : List Transform) :
    ∀ (made : List Mutant) (w : World),
      ∃ made' after, (tryTransforms seed source tree transforms made).exec w =
          (.ok made', after) ∧
        (attempts tree transforms).foldl (Attempt.trial seed source tree) (made, w.files) =
          (made', after.files) := by
  induction transforms with
  | nil => exact fun made w => ⟨made, w, rfl, rfl⟩
  | cons transform rest ih =>
    intro made w
    unfold tryTransforms attempts
    rw [List.flatMap_cons, List.foldl_append]
    unfold Transform.attempts
    cases transform.scan tree with
    | error fault =>
      dsimp only
      rw [Action.exec_bind_of_ok (Action.exec_note w _ _)]
      exact ih made _
    | ok sites =>
      obtain ⟨made', w', hsites, hfold⟩ :=
        exec_trySites seed source tree transform sites 0 made w
      simp only [Nat.zero_add] at hfold
      dsimp only
      rw [Action.exec_bind_of_ok hsites, hfold]
      exact ih made' w'

end Generation

variable {seed : Path} {source : Bytes} {tree : Node} {w : World}

/-- A generation from a source that can be read is one attempt after the other. -/
theorem exec_generate (transforms : List Transform)
    (hread : w.files.read seed.absolute = .ok source)
    (hparse : parse source = some tree) :
    ∃ made after, (generate seed transforms).exec w = (.ok made, after) ∧
      (attempts tree transforms).foldl (Attempt.trial seed.absolute source tree) ([], w.files) =
        (made, after.files) := by
  obtain ⟨made, after, hrun, hfold⟩ :=
    exec_tryTransforms seed.absolute source tree transforms [] w
  refine ⟨made, after, ?_, hfold⟩
  unfold generate
  rw [Action.exec_bind_of_ok (Action.exec_files w)]
  simp only [hread, hparse]
  exact hrun

/-- A generation from a source that cannot be read leaves the files. -/
theorem exec_generate_of_unread (transforms : List Transform)
    (h : ∀ source, w.files.read seed.absolute = .ok source → parse source = none) :
    ∃ after, (generate seed transforms).exec w = (.ok [], after) ∧ after.files = w.files := by
  unfold generate
  rw [Action.exec_bind_of_ok (Action.exec_files w)]
  cases hread : w.files.read seed.absolute with
  | error e => exact ⟨_, rfl, rfl⟩
  | ok source =>
    simp only [h source hread]
    exact ⟨_, rfl, rfl⟩

/-! ## Where the mutants stand -/

/-- A seed and its mutants among files: the seed is a file in a directory, by its own name. -/
structure Den (fs : FileSystem) (seed : Path) (home : Location) (source : Bytes) : Prop where
  isAbsolute : seed.isAbsolute = true
  isName : isName seed.name = true
  directory : fs.find? home = some .directory
  parent : fs.locate ⟨seed.root, seed.parts.dropLast⟩ = .ok home
  locate : fs.locate seed = .ok (home ++ [seed.name])
  file : fs.find? (home ++ [seed.name]) = some (.file source)

/-- A seed that can be read is a file in a directory. -/
theorem exists_den {fs : FileSystem} (habsolute : seed.isAbsolute = true)
    (hread : fs.read seed = .ok source) : ∃ home, Den fs seed home source := by
  obtain ⟨loc, hloc, hfile⟩ := FileSystem.read_eq_ok_iff.mp hread
  obtain ⟨home, hparent, hdir, rfl, hname, -⟩ :=
    FileSystem.exists_home_of_file habsolute hloc hfile
  exact ⟨home, habsolute, hname, hdir, hparent, hloc, hfile⟩

theorem Den.read {fs : FileSystem} {home : Location} (h : Den fs seed home source) :
    fs.read seed = .ok source :=
  FileSystem.read_eq_ok_iff.mpr ⟨_, h.locate, h.file⟩

/-- A generation has nothing to read at its seed, or the seed stands in a directory with a source
that can be parsed. -/
theorem unread_or_den (fs : FileSystem) (habsolute : seed.isAbsolute = true) :
    (∀ source, fs.read seed = .ok source → parse source = none) ∨
      ∃ home source tree, Den fs seed home source ∧ parse source = some tree := by
  refine or_iff_not_imp_left.mpr fun hunread => ?_
  push Not at hunread
  obtain ⟨source, hread, hparses⟩ := hunread
  obtain ⟨tree, hparse⟩ := Option.ne_none_iff_exists'.mp hparses
  obtain ⟨home, hden⟩ := exists_den habsolute hread
  exact ⟨home, source, tree, hden, hparse⟩

/-- The location of a numbered mutant of a seed in a directory. -/
def place (home : Location) (seed : Path) (number : Nat) : Location :=
  home ++ [mutantName seed number]

/-- Mutants with different numbers have different places. -/
theorem place_injective (home : Location) (seed : Path) : Function.Injective (place home seed) := by
  intro i j h
  exact mutantName_injective seed (by simpa [place] using h)

/-- No mutant stands in the place of its seed. -/
theorem place_ne (home : Location) (seed : Path) (number : Nat) :
    place home seed number ≠ home ++ [seed.name] := by
  intro h
  exact mutantName_ne_name seed number (by simpa [place] using h)

namespace Den

variable {fs after : FileSystem} {home : Location}

/-- The path of a mutant leads beside the seed. -/
theorem locate_mutantPath (h : Den fs seed home source) (number : Nat) :
    fs.locate (mutantPath seed number) = .ok (place home seed number) := by
  have hroot : (⟨seed.root, seed.parts.dropLast⟩ : Path).isAbsolute = true := h.isAbsolute
  rw [mutantPath_eq h.isAbsolute h.isName]
  exact (FileSystem.locate_concat_eq_ok hroot).mpr
    ⟨home, h.parent, h.directory, (Location.go_of_isName (isName_mutantName h.isName _) _).symm⟩

/-- A file can be written under a number unless a directory is in its place. -/
theorem write_eq_ok_iff (hden : Den fs seed home source)
    (hdirs : FileSystem.SameDirectories fs after) (number : Nat) (edited : Bytes)
    (written : FileSystem) :
    after.write (mutantPath seed number) edited = .ok written ↔
      ∃ h : after.CanPut (place home seed number) (.file edited), after.put _ _ h = written :=
  FileSystem.write_eq_ok_iff_of_locate (hdirs.locate_eq_ok_iff.mpr (hden.locate_mutantPath number))

/-- Whether a file can be written under a number depends on the directories alone. -/
theorem exists_write_iff (hden : Den fs seed home source)
    (hdirs : FileSystem.SameDirectories fs after) (number : Nat) (edited : Bytes) :
    (∃ written, after.write (mutantPath seed number) edited = .ok written) ↔
      fs.CanPut (place home seed number) (.file edited) := by
  simp only [hden.write_eq_ok_iff hdirs]
  rw [← hdirs.canPut_file_iff]
  constructor
  · rintro ⟨_, h, _⟩
    exact h
  · exact fun h => ⟨_, h, rfl⟩

theorem read_mutantPath_iff (hden : Den fs seed home source)
    (hdirs : FileSystem.SameDirectories fs after) (number : Nat) (edited : Bytes) :
    after.read (mutantPath seed number) = .ok edited ↔
      after.find? (place home seed number) = some (.file edited) :=
  FileSystem.read_eq_ok_iff_of_locate (hdirs.locate_eq_ok_iff.mpr (hden.locate_mutantPath number))

theorem read_seed_iff (hden : Den fs seed home source)
    (hdirs : FileSystem.SameDirectories fs after) :
    after.read seed = .ok source ↔ after.find? (home ++ [seed.name]) = some (.file source) :=
  FileSystem.read_eq_ok_iff_of_locate (hdirs.locate_eq_ok_iff.mpr hden.locate)

end Den

end Crosscheck.Mutation
