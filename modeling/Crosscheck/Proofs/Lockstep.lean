import Crosscheck.Proofs.Action
import Crosscheck.Proofs.Files.Likeness
/-!
# Actions in lockstep

An action that runs in `Lockstep` for a relation of worlds has the same answer in related worlds and
leaves them related, however it ends. The relations here are about files that are related in two
worlds that are otherwise the same (`Twins`), or otherwise not compared.
-/

namespace Crosscheck

open Crosscheck.Files

/-- Worlds that are the same but for their files. -/
def World.Twins (w w' : World) : Prop := { w' with files := w.files } = w

/-- Worlds with related files. -/
structure Beside (same : World → World → Prop) (like : FileSystem → FileSystem → Prop)
    (w w' : World) : Prop where
  same : same w w'
  files : like w.files w'.files

/-- A relation of worlds that takes no notice of their files, and is kept by a notice. -/
structure Unmoved (same : World → World → Prop) : Prop where
  setFiles : ∀ {w w' : World} (a b : FileSystem), same w w' →
    same { w with files := a } { w' with files := b }
  note : ∀ {w w' : World} (notice : Notice), same w w' →
    same { w with journal := w.journal ++ [notice] } { w' with journal := w'.journal ++ [notice] }

/-- Twins with the same files are the same. -/
theorem World.Twins.eq {w w' : World} (h : w.Twins w') (hfiles : w'.files = w.files) : w' = w := by
  unfold World.Twins at h
  rw [← hfiles] at h
  exact h

theorem World.Twins.symm {w w' : World} (h : w.Twins w') : w'.Twins w := by
  unfold World.Twins at h ⊢
  rw [← h]

theorem World.Twins.script_eq {w w' : World} (h : w.Twins w') : w'.script = w.script :=
  calc w'.script = ({ w' with files := w.files } : World).script := rfl
    _ = w.script := congrArg World.script h

theorem World.Twins.ledger_eq {w w' : World} (h : w.Twins w') : w'.ledger = w.ledger :=
  calc w'.ledger = ({ w' with files := w.files } : World).ledger := rfl
    _ = w.ledger := congrArg World.ledger h

/-- A change of anything but the files leaves twins. -/
theorem World.Twins.change {w w' : World} (h : w.Twins w') (f : World → World)
    (hf : ∀ (v : World) (fs : FileSystem), f { v with files := fs } = { f v with files := fs }) :
    (f w).Twins (f w') := by
  unfold World.Twins at h ⊢
  have hfiles : (f w).files = ({ f w with files := w.files } : World).files :=
    congrArg World.files (hf w w.files)
  rw [hfiles, ← hf, h]

theorem unmoved_twins : Unmoved World.Twins where
  setFiles a b h := by
    unfold World.Twins at h ⊢
    rw [← h]
  note notice h := h.change (fun w => { w with journal := w.journal ++ [notice] }) fun _ _ => rfl

namespace Action

variable {α β : Type} {R : World → World → Prop} {same : World → World → Prop}
  {like : FileSystem → FileSystem → Prop}

/-- An action that has the same answer in related worlds and leaves them related. -/
def Lockstep (R : World → World → Prop) (action : Action α) : Prop :=
  ∀ w w', R w w' → (exec action w').1 = (exec action w).1 ∧ R (exec action w).2 (exec action w').2

namespace Lockstep

theorem pure (a : α) : Lockstep R (Pure.pure a) := fun _ _ h => ⟨rfl, h⟩

theorem throw (fault : Fault) : Lockstep R (throw fault : Action α) := fun _ _ h => ⟨rfl, h⟩

/-- Steps in lockstep make an action in lockstep. -/
theorem bind {action : Action α} {next : α → Action β} (h : Lockstep R action)
    (hnext : ∀ a, Lockstep R (next a)) : Lockstep R (action >>= next) := by
  intro w w' hw
  obtain ⟨hanswer, hafter⟩ := h w w' hw
  rw [exec_bind, exec_bind]
  rcases hrun : exec action w with ⟨answer, after⟩
  rcases hrun' : exec action w' with ⟨answer', after'⟩
  rw [hrun, hrun'] at hanswer hafter
  obtain rfl : answer' = answer := hanswer
  cases answer' with
  | error fault => exact ⟨rfl, hafter⟩
  | ok a => exact hnext a after after' hafter

/-- A fault that is caught comes in both worlds or in neither. -/
theorem attempt {action : Action α} (h : Lockstep R action) : Lockstep R (attempt action) := by
  intro w w' hw
  obtain ⟨hanswer, hafter⟩ := h w w' hw
  rw [exec_attempt, exec_attempt, hanswer]
  exact ⟨rfl, hafter⟩

/-- An action that begins with a look at the files. -/
theorem files_bind {next : FileSystem → Action β}
    (h : ∀ w w', R w w' → (exec (next w'.files) w').1 = (exec (next w.files) w).1 ∧
      R (exec (next w.files) w).2 (exec (next w'.files) w').2) : Lockstep R (files >>= next) := by
  intro w w' hw
  rw [exec_bind_of_ok (exec_files w), exec_bind_of_ok (exec_files w')]
  exact h w w' hw

/-- A message goes to both logs. -/
theorem note (hsame : Unmoved same) (gravity : Gravity) (message : String) :
    Lockstep (Beside same like) (note gravity message) :=
  fun _ _ h => ⟨rfl, hsame.note _ h.same, h.files⟩

end Lockstep

/-- Files that are set alike stay alike. -/
theorem Beside.setFiles (hsame : Unmoved same) {w w' : World} (h : same w w') {a b : FileSystem}
    (hlike : like a b) : Beside same like { w with files := a } { w' with files := b } :=
  ⟨hsame.setFiles a b h, hlike⟩

/-- What an access leaves of the files, and its answer. -/
theorem exec_access_settled (f : FileSystem → Except AccessError FileSystem) (w : World) :
    exec (access f) w =
      ((w.files.settled (f w.files)).2.elim (.ok ⟨⟩) fun e => .error (.access e),
        { w with files := (w.files.settled (f w.files)).1 }) := by
  rw [exec_access]
  cases f w.files <;> rfl

/-- Directories are made in lockstep where nothing differs on the way. -/
theorem Lockstep.makeDirectories (hsame : Unmoved same) {places : Location → Prop} {path : Path}
    (hpath : FileSystem.Avoids places path) :
    Lockstep (Beside same (FileSystem.AlikeBut places)) (makeDirectories path) := by
  intro w w' hw
  obtain ⟨hlike, hrefused⟩ := hw.files.makeDirectories hpath
  rw [exec_makeDirectories, exec_makeDirectories, hrefused]
  exact ⟨rfl, hsame.setFiles _ _ hw.same, hlike⟩

/-- Accesses that end alike are answered alike. -/
theorem beside_access (hsame : Unmoved same) {w w' : World} (h : same w w')
    {f : FileSystem → Except AccessError FileSystem}
    (hf : FileSystem.Abreast like (w.files.settled (f w.files)) (w'.files.settled (f w'.files))) :
    (exec (access f) w').1 = (exec (access f) w).1 ∧
      Beside same like (exec (access f) w).2 (exec (access f) w').2 := by
  rw [exec_access_settled, exec_access_settled, hf.2]
  exact ⟨rfl, hsame.setFiles _ _ h, hf.1⟩

end Action

end Crosscheck
