import Crosscheck.Proofs.Action
import Crosscheck.Proofs.Files.Access
/-!
# Edits of files

A chain of edits puts and removes single files at locations that are allowed. Whatever its length,
everything elsewhere and all directories are as before. `Confined` actions do nothing else to the
files; it passes from the steps of an action to the whole.
-/

namespace Crosscheck.Files

/-- A chain of edits at allowed locations: files that are written, anew or in place of others, and
files that are removed. -/
inductive Edits (allowed : Location → Prop) : FileSystem → FileSystem → Prop
  | refl (fs : FileSystem) : Edits allowed fs fs
  | put {before after : FileSystem} {loc : Location} {content : Text.Bytes} :
    Edits allowed before after → allowed loc → (h : after.CanPut loc (.file content)) →
      Edits allowed before (after.put loc _ h)
  | erase {before after : FileSystem} {loc : Location} {content : Text.Bytes} :
    Edits allowed before after → allowed loc → after.find? loc = some (.file content) →
      Edits allowed before (after.erase loc)

namespace Edits

variable {allowed other : Location → Prop} {a b c : FileSystem} {l : Location}

/-- Edits one after the other are edits. -/
theorem trans (hab : Edits allowed a b) (hbc : Edits allowed b c) : Edits allowed a c := by
  induction hbc with
  | refl => exact hab
  | put _ hloc hput ih => exact .put ih hloc hput
  | erase _ hloc hfile ih => exact .erase ih hloc hfile

/-- Where more is allowed, the same edits are. -/
theorem mono (h : Edits allowed a b) (hsub : ∀ l, allowed l → other l) : Edits other a b := by
  induction h with
  | refl => exact .refl _
  | put _ hloc hput ih => exact .put ih (hsub _ hloc) hput
  | erase _ hloc hfile ih => exact .erase ih (hsub _ hloc) hfile

/-- Edits touch no directory. -/
theorem sameDirectories (h : Edits allowed a b) : FileSystem.SameDirectories a b := by
  induction h with
  | refl => exact .refl _
  | put _ _ hput ih => exact ih.trans (FileSystem.sameDirectories_put hput)
  | erase _ _ hfile ih => exact ih.trans (FileSystem.sameDirectories_erase hfile)

/-- Edits leave what is found elsewhere. -/
theorem find?_eq (h : Edits allowed a b) (hl : ¬ allowed l) : b.find? l = a.find? l := by
  induction h with
  | refl => rfl
  | put _ hloc hput ih =>
    rw [FileSystem.find?_put_of_ne hput, ih]
    rintro rfl
    exact hl hloc
  | erase _ hloc hfile ih =>
    rw [FileSystem.find?_erase_file hfile, if_neg, ih]
    rintro rfl
    exact hl hloc

end Edits

namespace FileSystem

variable {fs : FileSystem} {path : Path} {loc : Location}

/-- A file that can be reached and removed is gone, and everything else is as it was. One that is
not there is removed just as well. -/
theorem exists_of_unlinkIfPresent (hloc : fs.locate path = .ok loc)
    (hfree : fs.find? loc ≠ some .directory) :
    ∃ after, fs.unlinkIfPresent path = .ok after ∧ Edits (· = loc) fs after ∧
      ∀ l, after.find? l = if l = loc then none else fs.find? l := by
  unfold unlinkIfPresent unlink refuse
  rw [hloc]
  cases hfound : fs.find? loc with
  | none =>
    refine ⟨fs, by simp [hfound], .refl fs, fun l => ?_⟩
    split
    · next hl => rw [hl, hfound]
    · rfl
  | some entry =>
    cases entry with
    | file content =>
      exact ⟨fs.erase loc, by simp [hfound], @Edits.erase (· = loc) _ _ _ _ (.refl fs) rfl hfound,
        find?_erase_file hfound⟩
    | directory => exact absurd hfound hfree

/-- A directory is not removed. -/
theorem unlinkIfPresent_of_directory (hloc : fs.locate path = .ok loc)
    (hdirectory : fs.find? loc = some .directory) :
    fs.unlinkIfPresent path = .error ⟨.isDirectory, path.render⟩ := by
  unfold unlinkIfPresent unlink refuse
  rw [hloc]
  simp only [hdirectory]

end FileSystem

end Crosscheck.Files

namespace Crosscheck.Action

open Crosscheck.Files

variable {α β : Type} {base : FileSystem} {allowed : Location → Prop}

/-- An action that only edits files at allowed locations, in worlds with the directories that the
locations are meant for. -/
def Confined (base : FileSystem) (allowed : Location → Prop) (action : Action α) : Prop :=
  ∀ w, FileSystem.SameDirectories base w.files → Edits allowed w.files (exec action w).2.files

namespace Confined

/-- An action that leaves the files makes no edits. -/
theorem of_files_eq {action : Action α} (h : ∀ w, (exec action w).2.files = w.files) :
    Confined base allowed action := by
  intro w _
  rw [h w]
  exact .refl _

theorem pure (a : α) : Confined base allowed (Pure.pure a) := of_files_eq fun _ => rfl

theorem throw (fault : Fault) : Confined base allowed (throw fault : Action α) :=
  of_files_eq fun _ => rfl

theorem note (gravity : Gravity) (message : String) :
    Confined base allowed (note gravity message) := of_files_eq fun _ => rfl

/-- Confined steps make a confined action. -/
theorem bind {action : Action α} {next : α → Action β} (h : Confined base allowed action)
    (hnext : ∀ a, Confined base allowed (next a)) : Confined base allowed (action >>= next) := by
  intro w hbase
  refine after_bind (fun after => Edits allowed w.files after.files) (h w hbase) ?_
  exact fun a w' hfirst => hfirst.trans (hnext a w' (hbase.trans hfirst.sameDirectories))

/-- What comes after a look at the files may count on their directories. -/
theorem files_bind {next : FileSystem → Action β}
    (h : ∀ w, FileSystem.SameDirectories base w.files →
      Edits allowed w.files (exec (next w.files) w).2.files) :
    Confined base allowed (files >>= next) := by
  intro w hbase
  rw [exec_bind_of_ok (exec_files w)]
  exact h w hbase

theorem attempt {action : Action α} (h : Confined base allowed action) :
    Confined base allowed (attempt action) := h

theorem mono {other : Location → Prop} {action : Action α} (h : Confined base allowed action)
    (hsub : ∀ l, allowed l → other l) : Confined base other action :=
  fun w hbase => (h w hbase).mono hsub

end Confined

end Crosscheck.Action
