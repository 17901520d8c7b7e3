import Crosscheck.Native.Format
import Crosscheck.Proofs.Comparison
import Crosscheck.Proofs.Files.Access
/-!
# Where reported names lead

A name from the root stands for itself. Any other is looked up in the scanned folder, as it is and,
where nothing is there, by its last part; so it comes to one of two paths (`cases_of_resolve`).
Looking up can be refused, and that for one reason: the path is too long. A name is resolved exactly
if it is `Reachable` (`exists_resolve_iff`), and else the refusal is all there is
(`resolve_eq_error`).
-/

namespace Crosscheck.Native

open Crosscheck.Files

variable {fs : FileSystem} {folder : Path} {name : String}

/-! ## Looking up -/

theorem isThere_of_isPresent {path : Path} (h : fs.isPresent path = true) :
    isThere fs path = .ok true := by
  unfold isThere
  rw [FileSystem.lookUp_of_isPresent h]

theorem isThere_of_admits {path : Path} (h : fs.Admits path) :
    isThere fs path = .ok (fs.isPresent path) := by
  unfold isThere
  rw [FileSystem.lookUp_of_admits h]

theorem isThere_of_not_admits {path : Path} (h : ¬ fs.Admits path) :
    isThere fs path = .error (.access ⟨.nameTooLong, path.render⟩) := by
  unfold isThere
  rw [FileSystem.lookUp_of_not_admits h]

/-- What follows a look-up that is answered. -/
theorem answered_bind {α β : Type} (a : α) (next : α → Except Fault β) :
    (Except.ok a >>= next) = next a := rfl

/-! ## Resolving -/

/-- A name from the root stands for itself. -/
theorem resolve_of_isAbsolute (h : (Path.ofString name).isAbsolute = true) :
    resolve fs folder name = .ok (Path.ofString name).render := if_pos h

/-- Any other name is looked up from the folder, and then by its last part. -/
theorem resolve_of_not_isAbsolute (h : (Path.ofString name).isAbsolute = false) :
    resolve fs folder name = do
      if ← isThere fs (folder.child name) then return (folder.child name).absolute.render
      return (if ← isThere fs (folder.child (Path.ofString name).name) then
        folder.child (Path.ofString name).name else folder.child name).absolute.render := by
  unfold resolve
  dsimp only
  rw [h, if_neg Bool.false_ne_true]
  rfl

/-- A relative name of something in the folder leads there. -/
theorem resolve_of_isPresent (h : (Path.ofString name).isAbsolute = false)
    (hpresent : fs.isPresent (folder.child name) = true) :
    resolve fs folder name = .ok (folder.child name).absolute.render := by
  rw [resolve_of_not_isAbsolute h, isThere_of_isPresent hpresent]
  rfl

/-- A relative name of nothing in the folder is looked up by its last part. -/
theorem resolve_of_not_isPresent (h : (Path.ofString name).isAbsolute = false)
    (hnot : fs.isPresent (folder.child name) = false)
    (hshort : fs.isTooLong (folder.child name) = false) :
    resolve fs folder name = do
      return (if ← isThere fs (folder.child (Path.ofString name).name) then
        folder.child (Path.ofString name).name else folder.child name).absolute.render := by
  rw [resolve_of_not_isAbsolute h, isThere_of_admits (.inr hshort), hnot, answered_bind,
    if_neg Bool.false_ne_true]

/-- Whether a name can be resolved: it is one from the root, or leads to something in the folder, or
both places where it is looked up can be. -/
def Reachable (fs : FileSystem) (folder : Path) (name : String) : Prop :=
  (Path.ofString name).isAbsolute = true ∨ fs.isPresent (folder.child name) = true ∨
    (fs.isTooLong (folder.child name) = false ∧
      fs.Admits (folder.child (Path.ofString name).name))

theorem exists_resolve_of_reachable (h : Reachable fs folder name) :
    ∃ text, resolve fs folder name = .ok text := by
  cases habsolute : (Path.ofString name).isAbsolute with
  | true => exact ⟨_, resolve_of_isAbsolute habsolute⟩
  | false =>
    cases hpresent : fs.isPresent (folder.child name) with
    | true => exact ⟨_, resolve_of_isPresent habsolute hpresent⟩
    | false =>
      obtain ⟨hshort, hinside⟩ := (h.resolve_left (by rw [habsolute]; exact nofun)).resolve_left
        (by rw [hpresent]; exact nofun)
      rw [resolve_of_not_isPresent habsolute hpresent hshort, isThere_of_admits hinside]
      exact ⟨_, rfl⟩

/-- A name that cannot be resolved is refused for its length. -/
theorem resolve_eq_error (h : ¬ Reachable fs folder name) :
    ∃ subject, resolve fs folder name = .error (.access ⟨.nameTooLong, subject⟩) := by
  unfold Reachable at h
  push Not at h
  obtain ⟨habsolute, hpresent, hlong⟩ := h
  rw [ne_eq, Bool.not_eq_true] at habsolute hpresent
  cases hshort : fs.isTooLong (folder.child name) with
  | true =>
    have hrefused : ¬ fs.Admits (folder.child name) := by
      unfold FileSystem.Admits
      rw [hpresent, hshort]
      exact fun h => h.elim nofun nofun
    rw [resolve_of_not_isAbsolute habsolute, isThere_of_not_admits hrefused]
    exact ⟨_, rfl⟩
  | false =>
    rw [resolve_of_not_isPresent habsolute hpresent hshort, isThere_of_not_admits (hlong hshort)]
    exact ⟨_, rfl⟩

/-- A name is resolved exactly if no look-up that it needs is refused. -/
theorem exists_resolve_iff :
    (∃ text, resolve fs folder name = .ok text) ↔ Reachable fs folder name := by
  refine ⟨fun ⟨text, htext⟩ => ?_, exists_resolve_of_reachable⟩
  by_contra h
  obtain ⟨subject, herror⟩ := resolve_eq_error h
  exact nomatch htext.symm.trans herror

/-- What a name is resolved to: its own path, the one that it leads to from the folder, or the one
that its last part leads to. -/
theorem cases_of_resolve {text : String} (h : resolve fs folder name = .ok text) :
    ((Path.ofString name).isAbsolute = true ∧ text = (Path.ofString name).render) ∨
    ((Path.ofString name).isAbsolute = false ∧
      (text = (folder.child name).absolute.render ∨
        text = (folder.child (Path.ofString name).name).absolute.render)) := by
  cases habsolute : (Path.ofString name).isAbsolute with
  | true =>
    rw [resolve_of_isAbsolute habsolute] at h
    exact .inl ⟨rfl, (Except.ok.inj h).symm⟩
  | false =>
    refine .inr ⟨rfl, ?_⟩
    rw [resolve_of_not_isAbsolute habsolute] at h
    obtain ⟨direct, -, h⟩ := bind_eq_ok_iff.mp h
    split at h
    · exact .inl (Except.ok.inj h).symm
    · obtain ⟨inside, -, h⟩ := bind_eq_ok_iff.mp h
      have htext := (Except.ok.inj h).symm
      split at htext
      · exact .inr htext
      · exact .inl htext

/-- Names are resolved by what is there, not by what is in it. -/
theorem resolve_congr {after : FileSystem}
    (h : ∀ path, after.isPresent path = fs.isPresent path) : resolve after = resolve fs := by
  have hthere : isThere after = isThere fs := by
    funext path
    unfold isThere
    rw [FileSystem.lookUp_congr h path]
  funext folder name
  unfold resolve
  rw [hthere]

end Crosscheck.Native
