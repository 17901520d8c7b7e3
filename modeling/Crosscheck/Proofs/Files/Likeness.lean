import Crosscheck.Proofs.Files.Edits
import Crosscheck.Proofs.Files.Trail
/-!
# Files that differ at some places

Two file systems are `AlikeBut` for some places if they have the same directories and, elsewhere,
the same files. An access that does not lead through such a place comes to the same in both: it is
refused for the same reason, or both are changed and stay alike. A file that is removed in both is a
place less (`AlikeBut.unlinkIfPresent`).
-/

namespace Crosscheck.Files

theorem Location.trail_dropLast_subset (loc : Location) (parts : List String) :
    loc.trail parts.dropLast ⊆ loc.trail parts := by
  rcases List.eq_nil_or_concat' parts with rfl | ⟨front, last, rfl⟩
  · exact List.Subset.refl _
  · rw [List.dropLast_concat, Location.trail_concat]
    exact List.subset_append_left _ _

/-- What leads to a path from the root leads to the directory that it is in. -/
theorem Path.trail_dropLast_subset (path : Path) :
    Location.trail [] path.absolute.parts.dropLast ⊆ path.parent.trail := by
  unfold trail
  by_cases habsolute : path.isAbsolute = true
  · have hparent : path.parent.isAbsolute = true := habsolute
    rw [absolute_of_isAbsolute habsolute, absolute_of_isAbsolute hparent]
    exact List.Subset.refl _
  · have hparent : ¬ path.parent.isAbsolute = true := habsolute
    rw [absolute_of_not habsolute, absolute_of_not hparent]
    show Location.trail [] (workingDirectory.parts ++ path.parts).dropLast ⊆
      Location.trail [] (workingDirectory.parts ++ path.parts.dropLast)
    rcases List.eq_nil_or_concat' path.parts with hnil | ⟨front, last, hparts⟩
    · rw [hnil, List.append_nil]
      exact Location.trail_dropLast_subset [] _
    · rw [hparts, ← List.append_assoc, List.dropLast_concat, List.dropLast_concat]
      exact List.Subset.refl _

/-- A longer path leads through the same places first. -/
theorem Path.trail_subset_concat (root : Root) (parts : List String) (last : String) :
    (⟨root, parts⟩ : Path).trail ⊆ (⟨root, parts ++ [last]⟩ : Path).trail := by
  unfold trail
  by_cases habsolute : (⟨root, parts⟩ : Path).isAbsolute = true
  · have hlong : (⟨root, parts ++ [last]⟩ : Path).isAbsolute = true := habsolute
    rw [absolute_of_isAbsolute habsolute, absolute_of_isAbsolute hlong, Location.trail_concat]
    exact List.subset_append_left _ _
  · have hlong : ¬ (⟨root, parts ++ [last]⟩ : Path).isAbsolute = true := habsolute
    rw [absolute_of_not habsolute, absolute_of_not hlong, ← List.append_assoc,
      Location.trail_concat]
    exact List.subset_append_left _ _

/-- A path leads to the root, or to the last of the places that it leads through. -/
theorem Path.location_mem_trail (path : Path) : path.location = [] ∨ path.location ∈ path.trail := by
  unfold location trail
  rcases List.eq_nil_or_concat' path.absolute.parts with hnil | ⟨front, last, hparts⟩
  · rw [hnil]
    exact .inl rfl
  · rw [hparts, Location.trail_concat]
    exact .inr (List.mem_append_right _ (List.mem_singleton_self _))

namespace FileSystem

variable {a b : FileSystem} {places : Location → Prop} {loc l : Location} {path : Path}
  {entry : Entry} {content : Text.Bytes}

/-! ## Outcomes that correspond -/

/-- Accesses to two file systems that are refused alike, or leave related files. -/
inductive Matched (like : FileSystem → FileSystem → Prop) :
    Except AccessError FileSystem → Except AccessError FileSystem → Prop
  | refused (e : AccessError) : Matched like (.error e) (.error e)
  | changed {a b : FileSystem} : like a b → Matched like (.ok a) (.ok b)

/-- What two changes leave if they end alike: related files, and the same error if any. -/
def Abreast (like : FileSystem → FileSystem → Prop) (x y : FileSystem × Option AccessError) : Prop :=
  like x.1 y.1 ∧ y.2 = x.2

theorem Matched.abreast {like : FileSystem → FileSystem → Prop}
    {x y : Except AccessError FileSystem} (h : Matched like x y) (hlike : like a b) :
    Abreast like (a.settled x) (b.settled y) := by
  cases h with
  | refused e => exact ⟨hlike, rfl⟩
  | changed hchanged => exact ⟨hchanged, rfl⟩

/-! ## Directories alone -/

/-- Whether a path names a directory depends on the directories. -/
theorem SameDirectories.isDirectory_eq (h : SameDirectories a b) (path : Path) :
    b.isDirectory path = a.isDirectory path := by
  rw [Bool.eq_iff_iff, isDirectory_iff, isDirectory_iff]
  simp only [h.locate_eq_ok_iff, h _]

/-- Whether an entry may be put at a location depends on the directories. -/
theorem SameDirectories.canPut_iff (h : SameDirectories a b) :
    b.CanPut loc entry ↔ a.CanPut loc entry := by
  simp only [CanPut, h loc.dropLast, ne_eq, h loc]

/-! ## Ways -/

/-- A way is followed alike where the same is found on it, whatever is found at its end. -/
theorem follow_congr {parts : List String} (hloc : b.find? loc = a.find? loc)
    (h : ∀ x ∈ loc.trail parts.dropLast, b.find? x = a.find? x) :
    b.follow loc parts = a.follow loc parts := by
  induction parts generalizing loc with
  | nil => rfl
  | cons part rest ih =>
    rw [follow_cons, follow_cons, hloc]
    cases rest with
    | nil => rfl
    | cons next more =>
      rw [List.dropLast_cons_cons] at h
      obtain ⟨hnext, hrest⟩ := List.forall_mem_cons.mp h
      rw [ih hnext hrest]

/-! ## Alike but for some places -/

/-- File systems with the same directories and, elsewhere than at the places, the same files. -/
structure AlikeBut (places : Location → Prop) (a b : FileSystem) : Prop where
  directories : SameDirectories a b
  elsewhere : ∀ l, ¬ places l → b.find? l = a.find? l

/-- Whether no part of a path leads to one of the places. -/
def Avoids (places : Location → Prop) (path : Path) : Prop := ∀ l ∈ path.trail, ¬ places l

/-- A path that avoids places is in a directory that does. -/
theorem Avoids.parent (h : Avoids places path) : Avoids places path.parent := by
  obtain ⟨root, parts⟩ := path
  rcases List.eq_nil_or_concat' parts with rfl | ⟨front, last, rfl⟩
  · exact h
  · have hfront : (⟨root, front ++ [last]⟩ : Path).parent = ⟨root, front⟩ := by simp [Path.parent]
    rw [hfront]
    exact fun l hl => h l (Path.trail_subset_concat root front last hl)

namespace AlikeBut

theorem mono {others : Location → Prop} (h : AlikeBut places a b)
    (hplaces : ∀ l, places l → others l) : AlikeBut others a b :=
  ⟨h.directories, fun l hl => h.elsewhere l (mt (hplaces l) hl)⟩

/-- A place where the same is found is none. -/
theorem without (h : AlikeBut places a b) (hloc : b.find? loc = a.find? loc) :
    AlikeBut (fun l => places l ∧ l ≠ loc) a b := by
  refine ⟨h.directories, fun l hl => ?_⟩
  by_cases hsame : l = loc
  · rw [hsame, hloc]
  · exact h.elsewhere l fun hplace => hl ⟨hplace, hsame⟩

theorem eq (h : AlikeBut places a b) (hnone : ∀ l, ¬ places l) : b = a :=
  ext_find? fun l => h.elsewhere l (hnone l)

theorem put (h : AlikeBut places a b) (ha : a.CanPut loc entry) (hb : b.CanPut loc entry) :
    AlikeBut places (a.put loc entry ha) (b.put loc entry hb) := by
  refine ⟨fun l => ?_, fun l hl => ?_⟩
  · rw [find?_put, find?_put]
    split
    · rfl
    · exact h.directories l
  · rw [find?_put, find?_put]
    split
    · rfl
    · exact h.elsewhere l hl

theorem locate_eq (h : AlikeBut places a b) (hpath : Avoids places path.parent) :
    b.locate path = a.locate path :=
  follow_congr rfl fun l hl => h.elsewhere l (hpath l (path.trail_dropLast_subset hl))

theorem place (h : AlikeBut places a b) (path : Path) (loc : Location) (entry : Entry) :
    Matched (AlikeBut places) (a.place path loc entry) (b.place path loc entry) := by
  unfold FileSystem.place
  by_cases hput : a.CanPut loc entry
  · rw [dif_pos hput, dif_pos (h.directories.canPut_iff.mpr hput)]
    exact .changed (h.put hput _)
  · rw [dif_neg hput, dif_neg (mt h.directories.canPut_iff.mp hput)]
    exact .refused _

/-- A file is written alike, also in one of the places. -/
theorem write (h : AlikeBut places a b) (hpath : Avoids places path.parent)
    (content : Text.Bytes) :
    Matched (AlikeBut places) (a.write path content) (b.write path content) := by
  have hlocate := h.locate_eq hpath
  have hwrite {fs : FileSystem} {l : Location} (hl : fs.locate path = .ok l) :
      fs.write path content = if fs.find? l = some .directory then refuse path .isDirectory
        else fs.place path l (.file content) := by
    unfold FileSystem.write
    rw [hl]
    dsimp only
    cases hfound : fs.find? l with
    | none => rfl
    | some entry => cases entry <;> rfl
  cases hl : a.locate path with
  | error refusal =>
    have hrefused (fs : FileSystem) (hfs : fs.locate path = .error refusal) :
        fs.write path content = refuse path refusal := by
      unfold FileSystem.write
      rw [hfs]
    rw [hrefused a hl, hrefused b (hlocate.trans hl)]
    exact .refused _
  | ok l =>
    rw [hwrite hl, hwrite (hlocate.trans hl)]
    simp only [h.directories l]
    split
    · exact .refused _
    · exact h.place path l _

/-! ## Making directories -/

theorem ensureDirectory (h : AlikeBut places a b) (hpath : Avoids places path) :
    Matched (AlikeBut places) (a.ensureDirectory path) (b.ensureDirectory path) := by
  have hmade : Matched (AlikeBut places) (a.makeDirectory path) (b.makeDirectory path) := by
    unfold makeDirectory
    rw [h.locate_eq hpath.parent]
    cases hl : a.locate path with
    | error refusal => exact .refused _
    | ok l =>
      have hend : b.find? l = a.find? l := by
        rcases path.location_mem_trail with hroot | hmem
        · rw [locate_eq_location hl, hroot]
          rfl
        · exact h.elsewhere l (hpath l (locate_eq_location hl ▸ hmem))
      dsimp only
      rw [hend]
      cases a.find? l with
      | none => exact h.place path l .directory
      | some entry => exact .refused _
  unfold FileSystem.ensureDirectory
  rw [h.directories.isDirectory_eq]
  generalize a.makeDirectory path = x, b.makeDirectory path = y at hmade
  cases hmade with
  | changed hchanged => exact .changed hchanged
  | refused e =>
    dsimp only
    split
    · exact .changed h
    · exact .refused e

theorem makeDirectoriesFrom (root : Root) (reversed : List String) (h : AlikeBut places a b)
    (hpath : Avoids places ⟨root, reversed.reverse⟩) :
    Abreast (AlikeBut places) (FileSystem.makeDirectoriesFrom root a reversed)
      (FileSystem.makeDirectoriesFrom root b reversed) := by
  induction reversed with
  | nil => exact (h.ensureDirectory hpath).abreast h
  | cons part reversed ih =>
    have hhere := h.ensureDirectory hpath
    have hfront : Avoids places ⟨root, reversed.reverse⟩ := by
      rw [List.reverse_cons] at hpath
      exact fun l hl => hpath l (Path.trail_subset_concat root _ part hl)
    unfold FileSystem.makeDirectoriesFrom
    dsimp only
    generalize a.ensureDirectory ⟨root, (part :: reversed).reverse⟩ = x,
      b.ensureDirectory ⟨root, (part :: reversed).reverse⟩ = y at hhere
    cases hhere with
    | changed hchanged => exact ⟨hchanged, rfl⟩
    | refused e =>
      obtain ⟨refusal, subject⟩ := e
      cases refusal with
      | notFound =>
        obtain ⟨hfirst, hrefused⟩ := ih hfront
        dsimp only
        rcases hmade : FileSystem.makeDirectoriesFrom root a reversed with ⟨made, refused⟩
        rcases hmade' : FileSystem.makeDirectoriesFrom root b reversed with ⟨made', refused'⟩
        rw [hmade, hmade'] at hfirst hrefused
        obtain rfl : refused' = refused := hrefused
        cases refused' with
        | none => exact (hfirst.ensureDirectory hpath).abreast hfirst
        | some e => exact ⟨hfirst, rfl⟩
      | _ => exact ⟨h, rfl⟩

/-- The same directories are made, up to the same error. -/
theorem makeDirectories (h : AlikeBut places a b) (hpath : Avoids places path) :
    Abreast (AlikeBut places) (a.makeDirectories path) (b.makeDirectories path) :=
  h.makeDirectoriesFrom path.root path.parts.reverse (by rwa [List.reverse_reverse])

/-! ## Removing a file -/

/-- A file that is removed if it is there is in neither afterwards, whether it was in one of the
places or not. -/
theorem unlinkIfPresent (h : AlikeBut places a b) (hpath : Avoids places path.parent)
    (hway : places path.location → a.locate path = .ok path.location) :
    Abreast (AlikeBut fun l => places l ∧ l ≠ path.location)
      (a.settled (a.unlinkIfPresent path)) (b.settled (b.unlinkIfPresent path)) := by
  have hlocate := h.locate_eq hpath
  cases hl : a.locate path with
  | error refusal =>
    have hsettled (fs : FileSystem) (hfs : fs.locate path = .error refusal) :
        fs.settled (fs.unlinkIfPresent path) =
          (fs, if refusal = .notFound then none else some ⟨refusal, path.render⟩) := by
      unfold FileSystem.unlinkIfPresent FileSystem.unlink
      rw [hfs]
      cases refusal <;> rfl
    have hclear : ¬ places path.location := fun hplace => by
      rw [hway hplace] at hl
      exact nomatch hl
    rw [hsettled a hl, hsettled b (hlocate.trans hl)]
    exact ⟨h.without (h.elsewhere _ hclear), rfl⟩
  | ok l =>
    obtain rfl := locate_eq_location hl
    by_cases hdirectory : a.find? path.location = some .directory
    · have hdirectory' := (h.directories path.location).mpr hdirectory
      rw [unlinkIfPresent_of_directory hl hdirectory,
        unlinkIfPresent_of_directory (hlocate.trans hl) hdirectory']
      exact ⟨h.without (hdirectory'.trans hdirectory.symm), rfl⟩
    · obtain ⟨after, hafter, -, hfind⟩ := exists_of_unlinkIfPresent hl hdirectory
      obtain ⟨after', hafter', -, hfind'⟩ := exists_of_unlinkIfPresent (hlocate.trans hl)
        (mt (h.directories path.location).mp hdirectory)
      have hremoved : AlikeBut (fun l => places l ∧ l ≠ path.location) after after' := by
        refine ⟨fun l => ?_, fun l hl => ?_⟩
        · rw [hfind, hfind']
          split
          · rfl
          · exact h.directories l
        · rw [hfind, hfind']
          split
          · rfl
          · next hother => exact h.elsewhere l fun hplace => hl ⟨hplace, hother⟩
      rw [hafter, hafter']
      exact ⟨hremoved, rfl⟩

end AlikeBut

end FileSystem

end Crosscheck.Files
