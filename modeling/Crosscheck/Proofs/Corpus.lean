import Crosscheck.Corpus
import Crosscheck.Proofs.Files.Rendering
/-!
# What a corpus lists

The folders of a corpus are directories in it. Which sources, seeds and mutants are listed under a
folder depends on nothing but the way there and the entries by such names:
`filter_descendants_congr` says so for any test of names.
-/

namespace Crosscheck.Corpus

open Crosscheck.Files Crosscheck.Mutation

/-! ## Folders -/

section Folders

variable {fs : FileSystem} {corpus folder : Path}

/-- A folder of a corpus is the corpus itself or a directory in it. -/
theorem mem_folders (h : folder ∈ folders fs corpus) :
    ∃ home, fs.locate corpus.absolute = .ok home ∧ fs.find? home = some .directory ∧
      (folders fs corpus = [corpus.absolute] ∨
        ∃ name, folder = ⟨corpus.absolute.root, corpus.absolute.parts ++ [name]⟩ ∧
          fs.find? (home ++ [name]) = some .directory) := by
  unfold folders at h ⊢
  dsimp only at h ⊢
  split at h
  · next hdirectory =>
    rw [if_pos hdirectory]
    obtain ⟨home, hlocate, hfound⟩ := FileSystem.isDirectory_iff.mp hdirectory
    refine ⟨home, hlocate, hfound, ?_⟩
    split at h
    · next hempty => exact .inl (if_pos hempty)
    · obtain ⟨⟨path, entry⟩, hlisted, hkept⟩ := List.mem_filterMap.mp h
      obtain ⟨other, name, hother, rfl, hentry⟩ := FileSystem.mem_children_iff.mp hlisted
      obtain rfl := Except.ok.inj (hlocate.symm.trans hother)
      simp only [Bool.and_eq_true, Option.ite_none_right_eq_some, Option.some.injEq] at hkept
      obtain ⟨⟨hkind, -⟩, rfl⟩ := hkept
      cases entry with
      | directory => exact .inr ⟨name, rfl, hentry⟩
      | file content => exact absurd hkind Bool.false_ne_true
  · exact absurd h List.not_mem_nil

theorem isAbsolute_of_mem_folders (h : folder ∈ folders fs corpus) : folder.isAbsolute = true := by
  have hcorpus := corpus.isAbsolute_absolute
  obtain ⟨home, -, -, honly | ⟨name, rfl, -⟩⟩ := mem_folders h
  · rw [honly] at h
    rw [List.mem_singleton.mp h]
    exact hcorpus
  · exact hcorpus

/-- A folder can be reached. -/
theorem exists_locate_of_mem_folders (h : folder ∈ folders fs corpus) :
    ∃ loc, fs.locate folder = .ok loc := by
  obtain ⟨home, hhome, hdirectory, honly | ⟨name, rfl, -⟩⟩ := mem_folders h
  · rw [honly] at h
    exact ⟨home, List.mem_singleton.mp h ▸ hhome⟩
  · exact ⟨_, (FileSystem.locate_concat_eq_ok corpus.isAbsolute_absolute).mpr
      ⟨home, hhome, hdirectory, rfl⟩⟩

/-- The folders of a corpus go by names, unless the corpus itself is the only one. -/
theorem named_folders (fs : FileSystem) (corpus : String) :
    (∀ folder ∈ folders fs (Path.ofString corpus), isName folder.name = true) ∨
      ∃ folder, folders fs (Path.ofString corpus) = [folder] ∧ '/' ∉ folder.name.toList := by
  by_cases honly : folders fs (Path.ofString corpus) = [(Path.ofString corpus).absolute]
  · exact .inr ⟨_, honly, (Path.clean_ofString corpus).absolute.not_mem_name⟩
  · refine .inl fun folder hfolder => ?_
    obtain ⟨home, -, -, hsame | ⟨name, rfl, hfound⟩⟩ := mem_folders hfolder
    · exact absurd hsame honly
    · have hname := FileSystem.isName_of_find? hfound (List.mem_append_right _ List.mem_cons_self)
      simpa [Path.name] using hname

/-- No folder of a corpus has a slash in its name. -/
theorem slash_not_mem_name {corpus : String} (h : folder ∈ folders fs (Path.ofString corpus)) :
    '/' ∉ folder.name.toList := by
  rcases named_folders fs corpus with hnamed | ⟨only, honly, hslash⟩
  · exact (isName_iff.mp (hnamed folder h)).2.2.2
  · rw [honly] at h
    exact List.mem_singleton.mp h ▸ hslash

/-- File systems with the same visible directories in a corpus have the same folders. -/
theorem folders_congr {a b : FileSystem}
    (hlocate : ∀ loc, b.locate corpus.absolute = .ok loc ↔ a.locate corpus.absolute = .ok loc)
    (h : ∀ loc, a.locate corpus.absolute = .ok loc →
      (b.find? loc = some .directory ↔ a.find? loc = some .directory) ∧
        ∀ name : String, name.toList.head? ≠ some '.' →
          (b.find? (loc ++ [name]) = some .directory ↔ a.find? (loc ++ [name]) = some .directory)) :
    folders b corpus = folders a corpus := by
  have hdirectory : b.isDirectory corpus.absolute = a.isDirectory corpus.absolute := by
    rw [Bool.eq_iff_iff, FileSystem.isDirectory_iff, FileSystem.isDirectory_iff]
    refine exists_congr fun loc => ?_
    rw [hlocate]
    exact and_congr_right fun hloc => (h loc hloc).1
  unfold folders
  dsimp only
  rw [hdirectory]
  split
  · next hcorpus =>
    obtain ⟨loc, hloc, -⟩ := FileSystem.isDirectory_iff.mp hcorpus
    rw [FileSystem.filterMap_children_congr ((hlocate loc).mpr hloc) hloc fun name entry hkept => ?_]
    cases entry with
    | file content => simp [Entry.isDirectory] at hkept
    | directory =>
      refine (h loc hloc).2 name ?_
      simpa [Entry.isDirectory, Path.name] using hkept
  · rfl

theorem folders_of_sameDirectories {a b : FileSystem} (h : FileSystem.SameDirectories a b)
    (corpus : Path) : folders b corpus = folders a corpus :=
  folders_congr (fun _ => h.locate_eq_ok_iff) fun _ _ => ⟨h _, fun _ _ => h _⟩

end Folders

/-! ## Sources -/

/-- A source of a folder is found below it, by a name with the suffix of sources. -/
theorem exists_of_mem_sources {fs : FileSystem} {folder path : Path}
    (h : path ∈ sources fs folder) :
    ∃ loc rel entry, fs.locate folder = .ok loc ∧ rel ≠ [] ∧
      path = ⟨folder.root, folder.parts ++ rel⟩ ∧ fs.find? (loc ++ rel) = some entry ∧
      sourceSuffix.toList <:+ path.name.toList := by
  obtain ⟨hlisted, hsuffix⟩ := List.mem_filter.mp h
  obtain ⟨⟨other, entry⟩, hdescendant, rfl⟩ := List.mem_map.mp hlisted
  obtain ⟨loc, rel, hloc, hne, hpath, hfound⟩ := FileSystem.mem_descendants_iff.mp hdescendant
  exact ⟨loc, rel, entry, hloc, hne, hpath, hfound, List.isSuffixOf_iff_suffix.mp hsuffix⟩

/-- A source stands by its name in a directory. -/
theorem exists_home_of_mem_sources {fs : FileSystem} {folder path : Path}
    (hfolder : folder.isAbsolute = true) (h : path ∈ sources fs folder) :
    ∃ home, path.isAbsolute = true ∧ isName path.name = true ∧
      fs.locate path.parent = .ok home ∧ fs.find? home = some .directory ∧
      sourceSuffix.toList <:+ path.name.toList := by
  obtain ⟨loc, rel, entry, hloc, hne, rfl, hfound, hsuffix⟩ := exists_of_mem_sources h
  obtain ⟨front, last, rfl⟩ := (List.eq_nil_or_concat' rel).resolve_left hne
  have hname : (⟨folder.root, folder.parts ++ (front ++ [last])⟩ : Path).name = last := by
    simp [Path.name]
  have hparent : (⟨folder.root, folder.parts ++ (front ++ [last])⟩ : Path).parent =
      ⟨folder.root, folder.parts ++ front⟩ := by
    unfold Path.parent
    rw [← List.append_assoc, List.dropLast_concat]
  have hdirectory : fs.find? (loc ++ front) = some .directory :=
    FileSystem.find?_above hfound (by simp) (by simp)
  refine ⟨loc ++ front, hfolder, ?_, ?_, hdirectory, hsuffix⟩
  · rw [hname]
    exact FileSystem.isName_of_find? hfound (by simp)
  · rw [hparent]
    exact FileSystem.locate_append hfolder hloc hdirectory

/-- The name of a source does not end in a dot. -/
theorem getLast?_ne_dot {name : String} (h : sourceSuffix.toList <:+ name.toList) :
    name.toList.getLast? ≠ some '.' := by
  obtain ⟨front, hfront⟩ := h
  have hlast : sourceSuffix.toList.getLast? = some 'a' := by decide
  rw [← hfront, List.getLast?_append, hlast]
  simp

section Listings

variable {a b : FileSystem} {folder : Path}

/-- The entry at or below a location, by the path to that location. -/
def pathUnder? (folder : Path) (loc : Location) (x : Location × Entry) : Option Path :=
  (FileSystem.under? loc x.1).map fun rel => ⟨folder.root, folder.parts ++ rel⟩

theorem descendants_eq_filterMap {loc : Location} (h : a.locate folder = .ok loc) :
    (a.descendants folder).map (·.1) = a.entries.filterMap (pathUnder? folder loc) := by
  unfold FileSystem.descendants FileSystem.below
  rw [h]
  simp only [List.map_filterMap]
  refine List.filterMap_congr fun x _ => ?_
  unfold pathUnder?
  rw [Option.map_map, Option.map_map]
  rfl

/-- A listing goes by the names that the entries have in the file system. -/
theorem name_of_pathUnder? {loc : Location} {x : Location × Entry} {path : Path}
    (h : pathUnder? folder loc x = some path) : path.name = x.1.path.name := by
  obtain ⟨rel, hrel, rfl⟩ := Option.map_eq_some_iff.mp h
  obtain ⟨hne, hx⟩ := FileSystem.under?_eq_some_iff.mp hrel
  simp only [Path.name, Location.path, hx, List.getLast?_append_of_ne_nil _ hne]

/-- What is listed below a folder by names that pass a test depends on the way to the folder and on
what is found below it by such names. -/
theorem filter_descendants_congr {p : Path → Bool} (hname : ∀ x y, x.name = y.name → p x = p y)
    (hlocate : ∀ loc, b.locate folder = .ok loc ↔ a.locate folder = .ok loc)
    (h : ∀ loc l : Location, a.locate folder = .ok loc → loc <+: l → p l.path = true →
      b.find? l = a.find? l) :
    ((b.descendants folder).map (·.1)).filter p = ((a.descendants folder).map (·.1)).filter p := by
  by_cases hloc : ∃ loc, a.locate folder = .ok loc
  · obtain ⟨loc, hloc⟩ := hloc
    rw [descendants_eq_filterMap hloc, descendants_eq_filterMap ((hlocate loc).mpr hloc),
      List.filter_filterMap, List.filter_filterMap]
    refine FileSystem.filterMap_entries_congr fun l entry hkept => ?_
    obtain ⟨path, hkept⟩ := Option.isSome_iff_exists.mp hkept
    obtain ⟨hpath, hpasses⟩ := Option.filter_eq_some_iff.mp hkept
    obtain ⟨rel, hrel, -⟩ := Option.map_eq_some_iff.mp hpath
    have hbelow : loc <+: l := ⟨rel, (FileSystem.under?_eq_some_iff.mp hrel).2.symm⟩
    rw [h loc l hloc hbelow (by rwa [← hname _ _ (name_of_pathUnder? hpath)])]
  · have hnone (fs : FileSystem) (hnot : ¬ ∃ loc, fs.locate folder = .ok loc) :
        fs.descendants folder = [] := by
      unfold FileSystem.descendants
      cases hfs : fs.locate folder with
      | ok loc => exact absurd ⟨loc, hfs⟩ hnot
      | error refusal => rfl
    rw [hnone a hloc, hnone b fun ⟨loc, hfs⟩ => hloc ⟨loc, (hlocate loc).mp hfs⟩]

/-- File systems that agree on what goes by the name of a source below a folder have the same sources
there. -/
theorem sources_congr (hlocate : ∀ loc, b.locate folder = .ok loc ↔ a.locate folder = .ok loc)
    (h : ∀ loc l : Location, a.locate folder = .ok loc → loc <+: l →
      sourceSuffix.toList <:+ l.path.name.toList → b.find? l = a.find? l) :
    sources b folder = sources a folder :=
  filter_descendants_congr (fun x y hsame => by rw [hsame]) hlocate
    fun loc l hloc hbelow hl => h loc l hloc hbelow (List.isSuffixOf_iff_suffix.mp hl)

/-- File systems that agree on directories and on all that is no mutant have the same seeds. -/
theorem seeds_congr (hdirs : FileSystem.SameDirectories a b)
    (h : ∀ l : Location, isMutant l.path = false → b.find? l = a.find? l) (folder : Path) :
    seeds b folder = seeds a folder := by
  unfold seeds sources
  rw [List.filter_filter, List.filter_filter]
  refine filter_descendants_congr (fun x y hsame => ?_) (fun _ => hdirs.locate_eq_ok_iff)
    fun _ l _ _ hl => h l ?_
  · simp only [isMutant, seedOf, Path.stem, Option.isSome_map, hsame]
  · simpa using (Bool.and_eq_true_iff.mp hl).1

end Listings

end Crosscheck.Corpus
