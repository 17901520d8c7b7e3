import Crosscheck.Proofs.Mutation.Records
/-!
# Taking mutants away again

A generation writes files and a cleanup removes files, each by its own rule: the one counts what it
writes, the other looks at what names begin and end with. If no file had such a name before, both
speak of the same files (`Numbered.derived_perm`), so a cleanup right after a generation gives the
files back as they were (`Numbered.exec_cleanupMutants`), and finds nothing more to remove.

A directory with the name of a mutant is in the way of the generation and left by the cleanup.
-/

namespace Crosscheck.Files

namespace Path

/-- A path without its last part leads to the directory of the path. -/
theorem absolute_parent {path : Path} (h : path.parts ≠ []) :
    path.parent.absolute = path.absolute.parent := by
  by_cases habsolute : path.isAbsolute = true
  · rw [absolute_of_isAbsolute habsolute]
    exact absolute_of_isAbsolute habsolute
  · have hparent : ¬ path.parent.isAbsolute = true := habsolute
    rw [absolute_of_not habsolute, absolute_of_not hparent]
    simp only [parent, List.dropLast_append_of_ne_nil h]

/-- A path with one more part goes on from where the path leads. -/
theorem absolute_concat (path : Path) (name : String) :
    (⟨path.root, path.parts ++ [name]⟩ : Path).absolute =
      ⟨path.absolute.root, path.absolute.parts ++ [name]⟩ := by
  by_cases habsolute : path.isAbsolute = true
  · rw [absolute_of_isAbsolute habsolute]
    exact absolute_of_isAbsolute habsolute
  · have hlong : ¬ (⟨path.root, path.parts ++ [name]⟩ : Path).isAbsolute = true := habsolute
    rw [absolute_of_not habsolute, absolute_of_not hlong]
    simp only [List.append_assoc]

/-- A path that ends in a suffix has a name. -/
theorem name_ne_empty_of_suffix {path : Path} (h : path.suffix ≠ "") : path.name ≠ "" := by
  intro hname
  rw [← path.stem_append_suffix] at hname
  exact h (String.append_eq_empty_iff.mp hname).2

/-- A path ends as the path that it leads to from the root. -/
theorem splitName_absolute {path : Path} (h : path.name ≠ "") :
    path.absolute.stem = path.stem ∧ path.absolute.suffix = path.suffix := by
  have hname := name_absolute h
  constructor
  · rw [stem, hname, stem]
  · rw [suffix, hname, suffix]

end Path

/-- What is listed in a directory stands there, by whatever path the directory is named. -/
theorem FileSystem.locate_child {fs : FileSystem} {directory : Path} {home : Location}
    {name : String} {entry : Entry} (hhome : fs.locate directory = .ok home)
    (hfound : fs.find? (home ++ [name]) = some entry) :
    fs.locate ⟨directory.root, directory.parts ++ [name]⟩ = .ok (home ++ [name]) := by
  rw [← locate_absolute] at hhome
  rw [← locate_absolute, Path.absolute_concat]
  exact locate_append directory.isAbsolute_absolute hhome hfound

end Crosscheck.Files

namespace Crosscheck.Mutation

open Crosscheck.Files Crosscheck.Text Crosscheck.Java

/-! ## Cleaning up -/

/-- Whether a name begins with a base and the marker and ends with an extension. -/
def isDerived (base extension name : String) : Bool :=
  (base ++ marker).toList.isPrefixOf name.toList && extension.toList.isSuffixOf name.toList

/-- The files of a directory that a cleanup removes. -/
def derived (fs : FileSystem) (directory : Path) (base extension : String) : List Path :=
  (fs.children directory).filterMap fun (path, entry) =>
    if entry.isFile && isDerived base extension path.name then some path else none

section Derived

variable {fs : FileSystem} {directory path : Path} {base extension : String}

theorem mem_derived_iff : path ∈ derived fs directory base extension ↔
    ∃ home name content, fs.locate directory = .ok home ∧
      fs.find? (home ++ [name]) = some (.file content) ∧
      path = ⟨directory.root, directory.parts ++ [name]⟩ ∧
      isDerived base extension name = true := by
  have hname (name : String) :
      (⟨directory.root, directory.parts ++ [name]⟩ : Path).name = name := by
    simp [Path.name]
  unfold derived
  simp only [List.mem_filterMap, Prod.exists, FileSystem.mem_children_iff]
  constructor
  · rintro ⟨other, entry, ⟨home, name, hhome, rfl, hfound⟩, hkept⟩
    simp only [Option.ite_none_right_eq_some, Bool.and_eq_true, hname, Option.some.injEq] at hkept
    obtain ⟨⟨hfile, hderived⟩, rfl⟩ := hkept
    cases entry with
    | directory => exact absurd hfile Bool.false_ne_true
    | file content => exact ⟨home, name, content, hhome, hfound, rfl, hderived⟩
  · rintro ⟨home, name, content, hhome, hfound, rfl, hderived⟩
    refine ⟨_, .file content, ⟨home, name, hhome, rfl, hfound⟩, ?_⟩
    simp only [hname, hderived, Entry.isFile, Bool.and_self, if_true]

theorem nodup_derived (fs : FileSystem) (directory : Path) (base extension : String) :
    (derived fs directory base extension).Nodup := by
  have hmap : derived fs directory base extension = ((fs.children directory).filter
      fun (path, entry) => entry.isFile && isDerived base extension path.name).map (·.1) := by
    unfold derived
    rw [← List.filterMap_eq_map, List.filterMap_filter]
    rfl
  rw [hmap]
  exact (fs.nodup_children directory).sublist (List.filter_sublist.map _)

/-- The files that are removed stand in different places. -/
theorem pairwise_derived (fs : FileSystem) (directory : Path) (base extension : String) :
    (derived fs directory base extension).Pairwise fun p q =>
      ∀ l, fs.locate p = .ok l → fs.locate q ≠ .ok l := by
  refine (nodup_derived fs directory base extension).imp_of_mem fun hp hq hne l hpl hql => hne ?_
  obtain ⟨home, name, content, hhome, hfound, rfl, -⟩ := mem_derived_iff.mp hp
  obtain ⟨home', name', content', hhome', hfound', rfl, -⟩ := mem_derived_iff.mp hq
  obtain rfl := Except.ok.inj (hhome.symm.trans hhome')
  rw [FileSystem.locate_child hhome hfound] at hpl
  rw [FileSystem.locate_child hhome hfound'] at hql
  have hsame : home ++ [name] = home ++ [name'] := Except.ok.inj (hpl.trans hql.symm)
  obtain rfl : name = name' := by simpa using hsame
  rfl

/-- A cleanup removes what is derived from the base, and counts it. -/
theorem exec_cleanupMutants (directory : Path) (base extension : String) (w : World) :
    ∃ fs, (cleanupMutants directory base extension).exec w =
        (.ok (derived w.files directory base extension).length, { w with files := fs }) ∧
      Without w.files (derived w.files directory base extension) fs := by
  have hremove : ∃ fs, (removeAll (derived w.files directory base extension)).exec w =
      (.ok (derived w.files directory base extension).length, { w with files := fs }) ∧
        Without w.files (derived w.files directory base extension) fs := by
    refine exec_removeAll (fun path hpath => ?_) (pairwise_derived w.files directory base extension)
    obtain ⟨home, name, content, hhome, hfound, rfl, -⟩ := mem_derived_iff.mp hpath
    exact ⟨_, content, FileSystem.locate_child hhome hfound, hfound⟩
  unfold cleanupMutants
  rw [Action.exec_bind_of_ok (Action.exec_files w)]
  split
  · have hsame : (w.files.children directory).filterMap (fun (path, entry) =>
        if entry.isFile && (base ++ marker).toList.isPrefixOf path.name.toList
            && extension.toList.isSuffixOf path.name.toList
        then some path else none) = derived w.files directory base extension := by
      unfold derived
      refine List.filterMap_congr fun x _ => ?_
      obtain ⟨path, entry⟩ := x
      dsimp only
      rw [Bool.and_assoc]
      rfl
    dsimp only
    rw [hsame]
    exact hremove
  · next hnone =>
    have hempty : derived w.files directory base extension = [] := by
      refine List.eq_nil_iff_forall_not_mem.mpr fun path hpath => hnone ?_
      obtain ⟨home, name, content, hhome, hfound, -⟩ := mem_derived_iff.mp hpath
      have hdirectory : w.files.find? home = some .directory :=
        FileSystem.find?_above hfound (List.prefix_append _ _) (by simp)
      exact FileSystem.isDirectory_iff.mpr ⟨home, hhome, hdirectory⟩
    rw [hempty]
    exact ⟨w.files, rfl, .refl _, fun l => by simp⟩

theorem derived_eq_nil (h : ∀ path content, (path, .file content) ∈ fs.children directory →
    ¬ isDerived base extension path.name = true) : derived fs directory base extension = [] := by
  refine List.eq_nil_iff_forall_not_mem.mpr fun path hpath => ?_
  obtain ⟨home, name, content, hhome, hfound, rfl, hderived⟩ := mem_derived_iff.mp hpath
  refine h _ content (FileSystem.mem_children_iff.mpr ⟨home, name, hhome, rfl, hfound⟩) ?_
  simpa [Path.name] using hderived

theorem not_isDerived_of_nil {home : Location} {name : String} {content : Bytes}
    (h : derived fs directory base extension = []) (hhome : fs.locate directory = .ok home)
    (hfile : fs.find? (home ++ [name]) = some (.file content)) :
    ¬ isDerived base extension name = true := by
  intro hderived
  have hmem := mem_derived_iff.mpr ⟨home, name, content, hhome, hfile, rfl, hderived⟩
  rw [h] at hmem
  exact List.not_mem_nil hmem

/-- A cleanup that finds nothing changes nothing. -/
theorem exec_cleanupMutants_of_derived_nil {w : World}
    (h : derived w.files directory base extension = []) :
    (cleanupMutants directory base extension).exec w = (.ok 0, w) := by
  obtain ⟨fs, hrun, hwithout⟩ := exec_cleanupMutants directory base extension w
  rw [h] at hrun hwithout
  have hsame : fs = w.files := FileSystem.ext_find? fun l => by
    rw [hwithout.find?, if_neg]
    rintro ⟨path, hpath, -⟩
    exact List.not_mem_nil hpath
  rw [hrun, hsame]
  rfl

end Derived

/-! ## After a generation -/

/-- The name of a mutant is derived from its seed. -/
theorem isDerived_mutantName (seed : Path) (number : Nat) :
    isDerived seed.stem seed.suffix (mutantName seed number) = true := by
  unfold isDerived mutantName
  rw [Bool.and_eq_true, List.isPrefixOf_iff_prefix, List.isSuffixOf_iff_suffix]
  constructor
  · have hfront : (seed.stem ++ marker ++ toString number ++ seed.suffix).toList =
        (seed.stem ++ marker).toList ++ (toString number ++ seed.suffix).toList := by
      rw [← String.toList_append, String.append_assoc]
    rw [hfront]
    exact List.prefix_append _ _
  · rw [String.toList_append]
    exact List.suffix_append _ _

section Numbered

variable {seed directory : Path} {source : Bytes} {tree : Node}
  {before after restored : FileSystem} {home : Location} {tried : List Attempt}
  {succeeds : Nat → Bool} {made : List Mutant}

/-- Where the recorded mutants stand. -/
theorem Numbered.mem_locate_iff (h : Numbered seed source tree before tried succeeds made after)
    (hden : Den before seed home source) (l : Location) :
    (∃ m ∈ made, before.locate m.path = .ok l) ↔
      ∃ k < made.length, l = place home seed (k + 1) := by
  constructor
  · rintro ⟨m, hm, hl⟩
    obtain ⟨k, hk⟩ := List.getElem?_of_mem hm
    rw [(h.numbered k m hk).2, hden.locate_mutantPath] at hl
    exact ⟨k, (List.getElem?_eq_some_iff.mp hk).1, (Except.ok.inj hl).symm⟩
  · rintro ⟨k, hk, rfl⟩
    have hget : made[k]? = some made[k] := List.getElem?_eq_getElem hk
    refine ⟨made[k], List.getElem_mem hk, ?_⟩
    rw [(h.numbered k _ hget).2, hden.locate_mutantPath]

variable (h : Numbered seed source tree before tried succeeds made after)
  (hden : Den before seed home source) (hhome : before.locate directory = .ok home)
  (hnone : derived before directory seed.stem seed.suffix = [])

include h hden hhome hnone

/-- If no file had a derived name before, those that have one now are the recorded mutants. -/
theorem Numbered.file_derived_iff (name : String) :
    ((∃ content, after.find? (home ++ [name]) = some (.file content)) ∧
        isDerived seed.stem seed.suffix name = true) ↔
      ∃ k < made.length, name = mutantName seed (k + 1) := by
  have hgenerated := h.generated (FileSystem.read_eq_ok_iff.mpr ⟨_, hden.locate, hden.file⟩)
  have hthere : (∃ m ∈ made, before.locate m.path = .ok (home ++ [name])) ↔
      ∃ k < made.length, name = mutantName seed (k + 1) := by
    simp only [h.mem_locate_iff hden, place, List.append_cancel_left_eq, List.cons.injEq, and_true]
  rw [← hthere]
  constructor
  · rintro ⟨⟨content, hfile⟩, hderived⟩
    by_contra hold
    have hbefore := h.elsewhere (home ++ [name]) fun m hm hl => hold ⟨m, hm, hl⟩
    exact not_isDerived_of_nil hnone hhome (hbefore.symm.trans hfile) hderived
  · rintro ⟨m, hm, hl⟩
    obtain ⟨l, content, hwritten, hfile⟩ := hgenerated.written m hm
    obtain rfl := Except.ok.inj (hwritten.symm.trans hl)
    obtain ⟨k, -, rfl⟩ := hthere.mp ⟨m, hm, hl⟩
    exact ⟨⟨content, hfile⟩, isDerived_mutantName seed (k + 1)⟩

/-- What a cleanup finds after a generation is what was recorded. -/
theorem Numbered.derived_perm :
    (derived after directory seed.stem seed.suffix).Perm ((List.range made.length).map fun k =>
      ⟨directory.root, directory.parts ++ [mutantName seed (k + 1)]⟩) := by
  have hthere : after.locate directory = .ok home := h.directories.locate_eq_ok_iff.mpr hhome
  have hnodup : ((List.range made.length).map fun k => (⟨directory.root,
      directory.parts ++ [mutantName seed (k + 1)]⟩ : Path)).Nodup := by
    refine List.Nodup.map (fun i j hsame => ?_) List.nodup_range
    have hnames : mutantName seed (i + 1) = mutantName seed (j + 1) := by
      simpa using congrArg Path.parts hsame
    have hnumbers := mutantName_injective seed hnames
    omega
  refine (List.perm_ext_iff_of_nodup (nodup_derived _ _ _ _) hnodup).mpr fun path => ?_
  rw [mem_derived_iff, List.mem_map]
  constructor
  · rintro ⟨other, name, content, hother, hfile, rfl, hderived⟩
    obtain rfl := Except.ok.inj (hthere.symm.trans hother)
    obtain ⟨k, hk, rfl⟩ :=
      (h.file_derived_iff hden hhome hnone name).mp ⟨⟨content, hfile⟩, hderived⟩
    exact ⟨k, List.mem_range.mpr hk, rfl⟩
  · rintro ⟨k, hk, rfl⟩
    obtain ⟨⟨content, hfile⟩, hderived⟩ :=
      (h.file_derived_iff hden hhome hnone _).mpr ⟨k, List.mem_range.mp hk, rfl⟩
    exact ⟨home, _, content, hthere, hfile, rfl, hderived⟩

/-- Where that stands, the recorded mutants stand. -/
theorem Numbered.exists_derived_iff (l : Location) :
    (∃ path ∈ derived after directory seed.stem seed.suffix, after.locate path = .ok l) ↔
      ∃ m ∈ made, before.locate m.path = .ok l := by
  have hthere : after.locate directory = .ok home := h.directories.locate_eq_ok_iff.mpr hhome
  rw [h.mem_locate_iff hden]
  constructor
  · rintro ⟨path, hpath, hl⟩
    obtain ⟨other, name, content, hother, hfile, rfl, hderived⟩ := mem_derived_iff.mp hpath
    obtain rfl := Except.ok.inj (hthere.symm.trans hother)
    rw [FileSystem.locate_child hthere hfile] at hl
    obtain ⟨k, hk, rfl⟩ :=
      (h.file_derived_iff hden hhome hnone name).mp ⟨⟨content, hfile⟩, hderived⟩
    exact ⟨k, hk, (Except.ok.inj hl).symm⟩
  · rintro ⟨k, hk, rfl⟩
    obtain ⟨⟨content, hfile⟩, hderived⟩ :=
      (h.file_derived_iff hden hhome hnone _).mpr ⟨k, hk, rfl⟩
    exact ⟨_, mem_derived_iff.mpr ⟨home, _, content, hthere, hfile, rfl, hderived⟩,
      FileSystem.locate_child hthere hfile⟩

/-- Nothing was where a recorded mutant stands: no file by its name, and a directory would still be
there. -/
theorem Numbered.find?_eq_none {k : Nat} (hk : k < made.length) :
    before.find? (place home seed (k + 1)) = none := by
  obtain ⟨⟨content, hfile⟩, hderived⟩ := (h.file_derived_iff hden hhome hnone _).mpr ⟨k, hk, rfl⟩
  have hnow : after.find? (place home seed (k + 1)) = some (.file content) := hfile
  cases hbefore : before.find? (place home seed (k + 1)) with
  | none => rfl
  | some entry =>
    cases entry with
    | file old => exact absurd hderived (not_isDerived_of_nil hnone hhome hbefore)
    | directory =>
      rw [(h.directories _).mpr hbefore] at hnow
      exact nomatch hnow

/-- A removal of what was recorded gives the files back as they were. -/
theorem Numbered.files_of_without
    (hwithout : Without after (derived after directory seed.stem seed.suffix) restored) :
    restored = before := by
  refine FileSystem.ext_find? fun l => ?_
  rw [hwithout.find?]
  simp only [h.exists_derived_iff hden hhome hnone l]
  split
  · next hmade =>
    obtain ⟨k, hk, rfl⟩ := (h.mem_locate_iff hden l).mp hmade
    rw [h.find?_eq_none hden hhome hnone hk]
  · next hold => exact h.elsewhere l fun m hm hl => hold ⟨m, hm, hl⟩

/-- A cleanup after a generation counts the mutants and gives the files back as they were. -/
theorem Numbered.exec_cleanupMutants {w : World} (hfiles : w.files = after) :
    (cleanupMutants directory seed.stem seed.suffix).exec w =
      (.ok made.length, { w with files := before }) := by
  subst hfiles
  obtain ⟨restored, hclean, hwithout⟩ :=
    Mutation.exec_cleanupMutants directory seed.stem seed.suffix w
  have hperm := h.derived_perm hden hhome hnone
  have hrestored := h.files_of_without hden hhome hnone hwithout
  rw [hclean, hrestored, hperm.length_eq, List.length_map, List.length_range]

end Numbered

/-- Where no file beside a source has a name that is derived from it, a cleanup takes away exactly
what a generation for that source has written, whatever failed there: it counts the mutants, and the
files are as they were. A second cleanup removes nothing. -/
theorem exec_cleanupMutants_generate {seed : Path} (hsuffix : seed.suffix = sourceSuffix)
    (transforms : List Transform) {w : World}
    (hfree : ∀ path content, (path, .file content) ∈ w.files.children seed.parent →
      ¬ isDerived seed.stem sourceSuffix path.name = true) :
    ∃ made after, (generate seed transforms).exec w = (.ok made, after) ∧
      (cleanupMutants seed.parent seed.stem sourceSuffix).exec after =
        (.ok made.length, { after with files := w.files }) ∧
      (cleanupMutants seed.parent seed.stem sourceSuffix).exec { after with files := w.files } =
        (.ok 0, { after with files := w.files }) := by
  have hnone : derived w.files seed.parent seed.stem sourceSuffix = [] := derived_eq_nil hfree
  have hagain (after : World) :
      (cleanupMutants seed.parent seed.stem sourceSuffix).exec { after with files := w.files } =
        (.ok 0, { after with files := w.files }) := exec_cleanupMutants_of_derived_nil hnone
  rcases unread_or_den w.files seed.isAbsolute_absolute with
    hunread | ⟨home, source, tree, hden, hparse⟩
  · obtain ⟨after, hrun, hfiles⟩ := exec_generate_of_unread transforms hunread
    have hclean := hagain after
    rw [← hfiles] at hclean ⊢
    exact ⟨[], after, hrun, hclean, hclean⟩
  · obtain ⟨succeeds, made, after, hrun, hnumbered⟩ := hden.exec_generate transforms hparse
    have hname : seed.name ≠ "" := Path.name_ne_empty_of_suffix (by rw [hsuffix]; decide)
    have hhome : w.files.locate seed.parent = .ok home := by
      have hparts : seed.parts ≠ [] := fun hnil => hname (by simp [Path.name, hnil])
      rw [← FileSystem.locate_absolute, Path.absolute_parent hparts]
      exact hden.parent
    obtain ⟨hstem, hends⟩ := Path.splitName_absolute hname
    rw [← hsuffix, ← hstem, ← hends] at hnone hagain ⊢
    exact ⟨made, after, hrun, hnumbered.exec_cleanupMutants hden hhome hnone rfl, hagain after⟩

/-- Two mutants are written and taken away. The directory with the name of a third is in the way of
the generation, and stays. -/
theorem exec_cleanupMutants_crampedWorld :
    let seed := Path.ofString "A.java"
    let transforms := [patchy "a" [2], patchy "b" [], patchy "c" [1, 2, 3]]
    seed.suffix = sourceSuffix ∧
    (∀ path content, (path, .file content) ∈ crampedWorld.files.children seed.parent →
      ¬ isDerived seed.stem sourceSuffix path.name = true) ∧
    crampedWorld.files.isDirectory (Path.ofString "A_iter3.java") = true ∧
    ∃ made after, (generate seed transforms).exec crampedWorld = (.ok made, after) ∧
      made.map (·.number) = [1, 2] ∧
      (cleanupMutants seed.parent seed.stem sourceSuffix).exec after =
        (.ok 2, { after with files := crampedWorld.files }) ∧
      (cleanupMutants seed.parent seed.stem sourceSuffix).exec
        { after with files := crampedWorld.files } =
          (.ok 0, { after with files := crampedWorld.files }) := by
  intro seed transforms
  have hsuffix : seed.suffix = sourceSuffix := by decide +kernel
  have hnone : ∀ x ∈ crampedWorld.files.children seed.parent, x.2.isFile = true →
      ¬ isDerived seed.stem sourceSuffix x.1.name = true := by decide +kernel
  have hfree : ∀ path content, (path, .file content) ∈ crampedWorld.files.children seed.parent →
      ¬ isDerived seed.stem sourceSuffix path.name = true :=
    fun path content hmem => hnone (path, .file content) hmem rfl
  obtain ⟨made, after, hrun, hclean, hagain⟩ :=
    exec_cleanupMutants_generate hsuffix transforms hfree
  have hmade : ((generate seed transforms).exec crampedWorld).1.toOption.map
      (List.map fun m => m.number) = some [1, 2] := by decide +kernel
  rw [hrun] at hmade
  have hnumbers : made.map (·.number) = [1, 2] := Option.some.inj hmade
  have hlength : made.length = 2 := by simpa using congrArg List.length hnumbers
  rw [hlength] at hclean
  exact ⟨hsuffix, hfree, by decide +kernel, made, after, hrun, hnumbers, hclean, hagain⟩

end Crosscheck.Mutation
