import Crosscheck.Mutation.Cleanup
import Crosscheck.Proofs.Action
import Crosscheck.Proofs.Files.Access
import Crosscheck.Proofs.Files.Wildcard
import Crosscheck.Proofs.Mutation.Naming
/-!
# What a removal leaves

Removing files takes away those that are named and nothing else. The mutants of a seed are looked
for by a pattern and told by their names. Of the files beside the seed that are read back as its
mutants, its `offspring`, those are removed and counted that the pattern finds. It finds them all
unless there are brackets in the name of the seed, and is refused if there are two asterisks side by
side (`removesOffspring_iff`).
-/

namespace Crosscheck.Mutation

open Crosscheck.Files Crosscheck.Text

/-! ## Removing files -/

/-- Whether a path leads somewhere, and not to a directory. -/
def NotDirectory (fs : FileSystem) (path : Path) : Prop :=
  ∃ loc, fs.locate path = .ok loc ∧ fs.find? loc ≠ some .directory

theorem notDirectory_congr {a b : FileSystem} (h : FileSystem.SameDirectories a b) (path : Path) :
    NotDirectory b path ↔ NotDirectory a path := by
  unfold NotDirectory
  simp only [h.locate_eq_ok_iff, ne_eq, h _]

/-- What there is after paths were removed, as far as they were there. -/
structure Without (before : FileSystem) (paths : List Path) (after : FileSystem) : Prop where
  directories : FileSystem.SameDirectories before after
  find? : ∀ l, after.find? l =
    if ∃ path ∈ paths, before.locate path = .ok l then none else before.find? l

section Removing

variable {paths rest : List Path} {path : Path} {w : World} {fs middle after : FileSystem}

/-- To remove a file is to erase it where it stands. -/
theorem without_erase {l : Location} {content : Bytes} (hlocate : fs.locate path = .ok l)
    (hfound : fs.find? l = some (.file content)) : Without fs [path] (fs.erase l) where
  directories := FileSystem.sameDirectories_erase hfound
  find? other := by
    have hsame : (∃ p ∈ [path], fs.locate p = .ok other) ↔ other = l := by
      simp [hlocate, eq_comm]
    rw [FileSystem.find?_erase_file hfound]
    simp only [hsame]

/-- One path is removed and then the rest. -/
theorem Without.cons (hfirst : Without fs [path] middle) (hlater : Without middle rest after) :
    Without fs (path :: rest) after where
  directories := hfirst.directories.trans hlater.directories
  find? l := by
    rw [hlater.find?, hfirst.find?]
    simp only [hfirst.directories.locate_eq_ok_iff]
    by_cases hl : ∃ other ∈ rest, fs.locate other = .ok l
    · obtain ⟨other, hother, hlocate⟩ := id hl
      rw [if_pos hl, if_pos ⟨other, List.mem_cons_of_mem _ hother, hlocate⟩]
    · have hsame : (∃ other ∈ path :: rest, fs.locate other = .ok l) ↔
          ∃ other ∈ [path], fs.locate other = .ok l := by
        simp only [List.mem_cons, or_and_right, exists_or, hl, or_false, List.not_mem_nil]
      rw [if_neg hl]
      simp only [hsame]

theorem exec_removeAll_of_unlink (h : w.files.unlink path = .ok fs) :
    (removeAll (path :: rest)).exec w =
      (removeAll rest >>= fun removed => pure (removed + 1)).exec { w with files := fs } := by
  show (Action.files >>= _).exec w = _
  rw [Action.exec_bind_of_ok (Action.exec_files w)]
  simp only [h]
  exact Action.exec_bind_of_ok (Action.exec_setFiles w _)

/-- Files that stand in different places are removed one after the other, and counted. -/
theorem exec_removeAll
    (hfiles : ∀ path ∈ paths, ∃ l content, w.files.locate path = .ok l ∧
      w.files.find? l = some (.file content))
    (hapart : paths.Pairwise fun p q => ∀ l, w.files.locate p = .ok l → w.files.locate q ≠ .ok l) :
    ∃ fs, (removeAll paths).exec w = (.ok paths.length, { w with files := fs }) ∧
      Without w.files paths fs := by
  induction paths generalizing w with
  | nil => exact ⟨w.files, rfl, .refl _, fun l => by simp⟩
  | cons path rest ih =>
    obtain ⟨⟨l, content, hlocate, hfound⟩, hrest⟩ := List.forall_mem_cons.mp hfiles
    obtain ⟨hfirst, hothers⟩ := List.pairwise_cons.mp hapart
    have hwithout := without_erase hlocate hfound
    have hunlink := FileSystem.unlink_eq_ok_iff.mpr ⟨l, content, hlocate, hfound, rfl⟩
    have hsame (p : Path) (k : Location) :
        (w.files.erase l).locate p = .ok k ↔ w.files.locate p = .ok k :=
      hwithout.directories.locate_eq_ok_iff
    have hleft : ∀ other ∈ rest, ∃ k content, (w.files.erase l).locate other = .ok k ∧
        (w.files.erase l).find? k = some (.file content) := by
      intro other hother
      obtain ⟨k, content', hlocate', hfound'⟩ := hrest other hother
      have hne : k ≠ l := by
        rintro rfl
        exact hfirst other hother k hlocate hlocate'
      refine ⟨k, content', (hsame other k).mpr hlocate', ?_⟩
      rw [FileSystem.find?_erase_file hfound, if_neg hne, hfound']
    have hlaterApart := hothers.imp fun hpq k hp hq =>
      hpq k ((hsame _ k).mp hp) ((hsame _ k).mp hq)
    obtain ⟨after, hrun, hlater⟩ := @ih { w with files := w.files.erase l } hleft hlaterApart
    refine ⟨after, ?_, hwithout.cons hlater⟩
    rw [exec_removeAll_of_unlink hunlink, Action.exec_bind_of_ok hrun]
    rfl

end Removing

/-! ## The mutants of a seed -/

/-- Whether a location is beside a seed, by a name that is read back as that of its mutant. -/
def IsOffspring (fs : FileSystem) (seed : Path) (l : Location) : Prop :=
  ∃ home name, fs.locate seed.parent = .ok home ∧ l = home ++ [name] ∧
    seedOf (seed.sibling name) = some seed

theorem isOffspring_congr {a b : FileSystem} (h : FileSystem.SameDirectories a b) (seed : Path)
    (l : Location) : IsOffspring b seed l ↔ IsOffspring a seed l := by
  unfold IsOffspring
  simp only [h.locate_eq_ok_iff]

/-- Whether every character of the name of a seed stands for itself in a pattern. -/
def IsLiteral (seed : Path) : Prop :=
  isName seed.name = true ∧ Wildcard.Plain seed.name.toList

/-- The files beside a seed that are read back as its mutants. -/
def offspring (fs : FileSystem) (seed : Path) : List Path :=
  (fs.children seed.parent).filterMap fun (path, entry) =>
    if entry.isFile && seedOf path == some seed then some path else none

/-- Whether the pattern of a seed stands for a name. -/
def isFound (seed : Path) (name : String) : Bool :=
  Wildcard.accept (Wildcard.parse (candidatePattern seed)) name.toList

/-- The files that a removal of the mutants of a seed takes away. -/
def candidates (fs : FileSystem) (seed : Path) : List Path :=
  (fs.matching seed.parent (candidatePattern seed)).filterMap fun (path, entry) =>
    if entry.isFile && seedOf path == some seed then some path else none

section Candidates

variable {fs : FileSystem} {seed path : Path} {name : String} {l : Location}

theorem name_sibling (seed : Path) (name : String) : (seed.sibling name).name = name := by
  simp [Path.sibling, Path.name]

theorem mem_offspring_iff : path ∈ offspring fs seed ↔
    ∃ home name content, fs.locate seed.parent = .ok home ∧
      fs.find? (home ++ [name]) = some (.file content) ∧ path = seed.sibling name ∧
      seedOf path = some seed := by
  unfold offspring
  simp only [List.mem_filterMap, Prod.exists, FileSystem.mem_children_iff]
  constructor
  · rintro ⟨other, entry, ⟨home, name, hhome, rfl, hfound⟩, hkept⟩
    simp only [Option.ite_none_right_eq_some, Bool.and_eq_true, beq_iff_eq,
      Option.some.injEq] at hkept
    obtain ⟨⟨hfile, hof⟩, rfl⟩ := hkept
    cases entry with
    | directory => exact nomatch hfile
    | file content => exact ⟨home, name, content, hhome, hfound, rfl, hof⟩
  · rintro ⟨home, name, content, hhome, hfound, rfl, hof⟩
    refine ⟨seed.sibling name, .file content, ⟨home, name, hhome, rfl, hfound⟩, ?_⟩
    simp [hof, Entry.isFile]

/-- Of the files that are read back as mutants those are removed that the pattern finds. -/
theorem candidates_eq_filter (fs : FileSystem) (seed : Path) :
    candidates fs seed = (offspring fs seed).filter fun path => isFound seed path.name := by
  unfold candidates offspring FileSystem.matching
  rw [List.filterMap_filter, List.filter_filterMap]
  refine List.filterMap_congr fun entry _ => ?_
  obtain ⟨path, entry⟩ := entry
  dsimp only
  by_cases hkept : (entry.isFile && seedOf path == some seed) = true
  · simp only [hkept, if_true, Option.filter_some, isFound]
  · simp only [hkept, if_false, ite_self, Option.filter_none, Bool.false_eq_true]

theorem mem_candidates_iff : path ∈ candidates fs seed ↔
    ∃ home name content, fs.locate seed.parent = .ok home ∧
      fs.find? (home ++ [name]) = some (.file content) ∧ path = seed.sibling name ∧
      seedOf path = some seed ∧ isFound seed name = true := by
  rw [candidates_eq_filter, List.mem_filter, mem_offspring_iff]
  constructor
  · rintro ⟨⟨home, name, content, hhome, hfound, rfl, hof⟩, hname⟩
    rw [name_sibling] at hname
    exact ⟨home, name, content, hhome, hfound, rfl, hof, hname⟩
  · rintro ⟨home, name, content, hhome, hfound, rfl, hof, hname⟩
    refine ⟨⟨home, name, content, hhome, hfound, rfl, hof⟩, ?_⟩
    rwa [name_sibling]

/-- A name beside a seed leads to where it stands. -/
theorem locate_sibling {home : Location} {entry : Entry} (habsolute : seed.isAbsolute = true)
    (hhome : fs.locate seed.parent = .ok home) (hfound : fs.find? (home ++ [name]) = some entry) :
    fs.locate (seed.sibling name) = .ok (home ++ [name]) := by
  have hroot : seed.parent.isAbsolute = true := habsolute
  have hdirectory : fs.find? home = some .directory :=
    FileSystem.find?_above hfound (List.prefix_append _ _) (by simp)
  have hname := FileSystem.isName_of_find? hfound (List.mem_append_right _ List.mem_cons_self)
  exact (FileSystem.locate_concat_eq_ok hroot).mpr
    ⟨home, hhome, hdirectory, (Location.go_of_isName hname home).symm⟩

/-- A path beside a seed that is read back as its mutant leads to where it is one. -/
theorem isOffspring_of_locate (habsolute : seed.isAbsolute = true) (hname : isName name = true)
    (hl : fs.locate (seed.sibling name) = .ok l) (hof : seedOf (seed.sibling name) = some seed) :
    IsOffspring fs seed l := by
  have hroot : seed.parent.isAbsolute = true := habsolute
  obtain ⟨home, hhome, -, rfl⟩ := (FileSystem.locate_concat_eq_ok hroot).mp hl
  exact ⟨home, name, hhome, Location.go_of_isName hname home, hof⟩

theorem exists_of_mem_candidates (habsolute : seed.isAbsolute = true)
    (h : path ∈ candidates fs seed) :
    ∃ l content, fs.locate path = .ok l ∧ fs.find? l = some (.file content) ∧
      IsOffspring fs seed l := by
  obtain ⟨home, name, content, hhome, hfound, rfl, hof, -⟩ := mem_candidates_iff.mp h
  exact ⟨_, content, locate_sibling habsolute hhome hfound, hfound, home, name, hhome, rfl, hof⟩

/-- The pattern of a seed is its name with the marker and an asterisk before the suffix. -/
theorem toList_candidatePattern (seed : Path) : (candidatePattern seed).toList =
    (seed.stem ++ marker).toList ++ '*' :: seed.suffix.toList := by
  simp [candidatePattern]

/-- The pattern stands for every mutant of a seed whose name has no brackets. -/
theorem isFound_of_unbracketed (hname : isName name = true) (hseed : seed.name ≠ "")
    (hopen : '[' ∉ seed.name.toList) (hof : seedOf (seed.sibling name) = some seed) :
    isFound seed name = true := by
  have hparts : seedParts? name = some [seed.name] := by
    rw [Path.sibling, seedOf_concat _ _ hname] at hof
    obtain ⟨more, hmore, hwhole⟩ := Option.map_eq_some_iff.mp hof
    have hsplit := Path.dropLast_concat_name hseed
    rw [hmore, List.append_cancel_left ((congrArg Path.parts hwhole).trans hsplit.symm)]
  obtain ⟨tail, rfl⟩ := exists_of_seedParts?_singleton hname hparts
  rw [← seed.stem_append_suffix, String.toList_append, List.mem_append, not_or] at hopen
  have hfront : '[' ∉ (seed.stem ++ marker).toList := by
    rw [String.toList_append, List.mem_append, not_or]
    exact ⟨hopen.1, by decide⟩
  have hfound := Wildcard.accept_parse_of_unbracketed hfront hopen.2 tail.toList
  rw [← toList_candidatePattern, String.ofList_toList] at hfound
  unfold isFound
  simpa [Path.stem, Path.suffix] using hfound

/-- The pattern of a seed has two asterisks side by side if the name of the seed has. -/
theorem isRecursive_candidatePattern (seed : Path) :
    Wildcard.isRecursive (candidatePattern seed).toList =
      Wildcard.isRecursive seed.name.toList := by
  have hfront : (seed.stem ++ marker).toList = seed.stem.toList ++ '_' :: ['i', 't', 'e', 'r'] := by
    simp [marker]
  have hmiddle : Wildcard.isRecursive (['i', 't', 'e', 'r'] ++ '*' :: seed.suffix.toList) =
      Wildcard.isRecursive ('*' :: seed.suffix.toList) := by
    simp [Wildcard.isRecursive]
  rw [toList_candidatePattern, hfront, List.append_assoc, List.cons_append,
    Wildcard.isRecursive_append_cons (by decide), hmiddle]
  rcases Path.splitName_cases seed.name with ⟨front, tail, hname, hfront, htail, hdot⟩ | hwhole
  · have hsplit : Path.splitName seed.name =
        (String.ofList front, String.ofList ('.' :: tail)) := by
      rw [hname, Path.splitName_of_dot front hdot, if_pos ⟨hfront, htail⟩]
    rw [Path.stem, Path.suffix, hsplit, hname]
    simp only [String.toList_ofList]
    rw [Wildcard.isRecursive_star_cons (by simp), Wildcard.isRecursive_append_cons (by decide)]
    rfl
  · rw [Path.stem, Path.suffix, hwhole]
    exact Bool.or_false _

end Candidates

/-- What there is after the mutants of a seed were removed, however that ended: nothing new, and
everything that is no mutant of the seed. -/
structure Swept (before : FileSystem) (seed : Path) (after : FileSystem) : Prop where
  directories : FileSystem.SameDirectories before after
  find?_eq : ∀ l, ¬ IsOffspring before seed l → after.find? l = before.find? l
  of_find? : ∀ l entry, after.find? l = some entry → before.find? l = some entry

theorem Swept.refl (fs : FileSystem) (seed : Path) : Swept fs seed fs :=
  ⟨.refl fs, fun _ _ => rfl, fun _ _ h => h⟩

theorem Without.swept {before after : FileSystem} {seed : Path} (habsolute : seed.isAbsolute = true)
    (h : Without before (candidates before seed) after) : Swept before seed after where
  directories := h.directories
  find?_eq l hl := by
    rw [h.find?, if_neg]
    rintro ⟨path, hpath, hlocate⟩
    obtain ⟨other, content, hother, -, hof⟩ := exists_of_mem_candidates habsolute hpath
    exact hl (Except.ok.inj (hother.symm.trans hlocate) ▸ hof)
  of_find? l entry hl := by
    rw [h.find?] at hl
    split at hl
    · exact nomatch hl
    · exact hl

/-- The files that are removed stand in different places. -/
theorem pairwise_candidates (fs : FileSystem) {seed : Path} (habsolute : seed.isAbsolute = true) :
    (candidates fs seed).Pairwise fun p q => ∀ l, fs.locate p = .ok l → fs.locate q ≠ .ok l := by
  have hmap : offspring fs seed = ((fs.children seed.parent).filter fun (path, entry) =>
      entry.isFile && seedOf path == some seed).map (·.1) := by
    unfold offspring
    rw [← List.filterMap_eq_map, List.filterMap_filter]
    rfl
  have hnodup : (offspring fs seed).Nodup := by
    rw [hmap]
    exact (fs.nodup_children seed.parent).sublist (List.filter_sublist.map _)
  rw [candidates_eq_filter]
  refine (hnodup.imp_of_mem fun hp hq hne l hpl hql => hne ?_).filter _
  obtain ⟨home, name, content, hhome, hfound, rfl, -⟩ := mem_offspring_iff.mp hp
  obtain ⟨home', name', content', hhome', hfound', rfl, -⟩ := mem_offspring_iff.mp hq
  obtain rfl := Except.ok.inj (hhome.symm.trans hhome')
  rw [locate_sibling habsolute hhome hfound] at hpl
  rw [locate_sibling habsolute hhome hfound'] at hql
  have hsame : home ++ [name] = home ++ [name'] := Except.ok.inj (hpl.trans hql.symm)
  obtain rfl : name = name' := by simpa using hsame
  rfl

/-- A removal of the mutants of a seed removes and counts the candidates, unless the pattern is
refused or there is no directory to look in. -/
theorem exec_removeMutantsOf_counts (seed : Path) (w : World) :
    (∃ fs, (removeMutantsOf seed).exec w =
        (.ok (candidates w.files seed.absolute).length, { w with files := fs }) ∧
      Without w.files (candidates w.files seed.absolute) fs) ∨
    ((removeMutantsOf seed).exec w = (.error .recursivePattern, w) ∧
      Wildcard.isRecursive (candidatePattern seed.absolute).toList = true) := by
  unfold removeMutantsOf
  dsimp only
  rw [Action.exec_bind_of_ok (Action.exec_files w)]
  split
  · split
    · next hrecursive => exact .inr ⟨rfl, hrecursive⟩
    · refine .inl (exec_removeAll (fun path hpath => ?_)
        (pairwise_candidates w.files seed.isAbsolute_absolute))
      obtain ⟨l, content, hlocate, hfile, -⟩ :=
        exists_of_mem_candidates seed.isAbsolute_absolute hpath
      exact ⟨l, content, hlocate, hfile⟩
  · next hnone =>
    have hempty : candidates w.files seed.absolute = [] := by
      refine List.eq_nil_iff_forall_not_mem.mpr fun path hpath => hnone ?_
      obtain ⟨home, name, content, hhome, hfound, -⟩ := mem_candidates_iff.mp hpath
      have hdirectory : w.files.find? home = some .directory :=
        FileSystem.find?_above hfound (List.prefix_append _ _) (by simp)
      simp [FileSystem.isDirectory, FileSystem.entry?, hhome, hdirectory, Entry.isDirectory]
    rw [hempty]
    exact .inl ⟨w.files, rfl, .refl _, fun l => by simp⟩

/-- A removal of the mutants of a seed removes the candidates, or its pattern is refused. -/
theorem exec_removeMutantsOf (seed : Path) (w : World) :
    (∃ removed after, (removeMutantsOf seed).exec w = (.ok removed, after) ∧
      Without w.files (candidates w.files seed.absolute) after.files) ∨
    ((removeMutantsOf seed).exec w = (.error .recursivePattern, w) ∧
      Wildcard.isRecursive (candidatePattern seed.absolute).toList = true) :=
  (exec_removeMutantsOf_counts seed w).imp_left fun ⟨_, hrun, hwithout⟩ => ⟨_, _, hrun, hwithout⟩

/-- A pattern that is refused is refused wherever there is a directory to look in. -/
theorem exec_removeMutantsOf_of_isRecursive {seed : Path} {w : World}
    (hparent : w.files.isDirectory seed.absolute.parent = true)
    (h : Wildcard.isRecursive (candidatePattern seed.absolute).toList = true) :
    (removeMutantsOf seed).exec w = (.error .recursivePattern, w) := by
  unfold removeMutantsOf
  dsimp only
  rw [Action.exec_bind_of_ok (Action.exec_files w), if_pos hparent, if_pos h]
  rfl

/-- A removal of the mutants of a seed whose name stands for itself in a pattern comes to its end,
and leaves no file that is read back as a mutant of the seed. -/
theorem exec_removeMutantsOf_of_isLiteral {seed : Path} (h : IsLiteral seed.absolute) (w : World) :
    ∃ removed after, (removeMutantsOf seed).exec w = (.ok removed, after) ∧
      ∀ l content, IsOffspring w.files seed.absolute l →
        after.files.find? l ≠ some (.file content) := by
  rcases exec_removeMutantsOf seed w with ⟨removed, after, hrun, hwithout⟩ | ⟨-, hrefused⟩
  · refine ⟨removed, after, hrun, fun l content hof hleft => ?_⟩
    have hfound := (hwithout.swept seed.isAbsolute_absolute).of_find? l _ hleft
    obtain ⟨home, name, hhome, rfl, hmutant⟩ := hof
    have hname := FileSystem.isName_of_find? hfound (List.mem_append_right _ List.mem_cons_self)
    have hcandidate : seed.absolute.sibling name ∈ candidates w.files seed.absolute :=
      mem_candidates_iff.mpr ⟨home, name, content, hhome, hfound, rfl, hmutant,
        isFound_of_unbracketed hname (isName_iff.mp h.1).1 h.2.unbracketed hmutant⟩
    rw [hwithout.find?, if_pos ⟨_, hcandidate,
      locate_sibling seed.isAbsolute_absolute hhome hfound⟩] at hleft
    exact nomatch hleft
  · rw [isRecursive_candidatePattern, h.2.isRecursive] at hrefused
    exact nomatch hrefused

/-! ## Exactly the mutants -/

/-- Whether a removal takes away exactly the files beside a seed that are read back as its mutants:
it comes to its end, counts these files, and changes nothing else. -/
def RemovesOffspring (seed : Path) (w : World) : Prop :=
  ∃ fs, (removeMutantsOf seed).exec w =
      (.ok (offspring w.files seed.absolute).length, { w with files := fs }) ∧
    Without w.files (offspring w.files seed.absolute) fs

/-- Where there is a directory to look in, exactly the mutants of a seed are removed if its name has
no two asterisks side by side and its pattern finds each of them, and only then. A pattern without
brackets finds all of them. -/
theorem removesOffspring_iff {seed : Path} {w : World}
    (hparent : w.files.isDirectory seed.absolute.parent = true) :
    (RemovesOffspring seed w ↔
      Wildcard.isRecursive seed.absolute.name.toList = false ∧
        ∀ path ∈ offspring w.files seed.absolute, isFound seed.absolute path.name = true) ∧
    (seed.absolute.name ≠ "" → '[' ∉ seed.absolute.name.toList →
      ∀ path ∈ offspring w.files seed.absolute, isFound seed.absolute path.name = true) := by
  refine ⟨⟨?found, ?removes⟩, ?unbracketed⟩
  case found =>
    rintro ⟨fs, hrun, -⟩
    have hrecursive : Wildcard.isRecursive (candidatePattern seed.absolute).toList = false := by
      refine Bool.eq_false_iff.mpr fun htrue => ?_
      have hrefused := exec_removeMutantsOf_of_isRecursive hparent htrue
      exact nomatch (Prod.mk.inj (hrun.symm.trans hrefused)).1
    rcases exec_removeMutantsOf_counts seed w with ⟨fs', hrun', -⟩ | ⟨-, htrue⟩
    · obtain ⟨hcount, -⟩ := Action.answer_inj (hrun'.symm.trans hrun)
      rw [candidates_eq_filter] at hcount
      exact ⟨isRecursive_candidatePattern _ ▸ hrecursive,
        List.length_filter_eq_length_iff.mp hcount⟩
    · exact nomatch htrue.symm.trans hrecursive
  case removes =>
    rintro ⟨hrecursive, hfound⟩
    have hall : candidates w.files seed.absolute = offspring w.files seed.absolute := by
      rw [candidates_eq_filter]
      exact List.filter_eq_self.mpr hfound
    rcases exec_removeMutantsOf_counts seed w with hcounts | ⟨-, htrue⟩
    · rwa [hall] at hcounts
    · rw [isRecursive_candidatePattern, hrecursive] at htrue
      exact nomatch htrue
  case unbracketed =>
    intro hname hopen path hpath
    obtain ⟨home, name, content, -, hfound, rfl, hof⟩ := mem_offspring_iff.mp hpath
    rw [name_sibling]
    exact isFound_of_unbracketed
      (FileSystem.isName_of_find? hfound (List.mem_append_right _ List.mem_cons_self))
      hname hopen hof

/-- A seed with two mutants, a directory in the place of another, and a source beside it whose name
only begins like that of a mutant. -/
def kindredWorld : World :=
  let files := do
    let fs ← FileSystem.initial.write (Path.ofString "/tmp/w/List.java") []
    let fs ← fs.write (Path.ofString "/tmp/w/List_iter1.java") []
    let fs ← fs.ensureDirectories (Path.ofString "/tmp/w/List_iter2.java")
    let fs ← fs.write (Path.ofString "/tmp/w/List_iter07.java") []
    fs.write (Path.ofString "/tmp/w/List_iterator.java") []
  { World.initial with files := files.toOption.getD .initial }

theorem removesOffspring_kindredWorld :
    let seed := Path.ofString "/tmp/w/List.java"
    kindredWorld.files.isDirectory seed.absolute.parent = true ∧
    RemovesOffspring seed kindredWorld ∧
    (offspring kindredWorld.files seed.absolute).map Path.render =
      ["/tmp/w/List_iter07.java", "/tmp/w/List_iter1.java"] := by
  intro seed
  have hparent : kindredWorld.files.isDirectory seed.absolute.parent = true := by decide +kernel
  have hfound := (removesOffspring_iff hparent).2 (by decide +kernel) (by decide +kernel)
  have hremoves := (removesOffspring_iff hparent).1.mpr ⟨by decide +kernel, hfound⟩
  exact ⟨hparent, hremoves, by decide +kernel⟩

/-- A seed whose pattern stands for another name, with a mutant. -/
def bracketedWorld : World :=
  let files := do
    let fs ← FileSystem.initial.write (Path.ofString "/tmp/w/a[1].java") []
    fs.write (Path.ofString "/tmp/w/a[1]_iter1.java") []
  { World.initial with files := files.toOption.getD .initial }

/-- The mutant is left. -/
theorem not_removesOffspring_bracketedWorld :
    let seed := Path.ofString "/tmp/w/a[1].java"
    bracketedWorld.files.isDirectory seed.absolute.parent = true ∧
    ¬ RemovesOffspring seed bracketedWorld := by
  intro seed
  refine ⟨by decide +kernel, ?_⟩
  rintro ⟨fs, hrun, -⟩
  have hcount : ((removeMutantsOf seed).exec bracketedWorld).1.toOption = some 0 := by
    decide +kernel
  have hlength : (offspring bracketedWorld.files seed.absolute).length = 1 := by decide +kernel
  rw [hrun, hlength] at hcount
  exact absurd (Option.some.inj hcount) (by decide)

end Crosscheck.Mutation
