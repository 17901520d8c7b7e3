import Crosscheck.Analysis.Campaign
import Crosscheck.Proofs.Corpus
import Crosscheck.Proofs.Files.Edits
import Crosscheck.Proofs.Mutation.Attempts
/-!
# Generation keeps to the mutants of its seeds

Removing and generating the mutants of a seed edits files at locations whose path is that of a
mutant of that seed, and nowhere else. Seeds are no mutants, so the corpus is the same afterwards:
no seed is lost or changed, and none is added.

This counts on names without line feeds: the name of a mutant of any other seed is not read back.
-/

namespace Crosscheck.Mutation

open Crosscheck.Files Crosscheck.Text Crosscheck.Java Crosscheck.Variation

/-- Whether the path from the root to a location is that of a mutant of the seed that a path leads
to. -/
def IsMutantOf (fs : FileSystem) (seed : Path) (l : Location) : Prop :=
  ∃ home, fs.locate seed = .ok home ∧ seedOf l.path = some home.path

theorem isMutant_of_isMutantOf {fs : FileSystem} {seed : Path} {l : Location}
    (h : IsMutantOf fs seed l) : isMutant l.path = true := by
  obtain ⟨home, -, hseed⟩ := h
  unfold isMutant
  rw [hseed]
  rfl

theorem isMutantOf_congr {a b : FileSystem} (h : FileSystem.SameDirectories a b) (seed : Path)
    (l : Location) : IsMutantOf b seed l ↔ IsMutantOf a seed l := by
  unfold IsMutantOf
  simp only [h.locate_eq_ok_iff]

/-- A path to a seed whose mutants are read back as its own. -/
structure Sound (seed : Path) : Prop where
  isAbsolute : seed.isAbsolute = true
  isName : isName seed.name = true
  undotted : seed.name.toList.getLast? ≠ some '.'
  oneLine : '\n' ∉ seed.name.toList

variable {base : FileSystem} {seed : Path}

/-! ## Removing -/

theorem confined_removeAll {allowed : Location → Prop} {paths : List Path}
    (h : ∀ path ∈ paths, ∀ l, base.locate path = .ok l → allowed l) :
    (removeAll paths).Confined base allowed := by
  induction paths with
  | nil => exact .pure 0
  | cons path rest ih =>
    obtain ⟨hpath, hrest⟩ := List.forall_mem_cons.mp h
    unfold removeAll
    refine .files_bind fun w hbase => ?_
    cases hunlink : w.files.unlink path with
    | ok fs =>
      obtain ⟨loc, content, hloc, hfile, rfl⟩ := FileSystem.unlink_eq_ok_iff.mp hunlink
      have hedit : Edits allowed w.files (w.files.erase loc) :=
        .erase (.refl _) (hpath loc (hbase.locate_eq_ok_iff.mp hloc)) hfile
      have hlater : (removeAll rest >>= fun removed => pure (removed + 1)).Confined base allowed :=
        (ih hrest).bind fun _ => .pure _
      dsimp only
      rw [Action.exec_bind_of_ok (Action.exec_setFiles w _)]
      exact hedit.trans (hlater { w with files := w.files.erase loc }
        (hbase.trans hedit.sameDirectories))
    | error e =>
      obtain ⟨refusal, subject⟩ := e
      cases refusal with
      | notFound => exact ih hrest w hbase
      | _ => exact .refl _

/-- A path beside a sound seed that is read back as the seed stands for its name. -/
theorem seedParts?_of_seedOf (hseed : Sound seed) {name : String} (hname : isName name = true)
    (hof : seedOf ⟨seed.root, seed.parts.dropLast ++ [name]⟩ = some seed) :
    seedParts? name = some [seed.name] := by
  rw [seedOf_concat _ _ hname, Option.map_eq_some_iff] at hof
  obtain ⟨more, hmore, hseed'⟩ := hof
  have hparts : seed.parts.dropLast ++ more = seed.parts.dropLast ++ [seed.name] := by
    rw [Path.dropLast_concat_name (isName_iff.mp hseed.isName).1]
    exact congrArg Path.parts hseed'
  rw [hmore, List.append_cancel_left hparts]

/-- A sound seed stands by its name in the directory that its path goes through. -/
theorem locate_of_home (hseed : Sound seed) {fs : FileSystem} {home : Location}
    (hhome : fs.locate ⟨seed.root, seed.parts.dropLast⟩ = .ok home)
    (hdir : fs.find? home = some .directory) : fs.locate seed = .ok (home ++ [seed.name]) := by
  have hroot : (⟨seed.root, seed.parts.dropLast⟩ : Path).isAbsolute = true := hseed.isAbsolute
  have hlocate : fs.locate ⟨seed.root, seed.parts.dropLast ++ [seed.name]⟩ =
      .ok (home ++ [seed.name]) :=
    (FileSystem.locate_concat_eq_ok hroot).mpr
      ⟨home, hhome, hdir, (Location.go_of_isName hseed.isName _).symm⟩
  rwa [Path.dropLast_concat_name (isName_iff.mp hseed.isName).1] at hlocate

/-- A file beside a sound seed that is read back as its mutant is one by its location as well. -/
theorem isMutantOf_of_listed (hseed : Sound seed) {fs : FileSystem} {path : Path} {entry : Entry}
    {l : Location} (hlisted : (path, entry) ∈ fs.children seed.parent)
    (hof : seedOf path = some seed) (hl : fs.locate path = .ok l) : IsMutantOf fs seed l := by
  obtain ⟨home, name, hhome, rfl, hfound⟩ := FileSystem.mem_children_iff.mp hlisted
  have hname : isName name = true := FileSystem.isName_of_find? hfound (by simp)
  have hroot : (⟨seed.root, seed.parts.dropLast⟩ : Path).isAbsolute = true := hseed.isAbsolute
  obtain ⟨other, hother, hdir, rfl⟩ := (FileSystem.locate_concat_eq_ok hroot).mp hl
  obtain rfl := Except.ok.inj (hhome.symm.trans hother)
  refine ⟨home ++ [seed.name], locate_of_home hseed hhome hdir, ?_⟩
  rw [Location.go_of_isName hname]
  unfold Location.path
  rw [seedOf_concat _ _ hname, seedParts?_of_seedOf hseed hname hof]
  rfl

/-- Removing the mutants of a seed removes files that are listed beside it and read back as its
mutants. -/
theorem confined_removeMutantsOf_of {allowed : Location → Prop}
    (h : ∀ fs, FileSystem.SameDirectories base fs → ∀ path entry,
      (path, entry) ∈ fs.children seed.absolute.parent → seedOf path = some seed.absolute →
        ∀ l, base.locate path = .ok l → allowed l) :
    (removeMutantsOf seed).Confined base allowed := by
  unfold removeMutantsOf
  dsimp only
  refine .files_bind fun w hbase => ?_
  split
  · generalize hlist : List.filterMap _ _ = paths
    have hlisted : (removeAll paths).Confined base allowed := by
      refine confined_removeAll fun path hpath l hl => ?_
      rw [← hlist] at hpath
      obtain ⟨⟨other, entry⟩, hmatching, hkept⟩ := List.mem_filterMap.mp hpath
      simp only [Option.ite_none_right_eq_some, Bool.and_eq_true, beq_iff_eq,
        Option.some.injEq] at hkept
      obtain ⟨⟨-, hof⟩, rfl⟩ := hkept
      exact h w.files hbase other entry (List.mem_of_mem_filter hmatching) hof l hl
    split
    · exact Action.Confined.bind (.throw _) (fun _ => hlisted) w hbase
    · exact hlisted w hbase
  · exact .refl _

theorem confined_removeMutantsOf (hseed : Sound seed) :
    (removeMutantsOf seed).Confined base (IsMutantOf base seed) := by
  refine confined_removeMutantsOf_of fun fs hbase path entry hlisted hof l hl => ?_
  rw [Path.absolute_of_isAbsolute hseed.isAbsolute] at hlisted hof
  exact (isMutantOf_congr hbase seed l).mp
    (isMutantOf_of_listed hseed hlisted hof (hbase.locate_eq_ok_iff.mpr hl))

/-! ## Generating -/

theorem edits_trial {allowed : Location → Prop} {fs after : FileSystem}
    (h : ∀ (number : Nat) l, fs.locate (mutantPath seed number) = .ok l → allowed l) (source : Bytes)
    (tree : Node) (hdirs : FileSystem.SameDirectories fs after) (made : List Mutant) (a : Attempt) :
    Edits allowed after (a.trial seed source tree (made, after)).2 := by
  unfold Attempt.trial
  cases a.edit? source tree with
  | none => exact .refl after
  | some edited =>
    dsimp only
    cases hwrite : after.write (mutantPath seed (made.length + 1 : Nat)) edited with
    | error e => exact .refl after
    | ok written =>
      obtain ⟨l, hl, hput, rfl⟩ := FileSystem.write_eq_ok_iff.mp hwrite
      exact .put (.refl after) (h _ l (hdirs.locate_eq_ok_iff.mp hl)) hput

theorem edits_trials {allowed : Location → Prop} {fs : FileSystem}
    (h : ∀ (number : Nat) l, fs.locate (mutantPath seed number) = .ok l → allowed l) (source : Bytes)
    (tree : Node) (tried : List Attempt) :
    ∀ (made : List Mutant) (after : FileSystem), FileSystem.SameDirectories fs after →
      Edits allowed after (tried.foldl (Attempt.trial seed source tree) (made, after)).2 := by
  induction tried with
  | nil => exact fun _ after _ => .refl after
  | cons a rest ih =>
    intro made after hdirs
    have hfirst := edits_trial h source tree hdirs made a
    rw [List.foldl_cons]
    exact hfirst.trans (ih _ _ (hdirs.trans hfirst.sameDirectories))

/-- Generating the mutants of a seed writes files by their paths. -/
theorem confined_generate_of {allowed : Location → Prop} (transforms : List Transform)
    (h : ∀ (number : Nat) l, base.locate (mutantPath seed.absolute number) = .ok l → allowed l) :
    (generate seed transforms).Confined base allowed := by
  intro w hbase
  rcases unread_or_den w.files seed.isAbsolute_absolute with
    hunread | ⟨home, source, tree, hden, hparse⟩
  · obtain ⟨after, hrun, hfiles⟩ := exec_generate_of_unread transforms hunread
    rw [hrun, hfiles]
    exact .refl _
  · obtain ⟨made, after, hrun, hfold⟩ := exec_generate transforms hden.read hparse
    have hedits := edits_trials h source tree (attempts tree transforms) [] w.files hbase
    rw [hfold] at hedits
    rw [hrun]
    exact hedits

/-- The path of a mutant of a sound seed leads to where it is read back as such. -/
theorem isMutantOf_of_locate (hseed : Sound seed) {number : Nat} {l : Location}
    (hl : base.locate (mutantPath seed number) = .ok l) : IsMutantOf base seed l := by
  have hroot : (⟨seed.root, seed.parts.dropLast⟩ : Path).isAbsolute = true := hseed.isAbsolute
  rw [mutantPath_eq hseed.isAbsolute hseed.isName] at hl
  obtain ⟨home, hhome, hdir, rfl⟩ := (FileSystem.locate_concat_eq_ok hroot).mp hl
  refine ⟨home ++ [seed.name], locate_of_home hseed hhome hdir, ?_⟩
  rw [Location.go_of_isName (isName_mutantName hseed.isName number)]
  unfold Location.path
  rw [seedOf_concat _ _ (isName_mutantName hseed.isName number),
    seedParts?_mutantName hseed.isName hseed.undotted hseed.oneLine]
  rfl

theorem confined_generate (hseed : Sound seed) (transforms : List Transform) :
    (generate seed transforms).Confined base (IsMutantOf base seed) := by
  refine confined_generate_of transforms fun number l hl => ?_
  rw [Path.absolute_of_isAbsolute hseed.isAbsolute] at hl
  exact isMutantOf_of_locate hseed hl

end Crosscheck.Mutation

namespace Crosscheck.Corpus

open Crosscheck.Files Crosscheck.Mutation

/-! ## The corpus -/

/-- File systems without line feeds in names. -/
def OneLine (fs : FileSystem) : Prop := ∀ x ∈ fs.entries, ∀ name ∈ x.1, '\n' ∉ name.toList

theorem sound_of_mem_seeds {fs : FileSystem} (hlines : OneLine fs) {folder seed : Path}
    (habsolute : folder.isAbsolute = true) (h : seed ∈ seeds fs folder) : Sound seed := by
  obtain ⟨loc, rel, entry, -, hne, rfl, hfound, hsuffix⟩ :=
    exists_of_mem_sources (List.mem_filter.mp h).1
  have hname : (⟨folder.root, folder.parts ++ rel⟩ : Path).name = rel.getLast hne := by
    simp [Path.name, List.getLast?_append, List.getLast?_eq_some_getLast hne]
  have hmem : rel.getLast hne ∈ loc ++ rel := List.mem_append_right _ (List.getLast_mem hne)
  refine ⟨habsolute, ?_, getLast?_ne_dot hsuffix, ?_⟩
  · rw [hname]
    exact FileSystem.isName_of_find? hfound hmem
  · rw [hname]
    exact hlines _ ((FileSystem.mem_entries_iff
      (List.append_ne_nil_of_right_ne_nil _ hne)).mpr hfound) _ hmem

end Crosscheck.Corpus

namespace Crosscheck.Analysis.Campaign

open Crosscheck.Configuration Crosscheck.Files Crosscheck.Mutation

/-! ## Campaigns -/

variable (campaign : Campaign) (transforms : List Transform)

/-- Whether the path to a location is that of a mutant of one of the seeds. -/
def IsMutantOfAny (fs : FileSystem) (seeds : List Path) (l : Location) : Prop :=
  ∃ seed ∈ seeds, IsMutantOf fs seed l

/-- What holds of removing and generating the mutants of each seed holds of all together. -/
theorem confined_mutateAll {base : FileSystem} {allowed : Location → Prop} {seeds : List Path}
    (hseeds : ∀ seed ∈ seeds, (removeMutantsOf seed).Confined base allowed ∧
      (generate seed transforms).Confined base allowed) :
    (campaign.mutateAll transforms seeds).Confined base allowed := by
  induction seeds with
  | nil => exact .pure 0
  | cons seed rest ih =>
    obtain ⟨⟨hremove, hgenerate⟩, hrest⟩ := List.forall_mem_cons.mp hseeds
    have hfirst : (campaign.mutateSeed transforms seed).Confined base allowed := by
      unfold mutateSeed
      dsimp only
      split
      · exact .bind hremove fun _ => .bind hgenerate fun _ => .pure _
      · exact .bind hgenerate fun _ => .pure _
    unfold mutateAll
    split
    · exact .bind (.note _ _) fun _ => .pure 0
    · refine .bind (.attempt hfirst) fun made => ?_
      cases made with
      | ok mutants => exact .bind (ih hrest) fun _ => .pure _
      | error fault => exact .bind (.note _ _) fun _ => ih hrest

theorem confined_mutateAll_of_sound {base : FileSystem} {seeds : List Path}
    (hseeds : ∀ seed ∈ seeds, Sound seed) :
    (campaign.mutateAll transforms seeds).Confined base (IsMutantOfAny base seeds) :=
  campaign.confined_mutateAll transforms fun seed hmem =>
    have hany := fun l (hl : IsMutantOf base seed l) => (⟨seed, hmem, hl⟩ : IsMutantOfAny _ _ l)
    ⟨(confined_removeMutantsOf (hseeds seed hmem)).mono hany,
      (confined_generate (hseeds seed hmem) transforms).mono hany⟩

/-- Whatever the names of the seeds, their generation leaves the directories. -/
theorem sameDirectories_prepareSeeds (folders : List Path) (w : World) :
    FileSystem.SameDirectories w.files ((campaign.prepareSeeds folders).exec w).2.files := by
  have hmutate (seeds : List Path) :
      (campaign.mutateAll (transformsOf Variation.Catalog.standard.rules) seeds).Confined w.files
        fun _ => True :=
    campaign.confined_mutateAll _ fun seed _ =>
      ⟨confined_removeMutantsOf_of fun _ _ _ _ _ _ _ _ => trivial,
        confined_generate_of _ fun _ _ _ => trivial⟩
  have hconfined : (campaign.prepareSeeds folders).Confined w.files fun _ => True := by
    unfold prepareSeeds mutateSeeds mutateSeedsBy
    split
    · exact .files_bind fun v hv => (hmutate _).bind (fun _ => .pure _) v hv
    · exact .files_bind fun v hv => .refl _
  exact (hconfined w (.refl _)).sameDirectories

/-- What a generation for seeds leaves of the files before it. -/
structure Spared (before : FileSystem) (seeds : List Path) (after : FileSystem) : Prop where
  /-- Files come, change and go only by the paths of mutants of these seeds. -/
  edits : Edits (IsMutantOfAny before seeds) before after
  /-- Every directory stays, and there are no others. -/
  directories : ∀ l, after.find? l = some .directory ↔ before.find? l = some .directory
  /-- What is no mutant is as before. -/
  corpus : ∀ l : Location, isMutant l.path = false → after.find? l = before.find? l
  /-- The mutants of other seeds are as before. -/
  others : ∀ l other : Location, seedOf l.path = some other.path →
    (∀ seed ∈ seeds, before.locate seed ≠ .ok other) → after.find? l = before.find? l
  /-- Every folder has the same seeds. -/
  seeds : ∀ folder, Corpus.seeds after folder = Corpus.seeds before folder

theorem spared_of_edits {before after : FileSystem} {seeds : List Path}
    (h : Edits (IsMutantOfAny before seeds) before after) : Spared before seeds after := by
  have hcorpus : ∀ l : Location, isMutant l.path = false → after.find? l = before.find? l := by
    intro l hl
    refine h.find?_eq ?_
    rintro ⟨seed, -, hmutant⟩
    exact Bool.false_ne_true (hl.symm.trans (isMutant_of_isMutantOf hmutant))
  refine ⟨h, h.sameDirectories, hcorpus, fun l other hother hseeds => ?_,
    Corpus.seeds_congr h.sameDirectories hcorpus⟩
  refine h.find?_eq ?_
  rintro ⟨seed, hseed, home, hhome, hof⟩
  have hsame : home.path = other.path := Option.some.inj (hof.symm.trans hother)
  exact hseeds seed hseed (hhome.trans (congrArg Except.ok (congrArg Path.parts hsame)))

/-- Generating the mutants of the seeds in the folders of a corpus edits files by the paths of mutants
of these seeds. -/
theorem edits_mutateSeedsBy (corpus : Path) (w : World) (hlines : Corpus.OneLine w.files) :
    let folders := Corpus.folders w.files corpus
    Edits (IsMutantOfAny w.files (folders.flatMap (Corpus.seeds w.files))) w.files
      ((campaign.mutateSeedsBy transforms folders).exec w).2.files := by
  intro folders
  have hsound : ∀ seed ∈ folders.flatMap (Corpus.seeds w.files), Sound seed := by
    intro seed hseed
    obtain ⟨folder, hfolder, hmem⟩ := List.mem_flatMap.mp hseed
    exact Corpus.sound_of_mem_seeds hlines (Corpus.isAbsolute_of_mem_folders hfolder) hmem
  have hconfined : (campaign.mutateAll transforms (folders.flatMap (Corpus.seeds w.files)) >>=
      fun mutants => pure ((folders.flatMap (Corpus.seeds w.files)).length, mutants)).Confined
      w.files (IsMutantOfAny w.files (folders.flatMap (Corpus.seeds w.files))) :=
    .bind (campaign.confined_mutateAll_of_sound transforms hsound) fun _ => .pure _
  unfold mutateSeedsBy
  rw [Action.exec_bind_of_ok (Action.exec_files w)]
  exact hconfined w (.refl _)

/-- Generating the mutants of the seeds in the folders of a corpus touches mutants of these seeds
and nothing else, whatever the settings and the transforms. -/
theorem spared_mutateSeedsBy (corpus : Path) (w : World) (hlines : Corpus.OneLine w.files) :
    let folders := Corpus.folders w.files corpus
    Spared w.files (folders.flatMap (Corpus.seeds w.files))
      ((campaign.mutateSeedsBy transforms folders).exec w).2.files := by
  intro folders
  exact spared_of_edits (campaign.edits_mutateSeedsBy transforms corpus w hlines)

/-- A corpus of two seeds, one named like a mutant of the other but for the number, with a mutant of
the first and one of a seed that is not there. -/
def siblingWorld : World :=
  let files := do
    let fs ← FileSystem.initial.ensureDirectories (Path.ofString "/tmp/w/seeds")
    let fs ← fs.write (Path.ofString "/tmp/w/seeds/List.java") []
    let fs ← fs.write (Path.ofString "/tmp/w/seeds/List_iterator.java") []
    let fs ← fs.write (Path.ofString "/tmp/w/seeds/List_iter7.java") [7]
    fs.write (Path.ofString "/tmp/w/seeds/Set_iter1.java") [1]
  { World.initial with files := files.toOption.getD .initial }

/-- The mutants of the two seeds may come and go. The fourth file is no mutant of theirs. -/
theorem spared_siblingWorld :
    let campaign : Campaign := ⟨{ Settings.initial with cleanup := true }, false⟩
    let transforms := transformsOf Variation.Catalog.standard.rules
    let folders := Corpus.folders siblingWorld.files (Path.ofString "seeds")
    Corpus.OneLine siblingWorld.files ∧
      (folders.flatMap (Corpus.seeds siblingWorld.files)).map Path.render =
        ["/tmp/w/seeds/List.java", "/tmp/w/seeds/List_iterator.java"] ∧
      Spared siblingWorld.files (folders.flatMap (Corpus.seeds siblingWorld.files))
        ((campaign.mutateSeedsBy transforms folders).exec siblingWorld).2.files := by
  have hlines : Corpus.OneLine siblingWorld.files := by
    unfold Corpus.OneLine
    decide +kernel
  exact ⟨hlines, by decide +kernel,
    Campaign.spared_mutateSeedsBy _ _ (Path.ofString "seeds") siblingWorld hlines⟩

end Crosscheck.Analysis.Campaign
