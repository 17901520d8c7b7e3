import Crosscheck.Proofs.Files.Trail
import Crosscheck.Proofs.Listing
import Crosscheck.Proofs.Mutation.Confinement
import Crosscheck.Proofs.Mutation.Records
/-!
# Generating mutants again

Generating mutants a second time makes the same mutants as the first time and leaves the files as
they are. It does so not only right after the first time, but in all files that uphold what the
first time left: no directory is gone, and of the files that concern the seeds none has come,
changed or gone (`exec_recordAll_again`).
-/

namespace Crosscheck.Mutation

open Crosscheck.Files Crosscheck.Text Crosscheck.Java

/-- Whether a location is that of a seed or of what may be a mutant of it. -/
def Concerns (fs : FileSystem) (seed : Path) (l : Location) : Prop :=
  fs.locate seed = .ok l ∨ Claims fs seed l

theorem concerns_congr {a b : FileSystem} (h : FileSystem.SameDirectories a b) (seed : Path)
    (l : Location) : Concerns b seed l ↔ Concerns a seed l := by
  unfold Concerns
  rw [h.locate_eq_ok_iff, claims_congr h]

/-- Files that have the directories of others and, of all that concerns seeds, the same files. -/
structure Upholds (seeds : List Path) (fs later : FileSystem) : Prop where
  directories : ∀ l, fs.find? l = some .directory → later.find? l = some .directory
  files : ∀ seed ∈ seeds, ∀ l, Concerns fs seed l → ∀ content,
    (later.find? l = some (.file content) ↔ fs.find? l = some (.file content))

/-! ## Attempts -/

section Attempts

variable {seed : Path} {home : Location} {source : Bytes} {tree : Node} {a b after after' : FileSystem}
  {tried : List Attempt} {succeeds succeeds' : Nat → Bool} {made made' : List Mutant}

/-- An attempt fits unless it changes nothing or a directory is in the place of its mutant. -/
theorem Den.fits_iff (hden : Den a seed home source) (number : Nat) (x : Attempt) :
    x.Fits seed source tree a number ↔
      (∃ edited, x.edit? source tree = some edited) ∧
        a.find? (place home seed number) ≠ some .directory := by
  have hput (edited : Bytes) : a.CanPut (place home seed number) (.file edited) ↔
      a.find? (place home seed number) ≠ some .directory := by
    simp [FileSystem.CanPut, place, hden.directory, isName_mutantName hden.isName number]
  unfold Attempt.Fits
  simp only [hden.exists_write_iff (.refl a), hput, exists_and_right]

/-- Where attempts that are made again find a directory exactly where they found or left one, the
same ones succeed. -/
theorem Numbered.succeeds_eq (ha : Den a seed home source) (hb : Den b seed home source)
    (h : Numbered seed source tree a tried succeeds made after)
    (h' : Numbered seed source tree b tried succeeds' made' after')
    (hkept : ∀ number entry, after.find? (place home seed number) = some entry →
      (b.find? (place home seed number) = some .directory ↔ entry = .directory)) :
    ∀ n ≤ tried.length, ∀ i < n, succeeds' i = succeeds i := by
  intro n hn
  induction n with
  | zero => exact fun i hi => absurd hi (Nat.not_lt_zero i)
  | succ n ih =>
    have hbefore := ih (Nat.le_of_succ_le hn)
    intro i hi
    rcases Nat.lt_succ_iff_lt_or_eq.mp hi with hlt | rfl
    · exact hbefore i hlt
    · obtain ⟨x, hx⟩ : ∃ x, tried[i]? = some x := ⟨_, List.getElem?_eq_getElem hn⟩
      have hearlier := earlier_congr hbefore (Nat.le_refl i)
      rw [Bool.eq_iff_iff, h.succeeds_iff i x hx, h'.succeeds_iff i x hx, hearlier, ha.fits_iff,
        hb.fits_iff]
      have hafter := h.directories (place home seed (earlier succeeds i + 1))
      refine and_congr_right fun hedit => not_congr ⟨fun hb => ?_, fun ha => ?_⟩
      · by_contra hfree
        obtain ⟨edited, -, hedited⟩ :=
          h.content i x hx ((h.succeeds_iff i x hx).mpr ((ha.fits_iff _ x).mpr ⟨hedit, hfree⟩))
        have hfile := (ha.read_mutantPath_iff h.directories _ edited).mp hedited
        exact nomatch (hkept _ _ hfile).mp hb
      · exact (hkept _ _ (hafter.mpr ha)).mpr rfl

/-- Attempts that are made again come to the same mutants. -/
theorem Numbered.again (ha : Den a seed home source) (hb : Den b seed home source)
    (h : Numbered seed source tree a tried succeeds made after)
    (h' : Numbered seed source tree b tried succeeds' made' after')
    (hkept : ∀ number entry, after.find? (place home seed number) = some entry →
      (b.find? (place home seed number) = some .directory ↔ entry = .directory)) :
    made' = made ∧ ∀ l, (∃ m ∈ made, a.locate m.path = .ok l) → after'.find? l = after.find? l := by
  have hsame := succeeds_eq ha hb h h' hkept tried.length (Nat.le_refl _)
  refine ⟨by rw [h.made_eq, h'.made_eq, records_congr hsame], ?_⟩
  rintro l ⟨m, hm, hl⟩
  rw [h.made_eq] at hm
  obtain ⟨⟨x, i⟩, hlisted, rfl⟩ := List.mem_map.mp hm
  obtain ⟨htried, hsucceeds⟩ := List.mem_filter.mp hlisted
  have hx : tried[i]? = some x := List.mem_zipIdx_iff_getElem?.mp htried
  have hi : i < tried.length := (List.getElem?_eq_some_iff.mp hx).1
  obtain ⟨edited, hedit, hread⟩ := h.content i x hx hsucceeds
  obtain ⟨edited', hedit', hread'⟩ := h'.content i x hx ((hsame i hi).trans hsucceeds)
  obtain rfl := Option.some.inj (hedit.symm.trans hedit')
  rw [earlier_congr hsame hi.le] at hread'
  rw [Attempt.path_mutant, ha.locate_mutantPath] at hl
  obtain rfl := Except.ok.inj hl
  rw [(ha.read_mutantPath_iff h.directories _ _).mp hread,
    (hb.read_mutantPath_iff h'.directories _ _).mp hread']

end Attempts

/-! ## The mutants of one seed -/

section Seed

variable {seed : Path} {w w' v : World} {made : List Mutant}

/-- Mutants that are generated again, from the same source, where the first ones left no file there is
no directory in their place now. -/
theorem exec_generate_again (habsolute : seed.isAbsolute = true) (transforms : List Transform)
    (hrun : (generate seed transforms).exec w = (.ok made, w'))
    (hways : ∀ l, w'.files.find? l = some .directory → v.files.find? l = some .directory)
    (hsource : ∀ source, v.files.read seed = .ok source ↔ w.files.read seed = .ok source)
    (hplaces : ∀ l content, Claims w.files seed l → w'.files.find? l = some (.file content) →
      v.files.find? l ≠ some .directory) :
    ∃ v', (generate seed transforms).exec v = (.ok made, v') ∧ ∀ l,
      (∃ m ∈ made, w.files.locate m.path = .ok l) ∧ v'.files.find? l = w'.files.find? l ∨
        v'.files.find? l = v.files.find? l ∧ w'.files.find? l = w.files.find? l := by
  have hseed := Path.absolute_of_isAbsolute habsolute
  rcases unread_or_den w.files habsolute with hunread | ⟨home, source, tree, hden, hparse⟩
  · obtain ⟨after, hfirst, hfiles⟩ := @exec_generate_of_unread seed w transforms (by rwa [hseed])
    obtain ⟨v', hagain, hfiles'⟩ := @exec_generate_of_unread seed v transforms
      (by rw [hseed]; exact fun source hread => hunread source ((hsource source).mp hread))
    obtain ⟨rfl, rfl⟩ := Action.answer_inj (hrun.symm.trans hfirst)
    exact ⟨v', hagain, fun l => .inr ⟨by rw [hfiles'], by rw [hfiles]⟩⟩
  · obtain ⟨home', hden'⟩ := exists_den habsolute ((hsource source).mpr hden.read)
    obtain ⟨succeeds, made₁, w₁, hfirst, hnumbered⟩ :=
      (hseed.symm ▸ hden).exec_generate transforms hparse
    obtain ⟨succeeds', made', v', hagain, hnumbered'⟩ :=
      (hseed.symm ▸ hden').exec_generate transforms hparse
    obtain ⟨rfl, rfl⟩ := Action.answer_inj (hrun.symm.trans hfirst)
    rw [hseed] at hnumbered hnumbered'
    have hhome : home' = home :=
      (FileSystem.locate_eq_location hden'.parent).trans
        (FileSystem.locate_eq_location hden.parent).symm
    subst hhome
    obtain ⟨rfl, hwritten⟩ := hnumbered.again hden hden' hnumbered' fun number entry hentry => by
      refine ⟨fun hdirectory => ?_, fun h => hways _ (h ▸ hentry)⟩
      cases entry with
      | directory => rfl
      | file content =>
        exact absurd hdirectory (hplaces _ content
          (.inr ⟨⟨_, hden.locate, by simp [hden.file]⟩, number, hden.locate_mutantPath number⟩)
          hentry)
    refine ⟨v', hagain, fun l => ?_⟩
    by_cases hl : ∃ m ∈ made', w.files.locate m.path = .ok l
    · exact .inl ⟨hl, hwritten l hl⟩
    · push Not at hl
      refine .inr ⟨hnumbered'.elsewhere l fun m hm hother => hl m hm ?_, hnumbered.elsewhere l hl⟩
      obtain ⟨k, hk⟩ := List.getElem?_of_mem hm
      rw [(hnumbered.numbered k m hk).2] at hother ⊢
      rw [hden.locate_mutantPath]
      rwa [hden'.locate_mutantPath] at hother

/-- Where there is a directory to look in, two removals are both refused, or neither is. -/
theorem exec_removeMutantsOf_both (hparent : w.files.isDirectory seed.absolute.parent = true)
    (hparent' : v.files.isDirectory seed.absolute.parent = true) :
    ((removeMutantsOf seed).exec w = (.error .recursivePattern, w) ∧
      (removeMutantsOf seed).exec v = (.error .recursivePattern, v)) ∨
    ∃ removed removed' swept swept', (removeMutantsOf seed).exec w = (.ok removed, swept) ∧
      (removeMutantsOf seed).exec v = (.ok removed', swept') ∧
      Without w.files (candidates w.files seed.absolute) swept.files ∧
      Without v.files (candidates v.files seed.absolute) swept'.files := by
  rcases exec_removeMutantsOf seed w with ⟨removed, swept, hrun, hwithout⟩ | ⟨hrun, hrecursive⟩
  · rcases exec_removeMutantsOf seed v with ⟨removed', swept', hrun', hwithout'⟩ | ⟨hrun', hrecursive⟩
    · exact .inr ⟨removed, removed', swept, swept', hrun, hrun', hwithout, hwithout'⟩
    · exact .inl ⟨exec_removeMutantsOf_of_isRecursive hparent hrecursive, hrun'⟩
  · exact .inl ⟨hrun, exec_removeMutantsOf_of_isRecursive hparent' hrecursive⟩

end Seed

/-- A seed by its own name in a directory, which is no mutant. -/
structure Listed (fs : FileSystem) (seed : Path) : Prop where
  isAbsolute : seed.isAbsolute = true
  isName : isName seed.name = true
  isMutant : isMutant seed = false
  parent : fs.isDirectory seed.parent = true

namespace Listed

variable {fs later : FileSystem} {seed : Path}

theorem exists_home (h : Listed fs seed) : ∃ home, fs.locate seed.parent = .ok home ∧
    fs.locate seed = .ok (home ++ [seed.name]) ∧
    ∀ number : Nat, fs.locate (mutantPath seed number) = .ok (place home seed number) := by
  obtain ⟨home, hhome, hdirectory⟩ := FileSystem.isDirectory_iff.mp h.parent
  have hroot : (⟨seed.root, seed.parts.dropLast⟩ : Path).isAbsolute = true := h.isAbsolute
  have hlocate {name : String} (hname : Files.isName name = true) :
      fs.locate ⟨seed.root, seed.parts.dropLast ++ [name]⟩ = .ok (home ++ [name]) :=
    (FileSystem.locate_concat_eq_ok hroot).mpr
      ⟨home, hhome, hdirectory, (Location.go_of_isName hname home).symm⟩
  refine ⟨home, hhome, ?_, fun number => ?_⟩
  · have hseed := hlocate h.isName
    rwa [Path.dropLast_concat_name (isName_iff.mp h.isName).1] at hseed
  · rw [mutantPath_eq h.isAbsolute h.isName]
    exact hlocate (isName_mutantName h.isName number)

theorem of_directories (h : Listed fs seed)
    (hways : ∀ l, fs.find? l = some .directory → later.find? l = some .directory) :
    Listed later seed where
  isAbsolute := h.isAbsolute
  isName := h.isName
  isMutant := h.isMutant
  parent := by
    obtain ⟨home, hhome, hdirectory⟩ := FileSystem.isDirectory_iff.mp h.parent
    exact FileSystem.isDirectory_iff.mpr
      ⟨home, FileSystem.follow_of_directories hways hhome, hways home hdirectory⟩

/-- A seed is not removed with its mutants. -/
theorem find?_of_without {after : FileSystem} {l : Location} (h : Listed fs seed)
    (hwithout : Without fs (candidates fs seed) after) (hl : fs.locate seed = .ok l) :
    after.find? l = fs.find? l := by
  refine (hwithout.swept h.isAbsolute).find?_eq l ?_
  rintro ⟨home, name, hhome, rfl, hof⟩
  obtain ⟨home', hhome', hlocate, -⟩ := h.exists_home
  obtain rfl := Except.ok.inj (hhome.symm.trans hhome')
  obtain rfl : name = seed.name := by simpa using hl.symm.trans hlocate
  have hnot := h.isMutant
  rw [Path.sibling_name (isName_iff.mp h.isName).1] at hof
  simp [Mutation.isMutant, hof] at hnot

/-- A seed is not among the mutants that are generated from it. -/
theorem find?_of_generated {after : FileSystem} {made : List Mutant} {l : Location}
    (h : Listed fs seed) (hgenerated : Generated fs seed made after)
    (hl : fs.locate seed = .ok l) : after.find? l = fs.find? l := by
  refine hgenerated.elsewhere l fun m hm hthere => ?_
  obtain ⟨home, -, hlocate, hplaces⟩ := h.exists_home
  obtain ⟨number, hpath⟩ := (hgenerated.record m hm).2
  rw [hpath, hplaces] at hthere
  exact place_ne home seed number (Except.ok.inj (hthere.trans (hl.symm.trans hlocate)))

/-- What a second removal takes away are files where the first removal left nothing. -/
theorem cleared {after : FileSystem} {path : Path} {l : Location} (h : Listed fs seed)
    (hways : ∀ l, fs.find? l = some .directory → later.find? l = some .directory)
    (hwithout : Without fs (candidates fs seed) after) (hpath : path ∈ candidates later seed)
    (hl : later.locate path = .ok l) :
    Claims after seed l ∧ after.find? l = none ∧ ∃ content, later.find? l = some (.file content) := by
  obtain ⟨home, name, content, hhome, hfound, rfl, hof, haccept⟩ := mem_candidates_iff.mp hpath
  obtain ⟨home', hhome', -⟩ := h.exists_home
  obtain rfl : home' = home :=
    (FileSystem.locate_eq_location hhome').trans (FileSystem.locate_eq_location hhome).symm
  obtain rfl := Except.ok.inj (hl.symm.trans (locate_sibling h.isAbsolute hhome hfound))
  refine ⟨.inl ⟨home', name, hwithout.directories.locate_eq_ok_iff.mpr hhome', rfl, hof⟩, ?_,
    content, hfound⟩
  rw [hwithout.find?]
  split
  · rfl
  · next hnot =>
    cases hbefore : fs.find? (home' ++ [name]) with
    | none => rfl
    | some entry =>
      cases entry with
      | directory => exact nomatch (hways _ hbefore).symm.trans hfound
      | file other =>
        exact absurd ⟨_, mem_candidates_iff.mpr
          ⟨home', name, other, hhome', hbefore, rfl, hof, haccept⟩,
          locate_sibling h.isAbsolute hhome' hbefore⟩ hnot

end Listed

/-- What a second generation finds of the first one it leaves, if all that went before was files where
the first one left none. -/
theorem files_of_generate_again {seed : Path} {swept swept' w' v : World} {made : List Mutant}
    {transforms : List Transform} (hseed : Listed swept.files seed)
    (hrun : (generate seed transforms).exec swept = (.ok made, w'))
    (hupholds : Upholds [seed] w'.files v.files)
    (hdirs : FileSystem.SameDirectories v.files swept'.files)
    (hkept : ∀ l, swept.files.locate seed = .ok l → swept'.files.find? l = v.files.find? l)
    (hswept : ∀ l, swept'.files.find? l = v.files.find? l ∨
      Claims swept.files seed l ∧ swept.files.find? l = none ∧
        ∃ content, v.files.find? l = some (.file content)) :
    ∃ v', (generate seed transforms).exec swept' = (.ok made, v') ∧ v'.files = v.files := by
  obtain ⟨made', after, hrun', hgenerated⟩ := exec_generate_generated seed transforms swept
  obtain ⟨rfl, rfl⟩ := Action.answer_inj (hrun.symm.trans hrun')
  rw [Path.absolute_of_isAbsolute hseed.isAbsolute] at hgenerated
  have hsame := hgenerated.directories
  have hfiles (l : Location) (hl : Concerns swept.files seed l) (content : Bytes) :
      v.files.find? l = some (.file content) ↔ w'.files.find? l = some (.file content) :=
    hupholds.files seed (List.mem_singleton_self _) l ((concerns_congr hsame seed l).mpr hl) content
  have hways (l : Location) (hl : w'.files.find? l = some .directory) :
      swept'.files.find? l = some .directory := (hdirs l).mpr (hupholds.directories l hl)
  have hseed' : Listed swept'.files seed :=
    hseed.of_directories fun l hl => hways l ((hsame l).mpr hl)
  obtain ⟨home, hhome, hlocate, -⟩ := hseed.exists_home
  obtain ⟨home', hhome', hlocate', -⟩ := hseed'.exists_home
  obtain rfl : home' = home :=
    (FileSystem.locate_eq_location hhome').trans (FileSystem.locate_eq_location hhome).symm
  obtain ⟨v', hagain, hends⟩ := exec_generate_again (v := swept') hseed.isAbsolute transforms hrun
    hways (fun source => by
      rw [FileSystem.read_eq_ok_iff_of_locate hlocate, FileSystem.read_eq_ok_iff_of_locate hlocate',
        hkept _ hlocate, hfiles _ (.inl hlocate), hseed.find?_of_generated hgenerated hlocate])
    (fun l content hclaims hfile hdirectory => by
      have hfound := (hfiles l (.inr hclaims) content).mpr hfile
      exact nomatch ((hdirs l).mp hdirectory).symm.trans hfound)
  refine ⟨v', hagain, FileSystem.ext_find? fun l => ?_⟩
  rcases hends l with ⟨⟨m, hm, hl⟩, hwritten⟩ | ⟨hleft, hfirst⟩
  · obtain ⟨other, content, hother, hfile⟩ := hgenerated.written m hm
    obtain rfl := Except.ok.inj (hother.symm.trans hl)
    obtain ⟨number, hpath⟩ := (hgenerated.record m hm).2
    have hclaims : Claims swept.files seed other :=
      .inr ⟨hgenerated.source (List.ne_nil_of_mem hm), number, hpath ▸ hl⟩
    rw [hwritten, hfile, (hfiles other (.inr hclaims) content).mpr hfile]
  · rcases hswept l with hstays | ⟨hclaims, hnone, content, hfile⟩
    · rw [hleft, hstays]
    · rw [(hfiles l (.inr hclaims) content).mp hfile, hnone] at hfirst
      exact nomatch hfirst

end Crosscheck.Mutation

namespace Crosscheck.Analysis.Campaign

open Crosscheck.Files Crosscheck.Mutation

variable {campaign : Campaign} {seed : Path} {w w' v : World} {transforms : List Transform}

/-! ## Campaigns -/

/-- The mutants of a seed are generated again where the first ones are upheld. -/
theorem exec_recordSeed_again (hseed : Listed w.files seed) {answer : Except Fault (List Mutant)}
    (hrun : (campaign.recordSeed transforms seed).exec w = (answer, w'))
    (hupholds : Upholds [seed] w'.files v.files) :
    ∃ v', (campaign.recordSeed transforms seed).exec v = (answer, v') ∧ v'.files = v.files := by
  have habsolute := Path.absolute_of_isAbsolute hseed.isAbsolute
  obtain ⟨answer', after, hrun', hrenewed, -⟩ := exec_recordSeed campaign transforms seed w
  obtain ⟨rfl, rfl⟩ := Prod.mk.inj (hrun.symm.trans hrun')
  have hways (l : Location) (hl : w.files.find? l = some .directory) :
      v.files.find? l = some .directory :=
    hupholds.directories l ((hrenewed.directories l).mpr hl)
  have hseed' : Listed v.files seed := hseed.of_directories hways
  unfold recordSeed at hrun ⊢
  by_cases hcleanup : campaign.settings.cleanup = true
  · simp only [hcleanup, if_true] at hrun ⊢
    rcases exec_removeMutantsOf_both (habsolute.symm ▸ hseed.parent) (habsolute.symm ▸ hseed'.parent)
      with ⟨hremove, hremove'⟩ |
        ⟨removed, removed', swept, swept', hremove, hremove', hwithout, hwithout'⟩
    · rw [Action.exec_bind_of_error hremove] at hrun
      rw [Action.exec_bind_of_error hremove']
      obtain ⟨rfl, rfl⟩ := Prod.mk.inj hrun
      exact ⟨v, rfl, rfl⟩
    · rw [habsolute] at hwithout hwithout'
      rw [Action.exec_bind_of_ok hremove] at hrun
      rw [Action.exec_bind_of_ok hremove']
      obtain ⟨made, after, hgenerate, -⟩ := exec_generate_generated seed transforms swept
      obtain ⟨rfl, rfl⟩ := Prod.mk.inj (hrun.symm.trans hgenerate)
      refine files_of_generate_again
        (hseed.of_directories fun l hl => (hwithout.directories l).mpr hl) hgenerate hupholds
        hwithout'.directories (fun l hl => hseed'.find?_of_without hwithout' ?_) fun l => ?_
      · exact FileSystem.follow_of_directories hways (hwithout.directories.locate_eq_ok_iff.mp hl)
      · by_cases hl : ∃ path ∈ candidates v.files seed, v.files.locate path = .ok l
        · obtain ⟨path, hpath, hlocate⟩ := hl
          exact .inr (hseed.cleared hways hwithout hpath hlocate)
        · rw [hwithout'.find?, if_neg hl]
          exact .inl rfl
  · simp only [hcleanup] at hrun ⊢
    obtain ⟨made, after, hgenerate, -⟩ := exec_generate_generated seed transforms w
    obtain ⟨rfl, rfl⟩ := Prod.mk.inj (hrun.symm.trans hgenerate)
    exact files_of_generate_again hseed hgenerate hupholds (.refl _) (fun _ _ => rfl)
      fun _ => .inl rfl

/-- The mutants of all seeds are generated again where the first ones are upheld, if no seed has a
claim to what concerns another. -/
theorem exec_recordAll_again (huncancelled : campaign.cancelled = false) {seeds : List Path}
    (hseeds : ∀ seed ∈ seeds, Listed w.files seed)
    (hapart : seeds.Pairwise fun seed other => ∀ l, Concerns w.files seed l →
      ¬ Claims w.files other l)
    {made : List Mutant} (hrun : (campaign.recordAll transforms seeds).exec w = (.ok made, w'))
    (hupholds : Upholds seeds w'.files v.files) :
    ∃ v', (campaign.recordAll transforms seeds).exec v = (.ok made, v') ∧ v'.files = v.files := by
  induction seeds generalizing w v made with
  | nil =>
    obtain ⟨rfl, rfl⟩ := Action.answer_inj hrun
    exact ⟨v, rfl, rfl⟩
  | cons seed rest ih =>
    obtain ⟨hseed, hrest⟩ := List.forall_mem_cons.mp hseeds
    obtain ⟨hfirst, hothers⟩ := List.pairwise_cons.mp hapart
    obtain ⟨answer, w₁, hrun₁, hrenewed, -⟩ := exec_recordSeed campaign transforms seed w
    rw [Path.absolute_of_isAbsolute hseed.isAbsolute] at hrenewed
    obtain ⟨noted, hnoted, hcons⟩ := exec_recordAll_cons huncancelled hrun₁ rest
    have hdirs : FileSystem.SameDirectories w.files noted.files := hnoted ▸ hrenewed.directories
    obtain ⟨more, after, hmore, hrecorded⟩ := exec_recordAll huncancelled transforms
      (fun other hother => (hrest other hother).isAbsolute) noted
    obtain ⟨rfl, rfl⟩ := Action.answer_inj (hrun.symm.trans (hcons more after hmore))
    have hsame := hrecorded.directories
    -- The other seeds leave what the first one made.
    have hupheld : Upholds [seed] w₁.files v.files := by
      rw [← hnoted]
      refine ⟨fun l hl => hupholds.directories l ((hsame l).mpr hl), fun other hother l hl content => ?_⟩
      obtain rfl := List.mem_singleton.mp hother
      have hstays : w'.files.find? l = noted.files.find? l :=
        hrecorded.elsewhere l fun other hmem hclaims =>
          hfirst other hmem l ((concerns_congr hdirs _ l).mp hl) ((claims_congr hdirs _ l).mp hclaims)
      rw [← hstays]
      exact hupholds.files other List.mem_cons_self l ((concerns_congr hsame other l).mpr hl) content
    obtain ⟨v₁, hagain, hfiles⟩ := exec_recordSeed_again hseed hrun₁ hupheld
    obtain ⟨noted', hnoted', hcons'⟩ := exec_recordAll_cons huncancelled hagain rest
    have hupheld' : Upholds rest w'.files noted'.files := by
      rw [hnoted', hfiles]
      exact ⟨hupholds.directories, fun other hother =>
        hupholds.files other (List.mem_cons_of_mem _ hother)⟩
    obtain ⟨v', hlast, hfiles'⟩ := ih
      (fun other hother => (hrest other hother).of_directories fun l hl => (hdirs l).mpr hl)
      (hothers.imp fun h l hl hclaims =>
        h l ((concerns_congr hdirs _ l).mp hl) ((claims_congr hdirs _ l).mp hclaims))
      hmore hupheld'
    exact ⟨v', hcons' more v' hlast, hfiles'.trans (hnoted'.trans hfiles)⟩

end Crosscheck.Analysis.Campaign

namespace Crosscheck.Corpus

open Crosscheck.Files Crosscheck.Mutation

/-! ## The seeds of a corpus -/

variable {fs : FileSystem} {corpus folder seed other : Path} {l : Location}

theorem listed_of_mem_seeds (hfolder : folder ∈ folders fs corpus) (h : seed ∈ seeds fs folder) :
    Listed fs seed := by
  obtain ⟨hsource, hseed⟩ := List.mem_filter.mp h
  obtain ⟨home, habsolute, hname, hhome, hdirectory, -⟩ :=
    exists_home_of_mem_sources (isAbsolute_of_mem_folders hfolder) hsource
  exact ⟨habsolute, hname, by simpa using hseed,
    FileSystem.isDirectory_iff.mpr ⟨home, hhome, hdirectory⟩⟩

/-- Seeds in one directory are beside each other by their paths, too. -/
theorem sibling_eq (hseed : seed ∈ (folders fs corpus).flatMap (seeds fs))
    (hother : other ∈ (folders fs corpus).flatMap (seeds fs))
    (hsame : other.parent.location = seed.parent.location) (name : String) :
    other.sibling name = seed.sibling name := by
  obtain ⟨folder, hfolder, hmem⟩ := List.mem_flatMap.mp hseed
  obtain ⟨folder', hfolder', hmem'⟩ := List.mem_flatMap.mp hother
  obtain ⟨rel, hbelow, -⟩ := exists_below_of_mem_sources (List.mem_of_mem_filter hmem)
  obtain ⟨rel', hbelow', -⟩ := exists_below_of_mem_sources (List.mem_of_mem_filter hmem')
  have habsolute := hbelow.isAbsolute (isAbsolute_of_mem_folders hfolder)
  have habsolute' := hbelow'.isAbsolute (isAbsolute_of_mem_folders hfolder')
  have hself := Path.sibling_name (isName_iff.mp hbelow.isName_name).1
  have hbeside : other.sibling seed.name = seed := by
    refine eq_of_location hfolder' hfolder (hbelow'.sibling hbelow.isName_name) hbelow ?_
    rw [Path.location_sibling habsolute' hbelow.isName_name, hsame,
      ← Path.location_sibling habsolute hbelow.isName_name, hself]
  rw [← hbeside]
  simp [Path.sibling]

/-- A place that a sound seed has a claim to is read back as that of its mutant. -/
theorem isOffspring_of_claims (hsound : Sound seed) (hlisted : Listed fs seed)
    (h : Claims fs seed l) : IsOffspring fs seed l := by
  rcases h with hof | ⟨-, number, hl⟩
  · exact hof
  · obtain ⟨home, hhome, -, hplaces⟩ := hlisted.exists_home
    obtain rfl := Except.ok.inj ((hplaces number).symm.trans hl)
    refine ⟨home, mutantName seed number, hhome, rfl, ?_⟩
    have hof := seedOf_mutantPath hsound.isAbsolute hsound.isName hsound.undotted hsound.oneLine number
    rwa [mutantPath_eq hsound.isAbsolute hsound.isName] at hof

/-- What concerns a seed of a corpus no other seed has a claim to. -/
theorem not_claims_of_concerns (hlines : OneLine fs)
    (hseed : seed ∈ (folders fs corpus).flatMap (seeds fs))
    (hother : other ∈ (folders fs corpus).flatMap (seeds fs)) (hne : seed ≠ other)
    (hl : Concerns fs seed l) : ¬ Claims fs other l := by
  intro hclaims
  obtain ⟨folder, hfolder, hmem⟩ := List.mem_flatMap.mp hseed
  obtain ⟨folder', hfolder', hmem'⟩ := List.mem_flatMap.mp hother
  have hlisted := listed_of_mem_seeds hfolder hmem
  have hsound := sound_of_mem_seeds hlines (isAbsolute_of_mem_folders hfolder) hmem
  obtain ⟨home', name, hhome', rfl, hof'⟩ :=
    isOffspring_of_claims (sound_of_mem_seeds hlines (isAbsolute_of_mem_folders hfolder') hmem')
      (listed_of_mem_seeds hfolder' hmem') hclaims
  obtain ⟨home, hhome, hlocate, -⟩ := hlisted.exists_home
  have hsibling (hsame : home' = home) : other.sibling name = seed.sibling name := by
    refine sibling_eq hseed hother ?_ name
    rw [← FileSystem.locate_eq_location hhome', ← FileSystem.locate_eq_location hhome, hsame]
  rcases hl with hself | hclaim
  · obtain ⟨rfl, hname⟩ := List.append_inj' (Except.ok.inj (hself.symm.trans hlocate)) rfl
    obtain rfl := List.singleton_inj.mp hname
    have hnot := hlisted.isMutant
    rw [hsibling rfl, Path.sibling_name (isName_iff.mp hlisted.isName).1] at hof'
    simp [isMutant, hof'] at hnot
  · obtain ⟨home₁, name₁, hhome₁, hwhere, hof⟩ := isOffspring_of_claims hsound hlisted hclaim
    obtain ⟨rfl, hname⟩ := List.append_inj' hwhere rfl
    obtain rfl := List.singleton_inj.mp hname
    rw [hsibling (Except.ok.inj (hhome₁.symm.trans hhome))] at hof'
    exact hne (Option.some.inj (hof.symm.trans hof'))

end Crosscheck.Corpus

namespace Crosscheck.Analysis.Campaign

open Crosscheck.Configuration Crosscheck.Files Crosscheck.Mutation

section Seeds

variable {campaign : Campaign} {transforms : List Transform} {corpus : String} {w w' v : World}
  {counts : Nat × Nat}

/-- The mutants of a corpus are generated again where the first time is upheld and the same seeds
are listed. -/
theorem exec_mutateSeedsBy_again (huncancelled : campaign.cancelled = false)
    (hlines : Corpus.OneLine w.files)
    (hrun : (campaign.mutateSeedsBy transforms
      (Corpus.folders w.files (Path.ofString corpus))).exec w = (.ok counts, w'))
    (hsame : (Corpus.folders w.files (Path.ofString corpus)).flatMap (Corpus.seeds v.files) =
      (Corpus.folders w.files (Path.ofString corpus)).flatMap (Corpus.seeds w.files))
    (hupholds : Upholds ((Corpus.folders w.files (Path.ofString corpus)).flatMap
      (Corpus.seeds w.files)) w'.files v.files) :
    ∃ v',
      (campaign.mutateSeedsBy transforms (Corpus.folders w.files (Path.ofString corpus))).exec v =
        (.ok counts, v') ∧ v'.files = v.files := by
  unfold mutateSeedsBy at hrun ⊢
  rw [Action.exec_bind_of_ok (Action.exec_files w), Action.exec_bind_pure, exec_mutateAll] at hrun
  rw [Action.exec_bind_of_ok (Action.exec_files v), Action.exec_bind_pure, exec_mutateAll, hsame]
  have hlisted : ∀ seed ∈ (Corpus.folders w.files (Path.ofString corpus)).flatMap
      (Corpus.seeds w.files), Listed w.files seed := by
    intro seed hseed
    obtain ⟨folder, hfolder, hmem⟩ := List.mem_flatMap.mp hseed
    exact Corpus.listed_of_mem_seeds hfolder hmem
  have hnodup : ((Corpus.folders w.files (Path.ofString corpus)).flatMap
      (Corpus.seeds w.files)).Nodup := by
    unfold Corpus.seeds
    rw [← List.filter_flatMap]
    exact (Corpus.nodup_flatMap_sources w.files w.files corpus).filter _
  have hapart := hnodup.imp_of_mem fun hseed hother hne l =>
    Corpus.not_claims_of_concerns (l := l) hlines hseed hother hne
  rcases hrecord : (campaign.recordAll transforms
    ((Corpus.folders w.files (Path.ofString corpus)).flatMap (Corpus.seeds w.files))).exec w
    with ⟨fault | made, after⟩
  · rw [hrecord] at hrun
    exact nomatch hrun
  · rw [hrecord] at hrun
    obtain ⟨rfl, rfl⟩ := Action.answer_inj hrun
    obtain ⟨v', hagain, hfiles⟩ :=
      exec_recordAll_again huncancelled hlisted hapart hrecord hupholds
    rw [hagain]
    exact ⟨v', rfl, hfiles⟩

/-- Seeds are made ready again where the first time is upheld and the same seeds are listed. -/
theorem exec_prepareSeeds_again (huncancelled : campaign.cancelled = false)
    (hlines : Corpus.OneLine w.files)
    (hrun : (campaign.prepareSeeds (Corpus.folders w.files (Path.ofString corpus))).exec w =
      (.ok counts, w'))
    (hsame : (Corpus.folders w.files (Path.ofString corpus)).flatMap (Corpus.seeds v.files) =
      (Corpus.folders w.files (Path.ofString corpus)).flatMap (Corpus.seeds w.files))
    (hupholds : Upholds ((Corpus.folders w.files (Path.ofString corpus)).flatMap
      (Corpus.seeds w.files)) w'.files v.files) :
    ∃ v', (campaign.prepareSeeds (Corpus.folders w.files (Path.ofString corpus))).exec v =
      (.ok counts, v') ∧ v'.files = v.files := by
  unfold prepareSeeds mutateSeeds at hrun ⊢
  by_cases hmutation : campaign.settings.mutation = true
  · rw [if_pos hmutation] at hrun ⊢
    exact exec_mutateSeedsBy_again huncancelled hlines hrun hsame hupholds
  · rw [if_neg hmutation] at hrun ⊢
    rw [Action.exec_bind_of_ok (Action.exec_files w)] at hrun
    obtain ⟨rfl, rfl⟩ := Action.answer_inj hrun
    rw [Action.exec_bind_of_ok (Action.exec_files v), hsame]
    exact ⟨v, rfl, rfl⟩

end Seeds

/-! ## The same files and counts -/

/-- A campaign that is not cancelled counts the seeds of a corpus and their mutants, whatever
fails. -/
theorem exists_exec_mutateSeedsBy {campaign : Campaign} (huncancelled : campaign.cancelled = false)
    (transforms : List Transform) (corpus : String) (w : World) :
    ∃ counts w',
      (campaign.mutateSeedsBy transforms (Corpus.folders w.files (Path.ofString corpus))).exec w =
        (.ok counts, w') := by
  have habsolute : ∀ seed ∈ (Corpus.folders w.files (Path.ofString corpus)).flatMap
      (Corpus.seeds w.files), seed.isAbsolute = true := by
    intro seed hseed
    obtain ⟨folder, hfolder, hmem⟩ := List.mem_flatMap.mp hseed
    exact (Corpus.listed_of_mem_seeds hfolder hmem).isAbsolute
  obtain ⟨made, after, hrun, -⟩ := exec_recordAll huncancelled transforms habsolute w
  unfold mutateSeedsBy
  rw [Action.exec_bind_of_ok (Action.exec_files w), Action.exec_bind_pure, exec_mutateAll, hrun]
  exact ⟨_, after, rfl⟩

/-- Whatever stands in a corpus, generating its mutants a second time leaves the files as the first
time left them and counts the same seeds and mutants. -/
theorem mutateSeedsBy_idempotent {campaign : Campaign} (huncancelled : campaign.cancelled = false)
    (transforms : List Transform) (corpus : String) {w : World} (hlines : Corpus.OneLine w.files) :
    ∃ counts w' w'',
      (campaign.mutateSeedsBy transforms (Corpus.folders w.files (Path.ofString corpus))).exec w =
        (.ok counts, w') ∧
      (campaign.mutateSeedsBy transforms (Corpus.folders w'.files (Path.ofString corpus))).exec w' =
        (.ok counts, w'') ∧
      w''.files = w'.files := by
  obtain ⟨counts, w', hrun⟩ := exists_exec_mutateSeedsBy huncancelled transforms corpus w
  have hspared :=
    spared_of_edits (campaign.edits_mutateSeedsBy transforms (Path.ofString corpus) w hlines)
  rw [hrun] at hspared
  have hfolders := Corpus.folders_of_sameDirectories hspared.directories (Path.ofString corpus)
  have hseeds : (Corpus.folders w.files (Path.ofString corpus)).flatMap (Corpus.seeds w'.files) =
      (Corpus.folders w.files (Path.ofString corpus)).flatMap (Corpus.seeds w.files) :=
    List.flatMap_congr fun folder _ => hspared.seeds folder
  obtain ⟨w'', hagain, hfiles⟩ := exec_mutateSeedsBy_again huncancelled hlines hrun hseeds
    ⟨fun _ hl => hl, fun _ _ _ _ _ => Iff.rfl⟩
  exact ⟨counts, w', w'', hrun, hfolders.symm ▸ hagain, hfiles⟩

/-- Three seeds: one with an old mutant and a directory in the place of another, one whose name
stands for other names in a pattern, with an old mutant, and one whose pattern is refused. -/
def clutteredWorld : World :=
  let files := do
    let fs ← FileSystem.initial.ensureDirectories (Path.ofString "/tmp/w/seeds/p")
    let fs ← fs.write (Path.ofString "/tmp/w/seeds/p/A.java") []
    let fs ← fs.write (Path.ofString "/tmp/w/seeds/p/A_iter9.java") [9]
    let fs ← fs.ensureDirectories (Path.ofString "/tmp/w/seeds/p/A_iter2.java")
    let fs ← fs.write (Path.ofString "/tmp/w/seeds/p/b[1].java") []
    let fs ← fs.write (Path.ofString "/tmp/w/seeds/p/b[1]_iter7.java") [7]
    fs.write (Path.ofString "/tmp/w/seeds/p/c**.java") []
  { World.initial with files := files.toOption.getD .initial }

/-- The first seed gets one mutant, the second three, and the third none, each time. -/
theorem idempotent_clutteredWorld :
    let campaign : Campaign := ⟨{ Settings.initial with cleanup := true }, false⟩
    let transforms := [patchy "a" [1, 2, 3]]
    campaign.cancelled = false ∧ Corpus.OneLine clutteredWorld.files ∧
    ∃ w' w'',
      (campaign.mutateSeedsBy transforms
        (Corpus.folders clutteredWorld.files (Path.ofString "seeds"))).exec clutteredWorld =
          (.ok (3, 4), w') ∧
      (campaign.mutateSeedsBy transforms
        (Corpus.folders w'.files (Path.ofString "seeds"))).exec w' = (.ok (3, 4), w'') ∧
      w''.files = w'.files := by
  intro campaign transforms
  have hlines : Corpus.OneLine clutteredWorld.files := by
    unfold Corpus.OneLine
    decide +kernel
  have hcounts : ((campaign.mutateSeedsBy transforms (Corpus.folders clutteredWorld.files
      (Path.ofString "seeds"))).exec clutteredWorld).1.toOption = some (3, 4) := by
    decide +kernel
  obtain ⟨counts, w', w'', hrun, hagain, hfiles⟩ :=
    mutateSeedsBy_idempotent (show campaign.cancelled = false from rfl) transforms "seeds" hlines
  rw [hrun] at hcounts
  obtain rfl := Option.some.inj hcounts
  exact ⟨rfl, hlines, w', w'', hrun, hagain, hfiles⟩

end Crosscheck.Analysis.Campaign
