import Crosscheck.Analysis.Campaign
import Crosscheck.Proofs.Corpus
import Crosscheck.Proofs.Lockstep
import Crosscheck.Proofs.Mutation.Cleanup
/-!
# What a generation depends on

The mutants of a seed are removed and generated in the directory of the seed. What comes of it
depends on that directory being there and, in it, on the seed, on what stands where its numbered
mutants go, and on what is read back as its mutant: its `Kin`. So the generation runs in lockstep in
two file systems in which the same is found at these places, whatever else they hold, and leaves the
same there (`lockstep_mutateAll`).
-/

namespace Crosscheck.Mutation

open Crosscheck.Files Crosscheck.Text Crosscheck.Java Crosscheck.Variation

/-- Whether what stands beside a seed by a name matters to the generation of its mutants: the seed
itself, and what is its mutant by the number in its name or is read back as such. -/
def Kin (seed : Path) (name : String) : Prop :=
  name = seed.name ∨ (∃ number, name = mutantName seed number) ∨
    seedOf (seed.sibling name) = some seed

/-- A seed in a directory that two file systems share, with all its kin at compared places. -/
structure Common (places : Location → Prop) (a b : FileSystem) (seed : Path) (home : Location) :
    Prop where
  isAbsolute : seed.isAbsolute = true
  isName : isName seed.name = true
  locate : a.locate seed.parent = .ok home
  locate' : b.locate seed.parent = .ok home
  directory : a.find? home = some .directory
  directory' : b.find? home = some .directory
  kin : ∀ name, Kin seed name → places (home ++ [name])

/-- File systems in which the same is found at compared places, among them those of all kin of some
seeds. -/
structure Concur (seeds : List Path) (places : Location → Prop) (a b : FileSystem) : Prop where
  agree : ∀ l, places l → b.find? l = a.find? l
  homes : ∀ seed ∈ seeds, ∃ home, Common places a b seed home

section Access

variable {seeds : List Path} {places : Location → Prop} {a b a' b' : FileSystem} {seed : Path}
  {home l : Location} {name : String} {content content' : Bytes}

theorem Common.of_directories (h : Common places a b seed home)
    (ha : FileSystem.SameDirectories a a') (hb : FileSystem.SameDirectories b b') :
    Common places a' b' seed home where
  isAbsolute := h.isAbsolute
  isName := h.isName
  locate := ha.locate_eq_ok_iff.mpr h.locate
  locate' := hb.locate_eq_ok_iff.mpr h.locate'
  directory := (ha home).mpr h.directory
  directory' := (hb home).mpr h.directory'
  kin := h.kin

/-- A name beside the seed leads to the same place in both. -/
theorem Common.locate_sibling (h : Common places a b seed home) (hname : Files.isName name = true) :
    a.locate (seed.sibling name) = .ok (home ++ [name]) ∧
      b.locate (seed.sibling name) = .ok (home ++ [name]) := by
  have hroot : (⟨seed.root, seed.parts.dropLast⟩ : Path).isAbsolute = true := h.isAbsolute
  have hgo := (Location.go_of_isName hname home).symm
  exact ⟨(FileSystem.locate_concat_eq_ok hroot).mpr ⟨home, h.locate, h.directory, hgo⟩,
    (FileSystem.locate_concat_eq_ok hroot).mpr ⟨home, h.locate', h.directory', hgo⟩⟩

namespace Concur

theorem put (h : Concur seeds places a b) (ha : a.CanPut l (.file content))
    (hb : b.CanPut l (.file content)) :
    Concur seeds places (a.put l _ ha) (b.put l _ hb) where
  agree other hother := by
    rw [FileSystem.find?_put, FileSystem.find?_put, h.agree other hother]
  homes seed hseed := (h.homes seed hseed).imp fun _ hcommon =>
    hcommon.of_directories (FileSystem.sameDirectories_put ha) (FileSystem.sameDirectories_put hb)

theorem erase (h : Concur seeds places a b) (ha : a.find? l = some (.file content))
    (hb : b.find? l = some (.file content')) :
    Concur seeds places (a.erase l) (b.erase l) where
  agree other hother := by
    rw [FileSystem.find?_erase_file ha, FileSystem.find?_erase_file hb, h.agree other hother]
  homes seed hseed := (h.homes seed hseed).imp fun _ hcommon =>
    hcommon.of_directories (FileSystem.sameDirectories_erase ha)
      (FileSystem.sameDirectories_erase hb)

/-- The seed is read alike. -/
theorem read_eq (h : Concur seeds places a b) (hseed : seed ∈ seeds) : b.read seed = a.read seed := by
  obtain ⟨home, hcommon⟩ := h.homes seed hseed
  obtain ⟨ha, hb⟩ := hcommon.locate_sibling hcommon.isName
  have hself : seed.sibling seed.name = seed :=
    congrArg (Files.Path.mk seed.root) (Path.dropLast_concat_name (isName_iff.mp hcommon.isName).1)
  rw [hself] at ha hb
  unfold FileSystem.read
  rw [ha, hb]
  dsimp only
  rw [h.agree _ (hcommon.kin _ (.inl rfl))]

/-- A mutant is written alike. -/
theorem write (h : Concur seeds places a b) (hseed : seed ∈ seeds) (number : Nat)
    (content : Bytes) :
    FileSystem.Matched (Concur seeds places) (a.write (mutantPath seed number) content)
      (b.write (mutantPath seed number) content) := by
  obtain ⟨home, hcommon⟩ := h.homes seed hseed
  have hname := isName_mutantName hcommon.isName number
  obtain ⟨ha, hb⟩ := hcommon.locate_sibling hname
  have hagree := h.agree _ (hcommon.kin _ (.inr (.inl ⟨number, rfl⟩)))
  have hpath : mutantPath seed number = seed.sibling (mutantName seed number) :=
    mutantPath_eq hcommon.isAbsolute hcommon.isName number
  rw [hpath]
  have hput (fs : FileSystem) (hhome : fs.find? home = some .directory) :
      fs.CanPut (home ++ [mutantName seed number]) (.file content) ↔
        fs.find? (home ++ [mutantName seed number]) ≠ some .directory := by
    simp [FileSystem.CanPut, hhome, hname]
  by_cases hdirectory : a.find? (home ++ [mutantName seed number]) = some .directory
  · have hrefused (fs : FileSystem)
        (hl : fs.locate (seed.sibling (mutantName seed number)) =
          .ok (home ++ [mutantName seed number]))
        (hfound : fs.find? (home ++ [mutantName seed number]) = some .directory) :
        fs.write (seed.sibling (mutantName seed number)) content =
          FileSystem.refuse (seed.sibling (mutantName seed number)) .isDirectory := by
      unfold FileSystem.write
      simp only [hl, hfound]
    rw [hrefused a ha hdirectory, hrefused b hb (hagree.trans hdirectory)]
    exact .refused _
  · have hputa := (hput a hcommon.directory).mpr hdirectory
    have hputb := (hput b hcommon.directory').mpr (hagree ▸ hdirectory)
    rw [(FileSystem.write_eq_ok_iff_of_locate ha).mpr ⟨hputa, rfl⟩,
      (FileSystem.write_eq_ok_iff_of_locate hb).mpr ⟨hputb, rfl⟩]
    exact .changed (h.put hputa hputb)

/-- Kin is removed alike. -/
theorem unlink (h : Concur seeds places a b) (hseed : seed ∈ seeds) (hname : isName name = true)
    (hkin : Kin seed name) :
    FileSystem.Matched (Concur seeds places) (a.unlink (seed.sibling name))
      (b.unlink (seed.sibling name)) := by
  obtain ⟨home, hcommon⟩ := h.homes seed hseed
  obtain ⟨ha, hb⟩ := hcommon.locate_sibling hname
  have hagree := h.agree _ (hcommon.kin _ hkin)
  unfold FileSystem.unlink
  rw [ha, hb]
  dsimp only
  rw [hagree]
  cases hfound : a.find? (home ++ [name]) with
  | none => exact .refused _
  | some entry =>
    cases entry with
    | directory => exact .refused _
    | file content => exact .changed (h.erase hfound (hagree.trans hfound))

/-- The same files are listed for removal. -/
theorem candidates_eq (h : Concur seeds places a b) (hseed : seed ∈ seeds) :
    candidates b seed = candidates a seed := by
  obtain ⟨home, hcommon⟩ := h.homes seed hseed
  unfold candidates FileSystem.matching
  rw [List.filterMap_filter, List.filterMap_filter]
  refine FileSystem.filterMap_children_congr hcommon.locate' hcommon.locate fun name entry hkept => ?_
  have hof : seedOf (seed.sibling name) = some seed := by
    obtain ⟨path, hpath⟩ := Option.isSome_iff_exists.mp hkept
    simp only [Option.ite_none_right_eq_some, Bool.and_eq_true, beq_iff_eq] at hpath
    exact hpath.2.1.2
  rw [h.agree _ (hcommon.kin name (.inr (.inr hof)))]

theorem isDirectory_parent_eq (h : Concur seeds places a b) (hseed : seed ∈ seeds) :
    a.isDirectory seed.parent = true ∧ b.isDirectory seed.parent = true := by
  obtain ⟨home, hcommon⟩ := h.homes seed hseed
  exact ⟨FileSystem.isDirectory_iff.mpr ⟨home, hcommon.locate, hcommon.directory⟩,
    FileSystem.isDirectory_iff.mpr ⟨home, hcommon.locate', hcommon.directory'⟩⟩

end Concur

end Access

/-! ## Generations in lockstep -/

section Lockstep

variable {same : World → World → Prop} {seeds : List Path} {places : Location → Prop} {seed : Path}

/-- A name by which a file is listed beside a seed and read back as its mutant. -/
theorem exists_kin_of_mem_candidates {fs : FileSystem} {path : Path}
    (h : path ∈ candidates fs seed) :
    ∃ name, isName name = true ∧ Kin seed name ∧ path = seed.sibling name := by
  obtain ⟨home, name, content, -, hfound, rfl, hof, -⟩ := mem_candidates_iff.mp h
  have hname := FileSystem.isName_of_find? hfound (List.mem_append_right _ List.mem_cons_self)
  exact ⟨name, hname, .inr (.inr hof), rfl⟩

theorem lockstep_removeAll (hsame : Unmoved same) (hseed : seed ∈ seeds) {paths : List Path}
    (hpaths : ∀ path ∈ paths, ∃ name, isName name = true ∧ Kin seed name ∧
      path = seed.sibling name) :
    (removeAll paths).Lockstep (Beside same (Concur seeds places)) := by
  induction paths with
  | nil => exact .pure 0
  | cons path rest ih =>
    obtain ⟨⟨name, hname, hkin, rfl⟩, hrest⟩ := List.forall_mem_cons.mp hpaths
    have hlater : (removeAll rest >>= fun removed => pure (removed + 1)).Lockstep
        (Beside same (Concur seeds places)) := (ih hrest).bind fun _ => .pure _
    unfold removeAll
    refine .files_bind fun w w' hw => ?_
    have hunlink := hw.files.unlink hseed hname hkin
    generalize w.files.unlink (seed.sibling name) = x,
      w'.files.unlink (seed.sibling name) = y at hunlink
    cases hunlink with
    | changed hlike =>
      dsimp only
      rw [Action.exec_bind_of_ok (Action.exec_setFiles w _),
        Action.exec_bind_of_ok (Action.exec_setFiles w' _)]
      exact hlater _ _ (Action.Beside.setFiles hsame hw.same hlike)
    | refused e =>
      obtain ⟨refusal, subject⟩ := e
      cases refusal with
      | notFound => exact ih hrest w w' hw
      | _ => exact ⟨rfl, hw⟩

theorem lockstep_removeMutantsOf (hsame : Unmoved same) (hseed : seed ∈ seeds)
    (habsolute : seed.isAbsolute = true) :
    (removeMutantsOf seed).Lockstep (Beside same (Concur seeds places)) := by
  unfold removeMutantsOf
  dsimp only
  rw [Path.absolute_of_isAbsolute habsolute]
  refine .files_bind fun w w' hw => ?_
  obtain ⟨ha, hb⟩ := hw.files.isDirectory_parent_eq hseed
  have hlisted := hw.files.candidates_eq hseed
  unfold candidates at hlisted
  rw [if_pos ha, if_pos hb, hlisted]
  split
  · exact ⟨rfl, hw⟩
  · exact lockstep_removeAll hsame hseed (fun path hpath => exists_kin_of_mem_candidates hpath) w w'
      hw

theorem lockstep_tryAt (hsame : Unmoved same) (hseed : seed ∈ seeds) (source : Bytes) (tree : Node)
    (transform : Transform) (attempts made : Nat) (site : Site) :
    (tryAt seed source tree transform attempts made site).Lockstep
      (Beside same (Concur seeds places)) := by
  unfold tryAt
  split
  · exact .bind (.note hsame _ _) fun _ => .pure _
  · next edited _ =>
    have hnumber : ((made + 1 : Nat) : Int) = (made : Int) + 1 := Int.natCast_add _ _
    refine .files_bind fun w w' hw => ?_
    have hwrite := hw.files.write hseed (made + 1) edited
    rw [hnumber] at hwrite
    generalize w.files.write (mutantPath seed (made + 1)) edited = x,
      w'.files.write (mutantPath seed (made + 1)) edited = y at hwrite
    cases hwrite with
    | changed hlike => exact ⟨rfl, Action.Beside.setFiles hsame hw.same hlike⟩
    | refused e => exact ⟨rfl, hsame.note _ hw.same, hw.files⟩
  · exact .pure none

theorem lockstep_trySites (hsame : Unmoved same) (hseed : seed ∈ seeds) (source : Bytes)
    (tree : Node) (transform : Transform) (sites : List Site) :
    ∀ (attempts : Nat) (made : List Mutant),
      (trySites seed source tree transform attempts sites made).Lockstep
        (Beside same (Concur seeds places)) := by
  induction sites with
  | nil => exact fun _ made => .pure made
  | cons site rest ih =>
    intro attempts made
    exact .bind (lockstep_tryAt hsame hseed source tree transform attempts made.length site)
      fun _ => ih (attempts + 1) _

theorem lockstep_tryTransforms (hsame : Unmoved same) (hseed : seed ∈ seeds) (source : Bytes)
    (tree : Node) (transforms : List Transform) :
    ∀ made : List Mutant, (tryTransforms seed source tree transforms made).Lockstep
      (Beside same (Concur seeds places)) := by
  induction transforms with
  | nil => exact fun made => .pure made
  | cons transform rest ih =>
    intro made
    unfold tryTransforms
    split
    · exact .bind (.note hsame _ _) fun _ => ih made
    · exact .bind (lockstep_trySites hsame hseed source tree transform _ 0 made) fun _ => ih _

theorem lockstep_generate (hsame : Unmoved same) (hseed : seed ∈ seeds)
    (habsolute : seed.isAbsolute = true) (transforms : List Transform) :
    (generate seed transforms).Lockstep (Beside same (Concur seeds places)) := by
  unfold generate
  dsimp only
  rw [Path.absolute_of_isAbsolute habsolute]
  refine .files_bind fun w w' hw => ?_
  rw [hw.files.read_eq hseed]
  cases w.files.read seed with
  | error e => exact ⟨rfl, hsame.note _ hw.same, hw.files⟩
  | ok source =>
    dsimp only
    cases parse source with
    | none => exact ⟨rfl, hsame.note _ hw.same, hw.files⟩
    | some tree => exact lockstep_tryTransforms hsame hseed source tree transforms [] w w' hw

end Lockstep

end Crosscheck.Mutation

namespace Crosscheck.Analysis.Campaign

open Crosscheck.Configuration Crosscheck.Files Crosscheck.Mutation

variable (campaign : Campaign) (transforms : List Transform) {same : World → World → Prop}
  {seeds : List Path} {places : Location → Prop}

theorem lockstep_mutateSeed (hsame : Unmoved same) {seed : Path} (hseed : seed ∈ seeds)
    (habsolute : seed.isAbsolute = true) :
    (campaign.mutateSeed transforms seed).Lockstep (Beside same (Concur seeds places)) := by
  have hgenerate : (generate seed transforms).Lockstep (Beside same (Concur seeds places)) :=
    lockstep_generate hsame hseed habsolute transforms
  unfold mutateSeed
  dsimp only
  split
  · exact .bind (lockstep_removeMutantsOf hsame hseed habsolute) fun _ =>
      .bind hgenerate fun _ => .pure _
  · exact .bind hgenerate fun _ => .pure _

/-- The mutants of seeds are generated in lockstep. -/
theorem lockstep_mutateAll (hsame : Unmoved same) {some : List Path}
    (hsome : ∀ seed ∈ some, seed ∈ seeds ∧ seed.isAbsolute = true) :
    (campaign.mutateAll transforms some).Lockstep (Beside same (Concur seeds places)) := by
  induction some with
  | nil => exact .pure 0
  | cons seed rest ih =>
    obtain ⟨⟨hseed, habsolute⟩, hrest⟩ := List.forall_mem_cons.mp hsome
    unfold mutateAll
    split
    · exact .bind (.note hsame _ _) fun _ => .pure 0
    · refine .bind (.attempt (campaign.lockstep_mutateSeed transforms hsame hseed habsolute))
        fun made => ?_
      cases made with
      | ok mutants => exact .bind (ih hrest) fun _ => .pure _
      | error fault => exact .bind (.note hsame _ _) fun _ => ih hrest

/-- Where the folders have the same seeds, they are made ready in lockstep. -/
theorem lockstep_prepareSeeds (hsame : Unmoved same) {folders : List Path} {w w' : World}
    (hw : Beside same (Concur seeds places) w w')
    (hfolders : folders.flatMap (Corpus.seeds w'.files) = folders.flatMap (Corpus.seeds w.files))
    (hseeds : ∀ seed ∈ folders.flatMap (Corpus.seeds w.files),
      seed ∈ seeds ∧ seed.isAbsolute = true) :
    ((campaign.prepareSeeds folders).exec w').1 = ((campaign.prepareSeeds folders).exec w).1 ∧
      Beside same (Concur seeds places) ((campaign.prepareSeeds folders).exec w).2
        ((campaign.prepareSeeds folders).exec w').2 := by
  unfold prepareSeeds mutateSeeds mutateSeedsBy
  split
  · rw [Action.exec_bind_of_ok (Action.exec_files w), Action.exec_bind_of_ok (Action.exec_files w'),
      hfolders]
    exact (campaign.lockstep_mutateAll _ hsame hseeds).bind (fun _ => .pure _) w w' hw
  · rw [Action.exec_bind_of_ok (Action.exec_files w), Action.exec_bind_of_ok (Action.exec_files w'),
      hfolders]
    exact ⟨rfl, hw⟩

end Crosscheck.Analysis.Campaign
