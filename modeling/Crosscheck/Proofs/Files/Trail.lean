import Crosscheck.Proofs.Files.Access
/-!
# Directories along a trail

The parts of a path lead through a trail of locations. To make a directory and those that lead to it
is to go along that trail and to make what is missing, up to the first location in the way: a file,
or a name that cannot stand in a directory. All of it is made if nothing is in the way
(`makesTrail_makeDirectories`).
-/

namespace Crosscheck.Files

/-- The locations that parts lead through, one after the other. -/
def Location.trail (loc : Location) : List String → List Location
  | [] => []
  | part :: rest => loc.go part :: Location.trail (loc.go part) rest

/-- The locations that a path leads through from the root. -/
def Path.trail (path : Path) : List Location := Location.trail [] path.absolute.parts

theorem Location.trail_concat (loc : Location) (parts : List String) (last : String) :
    loc.trail (parts ++ [last]) = loc.trail parts ++ [(parts ++ [last]).foldl Location.go loc] := by
  induction parts generalizing loc with
  | nil => rfl
  | cons part rest ih => simp only [List.cons_append, trail, ih, List.foldl_cons]

namespace Path

variable {path : Path} {name : String}

/-- A part that does not lead up adds a location to a trail. -/
theorem trail_concat {root : Root} {parts : List String} {last : String}
    (hroot : (⟨root, parts⟩ : Path).isAbsolute = true) (hlast : last ≠ "..") :
    (⟨root, parts ++ [last]⟩ : Path).trail =
        (⟨root, parts⟩ : Path).trail ++ [(⟨root, parts⟩ : Path).location ++ [last]] ∧
      (⟨root, parts ++ [last]⟩ : Path).location = (⟨root, parts⟩ : Path).location ++ [last] := by
  have hlong : (⟨root, parts ++ [last]⟩ : Path).isAbsolute = true := hroot
  have hdown : (parts ++ [last]).foldl Location.go [] = parts.foldl Location.go [] ++ [last] := by
    rw [List.foldl_append, List.foldl_cons, List.foldl_nil]
    unfold Location.go
    rw [if_neg (by simpa using hlast)]
  unfold trail location
  rw [absolute_of_isAbsolute hroot, absolute_of_isAbsolute hlong, Location.trail_concat, hdown]
  exact ⟨rfl, rfl⟩

theorem location_child (hpath : path.isAbsolute = true) (h : isName name = true) :
    (path.child name).location = path.location ++ [name] := by
  rw [child_of_isName path h]
  exact (trail_concat hpath (isName_iff.mp h).2.2.1).2

theorem trail_child (hpath : path.isAbsolute = true) (h : isName name = true) :
    (path.child name).trail = path.trail ++ [path.location ++ [name]] := by
  rw [child_of_isName path h]
  exact (trail_concat hpath (isName_iff.mp h).2.2.1).1

theorem location_sibling (hpath : path.isAbsolute = true) (h : isName name = true) :
    (path.sibling name).location = path.parent.location ++ [name] := by
  have hparent : path.parent.isAbsolute = true := hpath
  exact (trail_concat hparent (isName_iff.mp h).2.2.1).2

/-- The trail of a path goes on from that of its directory. -/
theorem trail_parent_subset (hpath : path.isAbsolute = true) : path.parent.trail ⊆ path.trail := by
  obtain ⟨root, parts⟩ := path
  have hparent : (⟨root, parts⟩ : Path).parent.isAbsolute = true := hpath
  unfold trail
  rw [absolute_of_isAbsolute hpath, absolute_of_isAbsolute hparent]
  rcases List.eq_nil_or_concat' parts with rfl | ⟨front, last, rfl⟩
  · exact List.Subset.refl _
  · have hfront : (⟨root, front ++ [last]⟩ : Path).parent.parts = front := by simp [parent]
    rw [hfront, Location.trail_concat]
    exact List.subset_append_left _ _

end Path

namespace FileSystem

variable {fs fs' : FileSystem} {loc l : Location} {path : Path} {trail : List Location}
  {parts : List String}

/-- Whether a trail goes on at a location: there is a directory, or one can be made. -/
def isPassable (fs : FileSystem) (l : Location) : Bool :=
  match fs.find? l with
  | some .directory => true
  | some (.file _) => false
  | none => isName (l.getLast?.getD "")

theorem isPassable_of_directory (h : fs.find? l = some .directory) : fs.isPassable l = true := by
  unfold isPassable
  rw [h]

theorem isPassable_of_file {content : Text.Bytes} (h : fs.find? l = some (.file content)) :
    fs.isPassable l = false := by
  unfold isPassable
  rw [h]

theorem isPassable_congr (h : fs.find? l = fs'.find? l) : fs.isPassable l = fs'.isPassable l := by
  unfold isPassable
  rw [h]

/-- A trail up to the first location in the way. -/
def passed (fs : FileSystem) (trail : List Location) : List Location :=
  trail.takeWhile fs.isPassable

theorem isPassable_of_mem_passed (h : l ∈ fs.passed trail) : fs.isPassable l = true :=
  List.mem_takeWhile_imp h

theorem passed_eq_self_iff : fs.passed trail = trail ↔ ∀ l ∈ trail, fs.isPassable l = true :=
  List.takeWhile_eq_self_iff

/-- What comes of making the directories of a trail: those up to the first location in the way are
there, everything else is as it was, and there is an error if something is in the way. -/
structure MakesTrail (fs : FileSystem) (trail : List Location)
    (result : FileSystem × Option AccessError) : Prop where
  find? : ∀ l, result.1.find? l = if l ∈ fs.passed trail then some .directory else fs.find? l
  none_iff : result.2 = none ↔ ∀ l ∈ trail, fs.isPassable l = true

namespace MakesTrail

variable {made : FileSystem} {refused : Option AccessError}
  {result : FileSystem × Option AccessError}

/-- Where all directories are there already, nothing changes. -/
theorem eq_of_directories (h : MakesTrail fs trail result)
    (hall : ∀ l ∈ trail, fs.find? l = some .directory) : result = (fs, none) := by
  refine Prod.ext (ext_find? fun l => ?_) (h.none_iff.mpr fun l hl =>
    isPassable_of_directory (hall l hl))
  rw [h.find?]
  split
  · next hl => exact (hall l ((List.takeWhile_prefix _).subset hl)).symm
  · rfl

/-- A trail that was made goes on by one location. -/
theorem concat (h : MakesTrail fs trail (made, none)) (hnext : MakesTrail made [loc] result) :
    MakesTrail fs (trail ++ [loc]) result := by
  have hopen := h.none_iff.mp rfl
  have hmade : ∀ l, made.find? l = if l ∈ trail then some .directory else fs.find? l := by
    have hfind := h.find?
    rwa [passed_eq_self_iff.mpr hopen] at hfind
  have hlast : made.isPassable loc = fs.isPassable loc := by
    by_cases hloc : loc ∈ trail
    · rw [hopen loc hloc]
      exact isPassable_of_directory (by rw [hmade, if_pos hloc])
    · exact isPassable_congr (by rw [hmade, if_neg hloc])
  have hpassed : fs.passed (trail ++ [loc]) = trail ++ made.passed [loc] := by
    unfold passed
    rw [List.takeWhile_append_of_pos hopen, List.takeWhile_cons, List.takeWhile_cons, hlast]
    rfl
  refine ⟨fun l => ?_, ?_⟩
  · rw [hnext.find?, hmade, hpassed]
    simp only [List.mem_append]
    by_cases hl : l ∈ trail <;> simp [hl]
  · rw [hnext.none_iff]
    simp only [List.mem_singleton, forall_eq, List.mem_append, or_imp, forall_and, hlast]
    exact (and_iff_right hopen).symm

/-- A trail with something in the way is not made any further. -/
theorem stopped {e : AccessError} (h : MakesTrail fs trail (made, some e)) (rest : List Location) :
    MakesTrail fs (trail ++ rest) (made, some e) := by
  have hclosed : ¬ ∀ l ∈ trail, fs.isPassable l = true := fun hopen =>
    Option.some_ne_none e (h.none_iff.mpr hopen)
  have hshort : ¬ (trail.takeWhile fs.isPassable).length = trail.length := fun hlength =>
    hclosed (passed_eq_self_iff.mp ((List.takeWhile_prefix _).eq_of_length hlength))
  have hpassed : fs.passed (trail ++ rest) = fs.passed trail := by
    unfold passed
    rw [List.takeWhile_append, if_neg hshort]
  refine ⟨fun l => by rw [hpassed]; exact h.find? l, iff_of_false (Option.some_ne_none e) ?_⟩
  exact fun hopen => hclosed fun l hl => hopen l (List.mem_append_left _ hl)

end MakesTrail

/-! ## One directory -/

/-- A location that a path leads to is the root, or hangs under a directory. -/
theorem find?_dropLast_of_locate (h : fs.locate path = .ok loc) (hnew : fs.find? loc = none) :
    loc ≠ [] ∧ fs.find? loc.dropLast = some .directory := by
  have hloc : loc ≠ [] := by
    rintro rfl
    simp at hnew
  refine ⟨hloc, ?_⟩
  unfold locate at h
  rcases List.eq_nil_or_concat' path.absolute.parts with hnil | ⟨front, last, hparts⟩
  · rw [hnil] at h
    exact absurd (Except.ok.inj h).symm hloc
  · rw [hparts] at h
    obtain ⟨home, -, hdir, rfl⟩ := follow_concat_eq_ok.mp h
    unfold Location.go at hnew hloc ⊢
    split
    · next hup =>
      -- Two dots lead to a directory that is there.
      rw [if_pos hup] at hnew hloc
      have htop : home ≠ [] := by
        rintro rfl
        exact hloc rfl
      rw [find?_dropLast hdir htop] at hnew
      exact nomatch hnew
    · rwa [List.dropLast_concat]

/-- A directory is there, or is made unless something is in the way. -/
theorem makesTrail_ensureDirectory (h : fs.locate path = .ok loc) :
    MakesTrail fs [loc] (fs.settled (fs.ensureDirectory path)) := by
  have hisDirectory : fs.isDirectory path = ((fs.find? loc).map Entry.isDirectory).getD false := by
    unfold isDirectory entry?
    rw [h]
  unfold ensureDirectory makeDirectory
  rw [h]
  dsimp only
  cases hfound : fs.find? loc with
  | some entry =>
    rw [hfound] at hisDirectory
    cases entry with
    | directory =>
      have hpassed : fs.passed [loc] = [loc] :=
        passed_eq_self_iff.mpr (by simpa using isPassable_of_directory hfound)
      refine ⟨fun l => ?_, ?_⟩
      · rw [hpassed]
        by_cases hl : l = loc
        · subst hl
          simp [refuse, settled, hisDirectory, Entry.isDirectory, hfound]
        · simp [refuse, settled, hisDirectory, Entry.isDirectory, hl]
      · simp [refuse, settled, hisDirectory, Entry.isDirectory, isPassable_of_directory hfound]
    | file content =>
      have hclosed := isPassable_of_file hfound
      refine ⟨fun l => ?_, ?_⟩
      · simp [refuse, settled, hisDirectory, Entry.isDirectory, passed, hclosed]
      · simp [refuse, settled, hisDirectory, Entry.isDirectory, hclosed]
  | none =>
    obtain ⟨hloc, hparent⟩ := find?_dropLast_of_locate h hfound
    have hpassable : fs.isPassable loc = isName (loc.getLast?.getD "") := by
      unfold isPassable
      rw [hfound]
    unfold place
    by_cases hname : isName (loc.getLast?.getD "") = true
    · have hput : fs.CanPut loc .directory := ⟨hloc, hparent, .inl rfl, hname⟩
      rw [dif_pos hput]
      refine ⟨fun l => ?_, ?_⟩
      · simp only [settled, find?_put, passed, List.takeWhile_cons, hpassable, hname]
        simp
      · simp [settled, hpassable, hname]
    · have hput : ¬ fs.CanPut loc .directory := fun h => hname h.2.2.2
      rw [dif_neg hput]
      refine ⟨fun l => ?_, ?_⟩
      · simp [refuse, settled, passed, hpassable, hname]
      · simp [refuse, settled, hpassable, hname]

theorem ensureDirectory_of_locate_error {refusal : Refusal} (h : fs.locate path = .error refusal) :
    fs.ensureDirectory path = .error ⟨refusal, path.render⟩ := by
  simp [ensureDirectory, makeDirectory, refuse, isDirectory, entry?, h]

/-! ## Following a trail -/

/-- A path can be followed if there is a directory all along, up to its last part. -/
theorem follow_concat_iff {last : String} :
    fs.follow loc (parts ++ [last]) = .ok l ↔
      (∀ x ∈ loc :: loc.trail parts, fs.find? x = some .directory) ∧
        l = (parts ++ [last]).foldl Location.go loc := by
  induction parts generalizing loc with
  | nil =>
    rw [List.nil_append, follow_cons_eq_ok]
    simp [follow, Location.trail, eq_comm]
  | cons part rest ih =>
    rw [List.cons_append, follow_cons_eq_ok, ih, List.foldl_cons, Location.trail,
      List.forall_mem_cons (a := loc), and_assoc]

/-- A path that cannot be followed, although nothing is missing on the way, has a file in the way.
-/
theorem passed_of_follow_error {refusal : Refusal} (h : fs.follow loc parts = .error refusal)
    (hrefusal : refusal ≠ .notFound) (hloc : fs.find? loc = some .directory) :
    (∀ x ∈ fs.passed (loc.trail parts), fs.find? x = some .directory) ∧
      ¬ ∀ x ∈ loc.trail parts, fs.isPassable x = true := by
  induction parts generalizing loc with
  | nil => exact nomatch h
  | cons part rest ih =>
    rw [follow_cons, hloc] at h
    dsimp only at h
    unfold passed
    rw [Location.trail, List.takeWhile_cons]
    cases hnext : fs.find? (loc.go part) with
    | some entry =>
      cases entry with
      | directory =>
        obtain ⟨hpassed, hclosed⟩ := ih h hnext
        rw [isPassable_of_directory hnext]
        exact ⟨List.forall_mem_cons.mpr ⟨hnext, hpassed⟩,
          fun hall => hclosed (List.forall_mem_cons.mp hall).2⟩
      | file content =>
        rw [isPassable_of_file hnext]
        refine ⟨by simp, fun hall => ?_⟩
        have hfirst := (List.forall_mem_cons.mp hall).1
        rw [isPassable_of_file hnext] at hfirst
        exact nomatch hfirst
    | none =>
      cases rest with
      | nil => exact nomatch h
      | cons other more =>
        rw [follow_cons, hnext] at h
        exact absurd (Except.error.inj h).symm hrefusal

/-! ## A directory and those that lead to it -/

theorem makesTrail_makeDirectoriesFrom {root : Root} (hroot : root ≠ .here) (parts : List String) :
    MakesTrail fs (Location.trail [] parts) (makeDirectoriesFrom root fs parts.reverse) := by
  have habsolute (parts : List String) : (⟨root, parts⟩ : Path).absolute = ⟨root, parts⟩ :=
    Path.absolute_of_isAbsolute (bne_iff_ne.mpr hroot)
  induction parts using List.reverseRecOn with
  | nil =>
    have hroot : fs.locate ⟨root, []⟩ = .ok [] := by
      unfold locate
      rw [habsolute]
      rfl
    have hsame := (makesTrail_ensureDirectory hroot).eq_of_directories (by simp)
    rw [List.reverse_nil, makeDirectoriesFrom, hsame]
    exact ⟨fun _ => rfl, by simp [Location.trail]⟩
  | append_singleton front last ih =>
    have hlocate (fs : FileSystem) (l : Location) : fs.locate ⟨root, front ++ [last]⟩ = .ok l ↔
        (∀ x ∈ [] :: Location.trail [] front, fs.find? x = some .directory) ∧
          l = (front ++ [last]).foldl Location.go [] := by
      unfold locate
      rw [habsolute]
      exact follow_concat_iff
    rw [List.reverse_concat, Location.trail_concat, makeDirectoriesFrom]
    simp only [List.reverse_cons, List.reverse_reverse]
    rcases hfirst : makeDirectoriesFrom root fs front.reverse with ⟨made, refused⟩
    rw [hfirst] at ih
    cases hhere : fs.locate ⟨root, front ++ [last]⟩ with
    | ok loc =>
      obtain ⟨hall, rfl⟩ := (hlocate fs loc).mp hhere
      obtain ⟨rfl, rfl⟩ := Prod.mk.inj
        (ih.eq_of_directories (List.forall_mem_cons.mp hall).2)
      have hnext := ih.concat (makesTrail_ensureDirectory hhere)
      split
      · exact hnext
      · exact hnext
    | error refusal =>
      rw [ensureDirectory_of_locate_error hhere]
      by_cases hrefusal : refusal = .notFound
      · subst hrefusal
        dsimp only
        cases refused with
        | some e => exact ih.stopped _
        | none =>
          have hmade : made.locate ⟨root, front ++ [last]⟩ =
              .ok ((front ++ [last]).foldl Location.go []) := by
            refine (hlocate made _).mpr ⟨List.forall_mem_cons.mpr ⟨rfl, fun x hx => ?_⟩, rfl⟩
            rw [ih.find?, if_pos (by rwa [passed_eq_self_iff.mpr (ih.none_iff.mp rfl)])]
          exact ih.concat (makesTrail_ensureDirectory hmade)
      · unfold locate at hhere
        rw [habsolute] at hhere
        obtain ⟨hpassed, hclosed⟩ := passed_of_follow_error hhere hrefusal rfl
        rw [Location.trail_concat] at hpassed hclosed
        have hsame : MakesTrail fs (Location.trail [] front ++
            [(front ++ [last]).foldl Location.go []])
            (fs, some ⟨refusal, (⟨root, front ++ [last]⟩ : Path).render⟩) := by
          refine ⟨fun l => ?_, iff_of_false (Option.some_ne_none _) hclosed⟩
          split
          · next hl => exact hpassed l hl
          · rfl
        cases refusal with
        | notFound => exact absurd rfl hrefusal
        | _ => exact hsame

/-- Making a directory and those that lead to it makes the trail of its path. -/
theorem makesTrail_makeDirectories (fs : FileSystem) (h : path.isAbsolute = true) :
    MakesTrail fs path.trail (fs.makeDirectories path) := by
  have hmakes := @makesTrail_makeDirectoriesFrom fs path.root (bne_iff_ne.mp h) path.parts
  unfold Path.trail
  rw [Path.absolute_of_isAbsolute h]
  exact hmakes

/-! ## What stays -/

/-- Whether everything that is there stays as it is. -/
def Extends (before after : FileSystem) : Prop :=
  ∀ l entry, before.find? l = some entry → after.find? l = some entry

/-- Directories are made where nothing stands. -/
theorem MakesTrail.extends {result : FileSystem × Option AccessError}
    (h : MakesTrail fs trail result) : Extends fs result.1 := by
  intro l entry hl
  rw [h.find?]
  split
  · next hpassed =>
    have hopen := isPassable_of_mem_passed hpassed
    cases entry with
    | directory => rfl
    | file content =>
      rw [isPassable_of_file hl] at hopen
      exact nomatch hopen
  · exact hl

theorem extends_ensureDirectory (fs : FileSystem) (path : Path) :
    Extends fs (fs.settled (fs.ensureDirectory path)).1 := by
  cases hlocate : fs.locate path with
  | ok loc => exact (makesTrail_ensureDirectory hlocate).extends
  | error refusal =>
    rw [ensureDirectory_of_locate_error hlocate]
    exact fun l entry hl => hl

/-- Making directories leaves everything that is there, also on the way from the working directory.
-/
theorem extends_makeDirectories (fs : FileSystem) (path : Path) :
    Extends fs (fs.makeDirectories path).1 := by
  unfold makeDirectories
  induction path.parts.reverse with
  | nil => exact extends_ensureDirectory fs _
  | cons part reversed ih =>
    have hhere := extends_ensureDirectory fs ⟨path.root, (part :: reversed).reverse⟩
    unfold makeDirectoriesFrom
    dsimp only
    split
    · split
      · next made hmade =>
        rw [hmade] at ih
        intro l entry hl
        exact extends_ensureDirectory made _ l entry (ih l entry hl)
      · exact ih
    · exact hhere

end FileSystem

end Crosscheck.Files
