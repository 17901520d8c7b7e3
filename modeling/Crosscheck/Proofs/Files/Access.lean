import Crosscheck.Files.Access
import Crosscheck.Proofs.Files.FileSystem
import Crosscheck.Proofs.Files.Path
/-!
# Access by path

Where a path leads does not depend on the files: two dots go up, any other part goes down. The files
decide only whether one gets there, since everything on the way has to be a directory. So a change
that leaves the directories as they are leaves every way as it is.

`read`, `write` and `unlink` are determined by what is found where the path leads; files that come
and go leave the directories.
-/

namespace Crosscheck.Files

/-- The location that one part leads to. -/
def Location.go (loc : Location) (part : String) : Location :=
  if part == ".." then loc.dropLast else loc ++ [part]

/-- A name leads below a location. -/
theorem Location.go_of_isName {name : String} (h : isName name = true) (loc : Location) :
    loc.go name = loc ++ [name] := by
  have hdots : name ≠ ".." := (isName_iff.mp h).2.2.1
  rw [go, beq_eq_false_iff_ne.mpr hdots]
  rfl

/-- Where a path leads, whatever the files. -/
def Path.location (path : Path) : Location := path.absolute.parts.foldl Location.go []

/-- The path from the root to a location. -/
def Location.path (loc : Location) : Path := ⟨.slash, loc⟩

namespace FileSystem

variable {fs : FileSystem} {loc l : Location} {path : Path} {content : Text.Bytes}

theorem follow_cons (fs : FileSystem) (loc : Location) (part : String) (rest : List String) :
    fs.follow loc (part :: rest) =
      match fs.find? loc with
      | some .directory => fs.follow (loc.go part) rest
      | some (.file _) => .error .notDirectory
      | none => .error .notFound := by
  rfl

/-- Names are followed through directories only. -/
theorem follow_cons_eq_ok {part : String} {rest : List String} :
    fs.follow loc (part :: rest) = .ok l ↔
      fs.find? loc = some .directory ∧ fs.follow (loc.go part) rest = .ok l := by
  rw [follow_cons]
  cases fs.find? loc with
  | none => simp
  | some entry => cases entry <;> simp

/-- A way that can be followed leads where its parts say. -/
theorem follow_eq_foldl {parts : List String} (h : fs.follow loc parts = .ok l) :
    l = parts.foldl Location.go loc := by
  induction parts generalizing loc with
  | nil => simpa [follow] using h.symm
  | cons part rest ih => exact ih (follow_cons_eq_ok.mp h).2

/-- A way goes on from where its first parts lead. -/
theorem follow_concat_eq_ok {parts : List String} {last : String} :
    fs.follow loc (parts ++ [last]) = .ok l ↔
      ∃ home, fs.follow loc parts = .ok home ∧ fs.find? home = some .directory ∧
        l = home.go last := by
  induction parts generalizing loc with
  | nil =>
    rw [List.nil_append, follow_cons_eq_ok]
    simp only [follow, Except.ok.injEq, exists_eq_left', eq_comm]
  | cons part rest ih =>
    rw [List.cons_append, follow_cons_eq_ok, ih]
    simp only [follow_cons_eq_ok]
    constructor
    · rintro ⟨hdir, home, hhome, hrest⟩
      exact ⟨home, ⟨hdir, hhome⟩, hrest⟩
    · rintro ⟨home, ⟨hdir, hhome⟩, hrest⟩
      exact ⟨hdir, home, hhome, hrest⟩

/-- A path leads to its location, if anywhere. -/
theorem locate_eq_location (h : fs.locate path = .ok loc) : loc = path.location :=
  follow_eq_foldl h

/-- The location of a path with one more part. -/
theorem locate_concat_eq_ok {root : Root} {parts : List String} {last : String}
    (hroot : (⟨root, parts⟩ : Path).isAbsolute = true) :
    fs.locate ⟨root, parts ++ [last]⟩ = .ok loc ↔
      ∃ home, fs.locate ⟨root, parts⟩ = .ok home ∧ fs.find? home = some .directory ∧
        loc = home.go last := by
  have hlong : (⟨root, parts ++ [last]⟩ : Path).isAbsolute = true := hroot
  unfold locate
  rw [Path.absolute_of_isAbsolute hroot, Path.absolute_of_isAbsolute hlong]
  exact follow_concat_eq_ok

/-! ## Ways through the same directories -/

/-- Two file systems with the same directories. -/
def SameDirectories (before after : FileSystem) : Prop :=
  ∀ l, after.find? l = some .directory ↔ before.find? l = some .directory

/-- A way can still be followed where all directories are kept. -/
theorem follow_of_directories {before after : FileSystem} {parts : List String}
    (h : ∀ l, before.find? l = some .directory → after.find? l = some .directory)
    (hfollow : before.follow loc parts = .ok l) : after.follow loc parts = .ok l := by
  induction parts generalizing loc with
  | nil => exact hfollow
  | cons part rest ih =>
    obtain ⟨hdirectory, hrest⟩ := follow_cons_eq_ok.mp hfollow
    exact follow_cons_eq_ok.mpr ⟨h loc hdirectory, ih hrest⟩

/-- Names lead to the same locations where the directories are the same. -/
theorem SameDirectories.follow_eq_ok_iff {before after : FileSystem}
    (h : SameDirectories before after) {parts : List String} :
    after.follow loc parts = .ok l ↔ before.follow loc parts = .ok l :=
  ⟨follow_of_directories fun l => (h l).mp, follow_of_directories fun l => (h l).mpr⟩

/-- Where the directories are the same, the same ways can be followed. -/
theorem SameDirectories.locate_eq_ok_iff {before after : FileSystem}
    (h : SameDirectories before after) :
    after.locate path = .ok loc ↔ before.locate path = .ok loc :=
  h.follow_eq_ok_iff

theorem SameDirectories.refl (fs : FileSystem) : SameDirectories fs fs := fun _ => Iff.rfl

theorem SameDirectories.symm {a b : FileSystem} (h : SameDirectories a b) : SameDirectories b a :=
  fun l => (h l).symm

theorem SameDirectories.trans {a b c : FileSystem} (hab : SameDirectories a b)
    (hbc : SameDirectories b c) : SameDirectories a c := fun l => (hbc l).trans (hab l)

/-- A file can be put where it could be put among the same directories. -/
theorem SameDirectories.canPut_file_iff {before after : FileSystem} {other : Text.Bytes}
    (h : SameDirectories before after) :
    after.CanPut loc (.file content) ↔ before.CanPut loc (.file other) := by
  simp only [CanPut, h loc.dropLast, ne_eq, h loc, reduceCtorEq, false_or]

/-- No file is put in the place of a directory. -/
theorem not_canPut_of_directory (h : fs.find? loc = some .directory) :
    ¬ fs.CanPut loc (.file content) := by
  rintro ⟨-, -, hkind, -⟩
  rcases hkind with hkind | hkind
  · exact Entry.noConfusion hkind
  · exact hkind h

/-- Putting a file leaves the directories. -/
theorem sameDirectories_put (h : fs.CanPut loc (.file content)) :
    SameDirectories fs (fs.put loc _ h) := by
  intro l
  rw [find?_put]
  split
  · next hl => exact iff_of_false (by simp) fun hdir => not_canPut_of_directory (hl ▸ hdir) h
  · rfl

/-- Removing a file leaves the directories. -/
theorem sameDirectories_erase (h : fs.find? loc = some (.file content)) :
    SameDirectories fs (fs.erase loc) := by
  intro l
  rw [find?_erase_file h]
  split
  · next hl => exact iff_of_false (by simp) (by simp [hl, h])
  · rfl

/-! ## Listings -/

/-- The children of a directory are what stands right below it. -/
theorem mem_children_iff {p : Path} {entry : Entry} :
    (p, entry) ∈ fs.children path ↔ ∃ loc name, fs.locate path = .ok loc ∧
      p = ⟨path.root, path.parts ++ [name]⟩ ∧ fs.find? (loc ++ [name]) = some entry := by
  unfold children
  cases fs.locate path with
  | error refusal => simp
  | ok loc =>
    dsimp only
    rw [List.mem_filterMap]
    constructor
    · rintro ⟨⟨rel, found⟩, hmem, hone⟩
      rcases rel with _ | ⟨name, _ | ⟨_, _⟩⟩
      · simp at hone
      · simp only [Option.some.injEq, Prod.mk.injEq] at hone
        obtain ⟨rfl, rfl⟩ := hone
        exact ⟨loc, name, rfl, rfl, (mem_below_iff.mp hmem).2⟩
      · simp at hone
    · rintro ⟨other, name, hother, rfl, hfound⟩
      obtain rfl := Except.ok.inj hother
      exact ⟨([name], entry), mem_below_iff.mpr ⟨List.cons_ne_nil _ _, hfound⟩, rfl⟩

/-- The descendants of a directory are what stands anywhere below it. -/
theorem mem_descendants_iff {p : Path} {entry : Entry} :
    (p, entry) ∈ fs.descendants path ↔ ∃ loc rel, fs.locate path = .ok loc ∧ rel ≠ [] ∧
      p = ⟨path.root, path.parts ++ rel⟩ ∧ fs.find? (loc ++ rel) = some entry := by
  unfold descendants
  cases fs.locate path with
  | error refusal => simp
  | ok loc =>
    dsimp only
    rw [List.mem_map]
    constructor
    · rintro ⟨⟨rel, found⟩, hmem, heq⟩
      obtain ⟨rfl, rfl⟩ := Prod.mk.inj heq
      obtain ⟨hne, hfound⟩ := mem_below_iff.mp hmem
      exact ⟨loc, rel, rfl, hne, rfl, hfound⟩
    · rintro ⟨other, rel, hother, hne, rfl, hfound⟩
      obtain rfl := Except.ok.inj hother
      exact ⟨(rel, entry), mem_below_iff.mpr ⟨hne, hfound⟩, rfl⟩

/-- The path by which an entry is listed in a directory at a location. -/
def childAt? (path : Path) (loc : Location) (x : Location × Entry) : Option (Path × Entry) :=
  (under? loc x.1).bind fun rel =>
    match rel with
    | [name] => some (⟨path.root, path.parts ++ [name]⟩, x.2)
    | _ => none

theorem childAt?_eq_some_iff {x : Location × Entry} {p : Path} :
    childAt? path loc x = some (p, entry) ↔
      ∃ name, x = (loc ++ [name], entry) ∧ p = ⟨path.root, path.parts ++ [name]⟩ := by
  obtain ⟨l, found⟩ := x
  unfold childAt?
  constructor
  · intro h
    obtain ⟨rel, hrel, hone⟩ := Option.bind_eq_some_iff.mp h
    obtain ⟨-, rfl⟩ := under?_eq_some_iff.mp hrel
    rcases rel with _ | ⟨name, _ | ⟨_, _⟩⟩
    · exact nomatch hone
    · obtain ⟨rfl, rfl⟩ := Prod.mk.inj (Option.some.inj hone)
      exact ⟨name, rfl, rfl⟩
    · exact nomatch hone
  · rintro ⟨name, hx, rfl⟩
    obtain ⟨rfl, rfl⟩ := Prod.mk.inj hx
    rw [under?_eq_some_iff.mpr ⟨List.cons_ne_nil name [], rfl⟩]
    rfl

theorem children_eq_filterMap (h : fs.locate path = .ok loc) :
    fs.children path = fs.entries.filterMap (childAt? path loc) := by
  unfold children below
  rw [h]
  dsimp only
  rw [List.filterMap_filterMap]
  refine List.filterMap_congr fun x _ => ?_
  rw [Option.bind_map]
  rfl

/-- What is made of the entries in a directory is the same if those that anything is made of are. -/
theorem filterMap_children_congr {α : Type} {a b : FileSystem} {f : Path × Entry → Option α}
    (ha : a.locate path = .ok loc) (hb : b.locate path = .ok loc)
    (h : ∀ name entry, (f (⟨path.root, path.parts ++ [name]⟩, entry)).isSome = true →
      (a.find? (loc ++ [name]) = some entry ↔ b.find? (loc ++ [name]) = some entry)) :
    (a.children path).filterMap f = (b.children path).filterMap f := by
  rw [children_eq_filterMap ha, children_eq_filterMap hb, List.filterMap_filterMap,
    List.filterMap_filterMap]
  refine filterMap_entries_congr fun l entry hkept => ?_
  obtain ⟨made, hmade⟩ := Option.isSome_iff_exists.mp hkept
  obtain ⟨⟨p, found⟩, hchild, hsome⟩ := Option.bind_eq_some_iff.mp hmade
  obtain ⟨name, hx, rfl⟩ := childAt?_eq_some_iff.mp hchild
  obtain ⟨rfl, rfl⟩ := Prod.mk.inj hx
  exact h name entry (by rw [hsome]; rfl)

/-- No entry is listed twice. -/
theorem pairwise_below (fs : FileSystem) (loc : Location) :
    (fs.below loc).Pairwise fun x y => x.1 ≠ y.1 := by
  unfold below
  refine List.Pairwise.filterMap _ ?_ fs.sorted
  intro x y hlt a ha b hb
  obtain ⟨rel, hrel, rfl⟩ := Option.map_eq_some_iff.mp ha
  obtain ⟨rel', hrel', rfl⟩ := Option.map_eq_some_iff.mp hb
  rintro rfl
  rw [(under?_eq_some_iff.mp hrel).2, (under?_eq_some_iff.mp hrel').2] at hlt
  exact List.lt_irrefl _ hlt

/-- No child is listed twice. -/
theorem nodup_children (fs : FileSystem) (path : Path) :
    ((fs.children path).map (·.1)).Nodup := by
  unfold children
  cases fs.locate path with
  | error refusal => exact List.nodup_nil
  | ok loc =>
    refine List.pairwise_map.mpr (List.Pairwise.filterMap _ ?_ (fs.pairwise_below loc))
    rintro ⟨rel, entry⟩ ⟨rel', entry'⟩ hne a ha b hb
    rcases rel with _ | ⟨name, _ | ⟨_, _⟩⟩
    · exact nomatch ha
    · rcases rel' with _ | ⟨name', _ | ⟨_, _⟩⟩
      · exact nomatch hb
      · obtain rfl := Option.some.inj ha
        obtain rfl := Option.some.inj hb
        simpa using hne
      · exact nomatch hb
    · exact nomatch ha

/-- No descendant is listed twice. -/
theorem nodup_descendants (fs : FileSystem) (path : Path) :
    ((fs.descendants path).map (·.1)).Nodup := by
  unfold descendants
  cases fs.locate path with
  | error refusal => exact List.nodup_nil
  | ok loc =>
    refine List.pairwise_map.mpr (List.pairwise_map.mpr ((fs.pairwise_below loc).imp ?_))
    intro x y hne heq
    exact hne (by simpa using heq)

/-- A path goes on by the names that lead to what is found. -/
theorem locate_append {root : Root} {parts rel : List String} {entry : Entry}
    (hroot : (⟨root, parts⟩ : Path).isAbsolute = true) (hloc : fs.locate ⟨root, parts⟩ = .ok loc)
    (hfound : fs.find? (loc ++ rel) = some entry) :
    fs.locate ⟨root, parts ++ rel⟩ = .ok (loc ++ rel) := by
  induction rel using List.reverseRecOn generalizing entry with
  | nil => simpa using hloc
  | append_singleton front last ih =>
    have hname : isName last = true := isName_of_find? hfound (by simp)
    rw [← List.append_assoc] at hfound ⊢
    have hdirectory : fs.find? (loc ++ front) = some .directory := by
      have hparent := find?_dropLast hfound (by simp)
      rwa [List.dropLast_concat] at hparent
    have hlong : (⟨root, parts ++ front⟩ : Path).isAbsolute = true := hroot
    rw [← List.append_assoc]
    exact (locate_concat_eq_ok hlong).mpr
      ⟨_, ih hdirectory, hdirectory, (Location.go_of_isName hname _).symm⟩

/-! ## Reading, writing, removing -/

@[simp] theorem locate_absolute (fs : FileSystem) (path : Path) :
    fs.locate path.absolute = fs.locate path := by
  unfold locate
  rw [Path.absolute_absolute]

/-- The content that is read is that of the file where the path leads. -/
theorem read_eq_ok_iff :
    fs.read path = .ok content ↔
      ∃ loc, fs.locate path = .ok loc ∧ fs.find? loc = some (.file content) := by
  unfold read refuse
  cases fs.locate path with
  | error refusal => simp
  | ok loc =>
    cases hfound : fs.find? loc with
    | none => simp [hfound]
    | some entry => cases entry <;> simp [hfound]

theorem entry?_eq_some_iff {entry : Entry} : fs.entry? path = some entry ↔
    ∃ l, fs.locate path = .ok l ∧ fs.find? l = some entry := by
  unfold entry?
  cases fs.locate path with
  | error refusal => simp
  | ok loc => simp

theorem isPresent_iff : fs.isPresent path = true ↔
    ∃ l entry, fs.locate path = .ok l ∧ fs.find? l = some entry := by
  unfold isPresent
  rw [Option.isSome_iff_exists, exists_comm]
  exact exists_congr fun entry => entry?_eq_some_iff

theorem isFile_iff : fs.isFile path = true ↔
    ∃ l content, fs.locate path = .ok l ∧ fs.find? l = some (.file content) := by
  have hfile : fs.isFile path = true ↔ ∃ content, fs.entry? path = some (.file content) := by
    unfold isFile
    rcases fs.entry? path with _ | (_ | content) <;> simp [Entry.isFile]
  rw [hfile, exists_comm]
  exact exists_congr fun content => entry?_eq_some_iff

theorem isDirectory_iff : fs.isDirectory path = true ↔
    ∃ l, fs.locate path = .ok l ∧ fs.find? l = some .directory := by
  have hdirectory : fs.isDirectory path = true ↔ fs.entry? path = some .directory := by
    unfold isDirectory
    rcases fs.entry? path with _ | (_ | content) <;> simp [Entry.isDirectory]
  rw [hdirectory, entry?_eq_some_iff]

theorem read_absolute_eq_ok_iff :
    fs.read path.absolute = .ok content ↔ fs.read path = .ok content := by
  rw [read_eq_ok_iff, read_eq_ok_iff, locate_absolute]

theorem read_eq_ok_iff_of_locate (h : fs.locate path = .ok loc) :
    fs.read path = .ok content ↔ fs.find? loc = some (.file content) := by
  rw [read_eq_ok_iff, h]
  simp

/-- A file is written where the path leads if it can be put there. -/
theorem write_eq_ok_iff {after : FileSystem} :
    fs.write path content = .ok after ↔
      ∃ loc, fs.locate path = .ok loc ∧
        ∃ h : fs.CanPut loc (.file content), fs.put loc _ h = after := by
  unfold write
  cases fs.locate path with
  | error refusal => simp [refuse]
  | ok loc =>
    simp only [Except.ok.injEq, exists_eq_left']
    by_cases hput : fs.CanPut loc (.file content)
    · cases hfound : fs.find? loc with
      | none => simp [place, hput]
      | some entry =>
        cases entry with
        | file old => simp [place, hput]
        | directory => exact absurd hput (not_canPut_of_directory hfound)
    · cases fs.find? loc with
      | none => simp [place, hput, refuse]
      | some entry => cases entry <;> simp [place, hput, refuse]

theorem write_eq_ok_iff_of_locate {after : FileSystem} (h : fs.locate path = .ok loc) :
    fs.write path content = .ok after ↔
      ∃ hput : fs.CanPut loc (.file content), fs.put loc _ hput = after := by
  rw [write_eq_ok_iff]
  constructor
  · rintro ⟨other, hother, hput⟩
    obtain rfl := Except.ok.inj (hother.symm.trans h)
    exact hput
  · exact fun hput => ⟨loc, h, hput⟩

/-- A path to a file ends in a name, and the file stands by that name where the rest leads. -/
theorem exists_home_of_file (habsolute : path.isAbsolute = true) (hloc : fs.locate path = .ok loc)
    (hfile : fs.find? loc = some (.file content)) :
    ∃ home, fs.locate path.parent = .ok home ∧ fs.find? home = some .directory ∧
      loc = home ++ [path.name] ∧ isName path.name = true ∧
      path.parts.dropLast ++ [path.name] = path.parts := by
  obtain ⟨root, parts⟩ := path
  rcases List.eq_nil_or_concat' parts with rfl | ⟨front, last, rfl⟩
  · unfold locate at hloc
    rw [Path.absolute_of_isAbsolute habsolute] at hloc
    obtain rfl : [] = loc := Except.ok.inj hloc
    simp at hfile
  · have hroot : (⟨root, front⟩ : Path).isAbsolute = true := habsolute
    obtain ⟨home, hhome, hdir, rfl⟩ := (locate_concat_eq_ok hroot).mp hloc
    have hname : (⟨root, front ++ [last]⟩ : Path).name = last := by simp [Path.name]
    have hparent : (⟨root, front ++ [last]⟩ : Path).parent = ⟨root, front⟩ := by
      simp [Path.parent]
    -- Two dots would lead to the directory above a directory, never to a file.
    have hdown : home.go last = home ++ [last] := by
      unfold Location.go at hfile ⊢
      split
      · next hup =>
        rw [if_pos hup] at hfile
        by_cases htop : home = []
        · simp [htop] at hfile
        · simp [find?_dropLast hdir htop] at hfile
      · rfl
    rw [hdown] at hfile ⊢
    refine ⟨home, hparent ▸ hhome, hdir, by rw [hname], ?_, by simp [hname]⟩
    rw [hname]
    exact isName_of_find? hfile (by simp)

/-- A path that leads to a file is all that it takes to remove the file. -/
theorem unlink_eq_ok_iff {after : FileSystem} :
    fs.unlink path = .ok after ↔
      ∃ loc content, fs.locate path = .ok loc ∧ fs.find? loc = some (.file content) ∧
        fs.erase loc = after := by
  unfold unlink refuse
  cases fs.locate path with
  | error refusal => simp
  | ok loc =>
    cases hfound : fs.find? loc with
    | none => simp [hfound]
    | some entry => cases entry <;> simp [hfound]

/-! ## Looking up -/

/-- Whether a path can be looked up: something is there, or the path is not too long. -/
def Admits (fs : FileSystem) (path : Path) : Prop :=
  fs.isPresent path = true ∨ fs.isTooLong path = false

/-- What is there is found, however long its name. -/
theorem lookUp_of_isPresent (h : fs.isPresent path = true) : fs.lookUp path = .ok true := if_pos h

/-- A path that can be looked up is told to name something or nothing. -/
theorem lookUp_of_admits (h : fs.Admits path) : fs.lookUp path = .ok (fs.isPresent path) := by
  unfold lookUp
  cases hpresent : fs.isPresent path with
  | true => rfl
  | false =>
    have hshort : fs.isTooLong path = false := h.resolve_left (by rw [hpresent]; exact nofun)
    rw [hshort]
    rfl

/-- Any other path is refused for its length. -/
theorem lookUp_of_not_admits (h : ¬ fs.Admits path) :
    fs.lookUp path = .error ⟨.nameTooLong, path.render⟩ := by
  unfold Admits at h
  rw [not_or, Bool.not_eq_true, Bool.not_eq_false] at h
  rw [lookUp, h.1, if_neg Bool.false_ne_true, h.2]
  rfl

/-- A directory is asked for the next name. -/
theorem meetsLongName_of_directory (h : fs.find? loc = some .directory) (part : String)
    (rest : List String) : fs.meetsLongName loc (part :: rest) =
      (decide (nameLimit < part.utf8ByteSize) || fs.meetsLongName (loc.go part) rest) := by
  rw [meetsLongName, h]
  rfl

/-- What is no directory is not asked for a name. -/
theorem meetsLongName_of_not_directory (h : fs.find? loc ≠ some .directory) (parts : List String) :
    fs.meetsLongName loc parts = false := by
  cases parts with
  | nil => rfl
  | cons part rest =>
    unfold meetsLongName
    split
    · next heq => exact absurd heq h
    · rfl

/-- Names within the limits are not too long, wherever they are looked for. -/
theorem isTooLong_of_short (htext : path.render.utf8ByteSize ≤ pathLimit)
    (hparts : ∀ part ∈ path.absolute.parts, part.utf8ByteSize ≤ nameLimit) :
    fs.isTooLong path = false := by
  have hmeets (loc : Location) (parts : List String)
      (h : ∀ part ∈ parts, part.utf8ByteSize ≤ nameLimit) : fs.meetsLongName loc parts = false := by
    induction parts generalizing loc with
    | nil => rfl
    | cons part rest ih =>
      obtain ⟨hpart, hrest⟩ := List.forall_mem_cons.mp h
      by_cases hdirectory : fs.find? loc = some .directory
      · rw [meetsLongName_of_directory hdirectory, decide_eq_false (Nat.not_lt.mpr hpart),
          Bool.false_or]
        exact ih _ hrest
      · exact meetsLongName_of_not_directory hdirectory _
  unfold isTooLong
  rw [decide_eq_false (Nat.not_lt.mpr htext), hmeets [] _ hparts, Bool.or_self, Bool.and_false]

/-- The same names are asked for where the directories are the same. -/
theorem SameDirectories.meetsLongName_eq {before after : FileSystem}
    (h : SameDirectories before after) (loc : Location) (parts : List String) :
    after.meetsLongName loc parts = before.meetsLongName loc parts := by
  induction parts generalizing loc with
  | nil => rfl
  | cons part rest ih =>
    by_cases hdirectory : before.find? loc = some .directory
    · rw [meetsLongName_of_directory hdirectory, meetsLongName_of_directory ((h loc).mpr hdirectory),
        ih]
    · rw [meetsLongName_of_not_directory hdirectory,
        meetsLongName_of_not_directory (mt (h loc).mp hdirectory)]

/-- A directory is told from a file by what is found above what is in it: a way goes on from the one
and not from the other. -/
theorem directory_of_isPresent {before after : FileSystem}
    (h : ∀ path, before.isPresent path = true → after.isPresent path = true)
    (hdirectory : before.find? loc = some .directory) : after.find? loc = some .directory := by
  have habsolute (parts : List String) : (⟨.slash, parts⟩ : Path).isAbsolute = true := rfl
  have hroot : before.locate ⟨.slash, []⟩ = .ok [] := rfl
  have hloc : before.locate ⟨.slash, loc⟩ = .ok loc :=
    before.locate_append (habsolute []) hroot hdirectory
  have hup : before.locate ⟨.slash, loc ++ [".."]⟩ = .ok loc.dropLast :=
    (locate_concat_eq_ok (habsolute loc)).mpr ⟨loc, hloc, hdirectory, rfl⟩
  have habove : before.find? loc.dropLast = some .directory := by
    by_cases hempty : loc = []
    · rw [hempty]
      exact before.find?_root
    · exact find?_dropLast hdirectory hempty
  obtain ⟨l, _, hafter, -⟩ := isPresent_iff.mp (h _ (isPresent_iff.mpr ⟨_, _, hup, habove⟩))
  obtain ⟨home, hhome, hfound, -⟩ := (locate_concat_eq_ok (habsolute loc)).mp hafter
  obtain rfl : home = loc := (follow_eq_foldl hhome).trans (follow_eq_foldl hloc).symm
  exact hfound

/-- Files that differ in contents alone have the same directories. -/
theorem sameDirectories_of_isPresent {before after : FileSystem}
    (h : ∀ path, after.isPresent path = before.isPresent path) : SameDirectories before after :=
  fun _ => ⟨directory_of_isPresent fun path hpath => (h path).symm.trans hpath,
    directory_of_isPresent fun path hpath => (h path).trans hpath⟩

/-- Paths are looked up by what is there, not by what is in it. -/
theorem lookUp_congr {before after : FileSystem}
    (h : ∀ path, after.isPresent path = before.isPresent path) (path : Path) :
    after.lookUp path = before.lookUp path := by
  have htoo : after.isTooLong path = before.isTooLong path := by
    unfold isTooLong
    rw [(sameDirectories_of_isPresent h).meetsLongName_eq]
  unfold lookUp
  rw [h path, htoo]

end FileSystem

end Crosscheck.Files
