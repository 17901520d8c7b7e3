import Crosscheck.Proofs.Mutation.Attempts
import Mathlib.Logic.Function.Basic
/-!
# The numbering of mutants

A generation keeps one number for all its transforms. An attempt succeeds if it changes the source
and the files, as they were at the beginning, let the result be written under the next number. So
what failed before matters only as far as the number goes, and the mutants are those of the attempts
that succeed, numbered from one without gaps. Each holds the source with that one change, and
nothing else in the files is touched.

`Numbered` is kept from one attempt to the next (`Numbered.trial`).
-/

namespace Crosscheck.Mutation

open Crosscheck.Files Crosscheck.Text Crosscheck.Java Crosscheck.Variation

/-- The number of attempts before the given one that succeed. -/
def earlier (succeeds : Nat → Bool) (i : Nat) : Nat := (List.range i).countP succeeds

/-- The records of the attempts that succeed, in their order, each under the number after those that
succeed before it. -/
def records (seed : Path) (succeeds : Nat → Bool) (tried : List Attempt) : List Mutant :=
  (tried.zipIdx.filter fun (_, i) => succeeds i).map fun (a, i) =>
    a.mutant seed (earlier succeeds i + 1)

/-- Whether an attempt changes the source, and the files let the result be written under a number.
-/
def Attempt.Fits (seed : Path) (source : Bytes) (tree : Node) (fs : FileSystem) (number : Nat)
    (a : Attempt) : Prop :=
  ∃ edited, a.edit? source tree = some edited ∧
    ∃ written, fs.write (mutantPath seed number) edited = .ok written

/-- What a numbered generation makes of its attempts and of the files before it. -/
structure Numbered (seed : Path) (source : Bytes) (tree : Node) (before : FileSystem)
    (tried : List Attempt) (succeeds : Nat → Bool) (made : List Mutant) (after : FileSystem) :
    Prop where
  /-- The attempts that succeed are those that fit in the files at the beginning. -/
  succeeds_iff : ∀ i a, tried[i]? = some a →
    (succeeds i = true ↔ a.Fits seed source tree before (earlier succeeds i + 1))
  /-- Exactly those are recorded. -/
  made_eq : made = records seed succeeds tried
  /-- The records are numbered from one, and stand where their numbers say. -/
  numbered : ∀ (k : Nat) (m : Mutant), made[k]? = some m →
    m.number = k + 1 ∧ m.path = mutantPath seed (k + 1 : Nat)
  /-- Each mutant holds the source with the one change of its attempt. -/
  content : ∀ i a, tried[i]? = some a → succeeds i = true →
    ∃ edited, a.edit? source tree = some edited ∧
      after.read (mutantPath seed (earlier succeeds i + 1 : Nat)) = .ok edited
  /-- What stands elsewhere is as before. -/
  elsewhere : ∀ l, (∀ m ∈ made, before.locate m.path ≠ .ok l) → after.find? l = before.find? l
  /-- The directories are as before. -/
  directories : FileSystem.SameDirectories before after
  /-- The seed is as before. -/
  seed : after.read seed = .ok source

/-! ## Counting -/

section Counting

variable {succeeds other : Nat → Bool} {i n : Nat}

/-- One more is earlier behind an attempt that succeeds. -/
theorem earlier_succ (succeeds : Nat → Bool) (i : Nat) :
    earlier succeeds (i + 1) = earlier succeeds i + (succeeds i).toNat := by
  unfold earlier
  rw [List.range_succ, List.countP_append, List.countP_singleton]
  cases succeeds i <;> rfl

theorem earlier_mono (succeeds : Nat → Bool) {i j : Nat} (h : i ≤ j) :
    earlier succeeds i ≤ earlier succeeds j :=
  (List.range_sublist.mpr h).countP_le

theorem earlier_congr (h : ∀ i < n, other i = succeeds i) (hi : i ≤ n) :
    earlier other i = earlier succeeds i := by
  unfold earlier
  refine List.countP_congr fun j hj => ?_
  rw [h j (Nat.lt_of_lt_of_le (List.mem_range.mp hj) hi)]

/-- Attempts that succeed have different numbers, in their order. -/
theorem earlier_lt_of_lt {j : Nat} (hi : succeeds i = true) (hij : i < j) :
    earlier succeeds i < earlier succeeds j := by
  have hsucc := earlier_succ succeeds i
  have hle := earlier_mono succeeds (Nat.succ_le_of_lt hij)
  rw [hsucc, hi] at hle
  exact hle

variable {seed : Path} {tried : List Attempt}

theorem records_congr (h : ∀ i < tried.length, other i = succeeds i) :
    records seed other tried = records seed succeeds tried := by
  have hbound : ∀ x ∈ tried.zipIdx, x.2 < tried.length := fun x hx => by
    simpa using (List.mem_zipIdx hx).2.1
  unfold records
  rw [List.filter_congr fun x hx => h x.2 (hbound x hx)]
  refine List.map_congr_left fun x hx => ?_
  dsimp only
  rw [earlier_congr h (Nat.le_of_lt (hbound x (List.mem_of_mem_filter hx)))]

/-- An attempt adds its record if it succeeds, with the next number. -/
theorem records_concat (succeeds : Nat → Bool) (tried : List Attempt) (a : Attempt) :
    records seed succeeds (tried ++ [a]) =
      records seed succeeds tried ++
        (if succeeds tried.length then [a.mutant seed (earlier succeeds tried.length + 1)]
          else []) := by
  unfold records
  rw [List.zipIdx_append, List.filter_append, List.map_append]
  congr 1
  cases h : succeeds tried.length <;> simp [h]

/-- There is one record for each attempt that succeeds. -/
theorem length_records (succeeds : Nat → Bool) (tried : List Attempt) :
    (records seed succeeds tried).length = earlier succeeds tried.length := by
  induction tried using List.reverseRecOn with
  | nil => rfl
  | append_singleton tried a ih =>
    rw [records_concat, List.length_append, ih, List.length_append, List.length_singleton,
      earlier_succ]
    cases succeeds tried.length <;> rfl

/-- Records are numbered from one on without a gap. -/
theorem number_of_getElem?_records {k : Nat} {m : Mutant}
    (h : (records seed succeeds tried)[k]? = some m) :
    m.number = k + 1 ∧ m.path = mutantPath seed (k + 1 : Nat) := by
  induction tried using List.reverseRecOn with
  | nil => simp [records] at h
  | append_singleton tried a ih =>
    rw [records_concat] at h
    by_cases hold : k < (records seed succeeds tried).length
    · rw [List.getElem?_append_left hold] at h
      exact ih h
    · rw [List.getElem?_append_right (Nat.le_of_not_lt hold)] at h
      have hlength := @length_records seed succeeds tried
      split at h
      · obtain ⟨hk, rfl⟩ := List.getElem?_eq_some_iff.mp h
        have hk' : k = earlier succeeds tried.length := by
          simp only [List.length_singleton] at hk
          omega
        subst hk'
        simp [Attempt.mutant]
      · simp at h

end Counting

/-! ## One attempt after the other -/

section Trials

variable {seed : Path} {source : Bytes} {tree : Node} {before after : FileSystem}
  {home : Location} {tried : List Attempt} {succeeds : Nat → Bool} {made : List Mutant}

/-- Before the first attempt there is nothing to number. -/
theorem Den.numbered_nil (hden : Den before seed home source) :
    Numbered seed source tree before [] (fun _ => false) [] before where
  succeeds_iff _ _ h := nomatch h
  made_eq := rfl
  numbered _ _ h := nomatch h
  content _ _ h := nomatch h
  elsewhere _ _ := rfl
  directories := .refl before
  seed := FileSystem.read_eq_ok_iff.mpr ⟨_, hden.locate, hden.file⟩

section Concat

variable {b : Bool} {a : Attempt}

/-- The mutants made so far are the attempts that succeeded. -/
theorem Numbered.length_made (h : Numbered seed source tree before tried succeeds made after) :
    made.length = earlier succeeds tried.length := by
  rw [h.made_eq, length_records]

theorem update_of_lt (succeeds : Nat → Bool) (b : Bool) {i n : Nat} (h : i < n) :
    Function.update succeeds n b i = succeeds i :=
  Function.update_of_ne (Nat.ne_of_lt h) b succeeds

/-- What comes of an attempt does not count for those before it. -/
theorem earlier_update (succeeds : Nat → Bool) (b : Bool) {i n : Nat} (h : i ≤ n) :
    earlier (Function.update succeeds n b) i = earlier succeeds i :=
  earlier_congr (fun _ hj => update_of_lt succeeds b hj) h

/-- An attempt after the others is one of them, or the last. -/
theorem getElem?_concat_cases {i : Nat} {x : Attempt} (h : (tried ++ [a])[i]? = some x) :
    (i < tried.length ∧ tried[i]? = some x) ∨ (i = tried.length ∧ x = a) := by
  by_cases hold : i < tried.length
  · rw [List.getElem?_append_left hold] at h
    exact .inl ⟨hold, h⟩
  · rw [List.getElem?_append_right (Nat.le_of_not_lt hold)] at h
    obtain ⟨hi, rfl⟩ := List.getElem?_eq_some_iff.mp h
    simp only [List.length_singleton] at hi
    exact .inr ⟨by omega, by simp⟩

theorem Numbered.succeeds_iff_concat
    (h : Numbered seed source tree before tried succeeds made after)
    (hb : b = true ↔ a.Fits seed source tree before (made.length + 1)) (i : Nat) (x : Attempt)
    (hx : (tried ++ [a])[i]? = some x) :
    Function.update succeeds tried.length b i = true ↔ x.Fits seed source tree before
      (earlier (Function.update succeeds tried.length b) i + 1) := by
  rcases getElem?_concat_cases hx with ⟨hold, hx⟩ | ⟨rfl, rfl⟩
  · rw [update_of_lt succeeds b hold, earlier_update succeeds b (Nat.le_of_lt hold)]
    exact h.succeeds_iff i x hx
  · rw [Function.update_self, earlier_update succeeds b (Nat.le_refl _), ← h.length_made]
    exact hb

/-- What each mutant holds, if those made before keep what they hold. -/
theorem Numbered.content_concat (h : Numbered seed source tree before tried succeeds made after)
    {later : FileSystem}
    (hkept : ∀ number ≤ made.length, ∀ edited, after.read (mutantPath seed number) = .ok edited →
      later.read (mutantPath seed number) = .ok edited)
    (hnew : b = true → ∃ edited, a.edit? source tree = some edited ∧
      later.read (mutantPath seed (made.length + 1 : Nat)) = .ok edited)
    (i : Nat) (x : Attempt) (hx : (tried ++ [a])[i]? = some x)
    (hi : Function.update succeeds tried.length b i = true) :
    ∃ edited, x.edit? source tree = some edited ∧
      later.read (mutantPath seed (earlier (Function.update succeeds tried.length b) i + 1 : Nat)) =
        .ok edited := by
  rcases getElem?_concat_cases hx with ⟨hold, hx⟩ | ⟨rfl, rfl⟩
  · rw [update_of_lt succeeds b hold] at hi
    rw [earlier_update succeeds b (Nat.le_of_lt hold)]
    obtain ⟨edited, hedit, hread⟩ := h.content i x hx hi
    refine ⟨edited, hedit, hkept _ ?_ edited hread⟩
    rw [h.length_made]
    exact earlier_lt_of_lt hi hold
  · rw [Function.update_self] at hi
    rw [earlier_update succeeds b (Nat.le_refl _), ← h.length_made]
    exact hnew hi

/-- The record of the last attempt comes behind those made before. -/
theorem Numbered.records_update (h : Numbered seed source tree before tried succeeds made after) :
    records seed (Function.update succeeds tried.length b) (tried ++ [a]) =
      made ++ if b then [a.mutant seed (made.length + 1)] else [] := by
  rw [records_concat, records_congr fun i hi => update_of_lt succeeds b hi, ← h.made_eq,
    Function.update_self, earlier_update succeeds b (Nat.le_refl _), h.length_made]

/-- An attempt that fails leaves everything as it is. -/
theorem Numbered.skip (h : Numbered seed source tree before tried succeeds made after)
    (hnot : ¬ a.Fits seed source tree before (made.length + 1)) :
    Numbered seed source tree before (tried ++ [a]) (Function.update succeeds tried.length false)
      made after where
  succeeds_iff := h.succeeds_iff_concat (iff_of_false Bool.false_ne_true hnot)
  made_eq := by
    rw [h.records_update]
    simp
  numbered := h.numbered
  content := h.content_concat (fun _ _ _ hread => hread) fun hb => nomatch hb
  elsewhere := h.elsewhere
  directories := h.directories
  seed := h.seed

/-- An attempt that succeeds adds its mutant. -/
theorem Numbered.add (h : Numbered seed source tree before tried succeeds made after)
    (hden : Den before seed home source) {edited : Bytes}
    (hedit : a.edit? source tree = some edited)
    (hput : after.CanPut (place home seed (made.length + 1)) (.file edited)) :
    Numbered seed source tree before (tried ++ [a]) (Function.update succeeds tried.length true)
      (made ++ [a.mutant seed (made.length + 1)]) (after.put _ _ hput) := by
  have hdirs := h.directories.trans (FileSystem.sameDirectories_put hput)
  have hfits : a.Fits seed source tree before (made.length + 1) :=
    ⟨edited, hedit, (hden.exists_write_iff (.refl before) _ _).mpr
      (h.directories.canPut_file_iff.mp hput)⟩
  have hmade : made ++ [a.mutant seed (made.length + 1)] =
      records seed (Function.update succeeds tried.length true) (tried ++ [a]) := by
    rw [h.records_update]
    simp
  refine ⟨h.succeeds_iff_concat (iff_of_true rfl hfits), hmade, ?_,
    h.content_concat (fun number hnumber other hread => ?_) fun _ => ⟨edited, hedit, ?_⟩,
    fun l hl => ?_, hdirs, ?_⟩
  · intro k m hm
    rw [hmade] at hm
    exact number_of_getElem?_records hm
  · rw [hden.read_mutantPath_iff h.directories] at hread
    rw [hden.read_mutantPath_iff hdirs, FileSystem.find?_put_of_ne hput fun hsame => ?_]
    · exact hread
    · have := place_injective home seed hsame
      omega
  · rw [hden.read_mutantPath_iff hdirs]
    exact FileSystem.find?_put_self hput
  · have hother : l ≠ place home seed (made.length + 1) := by
      rintro rfl
      refine hl (a.mutant seed (made.length + 1)) (by simp) ?_
      rw [Attempt.path_mutant]
      exact hden.locate_mutantPath (made.length + 1)
    rw [FileSystem.find?_put_of_ne hput hother]
    exact h.elsewhere l fun m hm => hl m (List.mem_append_left _ hm)
  · rw [hden.read_seed_iff hdirs, FileSystem.find?_put_of_ne hput (place_ne home seed _).symm]
    exact (hden.read_seed_iff h.directories).mp h.seed

end Concat

/-- One attempt keeps the numbering. -/
theorem Numbered.trial (h : Numbered seed source tree before tried succeeds made after)
    (hden : Den before seed home source) (a : Attempt) :
    ∃ succeeds', Numbered seed source tree before (tried ++ [a]) succeeds'
      (a.trial seed source tree (made, after)).1 (a.trial seed source tree (made, after)).2 := by
  unfold Attempt.trial
  cases hedit : a.edit? source tree with
  | none =>
    refine ⟨_, h.skip ?_⟩
    rintro ⟨edited, hsome, -⟩
    exact nomatch hedit.symm.trans hsome
  | some edited =>
    dsimp only
    cases hwrite : after.write (mutantPath seed (made.length + 1 : Nat)) edited with
    | error e =>
      refine ⟨_, h.skip ?_⟩
      rintro ⟨other, hsome, hfits⟩
      obtain rfl := Option.some.inj (hedit.symm.trans hsome)
      rw [hden.exists_write_iff (.refl before), ← hden.exists_write_iff h.directories] at hfits
      obtain ⟨written, hwritten⟩ := hfits
      exact nomatch hwrite.symm.trans hwritten
    | ok written =>
      obtain ⟨hput, rfl⟩ := (hden.write_eq_ok_iff h.directories _ _ _).mp hwrite
      exact ⟨_, h.add hden hedit hput⟩

/-- The attempts, one after the other, number what they make. -/
theorem Den.exists_numbered (hden : Den before seed home source) (tree : Node)
    (tried : List Attempt) :
    ∃ succeeds, Numbered seed source tree before tried succeeds
      (tried.foldl (Attempt.trial seed source tree) ([], before)).1
      (tried.foldl (Attempt.trial seed source tree) ([], before)).2 := by
  induction tried using List.reverseRecOn with
  | nil => exact ⟨_, hden.numbered_nil⟩
  | append_singleton tried a ih =>
    obtain ⟨succeeds, h⟩ := ih
    rw [List.foldl_concat]
    exact h.trial hden a

end Trials

/-- A generation comes to its end, with its mutants numbered. -/
theorem Den.exec_generate {seed : Path} {home : Location} {source : Bytes} {tree : Node} {w : World}
    (hden : Den w.files seed.absolute home source) (transforms : List Transform)
    (hparse : parse source = some tree) :
    ∃ succeeds made after, (generate seed transforms).exec w = (.ok made, after) ∧
      Numbered seed.absolute source tree w.files (attempts tree transforms) succeeds made
        after.files := by
  obtain ⟨made, after, hrun, hfold⟩ := Mutation.exec_generate transforms hden.read hparse
  obtain ⟨succeeds, hnumbered⟩ := hden.exists_numbered tree (attempts tree transforms)
  rw [hfold] at hnumbered
  exact ⟨succeeds, made, after, hrun, hnumbered⟩

/-- The mutants of a seed that can be read are those of the attempts that succeed, numbered from one
across all transforms, each with one change to the source as it stands in the seed. -/
theorem exec_generate_numbered {seed : Path} {source : Bytes} {tree : Node} {w : World}
    (transforms : List Transform) (hread : w.files.read seed = .ok source)
    (hparse : parse source = some tree) :
    ∃ succeeds made after, (generate seed transforms).exec w = (.ok made, after) ∧
      Numbered seed.absolute source tree w.files (attempts tree transforms) succeeds made
        after.files := by
  have hread' : w.files.read seed.absolute = .ok source :=
    FileSystem.read_absolute_eq_ok_iff.mpr hread
  obtain ⟨home, hden⟩ := exists_den seed.isAbsolute_absolute hread'
  exact hden.exec_generate transforms hparse

/-- A corpus of one empty source, with a directory in the place of its third mutant. -/
def crampedWorld : World :=
  let files := do
    let fs ← FileSystem.initial.write (Path.ofString "/tmp/w/A.java") []
    fs.ensureDirectories (Path.ofString "/tmp/w/A_iter3.java")
  { World.initial with files := files.toOption.getD .initial }

/-- A transform that changes the sites at some lines, and fails or declines elsewhere. -/
def patchy (name : String) (lines : List Nat) : Transform where
  name
  scan _ := if lines.isEmpty then .error (.raised "no sites")
    else .ok ((List.range 4).map fun line => ⟨name, "program", 0, 0, line⟩)
  apply before site source _ :=
    if site.line ∈ lines then .ok (.edited (source ++ [UInt8.ofNat site.line]))
    else if before % 2 = 0 then .error (.raised "no change") else .ok .declined

/-- A scan that fails, attempts that fail and decline, and writes that cannot be done. -/
theorem numbered_crampedWorld :
    let transforms := [patchy "a" [2], patchy "b" [], patchy "c" [1, 2, 3]]
    ∃ tree succeeds made after, crampedWorld.files.read (Path.ofString "A.java") = .ok [] ∧
      parse [] = some tree ∧
      (generate (Path.ofString "A.java") transforms).exec crampedWorld = (.ok made, after) ∧
      Numbered (Path.ofString "A.java").absolute [] tree crampedWorld.files
        (attempts tree transforms) succeeds made after.files ∧
      made.map (fun m => (m.transform, m.site.line, m.number)) = [("a", 2, 1), ("c", 1, 2)] := by
  intro transforms
  have hread : crampedWorld.files.read (Path.ofString "A.java") = .ok [] := by decide +kernel
  obtain ⟨tree, hparse⟩ := Option.isSome_iff_exists.mp
    (show (parse []).isSome = true by decide +kernel)
  obtain ⟨succeeds, made, after, hrun, hnumbered⟩ :=
    exec_generate_numbered transforms hread hparse
  have hmade : ((generate (Path.ofString "A.java") transforms).exec crampedWorld).1.toOption.map
      (List.map fun m => (m.transform, m.site.line, m.number)) =
        some [("a", 2, 1), ("c", 1, 2)] := by
    decide +kernel
  rw [hrun] at hmade
  exact ⟨tree, succeeds, made, after, hread, hparse, hrun, hnumbered, Option.some.inj hmade⟩

end Crosscheck.Mutation
