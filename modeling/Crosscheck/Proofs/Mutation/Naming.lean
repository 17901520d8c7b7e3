import Crosscheck.Mutation.Naming
import Crosscheck.Proofs.Files.Path
import Mathlib.Data.List.Basic
/-!
# Mutants stand beside their seeds

The mutants of a seed have names of their own in the directory of the seed: one for each number,
none that of the seed. Reading such a name back gives the seed, if its own name has no line feed and
no dot at its end.
-/

namespace Crosscheck.Files.Path

/-- Text without a dot that is put before the suffix of a name belongs to the stem. -/
theorem splitName_insert {name text : String} (hend : name.toList.getLast? ≠ some '.')
    (htext : text ≠ "") (hdot : '.' ∉ text.toList) :
    splitName ((splitName name).1 ++ text ++ (splitName name).2) =
      ((splitName name).1 ++ text, (splitName name).2) := by
  have hchars : text.toList ≠ [] := mt String.toList_eq_nil_iff.mp htext
  rcases splitName_cases name with ⟨front, tail, rfl, hfront, htail, hnodot⟩ | hwhole
  · rw [splitName_of_dot front hnodot, if_pos ⟨hfront, htail⟩]
    have hjoin : String.ofList front ++ text ++ String.ofList ('.' :: tail) =
        String.ofList ((front ++ text.toList) ++ '.' :: tail) := by
      simp [String.ofList_append, String.append_assoc]
    rw [hjoin, splitName_of_dot _ hnodot, if_pos ⟨by simp [hfront], htail⟩]
    simp [String.ofList_append]
  · rw [hwhole, String.append_empty]
    rcases splitName_cases (name ++ text) with ⟨front, tail, hlong, hfront, -, hnodot⟩ | hlong
    · -- The last dot would stand in the name, which has no suffix and does not end there.
      have hcut : name.toList ++ text.toList = front ++ '.' :: tail := by
        rw [← String.toList_append, hlong, String.toList_ofList]
      rcases List.append_eq_append_iff.mp hcut with ⟨_, -, htext'⟩ | ⟨dotted, hname, htail⟩
      · exact absurd (htext' ▸ by simp) hdot
      · rcases dotted with _ | ⟨c, rest⟩
        · rw [List.nil_append] at htail
          exact absurd (htail ▸ List.mem_cons_self) hdot
        · obtain ⟨rfl, rfl⟩ := List.cons.inj htail
          have hrest : rest ≠ [] := by
            rintro rfl
            exact hend (by simp [hname])
          rw [← String.ofList_toList (s := name), hname,
            splitName_of_dot front fun h => hnodot (List.mem_append_left _ h),
            if_pos ⟨hfront, hrest⟩] at hwhole
          simpa using congrArg (fun split => split.2.toList) hwhole
    · exact hlong

/-- Text without a dot that is taken away before the suffix of a name leaves stem and suffix. -/
theorem splitName_remove {name base text suffix : String} (hbase : base ≠ "")
    (hdot : '.' ∉ text.toList) (h : splitName name = (base ++ text, suffix)) :
    splitName (base ++ suffix) = (base, suffix) := by
  have hchars : base.toList ≠ [] := mt String.toList_eq_nil_iff.mp hbase
  rcases splitName_cases name with ⟨front, tail, rfl, hfront, htail, hnodot⟩ | hwhole
  · rw [splitName_of_dot front hnodot, if_pos ⟨hfront, htail⟩] at h
    obtain ⟨-, rfl⟩ := Prod.mk.inj h
    have hjoin : base ++ String.ofList ('.' :: tail) =
        String.ofList (base.toList ++ '.' :: tail) := by
      rw [String.ofList_append, String.ofList_toList]
    rw [hjoin, splitName_of_dot _ hnodot, if_pos ⟨hchars, htail⟩, String.ofList_toList]
  · obtain ⟨rfl, rfl⟩ := Prod.mk.inj (hwhole.symm.trans h)
    rw [String.append_empty]
    rcases splitName_cases base with ⟨front, tail, rfl, hfront, htail, hnodot⟩ | hshort
    · -- The last dot would be the last dot of the longer name, too.
      have hjoin : String.ofList (front ++ '.' :: tail) ++ text =
          String.ofList (front ++ '.' :: (tail ++ text.toList)) := by
        simp [String.ofList_append, String.append_assoc]
      have hnone : '.' ∉ tail ++ text.toList := by simp [hnodot, hdot]
      rw [hjoin, splitName_of_dot _ hnone, if_pos ⟨hfront, by simp [htail]⟩] at hwhole
      simpa using congrArg (fun split => split.2.toList) hwhole
    · exact hshort

end Crosscheck.Files.Path

namespace Crosscheck.Mutation

open Crosscheck.Files Crosscheck.Text

/-! ## Numbers -/

theorem isSome_digitValue? {c : Char} (h : c.isDigit = true) : (digitValue? c).isSome = true := by
  obtain ⟨hlow, hhigh⟩ := Char.isDigit_iff_toNat.mp h
  unfold digitValue?
  rw [Option.isSome_map, Array.find?_isSome]
  refine ⟨(0x30, 0x39), Array.mem_of_getElem? (i := 0) rfl, ?_⟩
  exact Bool.and_eq_true_iff.mpr ⟨decide_eq_true hlow, decide_eq_true hhigh⟩

theorem isDigit_of_mem_toString {n : Nat} {c : Char} (h : c ∈ (toString n).toList) :
    c.isDigit = true :=
  Nat.isDigit_of_mem_toDigits (b := 10) (n := n) (by decide) (by decide) (by simpa using h)

/-! ## The name of a mutant -/

/-- The name of a numbered mutant of a seed. -/
def mutantName (seed : Path) (number : Nat) : String :=
  seed.stem ++ marker ++ toString number ++ seed.suffix

variable {seed : Path} {number : Nat}

theorem mutantPath_eq_child (seed : Path) (number : Nat) :
    mutantPath seed number = seed.absolute.parent.child (mutantName seed.absolute number) := rfl

theorem length_mutantName (seed : Path) (number : Nat) :
    (mutantName seed number).length =
      seed.name.length + marker.length + (toString number).length := by
  rw [← seed.stem_append_suffix]
  simp only [mutantName, String.length_append]
  omega

/-- No mutant has the name of the seed. -/
theorem mutantName_ne_name (seed : Path) (number : Nat) : mutantName seed number ≠ seed.name := by
  intro h
  have hlength := length_mutantName seed number
  rw [h] at hlength
  have hmarker : marker.length = 5 := by decide
  omega

/-- Mutants with other numbers have other names. -/
theorem mutantName_injective (seed : Path) : Function.Injective (mutantName seed) := by
  intro i j h
  have hchars := congrArg String.toList h
  simp only [mutantName, String.toList_append, List.append_assoc] at hchars
  have hdigits := List.append_cancel_right
    (List.append_cancel_left (List.append_cancel_left hchars))
  have hvalue := congrArg (fun digits => Nat.ofDigitChars 10 digits 0) hdigits
  simpa using hvalue

/-- Text before the suffix of a name makes another name, if it is not too short. -/
theorem isName_insert {text : String} (hslash : '/' ∉ seed.name.toList)
    (htext : '/' ∉ text.toList) (hlong : 2 < text.length) :
    isName (seed.stem ++ text ++ seed.suffix) = true := by
  rw [← seed.stem_append_suffix, String.toList_append, List.mem_append, not_or] at hslash
  have hne : ∀ short : String, short.length ≤ 2 → seed.stem ++ text ++ seed.suffix ≠ short := by
    rintro _ hshort rfl
    simp only [String.length_append] at hshort
    omega
  refine isName_iff.mpr ⟨hne "" (by decide), hne "." (by decide), hne ".." (by decide), ?_⟩
  simp only [String.toList_append, List.mem_append, not_or]
  exact ⟨⟨hslash.1, htext⟩, hslash.2⟩

theorem mutantName_eq_insert (seed : Path) (number : Nat) :
    mutantName seed number = seed.stem ++ (marker ++ toString number) ++ seed.suffix := by
  simp only [mutantName, String.append_assoc]

/-- There is no dot and no slash before the suffix of a mutant that was not in the seed. -/
theorem not_mem_marker_append {c : Char} (hmarker : c ∉ marker.toList) (hdigit : c.isDigit = false)
    (number : Nat) : c ∉ (marker ++ toString number).toList := by
  rw [String.toList_append, List.mem_append, not_or]
  refine ⟨hmarker, fun hmem => ?_⟩
  rw [isDigit_of_mem_toString hmem] at hdigit
  exact nomatch hdigit

theorem isName_mutantName_of_not_mem (hslash : '/' ∉ seed.name.toList) (number : Nat) :
    isName (mutantName seed number) = true := by
  rw [mutantName_eq_insert]
  refine isName_insert hslash (not_mem_marker_append (by decide) (by decide) number) ?_
  have hmarker : marker.length = 5 := by decide
  rw [String.length_append]
  omega

theorem isName_mutantName (h : isName seed.name = true) (number : Nat) :
    isName (mutantName seed number) = true :=
  isName_mutantName_of_not_mem (isName_iff.mp h).2.2.2 number

/-- A mutant has the suffix of its seed. -/
theorem suffix_mutantName {front tail : List Char} (hfront : front ≠ []) (htail : tail ≠ [])
    (hdot : '.' ∉ tail) (hname : seed.name.toList = front ++ '.' :: tail) (number : Nat) :
    '.' :: tail <:+ (mutantName seed number).toList := by
  have hsuffix : seed.suffix = String.ofList ('.' :: tail) := by
    have hsplit := Path.splitName_of_dot front hdot
    rw [if_pos ⟨hfront, htail⟩, ← hname, String.ofList_toList] at hsplit
    exact congrArg Prod.snd hsplit
  rw [mutantName, hsuffix, String.toList_append, String.toList_ofList]
  exact List.suffix_append _ _

/-- A mutant stands beside its seed. -/
theorem mutantPath_eq_of_not_mem (habsolute : seed.isAbsolute = true)
    (hslash : '/' ∉ seed.name.toList) (number : Nat) :
    mutantPath seed number = ⟨seed.root, seed.parts.dropLast ++ [mutantName seed number]⟩ := by
  rw [mutantPath_eq_child, Path.absolute_of_isAbsolute habsolute,
    Path.child_of_isName _ (isName_mutantName_of_not_mem hslash number)]
  rfl

theorem mutantPath_eq (habsolute : seed.isAbsolute = true) (h : isName seed.name = true)
    (number : Nat) :
    mutantPath seed number = ⟨seed.root, seed.parts.dropLast ++ [mutantName seed number]⟩ :=
  mutantPath_eq_of_not_mem habsolute (isName_iff.mp h).2.2.2 number

/-! ## Reading the name back -/

/-- A numbered stem is read back as the text before its number, unless that has a line feed. -/
theorem seedStem?_append_number (base : List Char) (number : Nat) :
    seedStem? (base ++ marker.toList ++ (toString number).toList) =
      if base ≠ [] ∧ '\n' ∉ base then some base else none := by
  have hdigits : ∀ c ∈ (toString number).toList.reverse, (digitValue? c).isSome = true :=
    fun c hc => isSome_digitValue? (isDigit_of_mem_toString (List.mem_reverse.mp hc))
  have hsome : (toString number).toList.reverse ≠ [] := by simp
  have hreverse : (base ++ marker.toList ++ (toString number).toList).reverse =
      (toString number).toList.reverse ++ (marker.toList.reverse ++ base.reverse) := by
    simp
  have hhead : ((toString number).toList.reverse ++ (marker.toList.reverse ++ base.reverse)).head?
      ≠ some '\n' := by
    obtain ⟨c, rest, hc⟩ := List.exists_cons_of_ne_nil hsome
    rw [hc] at hdigits ⊢
    intro heq
    have hc' : c = '\n' := by simpa using heq
    exact absurd (hdigits c List.mem_cons_self) (by rw [hc']; decide)
  have htake : ((toString number).toList.reverse ++
      (marker.toList.reverse ++ base.reverse)).takeWhile (fun c => (digitValue? c).isSome) =
        (toString number).toList.reverse := by
    rw [List.takeWhile_append_of_pos hdigits]
    have hmarker : marker.toList.reverse = ['r', 'e', 't', 'i', '_'] := by decide
    have hr : (digitValue? 'r').isSome = false := by decide
    simp [hmarker, hr]
  unfold seedStem?
  simp only [hreverse, beq_eq_false_iff_ne.mpr hhead, Bool.false_eq_true, if_false, htake]
  have hmarker : marker.length = marker.toList.reverse.length := by decide
  simp [hmarker]

/-- What is read as the stem of a mutant is that of its seed, the marker, and text without dots. -/
theorem exists_of_seedStem? {cs base : List Char} (h : seedStem? cs = some base) :
    base ≠ [] ∧ ∃ tail, cs = base ++ (marker.toList ++ tail) ∧ '.' ∉ tail := by
  unfold seedStem? at h
  dsimp only at h
  generalize hreversed :
    (if cs.reverse.head? == some '\n' then cs.reverse.drop 1 else cs.reverse) = reversed at h
  -- The line feed that does not count.
  have hcs : ∃ feed : List Char, cs.reverse = feed ++ reversed ∧ '.' ∉ feed := by
    rw [← hreversed]
    split
    · next hhead =>
      cases hall : cs.reverse with
      | nil => exact ⟨[], rfl, List.not_mem_nil⟩
      | cons c rest =>
        rw [hall] at hhead
        obtain rfl : c = '\n' := by simpa using hhead
        exact ⟨['\n'], rfl, by decide⟩
    · exact ⟨[], rfl, List.not_mem_nil⟩
  obtain ⟨feed, hfeed, hnofeed⟩ := hcs
  generalize hdigits : reversed.takeWhile (fun c => (digitValue? c).isSome) = digits at h
  have hnodigit : '.' ∉ digits := by
    intro hmem
    rw [← hdigits] at hmem
    have hdot : (digitValue? '.').isSome = true := @List.mem_takeWhile_imp _
      (fun c => (digitValue? c).isSome) _ _ hmem
    exact absurd hdot (by decide)
  have hsplit : reversed = digits ++ reversed.drop digits.length := by
    have hprefix : digits <+: reversed := hdigits ▸ List.takeWhile_prefix _
    exact (List.prefix_iff_eq_append.mp hprefix).symm
  generalize reversed.drop digits.length = front at h hsplit
  split at h
  · next hcond =>
    simp only [Bool.and_eq_true, bne_iff_ne, ne_eq, beq_iff_eq] at hcond
    obtain ⟨⟨⟨-, hmarker⟩, hbase⟩, -⟩ := hcond
    obtain rfl := Option.some.inj h
    have hfront : front = marker.toList.reverse ++ front.drop marker.length := by
      rw [← hmarker, List.take_append_drop]
    generalize front.drop marker.length = rest at hbase hfront ⊢
    refine ⟨by simpa using hbase, digits.reverse ++ feed.reverse, ?_, by simp [hnodigit, hnofeed]⟩
    rw [← List.reverse_reverse cs, hfeed, hsplit, hfront]
    simp
  · cases h

theorem prefix_of_seedStem? {cs base : List Char} (h : seedStem? cs = some base) : base <+: cs := by
  obtain ⟨-, tail, rfl, -⟩ := exists_of_seedStem? h
  exact List.prefix_append _ _

/-- The parts that follow the directory in the path of a seed, by the name of its mutant. -/
def seedParts? (name : String) : Option (List String) :=
  (seedStem? (Path.splitName name).1.toList).map fun base =>
    Path.partsOf (base ++ (Path.splitName name).2.toList)

/-- Only the last part of a path tells whether it is that of a mutant, and of what seed. -/
theorem seedOf_concat (root : Root) (parts : List String) {name : String}
    (h : isName name = true) :
    seedOf ⟨root, parts ++ [name]⟩ = (seedParts? name).map fun more => ⟨root, parts ++ more⟩ := by
  have hslash : '/' ∉ (Path.splitName name).1.toList ++ (Path.splitName name).2.toList := by
    rw [← String.toList_append, Path.splitName_append]
    exact (isName_iff.mp h).2.2.2
  have hname : (⟨root, parts ++ [name]⟩ : Path).name = name := by simp [Path.name]
  simp only [seedOf, seedParts?, Path.stem, Path.suffix, hname, Option.map_map]
  cases hstem : seedStem? (Path.splitName name).1.toList with
  | none => rfl
  | some base =>
    have hbase := (prefix_of_seedStem? hstem).subset
    have hlead : (base ++ (Path.splitName name).2.toList).takeWhile (· == '/') = [] := by
      cases htext : base ++ (Path.splitName name).2.toList with
      | nil => rfl
      | cons c rest =>
        have hmem : c ∈ base ++ (Path.splitName name).2.toList := htext ▸ List.mem_cons_self
        have hc : c ≠ '/' := by
          rintro rfl
          rcases List.mem_append.mp hmem with hin | hin
          · exact hslash (List.mem_append_left _ (hbase hin))
          · exact hslash (List.mem_append_right _ hin)
        simp [hc]
    simp [Path.child, Path.ofString, hlead, Path.rootOf, Path.join, Path.isAbsolute, Path.parent]

/-- A name with a suffix is read as that of a mutant by what stands before the suffix. -/
theorem exists_of_seedParts?_of_dot {front tail : List Char} {more : List String}
    (hname : isName (String.ofList (front ++ '.' :: tail)) = true) (hdot : '.' ∉ tail)
    (htail : tail ≠ []) (hbare : front = [] → seedStem? ('.' :: tail) = none)
    (h : seedParts? (String.ofList (front ++ '.' :: tail)) = some more) :
    ∃ base, seedStem? front = some base ∧ more = [String.ofList (base ++ '.' :: tail)] ∧
      isName (String.ofList (base ++ '.' :: tail)) = true := by
  have hslash := (isName_iff.mp hname).2.2.2
  rw [String.toList_ofList, List.mem_append, not_or] at hslash
  unfold seedParts? at h
  rw [Path.splitName_of_dot front hdot] at h
  by_cases hempty : front = []
  · -- The suffix alone is no suffix, and no name of a mutant.
    subst hempty
    simp [hbare rfl] at h
  · simp only [ne_eq, hempty, htail, not_false_eq_true, and_self, if_true,
      String.toList_ofList] at h
    obtain ⟨base, hbase, rfl⟩ := Option.map_eq_some_iff.mp h
    have hlong (short : String) (hshort : short.length < 3) :
        String.ofList (base ++ '.' :: tail) ≠ short := by
      rintro rfl
      have hfirst := List.length_pos_iff.mpr (exists_of_seedStem? hbase).1
      have hlast := List.length_pos_iff.mpr htail
      rw [String.length_ofList, List.length_append, List.length_cons] at hshort
      omega
    have hseed : isName (String.ofList (base ++ '.' :: tail)) = true := by
      refine isName_iff.mpr ⟨hlong "" (by decide), hlong "." (by decide), hlong ".." (by decide), ?_⟩
      rw [String.toList_ofList, List.mem_append, not_or]
      exact ⟨fun hmem => hslash.1 ((prefix_of_seedStem? hbase).subset hmem), hslash.2⟩
    have hparts := congrArg Path.parts (Path.ofString_of_isName hseed)
    rw [Path.ofString, String.toList_ofList] at hparts
    exact ⟨base, hbase, hparts, hseed⟩

/-- The name of a mutant is that of its seed with the marker and more text before the suffix. -/
theorem exists_of_seedParts?_singleton {name seedName : String} (hname : isName name = true)
    (h : seedParts? name = some [seedName]) :
    ∃ tail : String, name =
      (Path.splitName seedName).1 ++ marker ++ tail ++ (Path.splitName seedName).2 := by
  have hslash := (isName_iff.mp hname).2.2.2
  obtain ⟨base, hbase, hparts⟩ := Option.map_eq_some_iff.mp h
  obtain ⟨hempty, tail, hstem, hdot⟩ := exists_of_seedStem? hbase
  generalize hsplit : Path.splitName name = split at *
  obtain ⟨stem, suffix⟩ := split
  dsimp only at *
  have hwhole : stem ++ suffix = name := by
    have happend := Path.splitName_append name
    rwa [hsplit] at happend
  obtain rfl : stem = String.ofList base ++ String.ofList (marker.toList ++ tail) := by
    rw [← String.ofList_append, ← hstem, String.ofList_toList]
  have hshort : '/' ∉ base ++ suffix.toList := by
    rw [← hwhole] at hslash
    simp only [String.toList_append, String.toList_ofList, List.mem_append, not_or] at hslash ⊢
    exact ⟨hslash.1.1, hslash.2⟩
  obtain rfl : String.ofList base ++ suffix = seedName := by
    unfold Path.partsOf at hparts
    rw [Path.splitSlash_of_not_mem hshort, List.filter_singleton, cond_eq_ite] at hparts
    split at hparts
    · simpa [String.ofList_append] using hparts
    · exact nomatch hparts
  have hback := Path.splitName_remove (by simpa using hempty)
    (by simp [hdot, marker]) hsplit
  refine ⟨String.ofList tail, ?_⟩
  rw [hback, ← hwhole, String.ofList_append, String.ofList_toList]
  simp only [String.append_assoc]

/-- The name of a mutant is read back as that of its seed, unless the seed has no stem or one with a
line feed. -/
theorem seedParts?_mutantName_of_end (hend : seed.name.toList.getLast? ≠ some '.') (number : Nat) :
    seedParts? (mutantName seed number) =
      if seed.stem.toList ≠ [] ∧ '\n' ∉ seed.stem.toList then some (Path.partsOf seed.name.toList)
      else none := by
  have htext : marker ++ toString number ≠ "" := by
    intro heq
    exact absurd (congrArg String.length heq) (by simp [marker])
  have hdot : '.' ∉ (marker ++ toString number).toList :=
    not_mem_marker_append (by decide) (by decide) number
  have hsplit : Path.splitName (mutantName seed number) =
      (seed.stem ++ (marker ++ toString number), seed.suffix) := by
    rw [mutantName_eq_insert]
    exact Path.splitName_insert hend htext hdot
  have hname : seed.stem.toList ++ seed.suffix.toList = seed.name.toList := by
    rw [← String.toList_append, seed.stem_append_suffix]
  rw [seedParts?, hsplit, String.toList_append, String.toList_append, ← List.append_assoc,
    seedStem?_append_number]
  split
  · rw [Option.map_some, hname]
  · rfl

theorem seedParts?_mutantName_eq (h : isName seed.name = true)
    (hend : seed.name.toList.getLast? ≠ some '.') (number : Nat) :
    seedParts? (mutantName seed number) =
      if '\n' ∉ seed.stem.toList then some [seed.name] else none := by
  have hstem : seed.stem.toList ≠ [] :=
    mt String.toList_eq_nil_iff.mp (Path.splitName_fst_ne_empty (isName_iff.mp h).1)
  have hparts : Path.partsOf seed.name.toList = [seed.name] :=
    congrArg Path.parts (Path.ofString_of_isName h)
  simp only [seedParts?_mutantName_of_end hend, hstem, hparts, ne_eq, not_false_eq_true, true_and]

theorem seedParts?_mutantName (h : isName seed.name = true)
    (hend : seed.name.toList.getLast? ≠ some '.') (hline : '\n' ∉ seed.name.toList) (number : Nat) :
    seedParts? (mutantName seed number) = some [seed.name] := by
  rw [seedParts?_mutantName_eq h hend, if_pos]
  rw [← seed.stem_append_suffix, String.toList_append] at hline
  exact fun hmem => hline (List.mem_append_left _ hmem)

/-- The seed of a mutant is the one it was made from. -/
theorem seedOf_mutantPath (habsolute : seed.isAbsolute = true) (h : isName seed.name = true)
    (hend : seed.name.toList.getLast? ≠ some '.') (hline : '\n' ∉ seed.name.toList) (number : Nat) :
    seedOf (mutantPath seed number) = some seed := by
  rw [mutantPath_eq habsolute h, seedOf_concat _ _ (isName_mutantName h number),
    seedParts?_mutantName h hend hline, Option.map_some,
    Path.dropLast_concat_name (isName_iff.mp h).1]

/-- If the path of a mutant is read back at all, then as that of the seed it was made from. -/
theorem eq_of_seedOf_mutantPath (habsolute : seed.isAbsolute = true) (h : isName seed.name = true)
    (hend : seed.name.toList.getLast? ≠ some '.') {number : Nat} {other : Path}
    (hof : seedOf (mutantPath seed number) = some other) : other = seed := by
  rw [mutantPath_eq habsolute h, seedOf_concat _ _ (isName_mutantName h number),
    seedParts?_mutantName_eq h hend] at hof
  split at hof
  · rw [Option.map_some, Path.dropLast_concat_name (isName_iff.mp h).1] at hof
    exact (Option.some.inj hof).symm
  · exact nomatch hof

end Crosscheck.Mutation
