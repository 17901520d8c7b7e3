import Crosscheck.Mutation.Cleanup
import Crosscheck.Proofs.Files.Rendering
import Crosscheck.Proofs.Mutation.Naming
import Crosscheck.Proofs.Number.Numeral
/-!
# Which seeds are read back

A mutant is named by putting the marker and its number before the suffix of its seed. The seed is
read back from that name if its own name does not end with a dot and its stem has no line feed, and
only then. The mutants of sources have one path only if their seeds lead to one path from the root
and their numbers are the same: the marker ends with a letter that no number has in it.
-/

namespace Crosscheck.Mutation

open Crosscheck.Files

variable {seed other : Path}

/-! ## Reading the seed back -/

/-- A name that ends with a dot is not read back: the marker is in the suffix of its mutants. -/
theorem seedParts?_mutantName_of_dot (hslash : '/' ∉ seed.name.toList) (hdot : seed.name ≠ ".")
    (hend : seed.name.toList.getLast? = some '.') (number : Nat) :
    seedParts? (mutantName seed number) ≠ some [seed.name] := by
  intro h
  obtain ⟨front, hchars⟩ := List.getLast?_eq_some_iff.mp hend
  have hname : seed.name = String.ofList (front ++ '.' :: []) := by
    rw [← hchars, String.ofList_toList]
  have hfront : front ≠ [] := by
    rintro rfl
    exact hdot hname
  have hsplit : Path.splitName seed.name = (seed.name, "") := by
    rw [hname, Path.splitName_of_dot front List.not_mem_nil, if_neg fun hboth => hboth.2 rfl]
  have hmutant : mutantName seed number =
      String.ofList (front ++ '.' :: (marker ++ toString number).toList) := by
    rw [mutantName_eq_insert, Path.stem, Path.suffix, hsplit, String.append_empty]
    refine String.toList_injective ?_
    rw [String.toList_append, hchars, String.toList_ofList, List.append_assoc,
      List.singleton_append]
  have hmark : '.' ∉ (marker ++ toString number).toList :=
    not_mem_marker_append (by decide) (by decide) number
  have hsome : (marker ++ toString number).toList ≠ [] := by simp [marker]
  have hisName := isName_mutantName_of_not_mem hslash number
  rw [hmutant] at h hisName
  obtain ⟨base, -, hread, -⟩ :=
    exists_of_seedParts?_of_dot hisName hmark hsome (fun hnil => absurd hnil hfront) h
  have hsame : seed.name = String.ofList (base ++ '.' :: (marker ++ toString number).toList) :=
    (List.cons.inj hread).1
  -- The last character would stand behind the marker.
  rw [hsame, String.toList_ofList, List.getLast?_append_of_ne_nil _ (List.cons_ne_nil _ _),
    List.getLast?_cons_of_ne_nil hsome] at hend
  exact hmark (List.mem_of_getLast? hend)

/-- A seed is read back from its mutants if it has a name that does not end with a dot and whose
stem has no line feed, and only then. -/
theorem seedOf_mutantPath_iff (hclean : seed.Clean) (habsolute : seed.isAbsolute = true)
    (number : Nat) : seedOf (mutantPath seed number) = some seed ↔
      seed.name ≠ "" ∧ seed.name.toList.getLast? ≠ some '.' ∧ '\n' ∉ seed.stem.toList := by
  have hslash := hclean.not_mem_name
  rw [mutantPath_eq_of_not_mem habsolute hslash,
    seedOf_concat _ _ (isName_mutantName_of_not_mem hslash number)]
  by_cases hname : seed.name = ""
  · have hstem : seed.stem.toList = [] := by
      rw [Path.stem, hname]
      rfl
    rw [seedParts?_mutantName_of_end (by simp [hname]), hstem]
    simp [hname]
  · have hsplit := Path.dropLast_concat_name hname
    have hwhole (more : List String) :
        (⟨seed.root, seed.parts.dropLast ++ more⟩ : Path) = seed ↔ more = [seed.name] := by
      constructor
      · intro h
        exact List.append_cancel_left ((congrArg Path.parts h).trans hsplit.symm)
      · rintro rfl
        rw [hsplit]
    have hpart : IsPart seed.name := hclean _ (by rw [← hsplit]; simp)
    simp only [Option.map_eq_some_iff, hwhole, exists_eq_right]
    by_cases hend : seed.name.toList.getLast? = some '.'
    · have hnot := seedParts?_mutantName_of_dot hslash hpart.2.1 hend number
      simp only [hnot, hend, ne_eq, not_true_eq_false, false_and, and_false]
    · have hup : seed.name ≠ ".." := by
        intro heq
        exact hend (by rw [heq]; decide)
      have hisName : isName seed.name = true := isName_iff.mpr ⟨hname, hpart.2.1, hup, hslash⟩
      rw [seedParts?_mutantName_eq hisName hend]
      simp [hname, hend]

/-! ## Telling mutants apart -/

/-- Where a character stands for the last time is told by the text. -/
theorem eq_of_append_cons {a b s t : List Char} {c : Char} (hs : c ∉ s) (ht : c ∉ t)
    (h : a ++ c :: s = b ++ c :: t) : a = b ∧ s = t := by
  rcases List.append_eq_append_iff.mp h with ⟨middle, rfl, hrest⟩ | ⟨middle, rfl, hrest⟩
  · cases middle with
    | nil => simpa using hrest
    | cons d more =>
      obtain ⟨-, rfl⟩ := List.cons.inj hrest
      exact absurd (List.mem_append_right more List.mem_cons_self) hs
  · cases middle with
    | nil => simpa [eq_comm] using hrest
    | cons d more =>
      obtain ⟨-, rfl⟩ := List.cons.inj hrest
      exact absurd (List.mem_append_right more List.mem_cons_self) ht

theorem not_mem_toString {c : Char} (hminus : c ≠ '-') (hdigit : c.isDigit = false) (n : Int) :
    c ∉ (toString n).toList := by
  intro hmem
  rcases eq_minus_or_isDigit hmem with rfl | htrue
  · exact hminus rfl
  · exact nomatch hdigit.symm.trans htrue

/-- Text with the marker and a number behind it tells both. -/
theorem numbered_injective {stem stem' : String} {j k : Int}
    (h : stem ++ (marker ++ toString j) = stem' ++ (marker ++ toString k)) :
    stem = stem' ∧ j = k := by
  have hnone (n : Int) : 'r' ∉ (toString n).toList := not_mem_toString (by decide) (by decide) n
  have hmarker : marker.toList = ['_', 'i', 't', 'e'] ++ ['r'] := by decide
  have hsplit (text : String) (n : Int) : (text ++ (marker ++ toString n)).toList =
      (text.toList ++ ['_', 'i', 't', 'e']) ++ 'r' :: (toString n).toList := by
    rw [String.toList_append, String.toList_append, hmarker, List.append_assoc, List.append_assoc,
      List.singleton_append]
  have hchars := congrArg String.toList h
  rw [hsplit, hsplit] at hchars
  obtain ⟨hstem, hnumber⟩ := eq_of_append_cons (hnone j) (hnone k) hchars
  exact ⟨String.toList_injective (List.append_cancel_right hstem),
    toString_injective (String.toList_injective hnumber)⟩

/-- The suffix of a source is that of all sources, unless it is the whole name. -/
theorem suffix_of_source (h : sourceSuffix.toList <:+ seed.name.toList) :
    seed.suffix = "" ∨ seed.suffix = sourceSuffix := by
  obtain ⟨front, hfront⟩ := h
  have hname : seed.name = String.ofList (front ++ '.' :: ['j', 'a', 'v', 'a']) := by
    rw [← String.ofList_toList (s := seed.name), ← hfront]
    rfl
  rw [Path.suffix, hname, Path.splitName_of_dot front (by decide)]
  split
  · exact .inr rfl
  · exact .inl rfl

/-- A name that ends with a number is not one that ends with the suffix of sources. -/
theorem numbered_ne_source (text text' : String) (n : Int) :
    text ++ toString n ≠ text' ++ sourceSuffix := by
  intro h
  have hlast : (text ++ toString n).toList.getLast? = some 'a' := by
    rw [h, String.toList_append]
    simp [sourceSuffix]
  have hsome : (toString n).toList ≠ [] := by
    rw [toList_toString]
    split <;> simp [Nat.toDigits_ne_nil]
  rw [String.toList_append, List.getLast?_append_of_ne_nil _ hsome] at hlast
  exact not_mem_toString (by decide) (by decide) n (List.mem_of_getLast? hlast)

/-- The name of a mutant of a source tells the name of the source and the number. -/
theorem insert_injective (hseed : sourceSuffix.toList <:+ seed.name.toList)
    (hother : sourceSuffix.toList <:+ other.name.toList) {j k : Int}
    (h : seed.stem ++ (marker ++ toString j) ++ seed.suffix =
      other.stem ++ (marker ++ toString k) ++ other.suffix) : seed.name = other.name ∧ j = k := by
  have happly {suffix : String} (hsuffix : seed.suffix = suffix)
      (hsuffix' : other.suffix = suffix) : seed.name = other.name ∧ j = k := by
    rw [hsuffix, hsuffix'] at h
    obtain ⟨hstem, hnumber⟩ := numbered_injective (String.append_left_inj suffix |>.mp h)
    rw [← seed.stem_append_suffix, ← other.stem_append_suffix, hstem, hsuffix, hsuffix']
    exact ⟨rfl, hnumber⟩
  rcases suffix_of_source hseed with hbare | hfull <;>
    rcases suffix_of_source hother with hbare' | hfull'
  · exact happly hbare hbare'
  · rw [hbare, hfull', String.append_empty, ← String.append_assoc] at h
    exact absurd h (numbered_ne_source _ _ j)
  · rw [hfull, hbare', String.append_empty, ← @String.append_assoc other.stem] at h
    exact absurd h.symm (numbered_ne_source _ _ k)
  · exact happly hfull hfull'

/-- A mutant of any number stands beside its seed. -/
theorem mutantPath_eq_insert (hclean : seed.Clean) (number : Int) :
    mutantPath seed number = ⟨seed.absolute.root, seed.absolute.parts.dropLast ++
      [seed.absolute.stem ++ (marker ++ toString number) ++ seed.absolute.suffix]⟩ := by
  have hslash : '/' ∉ (marker ++ toString number).toList := by
    rw [String.toList_append, List.mem_append, not_or]
    exact ⟨by decide, not_mem_toString (by decide) (by decide) number⟩
  have hlong : 2 < (marker ++ toString number).length := by
    have hmarker : marker.length = 5 := by decide
    rw [String.length_append]
    omega
  have hname := isName_insert hclean.absolute.not_mem_name hslash hlong
  unfold mutantPath
  dsimp only
  rw [@String.append_assoc seed.absolute.stem, Path.child_of_isName _ hname]
  rfl

/-- The mutants of sources have one path only if the sources lead to one path from the root and the
numbers are the same. -/
theorem absolute_eq_of_mutantPath_eq (hseed : seed.Clean) (hother : other.Clean)
    (hsource : sourceSuffix.toList <:+ seed.name.toList)
    (hsource' : sourceSuffix.toList <:+ other.name.toList) {j k : Int}
    (h : mutantPath seed j = mutantPath other k) : seed.absolute = other.absolute ∧ j = k := by
  have hname {path : Path} (hends : sourceSuffix.toList <:+ path.name.toList) : path.name ≠ "" := by
    intro hempty
    rw [hempty] at hends
    exact absurd (List.suffix_nil.mp hends) (by decide)
  rw [← Path.name_absolute (hname hsource)] at hsource
  rw [← Path.name_absolute (hname hsource')] at hsource'
  rw [mutantPath_eq_insert hseed, mutantPath_eq_insert hother] at h
  have hroot := congrArg Path.root h
  have hparts := congrArg Path.parts h
  dsimp only at hroot hparts
  obtain ⟨hdirectory, hlast⟩ := List.append_inj' hparts (by simp only [List.length_singleton])
  obtain ⟨hsame, hnumber⟩ := insert_injective hsource hsource' (List.cons.inj hlast).1
  refine ⟨?_, hnumber⟩
  have hwhole := Path.dropLast_concat_name (hname hsource)
  rw [hdirectory, hsame, Path.dropLast_concat_name (hname hsource')] at hwhole
  calc seed.absolute = ⟨seed.absolute.root, seed.absolute.parts⟩ := rfl
    _ = ⟨other.absolute.root, other.absolute.parts⟩ := by rw [hroot, hwhole]

/-- A path from the root is read back from its mutants exactly if it has a name that does not end
with a dot and whose stem has no line feed; and the mutants of two sources have one path only if the
sources lead to one path from the root, are one path if both or none of them count from the root,
and the numbers are the same. -/
theorem naming_round_trip :
    (∀ seed : Path, seed.Clean → seed.isAbsolute = true → ∀ number : Nat,
      (seedOf (mutantPath seed number) = some seed ↔
        seed.name ≠ "" ∧ seed.name.toList.getLast? ≠ some '.' ∧ '\n' ∉ seed.stem.toList)) ∧
    (∀ seed other : Path, seed.Clean → other.Clean →
      sourceSuffix.toList <:+ seed.name.toList → sourceSuffix.toList <:+ other.name.toList →
      ∀ j k : Int, mutantPath seed j = mutantPath other k →
        seed.absolute = other.absolute ∧ (seed.isAbsolute = other.isAbsolute → seed = other) ∧
          j = k) := by
  refine ⟨fun seed => seedOf_mutantPath_iff, ?_⟩
  intro seed other hseed hother hsource hsource' j k h
  obtain ⟨habsolute, hnumber⟩ := absolute_eq_of_mutantPath_eq hseed hother hsource hsource' h
  refine ⟨habsolute, fun hboth => ?_, hnumber⟩
  cases hrelative : seed.isAbsolute with
  | true =>
    rw [← Path.absolute_of_isAbsolute hrelative, habsolute,
      Path.absolute_of_isAbsolute (hboth ▸ hrelative)]
  | false =>
    have hrelative' : other.isAbsolute = false := hboth ▸ hrelative
    have hroot : seed.root = .here := by simpa [Path.isAbsolute] using hrelative
    have hroot' : other.root = .here := by simpa [Path.isAbsolute] using hrelative'
    exact Path.eq_of_absolute_eq (hroot.trans hroot'.symm) habsolute

/-- A seed whose own name is that of a mutant is read back, and its mutants are told apart. -/
theorem naming_round_trip_numbered :
    let seed := Path.ofString "/tmp/w/A_iter2.java"
    seedOf (mutantPath seed 7) = some seed ∧
      ∀ k, mutantPath seed 7 = mutantPath seed k → k = 7 := by
  intro seed
  have hclean : seed.Clean := Path.clean_ofString _
  have hsource : sourceSuffix.toList <:+ seed.name.toList := by decide
  refine ⟨(naming_round_trip.1 seed hclean rfl 7).mpr (by decide +kernel), ?_⟩
  intro k h
  exact (naming_round_trip.2 seed seed hclean hclean hsource hsource 7 k h).2.2.symm

/-- A path that counts from here has the mutants of the path that it leads to. -/
theorem mutantPath_relative :
    let relative := Path.ofString "A.java"
    let absolute := Path.ofString "/tmp/w/A.java"
    sourceSuffix.toList <:+ relative.name.toList ∧ sourceSuffix.toList <:+ absolute.name.toList ∧
      mutantPath relative 1 = mutantPath absolute 1 ∧ relative ≠ absolute := by
  decide +kernel

end Crosscheck.Mutation
