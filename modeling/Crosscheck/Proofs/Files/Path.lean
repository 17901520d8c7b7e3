import Crosscheck.Files.FileSystem
import Mathlib.Data.List.TakeWhile
/-!
# Paths and names

A name that can stand in a directory is one part of a path and nothing else, so going on along it
adds that part. A name is its stem followed by its suffix.
-/

namespace Crosscheck.Files

theorem isName_iff {name : String} :
    isName name = true ↔ name ≠ "" ∧ name ≠ "." ∧ name ≠ ".." ∧ '/' ∉ name.toList := by
  simp [isName, and_assoc]

namespace Path

theorem splitSlash_of_not_mem {cs : List Char} (h : '/' ∉ cs) : splitSlash cs = [cs] := by
  induction cs with
  | nil => rfl
  | cons c rest ih =>
    obtain ⟨hc, hrest⟩ := not_or.mp (mt List.mem_cons.mpr h)
    simp only [splitSlash, ih hrest, beq_iff_eq, if_neg (Ne.symm hc)]

/-- A name is read as the path of that one part. -/
theorem ofString_of_isName {name : String} (h : isName name = true) :
    ofString name = ⟨.here, [name]⟩ := by
  obtain ⟨hempty, hdot, -, hslash⟩ := isName_iff.mp h
  have hcs : name.toList ≠ [] := mt String.toList_eq_nil_iff.mp hempty
  have hone : name.toList ≠ ['.'] := fun heq => hdot (String.toList_injective heq)
  have hlead : name.toList.takeWhile (· == '/') = [] := by
    cases hchars : name.toList with
    | nil => rfl
    | cons c rest =>
      have hc : c ≠ '/' := fun heq => hslash (hchars ▸ heq ▸ List.mem_cons_self)
      simp [hc]
  simp [ofString, partsOf, splitSlash_of_not_mem hslash, hcs, hone, hlead, rootOf]

/-- Going on along a name adds it to the parts. -/
theorem child_of_isName (path : Path) {name : String} (h : isName name = true) :
    path.child name = ⟨path.root, path.parts ++ [name]⟩ := by
  rw [child, ofString_of_isName h]
  rfl

theorem parent_child (path : Path) {name : String} (h : isName name = true) :
    (path.child name).parent = path := by
  rw [child_of_isName path h]
  simp [parent]

/-- A path with a name is the path to its directory and the name. -/
theorem dropLast_concat_name {path : Path} (h : path.name ≠ "") :
    path.parts.dropLast ++ [path.name] = path.parts := by
  have hne : path.parts ≠ [] := by
    intro hnil
    exact h (by simp [name, hnil])
  have hlast : path.parts.getLast hne = path.name := by
    simp [name, List.getLast?_eq_some_getLast hne]
  rw [← hlast, List.dropLast_concat_getLast hne]

/-- What stands beside a path by the name of the path is the path. -/
theorem sibling_name {path : Path} (h : path.name ≠ "") : path.sibling path.name = path := by
  unfold sibling
  rw [dropLast_concat_name h]

/-! ## Paths in texts -/

theorem splitSlash_ne_nil (cs : List Char) : splitSlash cs ≠ [] := by
  cases cs with
  | nil => exact List.cons_ne_nil _ _
  | cons c rest =>
    unfold splitSlash
    split
    · exact List.cons_ne_nil _ _
    · split
      · exact List.cons_ne_nil _ _
      · exact List.cons_ne_nil _ _

/-- The pieces between slashes hold none. -/
theorem not_mem_of_mem_splitSlash {cs piece : List Char} (h : piece ∈ splitSlash cs) :
    '/' ∉ piece := by
  induction cs generalizing piece with
  | nil =>
    obtain rfl := List.mem_singleton.mp h
    exact List.not_mem_nil
  | cons c rest ih =>
    unfold splitSlash at h
    split at h
    · next hnil => exact absurd hnil (splitSlash_ne_nil rest)
    · next first pieces hpieces =>
      rw [hpieces] at ih
      split at h
      · rcases List.mem_cons.mp h with rfl | hmem
        · exact List.not_mem_nil
        · exact ih hmem
      · next hc =>
        rcases List.mem_cons.mp h with rfl | hmem
        · refine fun hslash => (List.mem_cons.mp hslash).elim (fun heq => hc ?_)
            (ih List.mem_cons_self)
          exact beq_iff_eq.mpr heq.symm
        · exact ih (List.mem_cons_of_mem _ hmem)

/-! ## Absolute paths -/

/-- A path that counts from here goes on from the working directory. -/
theorem absolute_of_not {path : Path} (h : ¬ path.isAbsolute = true) :
    path.absolute = ⟨.slash, workingDirectory.parts ++ path.parts⟩ := by
  unfold absolute join
  rw [if_neg h, if_neg h]
  rfl

@[simp] theorem isAbsolute_absolute (path : Path) : path.absolute.isAbsolute = true := by
  by_cases h : path.isAbsolute = true
  · unfold absolute
    rwa [if_pos h]
  · rw [absolute_of_not h]
    rfl

theorem absolute_of_isAbsolute {path : Path} (h : path.isAbsolute = true) : path.absolute = path :=
  if_pos h

theorem isAbsolute_child {path : Path} (h : path.isAbsolute = true) (text : String) :
    (path.child text).isAbsolute = true := by
  unfold child join
  split
  · assumption
  · exact h

@[simp] theorem absolute_absolute (path : Path) : path.absolute.absolute = path.absolute :=
  absolute_of_isAbsolute path.isAbsolute_absolute

/-- A path has the name of the path that it leads to from the root. -/
theorem name_absolute {path : Path} (h : path.name ≠ "") : path.absolute.name = path.name := by
  by_cases habsolute : path.isAbsolute = true
  · rw [absolute_of_isAbsolute habsolute]
  · have hsome : path.parts ≠ [] := by
      intro hnil
      exact h (by simp [name, hnil])
    have hlast := List.getLast?_eq_some_getLast hsome
    simp [absolute_of_not habsolute, name, List.getLast?_append, hlast]

/-! ## Stem and suffix -/

/-- The text behind the last dot, and the text before it, of a text with a dot. -/
theorem takeWhile_reverse_of_dot {front tail : List Char} (htail : '.' ∉ tail) :
    (front ++ '.' :: tail).reverse.takeWhile (· != '.') = tail.reverse := by
  rw [List.reverse_append, List.reverse_cons, List.append_assoc,
    List.takeWhile_append_of_pos fun c hc => ?_]
  · simp
  · exact bne_iff_ne.mpr fun h => htail (List.mem_reverse.mp (h ▸ hc))

/-- What stands behind the last dot of a name is its suffix, unless it is empty or the dot leads
the name. -/
theorem splitName_of_dot (front : List Char) {tail : List Char} (hdot : '.' ∉ tail) :
    splitName (String.ofList (front ++ '.' :: tail)) =
      if front ≠ [] ∧ tail ≠ [] then (String.ofList front, String.ofList ('.' :: tail))
      else (String.ofList (front ++ '.' :: tail), "") := by
  have hrest : (front ++ '.' :: tail).reverse.drop (tail.reverse.length + 1) = front.reverse := by
    simp [List.drop_append]
  unfold splitName
  simp only [String.toList_ofList, takeWhile_reverse_of_dot hdot, hrest]
  by_cases hfront : front = [] <;> by_cases htail : tail = [] <;> simp [hfront, htail]

/-- A name has a suffix behind a dot, or none. -/
theorem splitName_cases (name : String) :
    (∃ front tail, name = String.ofList (front ++ '.' :: tail) ∧ front ≠ [] ∧ tail ≠ [] ∧
      '.' ∉ tail) ∨ splitName name = (name, "") := by
  by_cases hmem : '.' ∈ name.toList
  · obtain ⟨last, rest, hreverse, hdot⟩ :=
      List.eq_append_cons_of_mem (List.mem_reverse.mpr hmem)
    have hname : name = String.ofList (rest.reverse ++ '.' :: last.reverse) := by
      rw [← String.ofList_toList (s := name), ← List.reverse_reverse name.toList, hreverse]
      simp
    have htail : '.' ∉ last.reverse := mt List.mem_reverse.mp hdot
    by_cases hends : rest.reverse ≠ [] ∧ last.reverse ≠ []
    · exact .inl ⟨rest.reverse, last.reverse, hname, hends.1, hends.2, htail⟩
    · exact .inr (by rw [hname, splitName_of_dot _ htail, if_neg hends])
  · right
    have hall : name.toList.reverse.takeWhile (· != '.') = name.toList.reverse :=
      List.takeWhile_eq_self_iff.mpr fun c hc =>
        bne_iff_ne.mpr fun h => hmem (List.mem_reverse.mp (h ▸ hc))
    unfold splitName
    simp [hall]

/-- A name is its stem followed by its suffix. -/
theorem splitName_append (name : String) : (splitName name).1 ++ (splitName name).2 = name := by
  rcases splitName_cases name with ⟨front, tail, rfl, hfront, htail, hdot⟩ | hwhole
  · rw [splitName_of_dot front hdot, if_pos ⟨hfront, htail⟩, ← String.ofList_append]
  · rw [hwhole]
    exact String.append_empty

theorem splitName_fst_ne_empty {name : String} (h : name ≠ "") : (splitName name).1 ≠ "" := by
  rcases splitName_cases name with ⟨front, tail, rfl, hfront, htail, hdot⟩ | hwhole
  · rw [splitName_of_dot front hdot, if_pos ⟨hfront, htail⟩]
    exact fun heq => hfront (by simpa using congrArg String.toList heq)
  · rwa [hwhole]

theorem stem_append_suffix (path : Path) : path.stem ++ path.suffix = path.name :=
  splitName_append path.name

end Path

end Crosscheck.Files
