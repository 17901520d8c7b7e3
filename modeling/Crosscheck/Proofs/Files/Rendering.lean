import Crosscheck.Proofs.Files.Access
/-!
# Texts of paths

A path whose parts are those that a text can name is read back from its text (`ofString_render`), so
two such paths from the root with one text are one path. All paths that are read from texts are of
this kind, and so is every path that leads on along names from one of them.
-/

namespace Crosscheck.Files

/-- Whether a text is read as one part of a path. Two dots are. -/
def IsPart (part : String) : Prop := part ≠ "" ∧ part ≠ "." ∧ '/' ∉ part.toList

theorem isPart_of_isName {name : String} (h : isName name = true) : IsPart name :=
  have hname := isName_iff.mp h
  ⟨hname.1, hname.2.1, hname.2.2.2⟩

namespace Path

/-! ## Pieces -/

/-- A piece ends at the first slash. -/
theorem splitSlash_append {piece : List Char} (h : '/' ∉ piece) (rest : List Char) :
    splitSlash (piece ++ '/' :: rest) = piece :: splitSlash rest := by
  induction piece with
  | nil =>
    rw [List.nil_append, splitSlash]
    split
    · next hnil => exact absurd hnil (splitSlash_ne_nil rest)
    · next first pieces hpieces => simp [hpieces]
  | cons c piece ih =>
    obtain ⟨hc, hpiece⟩ := not_or.mp (mt List.mem_cons.mpr h)
    rw [List.cons_append, splitSlash, ih hpiece]
    simp [Ne.symm hc]

/-- A slash in front starts no part. -/
theorem partsOf_slash (cs : List Char) : partsOf ('/' :: cs) = partsOf cs := by
  have hsplit := splitSlash_append (List.not_mem_nil (a := '/')) cs
  rw [List.nil_append] at hsplit
  simp [partsOf, hsplit]

section Parts

variable {part : String} (h : IsPart part)

include h in
theorem isPiece_of_isPart : (part.toList != [] && part.toList != ['.']) = true := by
  have hempty : part.toList ≠ [] := mt String.toList_eq_nil_iff.mp h.1
  have hdot : part.toList ≠ ['.'] := fun heq => h.2.1 (String.toList_injective heq)
  simp [hempty, hdot]

include h in
/-- A text begins with the part up to its first slash. -/
theorem partsOf_append (rest : List Char) :
    partsOf (part.toList ++ '/' :: rest) = part :: partsOf rest := by
  have hpiece := isPiece_of_isPart h
  simp [partsOf, splitSlash_append h.2.2, hpiece]

include h in
theorem partsOf_part : partsOf part.toList = [part] := by
  have hpiece := isPiece_of_isPart h
  simp [partsOf, splitSlash_of_not_mem h.2.2, hpiece]

include h in
/-- A part begins with something else than a slash. -/
theorem takeWhile_part (rest : List Char) :
    (part.toList ++ rest).takeWhile (· == '/') = [] := by
  cases hchars : part.toList with
  | nil => exact absurd (String.toList_eq_nil_iff.mp hchars) h.1
  | cons c more =>
    have hc : c ≠ '/' := fun heq => h.2.2 (hchars ▸ heq ▸ List.mem_cons_self)
    simp [hc]

end Parts

/-- Parts with slashes between them are read as these parts. -/
theorem partsOf_intercalate {parts : List String} (h : ∀ part ∈ parts, IsPart part) :
    partsOf ("/".intercalate parts).toList = parts := by
  induction parts with
  | nil => rfl
  | cons part rest ih =>
    obtain ⟨hpart, hrest⟩ := List.forall_mem_cons.mp h
    cases rest with
    | nil => rw [String.intercalate_singleton, partsOf_part hpart]
    | cons next more =>
      have htext : ("/".intercalate (part :: next :: more)).toList =
          part.toList ++ '/' :: ("/".intercalate (next :: more)).toList := by
        rw [String.intercalate_cons_cons, String.toList_append, String.toList_append,
          List.append_assoc]
        rfl
      rw [htext, partsOf_append hpart, ih hrest]

/-- Parts with slashes between them do not begin with a slash. -/
theorem takeWhile_intercalate {parts : List String} (h : ∀ part ∈ parts, IsPart part) :
    ("/".intercalate parts).toList.takeWhile (· == '/') = [] := by
  cases parts with
  | nil => rfl
  | cons part rest =>
    have hpart := (List.forall_mem_cons.mp h).1
    cases rest with
    | nil =>
      rw [String.intercalate_singleton, ← List.append_nil part.toList]
      exact takeWhile_part hpart []
    | cons next more =>
      rw [String.intercalate_cons_cons, String.toList_append, String.toList_append,
        List.append_assoc]
      exact takeWhile_part hpart _

/-- Parts with slashes between them are read as the path of these parts that counts from here. -/
theorem ofString_intercalate {parts : List String} (h : ∀ part ∈ parts, IsPart part) :
    ofString ("/".intercalate parts) = ⟨.here, parts⟩ := by
  unfold ofString
  rw [partsOf_intercalate h, takeWhile_intercalate h]
  rfl

/-! ## Clean paths -/

/-- A path whose parts are such as texts are read as. -/
def Clean (path : Path) : Prop := ∀ part ∈ path.parts, IsPart part

/-- A path that is read from a text is clean. -/
theorem clean_ofString (text : String) : (ofString text).Clean := by
  intro part hpart
  obtain ⟨piece, hpiece, rfl⟩ := List.mem_map.mp hpart
  obtain ⟨hsplit, hkept⟩ := List.mem_filter.mp hpiece
  simp only [Bool.and_eq_true, bne_iff_ne, ne_eq] at hkept
  refine ⟨fun heq => hkept.1 ?_, fun heq => hkept.2 ?_, ?_⟩
  · simpa using congrArg String.toList heq
  · simpa using congrArg String.toList heq
  · rw [String.toList_ofList]
    exact not_mem_of_mem_splitSlash hsplit

/-- There is no slash in the name of a clean path. -/
theorem Clean.not_mem_name {path : Path} (h : path.Clean) : '/' ∉ path.name.toList := by
  unfold name
  cases hlast : path.parts.getLast? with
  | none => exact List.not_mem_nil
  | some last => exact (h last (List.mem_of_getLast? hlast)).2.2

theorem Clean.absolute {path : Path} (h : path.Clean) : path.absolute.Clean := by
  by_cases habsolute : path.isAbsolute = true
  · rwa [absolute_of_isAbsolute habsolute]
  · rw [absolute_of_not habsolute]
    exact List.forall_mem_append.mpr ⟨by simp [IsPart, workingDirectory], h⟩

/-- A text leads on from a clean path to a clean path. -/
theorem Clean.child {path : Path} (h : path.Clean) (text : String) : (path.child text).Clean := by
  unfold Path.child join
  split
  · exact clean_ofString text
  · exact List.forall_mem_append.mpr ⟨h, clean_ofString text⟩

/-- Paths that start alike and lead to one path from the root are one path. -/
theorem eq_of_absolute_eq {path other : Path} (hroot : path.root = other.root)
    (h : path.absolute = other.absolute) : path = other := by
  obtain ⟨root, parts⟩ := path
  obtain ⟨otherRoot, others⟩ := other
  dsimp only at hroot
  subst hroot
  cases root with
  | here =>
    have hparts : parts = others := List.append_cancel_left (congrArg Path.parts h)
    rw [hparts]
  | slash | doubleSlash => exact h

/-- Names lead on from a clean path to clean paths. -/
theorem Clean.append {path : Path} (h : path.Clean) {names : List String}
    (hnames : ∀ name ∈ names, isName name = true) :
    Clean ⟨path.root, path.parts ++ names⟩ :=
  List.forall_mem_append.mpr ⟨h, fun name hname => isPart_of_isName (hnames name hname)⟩

/-- A clean path from the root is read back from its text. -/
theorem ofString_render {path : Path} (h : path.Clean) (habsolute : path.isAbsolute = true) :
    ofString path.render = path := by
  obtain ⟨root, parts⟩ := path
  have hparts := partsOf_intercalate h
  have hlead := takeWhile_intercalate h
  unfold ofString
  cases root with
  | here => exact absurd habsolute Bool.false_ne_true
  | slash =>
    have htext : (render ⟨.slash, parts⟩).toList = '/' :: ("/".intercalate parts).toList := by
      simp [render, rootText]
    rw [htext, partsOf_slash, hparts, List.takeWhile_cons_of_pos rfl, hlead]
    rfl
  | doubleSlash =>
    have htext : (render ⟨.doubleSlash, parts⟩).toList =
        '/' :: '/' :: ("/".intercalate parts).toList := by
      simp [render, rootText]
    rw [htext, partsOf_slash, partsOf_slash, hparts, List.takeWhile_cons_of_pos rfl,
      List.takeWhile_cons_of_pos rfl, hlead]
    rfl

/-- Clean paths from the root with one text are one path. -/
theorem render_injective {path other : Path} (h : path.Clean) (habsolute : path.isAbsolute = true)
    (hother : other.Clean) (habsolute' : other.isAbsolute = true)
    (heq : path.render = other.render) : path = other := by
  rw [← ofString_render h habsolute, heq, ofString_render hother habsolute']

/-- Different parts lead on from a clean path to paths of different texts. -/
theorem Clean.eq_of_render_eq {path : Path} (h : path.Clean) {steps others : List String}
    (hsteps : ∀ step ∈ steps, IsPart step) (hothers : ∀ step ∈ others, IsPart step)
    (heq : (Path.absolute ⟨path.root, path.parts ++ steps⟩).render =
      (Path.absolute ⟨path.root, path.parts ++ others⟩).render) : steps = others := by
  have hclean {names : List String} (hnames : ∀ step ∈ names, IsPart step) :
      (Path.absolute ⟨path.root, path.parts ++ names⟩).Clean :=
    .absolute (List.forall_mem_append.mpr ⟨h, hnames⟩)
  have habsolute := render_injective (hclean hsteps) (isAbsolute_absolute _) (hclean hothers)
    (isAbsolute_absolute _) heq
  have hpath : (⟨path.root, path.parts ++ steps⟩ : Path) = ⟨path.root, path.parts ++ others⟩ :=
    eq_of_absolute_eq rfl habsolute
  exact List.append_cancel_left (congrArg Path.parts hpath)

/-- Names lead down. -/
theorem foldl_go_names {names : List String} (h : ∀ name ∈ names, isName name = true)
    (home : Location) : names.foldl Location.go home = home ++ names := by
  induction names generalizing home with
  | nil => rw [List.foldl_nil, List.append_nil]
  | cons name rest ih =>
    obtain ⟨hname, hrest⟩ := List.forall_mem_cons.mp h
    rw [List.foldl_cons, Location.go_of_isName hname, ih hrest, List.append_assoc,
      List.singleton_append]

/-- Names lead down from where a path leads. -/
theorem location_append {path : Path} (h : path.isAbsolute = true) {names : List String}
    (hnames : ∀ name ∈ names, isName name = true) :
    location ⟨path.root, path.parts ++ names⟩ = path.location ++ names := by
  have hlong : isAbsolute ⟨path.root, path.parts ++ names⟩ = true := h
  unfold location
  rw [absolute_of_isAbsolute h, absolute_of_isAbsolute hlong, List.foldl_append,
    foldl_go_names hnames]

end Path

end Crosscheck.Files
