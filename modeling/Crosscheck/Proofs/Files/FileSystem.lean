import Crosscheck.Files.FileSystem
import Mathlib.Data.List.Induction
import Mathlib.Data.List.Nodup
/-!
# What a change of the files leaves

Putting an entry changes what is found at its location and nowhere else, and removing a file removes
what is found there and nothing else: nothing lies under a file. What is found at every location
determines a file system.
-/

namespace Crosscheck.Files

variable {loc l : Location} {entry : Entry} {xs : List (Location × Entry)}

theorem lookupEntry_insertEntry (loc l : Location) (entry : Entry) (xs : List (Location × Entry)) :
    lookupEntry l (insertEntry loc entry xs) =
      if l = loc then some entry else lookupEntry l xs := by
  induction xs with
  | nil =>
    simp only [insertEntry, lookupEntry, eq_comm]
  | cons x rest ih =>
    obtain ⟨other, old⟩ := x
    rw [insertEntry]
    split
    · simp only [lookupEntry, eq_comm]
    · split
      · next hsame =>
        subst hsame
        simp only [lookupEntry, eq_comm]
        split <;> rfl
      · next hother =>
        simp only [lookupEntry, ih]
        by_cases hl : other = l
        · subst hl
          simp [hother]
        · simp [hl]

theorem lookupEntry_filter (p : Location → Bool) (l : Location) (xs : List (Location × Entry)) :
    lookupEntry l (xs.filter fun x => p x.1) = if p l then lookupEntry l xs else none := by
  induction xs with
  | nil => simp [lookupEntry]
  | cons x rest ih =>
    obtain ⟨other, old⟩ := x
    rw [List.filter_cons]
    by_cases hl : other = l
    · subst hl
      cases hp : p other with
      | true => simp [lookupEntry]
      | false => simpa [hp] using ih
    · cases hp : p other with
      | true => simpa [lookupEntry, hl] using ih
      | false => simpa [lookupEntry, hl] using ih

namespace FileSystem

variable {fs : FileSystem} {content : Text.Bytes}

@[simp] theorem find?_root (fs : FileSystem) : fs.find? [] = some .directory := rfl

theorem find?_of_ne_nil (fs : FileSystem) (h : l ≠ []) : fs.find? l = lookupEntry l fs.entries :=
  if_neg h

/-- What is found below the root is one of the entries. -/
theorem mem_entries_iff (h : l ≠ []) : (l, entry) ∈ fs.entries ↔ fs.find? l = some entry := by
  rw [fs.find?_of_ne_nil h]
  exact ⟨lookupEntry_of_mem fs.sorted, mem_of_lookupEntry⟩

theorem find?_put (h : fs.CanPut loc entry) (l : Location) :
    (fs.put loc entry h).find? l = if l = loc then some entry else fs.find? l := by
  by_cases hl : l = []
  · subst hl
    rw [if_neg (Ne.symm h.1)]
    rfl
  · rw [find?_of_ne_nil _ hl, find?_of_ne_nil _ hl]
    exact lookupEntry_insertEntry loc l entry fs.entries

theorem find?_put_self (h : fs.CanPut loc entry) : (fs.put loc entry h).find? loc = some entry := by
  rw [find?_put, if_pos rfl]

theorem find?_put_of_ne (h : fs.CanPut loc entry) (hl : l ≠ loc) :
    (fs.put loc entry h).find? l = fs.find? l := by
  rw [find?_put, if_neg hl]

theorem find?_erase (fs : FileSystem) (hloc : loc ≠ []) (l : Location) :
    (fs.erase loc).find? l = if loc <+: l then none else fs.find? l := by
  by_cases hl : l = []
  · subst hl
    rw [if_neg fun h => hloc (List.prefix_nil.mp h)]
    rfl
  · rw [find?_of_ne_nil _ hl, find?_of_ne_nil _ hl]
    refine (lookupEntry_filter (fun other => !loc.isPrefixOf other) l fs.entries).trans ?_
    by_cases hprefix : loc <+: l
    · rw [if_pos hprefix, if_neg (by simpa using hprefix)]
    · rw [if_neg hprefix, if_pos]
      rw [Bool.eq_false_iff.mpr (mt List.isPrefixOf_iff_prefix.mp hprefix)]
      rfl

/-! ## What leads to an entry -/

/-- Everything that is found hangs under a directory. -/
theorem find?_dropLast (h : fs.find? l = some entry) (hl : l ≠ []) :
    fs.find? l.dropLast = some .directory := by
  rcases (fs.rooted _ ((mem_entries_iff hl).mpr h)).2 with hroot | hparent
  · rw [hroot]
    rfl
  · by_cases hroot : l.dropLast = []
    · rw [hroot]
      rfl
    · exact (mem_entries_iff hroot).mp hparent

/-- Everything that leads to what is found is a directory. -/
theorem find?_above {above : Location} (h : fs.find? l = some entry) (habove : above <+: l)
    (hne : above ≠ l) : fs.find? above = some .directory := by
  induction l using List.reverseRecOn generalizing entry with
  | nil => exact absurd (List.prefix_nil.mp habove) hne
  | append_singleton front last ih =>
    have hparent := find?_dropLast h (by simp)
    rw [List.dropLast_concat] at hparent
    rcases List.prefix_concat_iff.mp habove with rfl | hfront
    · exact absurd rfl hne
    · by_cases hsame : above = front
      · exact hsame ▸ hparent
      · exact ih hparent hfront hsame

/-- The names that lead to what is found can stand in directories. -/
theorem isName_of_find? (h : fs.find? l = some entry) {name : String} (hname : name ∈ l) :
    isName name = true :=
  fs.named _ ((mem_entries_iff (List.ne_nil_of_mem hname)).mpr h) name hname

theorem ne_nil_of_file (h : fs.find? l = some (.file content)) : l ≠ [] := by
  rintro rfl
  simp at h

/-- Nothing lies under a file. -/
theorem find?_eq_none_of_file (h : fs.find? loc = some (.file content)) (hl : loc <+: l)
    (hne : l ≠ loc) : fs.find? l = none := by
  cases hfound : fs.find? l with
  | none => rfl
  | some entry =>
    rw [find?_above hfound hl hne.symm] at h
    simp at h

/-- A file that is removed leaves everything else. -/
theorem find?_erase_file (h : fs.find? loc = some (.file content)) (l : Location) :
    (fs.erase loc).find? l = if l = loc then none else fs.find? l := by
  rw [find?_erase fs (ne_nil_of_file h)]
  by_cases hl : l = loc
  · rw [if_pos hl, if_pos (hl ▸ List.prefix_refl l)]
  · rw [if_neg hl]
    split
    · next hprefix => exact (find?_eq_none_of_file h hprefix hl).symm
    · rfl

/-! ## Listings -/

theorem under?_eq_some_iff {loc other rel : Location} :
    under? loc other = some rel ↔ rel ≠ [] ∧ other = loc ++ rel := by
  unfold under?
  simp only [Bool.and_eq_true, List.isPrefixOf_iff_prefix, decide_eq_true_eq,
    Option.ite_none_right_eq_some, Option.some.injEq]
  constructor
  · rintro ⟨⟨⟨more, rfl⟩, hlength⟩, rfl⟩
    rw [List.drop_left]
    refine ⟨?_, rfl⟩
    rintro rfl
    simp at hlength
  · rintro ⟨hrel, rfl⟩
    refine ⟨⟨List.prefix_append _ _, ?_⟩, List.drop_left⟩
    have := List.length_pos_iff.mpr hrel
    rw [List.length_append]
    omega

/-- What lies below a location is what is found by going on from there. -/
theorem mem_below_iff {loc rel : Location} :
    (rel, entry) ∈ fs.below loc ↔ rel ≠ [] ∧ fs.find? (loc ++ rel) = some entry := by
  unfold below
  rw [List.mem_filterMap]
  constructor
  · rintro ⟨⟨other, found⟩, hmem, hrel⟩
    obtain ⟨more, hmore, heq⟩ := Option.map_eq_some_iff.mp hrel
    obtain ⟨hne, rfl⟩ := under?_eq_some_iff.mp hmore
    obtain ⟨rfl, rfl⟩ := Prod.mk.inj heq
    exact ⟨hne, (mem_entries_iff (List.append_ne_nil_of_right_ne_nil _ hne)).mp hmem⟩
  · rintro ⟨hne, hfound⟩
    have hlong : loc ++ rel ≠ [] := List.append_ne_nil_of_right_ne_nil _ hne
    refine ⟨(loc ++ rel, entry), (mem_entries_iff hlong).mpr hfound, ?_⟩
    dsimp only
    rw [under?_eq_some_iff.mpr ⟨hne, rfl⟩]
    rfl

/-! ## Equal file systems -/

theorem eq_of_entries {a b : FileSystem} (h : a.entries = b.entries) : a = b := by
  cases a
  cases b
  cases h
  rfl

theorem nodup_entries (fs : FileSystem) : fs.entries.Nodup :=
  List.Pairwise.imp (fun {x y} (hlt : x.1 < y.1) (hsame : x = y) =>
    List.lt_irrefl y.1 (hsame ▸ hlt)) fs.sorted

/-- File systems in which the same entries are found, as far as a test passes, list them alike. -/
theorem filter_entries_congr {a b : FileSystem} {p : Location × Entry → Bool}
    (h : ∀ l entry, p (l, entry) = true → (a.find? l = some entry ↔ b.find? l = some entry)) :
    a.entries.filter p = b.entries.filter p := by
  have hmem : ∀ x, x ∈ a.entries.filter p ↔ x ∈ b.entries.filter p := by
    rintro ⟨l, entry⟩
    rw [List.mem_filter, List.mem_filter]
    refine and_congr_left fun hp => ?_
    by_cases hl : l = []
    · subst hl
      exact iff_of_false (fun hx => (a.rooted _ hx).1 rfl) fun hx => (b.rooted _ hx).1 rfl
    · rw [mem_entries_iff hl, mem_entries_iff hl, h l entry hp]
  have hperm := (List.perm_ext_iff_of_nodup (a.nodup_entries.filter p)
    (b.nodup_entries.filter p)).mpr hmem
  refine hperm.eq_of_pairwise ?_ (a.sorted.filter _) (b.sorted.filter _)
  intro x y _ _ hxy hyx
  exact absurd (List.lt_trans hxy hyx) (List.lt_irrefl _)

/-- What is made of the entries is the same if those that anything is made of are. -/
theorem filterMap_entries_congr {α : Type} {a b : FileSystem} {f : Location × Entry → Option α}
    (h : ∀ l entry, (f (l, entry)).isSome = true →
      (a.find? l = some entry ↔ b.find? l = some entry)) :
    a.entries.filterMap f = b.entries.filterMap f := by
  have hkept (xs : List (Location × Entry)) :
      xs.filterMap f = (xs.filter fun x => (f x).isSome).filterMap f := by
    rw [List.filterMap_filter]
    refine List.filterMap_congr fun x _ => ?_
    cases hx : f x <;> simp
  rw [hkept a.entries, filter_entries_congr h, ← hkept]

/-- File systems in which the same is found at every location are equal. -/
theorem ext_find? {a b : FileSystem} (h : ∀ l, a.find? l = b.find? l) : a = b := by
  have hfilter := @filter_entries_congr a b (fun _ => true) fun l entry _ => by rw [h l]
  simp only [List.filter_true] at hfilter
  exact eq_of_entries hfilter

end FileSystem

end Crosscheck.Files
