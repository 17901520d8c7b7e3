import Crosscheck.Files.Path
import Crosscheck.Text.Quoted
/-!
# File systems

Files and directories in memory. Every entry but the root hangs under a directory, and the entries
stand in the order of their locations, so a listing comes out sorted and two file systems with the
same entries are equal.
-/

namespace Crosscheck.Files

open Crosscheck.Text

/-- The names that lead from the root to an entry. -/
abbrev Location := List String

/-- What is found at a location. -/
inductive Entry
  | file (content : Bytes)
  | directory
  deriving DecidableEq, Repr

/-- Whether the entry is a directory. -/
def Entry.isDirectory : Entry → Bool
  | .directory => true
  | .file _ => false

/-- Whether the entry is a file. -/
def Entry.isFile : Entry → Bool
  | .directory => false
  | .file _ => true

/-! ## Sorted entries -/

/-- The entry at a location in a list. -/
def lookupEntry (loc : Location) : List (Location × Entry) → Option Entry
  | [] => none
  | (l, entry) :: rest => if l = loc then some entry else lookupEntry loc rest

/-- Puts an entry in its place. -/
def insertEntry (loc : Location) (entry : Entry) :
    List (Location × Entry) → List (Location × Entry)
  | [] => [(loc, entry)]
  | (l, old) :: rest =>
    if loc < l then (loc, entry) :: (l, old) :: rest
    else if l = loc then (loc, entry) :: rest
    else (l, old) :: insertEntry loc entry rest

/-- An entry that was put in adds nothing but itself. -/
theorem mem_insertEntry {loc : Location} {entry : Entry} {xs : List (Location × Entry)}
    {x : Location × Entry} (h : x ∈ insertEntry loc entry xs) : x = (loc, entry) ∨ x ∈ xs := by
  induction xs with
  | nil => simpa [insertEntry] using h
  | cons y ys ih =>
    obtain ⟨l, old⟩ := y
    rw [insertEntry] at h
    split at h
    · simpa using h
    · split at h
      · rcases List.mem_cons.1 h with h | h
        · exact .inl h
        · exact .inr (List.mem_cons_of_mem _ h)
      · rcases List.mem_cons.1 h with h | h
        · exact .inr (h ▸ List.mem_cons_self)
        · rcases ih h with h | h
          · exact .inl h
          · exact .inr (List.mem_cons_of_mem _ h)

theorem location_lt_of_not_lt {a b : Location} (h : ¬ a < b) (hne : b ≠ a) : b < a :=
  Decidable.byContradiction fun h' =>
    hne (List.le_antisymm (List.not_lt.1 h) (List.not_lt.1 h'))

/-- Entries stay in order. -/
theorem pairwise_insertEntry {loc : Location} {entry : Entry} {xs : List (Location × Entry)}
    (h : xs.Pairwise fun a b => a.1 < b.1) :
    (insertEntry loc entry xs).Pairwise fun a b => a.1 < b.1 := by
  induction xs with
  | nil => simp [insertEntry]
  | cons y ys ih =>
    obtain ⟨l, old⟩ := y
    obtain ⟨hy, hys⟩ := List.pairwise_cons.1 h
    rw [insertEntry]
    split
    · rename_i hlt
      refine List.pairwise_cons.2 ⟨fun x hx => ?_, h⟩
      rcases List.mem_cons.1 hx with hx | hx
      · exact hx ▸ hlt
      · exact List.lt_trans hlt (hy x hx)
    · rename_i hlt
      split
      · rename_i heq
        subst heq
        exact List.pairwise_cons.2 ⟨hy, hys⟩
      · rename_i hne
        refine List.pairwise_cons.2 ⟨fun x hx => ?_, ih hys⟩
        rcases mem_insertEntry hx with hx | hx
        · exact hx ▸ location_lt_of_not_lt hlt hne
        · exact hy x hx

theorem mem_insertEntry_self (loc : Location) (entry : Entry) (xs : List (Location × Entry)) :
    (loc, entry) ∈ insertEntry loc entry xs := by
  induction xs with
  | nil => simp [insertEntry]
  | cons y ys ih =>
    obtain ⟨l, old⟩ := y
    rw [insertEntry]
    split
    · simp
    · split
      · simp
      · exact List.mem_cons_of_mem _ ih

/-- Entries elsewhere stay. -/
theorem mem_insertEntry_of_ne {loc : Location} {entry : Entry} {xs : List (Location × Entry)}
    {x : Location × Entry} (h : x ∈ xs) (hne : x.1 ≠ loc) : x ∈ insertEntry loc entry xs := by
  induction xs with
  | nil => simp at h
  | cons y ys ih =>
    obtain ⟨l, old⟩ := y
    rw [insertEntry]
    split
    · exact List.mem_cons_of_mem _ h
    · split
      · rename_i heq
        rcases List.mem_cons.1 h with h | h
        · exact absurd (h ▸ heq) hne
        · exact List.mem_cons_of_mem _ h
      · rcases List.mem_cons.1 h with h | h
        · exact h ▸ List.mem_cons_self
        · exact List.mem_cons_of_mem _ (ih h)

theorem mem_of_lookupEntry {loc : Location} {entry : Entry} {xs : List (Location × Entry)}
    (h : lookupEntry loc xs = some entry) : (loc, entry) ∈ xs := by
  induction xs with
  | nil => simp [lookupEntry] at h
  | cons y ys ih =>
    obtain ⟨l, old⟩ := y
    rw [lookupEntry] at h
    split at h
    · rename_i heq
      cases h
      exact heq ▸ List.mem_cons_self
    · exact List.mem_cons_of_mem _ (ih h)

/-- Entries in order are found where they stand. -/
theorem lookupEntry_of_mem {loc : Location} {entry : Entry} {xs : List (Location × Entry)}
    (hs : xs.Pairwise fun a b => a.1 < b.1) (h : (loc, entry) ∈ xs) :
    lookupEntry loc xs = some entry := by
  induction xs with
  | nil => simp at h
  | cons y ys ih =>
    obtain ⟨l, old⟩ := y
    obtain ⟨hy, hys⟩ := List.pairwise_cons.1 hs
    rw [lookupEntry]
    rcases List.mem_cons.1 h with h | h
    · cases h
      simp
    · have hlt : l < loc := hy _ h
      have hne : l ≠ loc := fun heq => List.lt_irrefl loc (heq ▸ hlt)
      rw [if_neg hne]
      exact ih hys h

/-! ## File systems -/

/-- Whether a name can stand in a directory: it is not empty, is not one of the dots that lead to a
directory, and has no slash. -/
def isName (name : String) : Bool :=
  name != "" && name != "." && name != ".." && !name.toList.contains '/'

/-- Entries in the order of their locations, each under the root or under a directory. -/
structure FileSystem where
  entries : List (Location × Entry)
  sorted : entries.Pairwise fun a b => a.1 < b.1
  rooted : ∀ x ∈ entries,
    x.1 ≠ [] ∧ (x.1.dropLast = [] ∨ (x.1.dropLast, Entry.directory) ∈ entries)
  named : ∀ x ∈ entries, ∀ name ∈ x.1, isName name = true

namespace FileSystem

/-- The entry at a location. The root is a directory. -/
def find? (fs : FileSystem) (loc : Location) : Option Entry :=
  if loc = [] then some .directory else lookupEntry loc fs.entries

/-- Whether an entry may be put at a location: under a directory, by a name that can stand there,
and no file in place of a directory. -/
def CanPut (fs : FileSystem) (loc : Location) (entry : Entry) : Prop :=
  loc ≠ [] ∧ fs.find? loc.dropLast = some .directory
    ∧ (entry = .directory ∨ fs.find? loc ≠ some .directory)
    ∧ isName (loc.getLast?.getD "") = true

instance (fs : FileSystem) (loc : Location) (entry : Entry) : Decidable (fs.CanPut loc entry) :=
  inferInstanceAs (Decidable (_ ∧ _ ∧ _ ∧ _))

theorem dropLast_ne_self {α : Type} {xs : List α} (h : xs ≠ []) : xs.dropLast ≠ xs := by
  intro heq
  have := congrArg List.length heq
  have hpos := List.length_pos_iff.2 h
  rw [List.length_dropLast] at this
  omega

/-- Puts an entry at a location. -/
def put (fs : FileSystem) (loc : Location) (entry : Entry) (h : fs.CanPut loc entry) :
    FileSystem where
  entries := insertEntry loc entry fs.entries
  sorted := pairwise_insertEntry fs.sorted
  rooted x hx := by
    obtain ⟨hne, hparent, hkind, -⟩ := h
    rcases mem_insertEntry hx with hx | hx
    · subst hx
      refine ⟨hne, ?_⟩
      by_cases hroot : loc.dropLast = []
      · exact .inl hroot
      · rw [find?, if_neg hroot] at hparent
        exact .inr (mem_insertEntry_of_ne (mem_of_lookupEntry hparent) (dropLast_ne_self hne))
    · refine ⟨(fs.rooted x hx).1, (fs.rooted x hx).2.imp_right fun hmem => ?_⟩
      by_cases hloc : x.1.dropLast = loc
      · rcases hkind with hkind | hkind
        · exact hloc ▸ hkind ▸ mem_insertEntry_self _ _ _
        · refine absurd ?_ hkind
          rw [find?, if_neg hne]
          exact lookupEntry_of_mem fs.sorted (hloc ▸ hmem)
      · exact mem_insertEntry_of_ne hmem hloc
  named x hx name hname := by
    obtain ⟨hne, hparent, -, hlast⟩ := h
    rcases mem_insertEntry hx with hx | hx
    · subst hx
      rw [← List.dropLast_concat_getLast hne] at hname
      rcases List.mem_append.1 hname with hfront | hend
      · have hroot : loc.dropLast ≠ [] := List.ne_nil_of_mem hfront
        rw [find?, if_neg hroot] at hparent
        exact fs.named _ (mem_of_lookupEntry hparent) name hfront
      · rw [List.getLast?_eq_some_getLast hne] at hlast
        exact List.mem_singleton.1 hend ▸ hlast
    · exact fs.named x hx name hname

/-- Removes what is at a location and everything under it. -/
def erase (fs : FileSystem) (loc : Location) : FileSystem where
  entries := fs.entries.filter fun x => !loc.isPrefixOf x.1
  sorted := fs.sorted.filter _
  rooted x hx := by
    obtain ⟨hmem, hkeep⟩ := List.mem_filter.1 hx
    refine ⟨(fs.rooted x hmem).1, (fs.rooted x hmem).2.imp_right fun hparent => ?_⟩
    refine List.mem_filter.2 ⟨hparent, ?_⟩
    have hno : ¬ loc <+: x.1 := fun h => by
      simp [List.isPrefixOf_iff_prefix.2 h] at hkeep
    cases hp : loc.isPrefixOf x.1.dropLast with
    | false => simp
    | true =>
      exact absurd ((List.isPrefixOf_iff_prefix.1 hp).trans (List.dropLast_prefix _)) hno
  named x hx := fs.named x (List.mem_filter.1 hx).1

/-- The file system whose only directories are those that lead to the working directory. -/
def initial : FileSystem where
  entries := [(["tmp"], .directory), (["tmp", "w"], .directory)]
  sorted := by decide
  rooted := by decide
  named := by decide

/-- What comes after the location in a longer one. -/
def under? (loc : Location) (other : Location) : Option Location :=
  if loc.isPrefixOf other && loc.length < other.length then some (other.drop loc.length) else none

/-- The entries below a location, each by the names that lead to it from there, in order. -/
def below (fs : FileSystem) (loc : Location) : List (Location × Entry) :=
  fs.entries.filterMap fun (l, entry) => (under? loc l).map (·, entry)

end FileSystem

end Crosscheck.Files
