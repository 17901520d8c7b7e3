import Crosscheck.OrderedMap
import Mathlib.Data.List.Basic
import Mathlib.Data.List.Induction
import Mathlib.Data.List.Perm.Basic
/-!
# Laws of ordered maps

What a change of one key does to the keys, to the values taken together, and to a look-up whose
keys compare exactly; when changes of two keys can change places; and what comes of grouping items
by key.

`Sharp` keys carry the laws to maps whose keys are not compared by equality everywhere: only the
keys that are written and asked for have to be told apart from all others.
-/

namespace Crosscheck.OrderedMap

variable {α β : Type}

/-! ## Keys that compare exactly -/

section Sharp

variable [BEq α]

/-- A key that is the same as itself and as no other. -/
def Sharp (key : α) : Prop := ∀ other : α, (other == key) = true ↔ other = key

theorem sharp [LawfulBEq α] (key : α) : Sharp key := fun _ => beq_iff_eq

theorem Sharp.refl {key : α} (h : Sharp key) : (key == key) = true := (h key).mpr rfl

theorem Sharp.apart {key other : α} (h : Sharp key) (hne : other ≠ key) : (other == key) = false :=
  Bool.eq_false_iff.mpr fun heq => hne ((h other).mp heq)

end Sharp

/-! ## Keys -/

section Keys

variable [BEq α]

/-- Keys after one of them is written: a new one comes last. -/
def withKey (key : α) (keys : List α) : List α :=
  if keys.any (· == key) then keys else keys ++ [key]

/-- A change of one key writes that key. -/
theorem keys_alter (map : OrderedMap α β) (key : α) (f : Option β → β) :
    (map.alter key f).keys = withKey key map.keys := by
  obtain ⟨pairs⟩ := map
  show (alterEntries key f pairs).map (·.1) = withKey key (pairs.map (·.1))
  induction pairs with
  | nil => rfl
  | cons pair rest ih =>
    obtain ⟨k, value⟩ := pair
    cases hk : k == key with
    | true => simp [alterEntries, withKey, hk]
    | false =>
      have hstep : alterEntries key f ((k, value) :: rest)
          = (k, value) :: alterEntries key f rest := by simp [alterEntries, hk]
      rw [hstep, List.map_cons, ih]
      unfold withKey
      cases hm : (rest.map (·.1)).any (· == key) <;> simp [hm, hk]

theorem any_iff_mem {key : α} (h : Sharp key) (keys : List α) :
    keys.any (· == key) = true ↔ key ∈ keys := by
  rw [List.any_eq_true]
  constructor
  · rintro ⟨other, hmem, heq⟩
    exact (h other).mp heq ▸ hmem
  · intro hmem
    exact ⟨key, hmem, h.refl⟩

theorem mem_withKey {key : α} (h : Sharp key) {other : α} {keys : List α} :
    other ∈ withKey key keys ↔ other = key ∨ other ∈ keys := by
  unfold withKey
  split
  · next hany =>
    have hmem : key ∈ keys := (any_iff_mem h keys).mp hany
    exact ⟨Or.inr, fun ho => ho.elim (fun heq => heq ▸ hmem) id⟩
  · rw [List.mem_append, List.mem_singleton, or_comm]

theorem nodup_withKey {key : α} (h : Sharp key) {keys : List α} (hkeys : keys.Nodup) :
    (withKey key keys).Nodup := by
  unfold withKey
  split
  · exact hkeys
  · next hany =>
    have hmem : key ∉ keys := fun hm => hany ((any_iff_mem h keys).mpr hm)
    refine List.nodup_append.mpr ⟨hkeys, List.pairwise_singleton _ key, ?_⟩
    intro a ha b hb heq
    rw [List.mem_singleton.mp hb] at heq
    exact hmem (heq ▸ ha)

/-- A new key comes last, with what it is set to. -/
theorem entries_insert_of_not_mem [LawfulBEq α] {map : OrderedMap α β} {key : α}
    (h : key ∉ map.keys) (value : β) :
    (map.insert key value).entries = map.entries ++ [(key, value)] := by
  obtain ⟨pairs⟩ := map
  change key ∉ pairs.map (·.1) at h
  show alterEntries key (fun _ => value) pairs = pairs ++ [(key, value)]
  induction pairs with
  | nil => rfl
  | cons pair rest ih =>
    obtain ⟨k, old⟩ := pair
    rw [List.map_cons, List.mem_cons, not_or] at h
    have hk : ¬ k = key := fun heq => h.1 heq.symm
    simp only [alterEntries, beq_eq_false_iff_ne.mpr hk, Bool.false_eq_true, if_false, ih h.2,
      List.cons_append]

/-- The last of some pairs is written last. -/
theorem ofList_concat (pairs : List (α × β)) (last : α × β) :
    ofList (pairs ++ [last]) = (ofList pairs).insert last.1 last.2 := by
  rw [ofList, List.foldl_append]
  rfl

/-- Pairs with different keys are the entries of their map. -/
theorem entries_ofList [LawfulBEq α] {pairs : List (α × β)} (h : (pairs.map (·.1)).Nodup) :
    (ofList pairs).entries = pairs := by
  induction pairs using List.reverseRecOn with
  | nil => rfl
  | append_singleton pairs last ih =>
    rw [List.map_append, List.nodup_append] at h
    have hrest : (ofList pairs).entries = pairs := ih h.1
    have hnew : last.1 ∉ (ofList pairs).keys := by
      rw [keys, hrest]
      exact fun hmem => h.2.2 _ hmem _ (List.mem_singleton.mpr rfl) rfl
    rw [ofList_concat, entries_insert_of_not_mem hnew, hrest]

/-- The keys of a map of pairs are those of the pairs. -/
theorem mem_keys_ofList [LawfulBEq α] {pairs : List (α × β)} {key : α} :
    key ∈ (ofList pairs).keys ↔ key ∈ pairs.map (·.1) := by
  induction pairs using List.reverseRecOn with
  | nil => exact Iff.rfl
  | append_singleton pairs last ih =>
    rw [ofList_concat, insert, keys_alter, mem_withKey (sharp _), ih, List.map_append,
      List.mem_append, List.map_singleton, List.mem_singleton, or_comm]

/-- A key of a map is one that it contains. -/
theorem contains_iff_mem_keys {map : OrderedMap α β} {key : α} (h : Sharp key) :
    map.contains key = true ↔ key ∈ map.keys := by
  obtain ⟨pairs⟩ := map
  show (lookup key pairs).isSome = true ↔ key ∈ pairs.map (·.1)
  induction pairs with
  | nil => simp [lookup]
  | cons pair rest ih =>
    obtain ⟨k, value⟩ := pair
    by_cases hk : k = key
    · simp [lookup, hk, h.refl]
    · have hne : ¬ key = k := fun heq => hk heq.symm
      simp only [lookup, h.apart hk, Bool.false_eq_true, if_false, List.map_cons, List.mem_cons,
        hne, false_or]
      exact ih

/-- A key is there when a look-up finds it. -/
theorem mem_keys_iff [LawfulBEq α] (map : OrderedMap α β) (key : α) :
    key ∈ map.keys ↔ (map.get? key).isSome :=
  (contains_iff_mem_keys (sharp key)).symm

end Keys

/-! ## Some of the keys -/

section Filter

variable (p : α → Bool)

/-- A map with those keys only that pass a test. -/
def filterKeys (map : OrderedMap α β) : OrderedMap α β :=
  ⟨map.entries.filter fun entry => p entry.1⟩

variable {p} [BEq α] [LawfulBEq α]

/-- A key that passes is written as before, and one that does not pass leaves no trace. -/
theorem filterKeys_insert (map : OrderedMap α β) (key : α) (value : β) :
    (map.insert key value).filterKeys p =
      if p key then (map.filterKeys p).insert key value else map.filterKeys p := by
  obtain ⟨pairs⟩ := map
  show OrderedMap.mk ((alterEntries key (fun _ => value) pairs).filter fun entry => p entry.1) =
    if p key then ⟨alterEntries key (fun _ => value) (pairs.filter fun entry => p entry.1)⟩
    else ⟨pairs.filter fun entry => p entry.1⟩
  rw [← apply_ite OrderedMap.mk]
  congr 1
  induction pairs with
  | nil => cases hkey : p key <;> simp [alterEntries, hkey]
  | cons pair rest ih =>
    obtain ⟨k, old⟩ := pair
    by_cases hk : k = key
    · subst hk
      cases hkey : p k <;> simp [alterEntries, hkey]
    · cases hkey : p k <;> simp only [alterEntries, beq_eq_false_iff_ne.mpr hk, Bool.false_eq_true,
        if_false, List.filter_cons, hkey, if_true, ih]
      split <;> rfl

theorem filterKeys_ofList (pairs : List (α × β)) :
    (ofList pairs).filterKeys p = ofList (pairs.filter fun pair => p pair.1) := by
  induction pairs using List.reverseRecOn with
  | nil => rfl
  | append_singleton pairs last ih =>
    rw [ofList_concat, filterKeys_insert, ih, List.filter_append]
    cases hlast : p last.1 with
    | true => simp [hlast, ofList_concat]
    | false => simp [hlast]

/-- What is found under a key that passes is still found. -/
theorem get?_filterKeys (map : OrderedMap α β) {key : α} (hkey : p key = true) :
    (map.filterKeys p).get? key = map.get? key := by
  obtain ⟨pairs⟩ := map
  show lookup key (pairs.filter fun entry => p entry.1) = lookup key pairs
  induction pairs with
  | nil => rfl
  | cons pair rest ih =>
    obtain ⟨k, value⟩ := pair
    by_cases hk : k = key
    · subst hk
      simp [lookup, hkey]
    · rw [List.filter_cons]
      split <;> simp [lookup, hk, ih]

/-- What is found under a key depends on the pairs with that key. -/
theorem get?_ofList_congr {pairs pairs' : List (α × β)} {key : α}
    (h : pairs.filter (·.1 == key) = pairs'.filter (·.1 == key)) :
    (ofList pairs).get? key = (ofList pairs').get? key := by
  rw [← get?_filterKeys (p := (· == key)) _ (beq_self_eq_true key),
    ← get?_filterKeys (p := (· == key)) (ofList pairs') (beq_self_eq_true key), filterKeys_ofList,
    filterKeys_ofList, h]

end Filter

/-! ## One key changed twice -/

section Twice

variable [BEq α] [ReflBEq α]

/-- Two changes of one key are one change. -/
theorem alter_alter (map : OrderedMap α β) (key : α) (f g : Option β → β) :
    (map.alter key f).alter key g = map.alter key fun old => g (some (f old)) := by
  obtain ⟨pairs⟩ := map
  show OrderedMap.mk (alterEntries key g (alterEntries key f pairs)) = ⟨alterEntries key _ pairs⟩
  congr 1
  induction pairs with
  | nil => simp [alterEntries]
  | cons pair rest ih =>
    obtain ⟨k, value⟩ := pair
    by_cases hk : (k == key) = true
    · simp [alterEntries, hk]
    · simp [alterEntries, hk, ih]

/-- Items added to a list in two steps are added in one. -/
theorem push_push {γ : Type} (map : OrderedMap α (List γ)) (key : α) (xs ys : List γ) :
    (map.push key xs).push key ys = map.push key (xs ++ ys) := by
  unfold push
  rw [alter_alter]
  simp

end Twice

/-! ## Two keys changed -/

section Apart

variable [BEq α] [LawfulBEq α]

/-- Changes of two keys can change places if the second key is there. -/
theorem alter_comm {map : OrderedMap α β} {key other : α} (hne : key ≠ other)
    (hmem : other ∈ map.keys) (f g : Option β → β) :
    (map.alter key f).alter other g = (map.alter other g).alter key f := by
  obtain ⟨pairs⟩ := map
  change other ∈ pairs.map (·.1) at hmem
  show OrderedMap.mk (alterEntries other g (alterEntries key f pairs)) =
    ⟨alterEntries key f (alterEntries other g pairs)⟩
  congr 1
  induction pairs with
  | nil => exact nomatch hmem
  | cons pair rest ih =>
    obtain ⟨k, value⟩ := pair
    by_cases hother : k = other
    · subst hother
      have hkey : (k == key) = false := beq_eq_false_iff_ne.mpr hne.symm
      simp only [alterEntries, hkey, Bool.false_eq_true, if_false, beq_self_eq_true, if_true]
    · have hrest : other ∈ rest.map (·.1) := (List.mem_cons.mp hmem).resolve_left (Ne.symm hother)
      have hapart : (k == other) = false := beq_eq_false_iff_ne.mpr hother
      by_cases hkey : k = key
      · subst hkey
        simp only [alterEntries, hapart, Bool.false_eq_true, if_false, beq_self_eq_true, if_true]
      · have hkey : (k == key) = false := beq_eq_false_iff_ne.mpr hkey
        simp only [alterEntries, hapart, hkey, Bool.false_eq_true, if_false, ih hrest]

end Apart

/-! ## The values taken together -/

section Values

variable [BEq α] {γ : Type}

/-- A change that adds to what one value holds adds the same to what all of them hold. -/
theorem flatMap_values_alter_perm {f : Option β → β} {g : β → List γ} {items : List γ}
    (hnew : (g (f none)).Perm items) (hold : ∀ value, (g (f (some value))).Perm (g value ++ items))
    (map : OrderedMap α β) (key : α) :
    ((map.alter key f).values.flatMap g).Perm (map.values.flatMap g ++ items) := by
  obtain ⟨pairs⟩ := map
  show (((alterEntries key f pairs).map (·.2)).flatMap g).Perm ((pairs.map (·.2)).flatMap g ++ items)
  induction pairs with
  | nil => simpa [alterEntries] using hnew
  | cons pair rest ih =>
    obtain ⟨k, value⟩ := pair
    by_cases hk : (k == key) = true
    · simp only [alterEntries, hk, if_true, List.map_cons, List.flatMap_cons]
      have hfirst := (hold value).append_right ((rest.map (·.2)).flatMap g)
      refine hfirst.trans ?_
      rw [List.append_assoc, List.append_assoc]
      exact List.perm_append_comm.append_left (g value)
    · simp only [alterEntries, hk, Bool.false_eq_true, if_false, List.map_cons, List.flatMap_cons,
        List.append_assoc]
      exact ih.append_left (g value)

/-- Items added to the list of a key are added to the values, and nothing else is. -/
theorem values_push_perm (map : OrderedMap α (List γ)) (key : α) (items : List γ) :
    (map.push key items).values.flatten.Perm (map.values.flatten ++ items) := by
  have hperm := flatMap_values_alter_perm (g := id) (f := fun old => old.getD [] ++ items)
    (.refl items) (fun value => .refl (value ++ items)) map key
  rwa [List.flatMap_id, List.flatMap_id] at hperm

/-- Items added one by one bring their keys, and no others. -/
theorem mem_keys_foldl_push [LawfulBEq α] {δ : Type} (keyOf : δ → α) (itemOf : δ → γ)
    (added : List δ) (key : α) (map : OrderedMap α (List γ)) :
    key ∈ (added.foldl (fun map d => map.push (keyOf d) [itemOf d]) map).keys ↔
      key ∈ map.keys ∨ key ∈ added.map keyOf := by
  induction added generalizing map with
  | nil => simp
  | cons d rest ih =>
    rw [List.foldl_cons, ih, push, keys_alter, mem_withKey (sharp _), List.map_cons, List.mem_cons,
      or_assoc, or_left_comm]

/-- Items added one by one, each under a key of its own, are all in the values. -/
theorem values_foldl_push_perm {δ : Type} (keyOf : δ → α) (itemOf : δ → γ) (added : List δ) :
    ∀ map : OrderedMap α (List γ),
      (added.foldl (fun map d => map.push (keyOf d) [itemOf d]) map).values.flatten.Perm
        (map.values.flatten ++ added.map itemOf) := by
  induction added with
  | nil => intro map; rw [List.map_nil, List.append_nil]; exact .refl _
  | cons d rest ih =>
    intro map
    refine (ih (map.push (keyOf d) [itemOf d])).trans ?_
    have hfirst := (values_push_perm map (keyOf d) [itemOf d]).append_right (rest.map itemOf)
    rwa [List.append_assoc] at hfirst

end Values

/-! ## Look-ups -/

section Lookups

variable [BEq α]

/-- A change of a sharp key changes what is found under that key, and nothing else that is found
under sharp keys. -/
theorem get?_alter_of_sharp {key other : α} (hkey : Sharp key) (hother : Sharp other)
    (map : OrderedMap α β) (f : Option β → β) :
    (map.alter key f).get? other =
      if key == other then some (f (map.get? key)) else map.get? other := by
  obtain ⟨pairs⟩ := map
  show lookup other (alterEntries key f pairs) =
    if key == other then some (f (lookup key pairs)) else lookup other pairs
  induction pairs with
  | nil => simp [alterEntries, lookup]
  | cons pair rest ih =>
    obtain ⟨k, value⟩ := pair
    by_cases hk : k = key
    · subst hk
      by_cases ho : k = other
      · subst ho
        simp [alterEntries, lookup, hkey.refl]
      · simp [alterEntries, lookup, hkey.refl, hother.apart ho]
    · by_cases ho : k = other
      · subst ho
        have hne : (key == k) = false := hother.apart fun h => hk h.symm
        simp [alterEntries, lookup, hkey.apart hk, hother.refl, hne]
      · simp [alterEntries, lookup, hkey.apart hk, hother.apart ho, ih]

/-- After a change of one key, that key has the new value and every other its old one. -/
theorem get?_alter [LawfulBEq α] (map : OrderedMap α β) (key other : α) (f : Option β → β) :
    (map.alter key f).get? other =
      if key == other then some (f (map.get? key)) else map.get? other :=
  get?_alter_of_sharp (sharp key) (sharp other) map f

theorem get?_insert [LawfulBEq α] (map : OrderedMap α β) (key other : α) (value : β) :
    (map.insert key value).get? other = if key == other then some value else map.get? other :=
  get?_alter map key other fun _ => value

/-- What a change leaves in the entries: the old ones, and the one that was changed. -/
theorem mem_alter {key : α} {f : Option β → β} {map : OrderedMap α β} {entry : α × β}
    (h : entry ∈ (map.alter key f).entries) :
    entry ∈ map.entries ∨ entry = (key, f none) ∨
      ∃ old ∈ map.entries, (old.1 == key) = true ∧ entry = (old.1, f (some old.2)) := by
  obtain ⟨pairs⟩ := map
  change entry ∈ alterEntries key f pairs at h
  show entry ∈ pairs ∨ entry = (key, f none) ∨
    ∃ old ∈ pairs, (old.1 == key) = true ∧ entry = (old.1, f (some old.2))
  induction pairs with
  | nil => exact .inr (.inl (List.mem_singleton.mp h))
  | cons pair rest ih =>
    obtain ⟨k, value⟩ := pair
    cases hk : k == key with
    | true =>
      simp only [alterEntries, hk, if_true, List.mem_cons] at h
      rcases h with h | h
      · exact .inr (.inr ⟨(k, value), List.mem_cons_self, hk, h⟩)
      · exact .inl (List.mem_cons_of_mem _ h)
    | false =>
      simp only [alterEntries, hk, Bool.false_eq_true, if_false, List.mem_cons] at h
      rcases h with h | h
      · exact .inl (h ▸ List.mem_cons_self)
      · rcases ih h with hold | hnew | ⟨old, hmem, hsame, heq⟩
        · exact .inl (List.mem_cons_of_mem _ hold)
        · exact .inr (.inl hnew)
        · exact .inr (.inr ⟨old, List.mem_cons_of_mem _ hmem, hsame, heq⟩)

/-- What is found under a key stands with it in the entries. -/
theorem mem_of_get? [LawfulBEq α] {map : OrderedMap α β} {key : α} {value : β}
    (h : map.get? key = some value) : (key, value) ∈ map.entries := by
  obtain ⟨pairs⟩ := map
  change lookup key pairs = some value at h
  show (key, value) ∈ pairs
  induction pairs with
  | nil => exact nomatch h
  | cons pair rest ih =>
    obtain ⟨k, old⟩ := pair
    by_cases hk : k = key
    · subst hk
      simp only [lookup, beq_self_eq_true, if_true, Option.some.injEq] at h
      exact h ▸ List.mem_cons_self
    · simp only [lookup, beq_eq_false_iff_ne.mpr hk, Bool.false_eq_true, if_false] at h
      exact List.mem_cons_of_mem _ (ih h)

/-- The entries of a map of pairs are among the pairs. -/
theorem mem_of_mem_ofList [LawfulBEq α] {pairs : List (α × β)} {entry : α × β}
    (h : entry ∈ (ofList pairs).entries) : entry ∈ pairs := by
  induction pairs using List.reverseRecOn with
  | nil => exact h
  | append_singleton pairs last ih =>
    rw [ofList_concat] at h
    rcases mem_alter h with hold | rfl | ⟨old, -, hsame, rfl⟩
    · exact List.mem_append_left _ (ih hold)
    · exact List.mem_append_right _ (List.mem_singleton.mpr rfl)
    · rw [beq_iff_eq.mp hsame]
      exact List.mem_append_right _ (List.mem_singleton.mpr rfl)

/-- A change of all values changes what is found. -/
theorem get?_mapValues {γ : Type} (f : β → γ) (map : OrderedMap α β) (key : α) :
    (map.mapValues f).get? key = (map.get? key).map f := by
  obtain ⟨pairs⟩ := map
  show lookup key (pairs.map fun pair => (pair.1, f pair.2)) = (lookup key pairs).map f
  induction pairs with
  | nil => rfl
  | cons pair rest ih =>
    obtain ⟨k, value⟩ := pair
    simp only [List.map_cons, lookup, ih]
    split <;> rfl

end Lookups

/-! ## Items grouped by key -/

section Grouping

variable [BEq α] [LawfulBEq α]

/-- A change of a key in a map that has each of its keys once. -/
theorem alterEntries_map {keys : List α} (hkeys : keys.Nodup) (value : α → β) (key : α)
    (f : Option β → β) :
    alterEntries key f (keys.map fun k => (k, value k)) =
      (keys.map fun k => (k, if k == key then f (some (value k)) else value k)) ++
        if key ∈ keys then [] else [(key, f none)] := by
  induction keys with
  | nil => simp [alterEntries]
  | cons k rest ih =>
    obtain ⟨hnot, hrest⟩ := List.nodup_cons.mp hkeys
    by_cases hk : k = key
    · subst hk
      have hsame : ∀ other ∈ rest, (other, value other) =
          (other, if other == k then f (some (value other)) else value other) := by
        intro other hother
        have hne : (other == k) = false := beq_eq_false_iff_ne.mpr fun h => hnot (h ▸ hother)
        rw [hne, if_neg Bool.false_ne_true]
      simp [alterEntries, List.map_congr_left hsame]
    · have hk' : (k == key) = false := beq_eq_false_iff_ne.mpr hk
      simp only [List.map_cons, alterEntries, hk', Bool.false_eq_true, if_false, ih hrest,
        List.cons_append, List.mem_cons, Ne.symm hk, false_or]

/-- A key after others is kept if it is none of them. -/
theorem eraseDups_concat (keys : List α) (key : α) :
    (keys ++ [key]).eraseDups = keys.eraseDups ++ if key ∈ keys then [] else [key] := by
  rw [List.eraseDups_append]
  congr 1
  by_cases h : key ∈ keys
  · simp [List.removeAll, h]
  · simp [List.removeAll, h, List.eraseDups_cons]

/-- The first appearances of keys are of different keys. -/
theorem nodup_eraseDups (keys : List α) : keys.eraseDups.Nodup := by
  induction keys using List.reverseRecOn with
  | nil => exact List.nodup_nil
  | append_singleton keys last ih =>
    rw [eraseDups_concat]
    by_cases hmem : last ∈ keys
    · rwa [if_pos hmem, List.append_nil]
    · rw [if_neg hmem]
      refine List.nodup_append.mpr ⟨ih, List.pairwise_singleton _ _, ?_⟩
      intro key hkey other hother heq
      rw [heq, List.mem_singleton.mp hother] at hkey
      exact hmem (List.mem_eraseDups.mp hkey)

/-- Items grouped by key: the keys in the order of their first appearance, each with its items in
their order. -/
theorem entries_foldl_push {γ : Type} (keyOf : γ → α) (items : List γ) :
    (items.foldl (fun (map : OrderedMap α (List γ)) item => map.push (keyOf item) [item])
        .empty).entries =
      (items.map keyOf).eraseDups.map fun key => (key, items.filter (keyOf · == key)) := by
  induction items using List.reverseRecOn with
  | nil => rfl
  | append_singleton items last ih =>
    rw [List.foldl_append, List.foldl_cons, List.foldl_nil]
    show alterEntries _ _ (OrderedMap.entries _) = _
    rw [ih, alterEntries_map (nodup_eraseDups _), List.map_append, List.map_singleton,
      eraseDups_concat, List.map_append]
    congr 1
    · refine List.map_congr_left fun key _ => ?_
      cases hkey : key == keyOf last with
      | true =>
        obtain rfl := beq_iff_eq.mp hkey
        simp
      | false =>
        have hother : (keyOf last == key) = false :=
          beq_eq_false_iff_ne.mpr (beq_eq_false_iff_ne.mp hkey).symm
        simp [hother]
    · by_cases hmem : keyOf last ∈ items.map keyOf
      · simp only [List.mem_eraseDups, hmem, if_true, List.map_nil]
      · have hnone : items.filter (keyOf · == keyOf last) = [] := by
          refine List.filter_eq_nil_iff.mpr fun item hitem hsame => hmem ?_
          exact List.mem_map.mpr ⟨item, hitem, beq_iff_eq.mp hsame⟩
        simp only [List.mem_eraseDups, hmem, if_false, List.map_singleton, List.filter_append,
          hnone, Option.getD_none, List.nil_append, List.filter_singleton, beq_self_eq_true,
          cond_true]

end Grouping

/-- A change of all values leaves the keys. -/
theorem keys_mapValues {γ : Type} (f : β → γ) (map : OrderedMap α β) :
    (map.mapValues f).keys = map.keys := by
  unfold keys mapValues
  rw [List.map_map]
  rfl

end Crosscheck.OrderedMap
