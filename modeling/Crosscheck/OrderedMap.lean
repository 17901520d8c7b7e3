/-!
# Maps that remember order

A finite map as a list of pairs in the order in which the keys first came. Writing a key that is
there changes its value and not its place.
-/

namespace Crosscheck

/-- A finite map whose keys stand in the order of their first arrival. -/
structure OrderedMap (α β : Type) where
  entries : List (α × β)
  deriving DecidableEq, Repr

namespace OrderedMap

variable {α β γ : Type}

/-- The map without entries. -/
def empty : OrderedMap α β := ⟨[]⟩

instance : Inhabited (OrderedMap α β) := ⟨empty⟩
instance : EmptyCollection (OrderedMap α β) := ⟨empty⟩

/-- The keys in order. -/
def keys (map : OrderedMap α β) : List α := map.entries.map (·.1)

/-- The values in the order of their keys. -/
def values (map : OrderedMap α β) : List β := map.entries.map (·.2)

/-- The number of keys. -/
def size (map : OrderedMap α β) : Nat := map.entries.length

/-- Changes every value. -/
def mapValues (f : β → γ) (map : OrderedMap α β) : OrderedMap α γ :=
  ⟨map.entries.map fun (key, value) => (key, f value)⟩

section Lookup

variable [BEq α]

/-- The value of a key in a list of pairs. -/
def lookup (key : α) : List (α × β) → Option β
  | [] => none
  | (k, value) :: rest => if k == key then some value else lookup key rest

/-- The value of a key. -/
def get? (map : OrderedMap α β) (key : α) : Option β := lookup key map.entries

/-- Whether the map has a key. -/
def contains (map : OrderedMap α β) (key : α) : Bool := (map.get? key).isSome

/-- Pairs with the value of a key set by what it was. -/
def alterEntries (key : α) (f : Option β → β) : List (α × β) → List (α × β)
  | [] => [(key, f none)]
  | (k, value) :: rest =>
    if k == key then (k, f (some value)) :: rest else (k, value) :: alterEntries key f rest

/-- Sets the value of a key by what it was. -/
def alter (map : OrderedMap α β) (key : α) (f : Option β → β) : OrderedMap α β :=
  ⟨alterEntries key f map.entries⟩

/-- Sets the value of a key. -/
def insert (map : OrderedMap α β) (key : α) (value : β) : OrderedMap α β :=
  map.alter key fun _ => value

/-- Adds items at the end of the list of a key. -/
def push {β : Type} (map : OrderedMap α (List β)) (key : α) (items : List β) :
    OrderedMap α (List β) :=
  map.alter key fun old => old.getD [] ++ items

/-- A map of pairs; of two pairs with one key the later value stays. -/
def ofList (pairs : List (α × β)) : OrderedMap α β :=
  pairs.foldl (fun map (key, value) => map.insert key value) empty

end Lookup

end OrderedMap

end Crosscheck
