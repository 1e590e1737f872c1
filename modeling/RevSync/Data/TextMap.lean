/-!
# Maps keyed by text

A `TextMap` lists its entries in increasing key order with each key once. That order is the
order in which every map of this library is shown and traversed: by key, byte for byte.
Operations keep the order; `get?` reads the value of a key.
-/

namespace RevSync

/-- Entries in increasing key order, each key once. -/
abbrev TextMap (α : Type) := List (String × α)

namespace TextMap

variable {α : Type}

/-- The empty map. -/
def empty : TextMap α := []

/-- The keys strictly increase along the entries. -/
def Sorted (m : TextMap α) : Prop := m.Pairwise fun a b => a.1 < b.1

instance (m : TextMap α) : Decidable (Sorted m) :=
  inferInstanceAs (Decidable (m.Pairwise fun a b => a.1 < b.1))

/-- The value under a key. -/
def get? (m : TextMap α) (key : String) : Option α := List.lookup key m

/-- Whether a key is present. -/
def contains (m : TextMap α) (key : String) : Bool := (m.get? key).isSome

/-- Sets the value of a key, keeping the entries in key order. -/
def insert (m : TextMap α) (key : String) (value : α) : TextMap α :=
  match m with
  | [] => [(key, value)]
  | (k, v) :: rest =>
    if key < k then (key, value) :: (k, v) :: rest
    else if key = k then (key, value) :: rest
    else (k, v) :: insert rest key value

/-- Removes a key. -/
def erase (m : TextMap α) (key : String) : TextMap α := m.filter (·.1 != key)

/-- Builds a map from pairs in any order; a later pair wins over an earlier one. -/
def ofList (pairs : List (String × α)) : TextMap α :=
  pairs.foldl (fun acc (k, v) => insert acc k v) []

/-- The keys in order. -/
def keys (m : TextMap α) : List String := m.map (·.1)

/-- The values in key order. -/
def values (m : TextMap α) : List α := m.map (·.2)

/-- Applies a function to every value. -/
def mapValues {β : Type} (f : α → β) (m : TextMap α) : TextMap β := m.map fun (k, v) => (k, f v)

end TextMap

end RevSync
