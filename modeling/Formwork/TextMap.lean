/-!
# Finite maps from texts

A `TextMap` lists its entries by strictly ascending key, so each key occurs once and two maps with
the same entries are equal. Whatever is written out key by key (extra input attributes, recorded
rows, registered names) is written in this order. The order of texts is that of their code points.

The operations are first given on plain entry lists, because the posted tree nests such lists inside
itself; the structure adds the order.
-/

namespace Formwork

universe u

/-- Entries of a map, without the promise that the keys ascend. -/
abbrev Entries (α : Type u) := List (String × α)

namespace Entries

variable {α : Type u}

/-- The value of the first entry with the given key. -/
def get? (key : String) : Entries α → Option α
  | [] => none
  | (k, v) :: rest => if key = k then some v else get? key rest

/-- Writes a value at its place in key order, replacing the value of an equal key. -/
def insert (key : String) (value : α) : Entries α → Entries α
  | [] => [(key, value)]
  | (k, v) :: rest =>
    if key < k then (key, value) :: (k, v) :: rest
    else if key = k then (key, value) :: rest
    else (k, v) :: insert key value rest

/-- Leaves out every entry with the given key. -/
def erase (key : String) (entries : Entries α) : Entries α :=
  entries.filter fun entry => entry.1 ≠ key

/-- Keys ascend strictly. -/
def Ascending (entries : Entries α) : Prop :=
  entries.Pairwise fun left right => left.1 < right.1

/-- What is there after a write was written by it or was there before. -/
theorem mem_insert {key : String} {value : α} {entries : Entries α} {entry : String × α}
    (h : entry ∈ insert key value entries) : entry = (key, value) ∨ entry ∈ entries := by
  induction entries with
  | nil => simpa [insert] using h
  | cons head rest ih =>
    obtain ⟨k, v⟩ := head
    simp only [insert] at h
    split at h
    · simpa using h
    · split at h
      · rcases List.mem_cons.1 h with h | h
        · exact .inl h
        · exact .inr (List.mem_cons_of_mem _ h)
      · rcases List.mem_cons.1 h with h | h
        · exact .inr (by simp [h])
        · rcases ih h with h | h
          · exact .inl h
          · exact .inr (List.mem_cons_of_mem _ h)

/-- A write keeps keys in order: the entry stands in front of the first greater key. -/
theorem Ascending.insert {entries : Entries α} (h : Ascending entries) (key : String) (value : α) :
    Ascending (entries.insert key value) := by
  induction entries with
  | nil => simp [Entries.insert, Ascending]
  | cons head rest ih =>
    obtain ⟨k, v⟩ := head
    obtain ⟨below, ordered⟩ := List.pairwise_cons.1 h
    simp only [Entries.insert]
    split
    · rename_i less
      refine List.pairwise_cons.2 ⟨fun entry member => ?_, h⟩
      rcases List.mem_cons.1 member with rfl | member
      · exact less
      · exact String.lt_trans less (below entry member)
    · split
      · rename_i same
        subst same
        exact List.pairwise_cons.2 ⟨below, ordered⟩
      · rename_i notLess notSame
        refine List.pairwise_cons.2 ⟨fun entry member => ?_, ih ordered⟩
        rcases mem_insert member with rfl | member
        · rcases Classical.em (k < key) with less | notAbove
          · exact less
          · exact absurd (String.le_antisymm notAbove notLess) notSame
        · exact below entry member

/-- So does leaving a key out. -/
theorem Ascending.erase {entries : Entries α} (h : Ascending entries) (key : String) :
    Ascending (entries.erase key) :=
  h.filter _

end Entries

/-- A finite map from texts, listed by strictly ascending key. -/
structure TextMap (α : Type u) where
  /-- The entries in key order. -/
  entries : Entries α
  /-- No key occurs twice, and keys are in order. -/
  ascending : entries.Ascending
deriving DecidableEq

namespace TextMap

variable {α : Type u}

/-- The map without entries. -/
def empty : TextMap α := ⟨[], List.Pairwise.nil⟩

instance : EmptyCollection (TextMap α) := ⟨empty⟩

instance : Inhabited (TextMap α) := ⟨empty⟩

/-- The value under a key. -/
def get? (map : TextMap α) (key : String) : Option α := map.entries.get? key

/-- A key has a value. -/
def contains (map : TextMap α) (key : String) : Bool := (map.get? key).isSome

/-- The map with one value written. -/
def insert (map : TextMap α) (key : String) (value : α) : TextMap α :=
  ⟨map.entries.insert key value, map.ascending.insert key value⟩

/-- The map without one key. -/
def erase (map : TextMap α) (key : String) : TextMap α :=
  ⟨map.entries.erase key, map.ascending.erase key⟩

/-- Writes entries one after another; a later value replaces an earlier one. -/
def insertAll (map : TextMap α) (entries : Entries α) : TextMap α :=
  entries.foldl (fun map (key, value) => map.insert key value) map

/-- The map of the given entries; of equal keys the last wins. -/
def ofList (entries : Entries α) : TextMap α := empty.insertAll entries

/-- The keys in ascending order. -/
def keys (map : TextMap α) : List String := map.entries.map (·.1)

/-- The values in the order of their keys. -/
def values (map : TextMap α) : List α := map.entries.map (·.2)

/-- The number of entries. -/
def size (map : TextMap α) : Nat := map.entries.length

/-- No key has a value. -/
def isEmpty (map : TextMap α) : Bool := map.entries.isEmpty

/-- Keeps the entries whose value passes a test. -/
def filterValues (map : TextMap α) (keep : α → Bool) : TextMap α :=
  ⟨map.entries.filter fun entry => keep entry.2, map.ascending.filter _⟩

/-- Applies a function to the value under a key, if there is one. -/
def modify (map : TextMap α) (key : String) (change : α → α) : TextMap α :=
  match map.get? key with
  | some value => map.insert key (change value)
  | none => map

/-- A map is given by its entries. -/
theorem eq_of_entries {left right : TextMap α} (h : left.entries = right.entries) :
    left = right := by
  cases left; cases right; cases h; rfl

end TextMap

end Formwork
