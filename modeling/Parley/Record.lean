import Parley.Entries

/-!
# Records

A record maps pairwise distinct text keys to values of one type and keeps the order in which the
keys were first inserted. Records are equal when their entries are, order included.
-/

namespace Parley

/-- Keyed entries in order of insertion; no key stands twice. -/
structure Record (α : Type) where
  entries : List (String × α)
  distinct : (Entries.keys entries).Nodup := by simp [Entries.keys]
deriving DecidableEq

namespace Record

variable {α : Type}

/-- The record without entries. -/
def empty : Record α := { entries := [] }

instance : Inhabited (Record α) := ⟨empty⟩

/-- The keys in order. -/
def keys (r : Record α) : List String := Entries.keys r.entries

/-- The entry of a key. -/
def get? (r : Record α) (key : String) : Option α := Entries.get? r.entries key

/-- The key has an entry. -/
def contains (r : Record α) (key : String) : Bool := (r.get? key).isSome

theorem eq_of_entries {r r' : Record α} (h : r.entries = r'.entries) : r = r' := by
  cases r
  cases r'
  cases h
  rfl

/-- Replaces the entry of a present key where it stands; adds an absent key at the end. -/
def insert (r : Record α) (key : String) (a : α) : Record α :=
  ⟨Entries.insert r.entries key a, Entries.keys_insert_nodup r.distinct key a⟩

/-- An absent key goes to the end. -/
theorem entries_insert_of_not_mem {r : Record α} {key : String} (h : key ∉ r.keys) (a : α) :
    (r.insert key a).entries = r.entries ++ [(key, a)] :=
  Entries.insert_of_not_mem h a

theorem keys_insert_of_not_mem {r : Record α} {key : String} (h : key ∉ r.keys) (a : α) :
    (r.insert key a).keys = r.keys ++ [key] :=
  Entries.keys_insert_of_not_mem h a

/-- `insert` together with the entry that it replaced. -/
def replace (r : Record α) (key : String) (a : α) : Option α × Record α :=
  (r.get? key, r.insert key a)

/-- Inserts the pairs of a list one after the other. -/
def ofList (pairs : List (String × α)) : Record α :=
  pairs.foldl (fun r p => r.insert p.1 p.2) empty

/-- The number of entries. -/
def size (r : Record α) : Nat := r.entries.length

/-- There is no entry. -/
def isEmpty (r : Record α) : Bool := r.entries.isEmpty

end Record

end Parley
