import Mathlib.Data.Finmap

/-!
# Finite tables

Finite maps with the access pattern of a hash table whose index operator creates missing entries:
`Table.value` is the value such an access sees. The order of the entries and the hash function are
not observable, so a table is a `Finmap`. Lookups after an update are stated as a case split on
the key.
-/

/-- A finite map from keys to values. -/
abbrev Table (κ ν : Type*) := Finmap fun _ : κ => ν

namespace Table

variable {κ ν : Type*} [DecidableEq κ]

/-- The value an index access sees: the stored one, or a fresh default. -/
def value [Inhabited ν] (table : Table κ ν) (key : κ) : ν := (table.lookup key).getD default

/-- An entry that is inserted is found, and the others are left alone. -/
theorem lookup_insert (table : Table κ ν) (key key' : κ) (value : ν) :
    Finmap.lookup key' (Finmap.insert key value table)
      = if key' = key then some value else table.lookup key' := by
  by_cases h : key' = key
  · rw [if_pos h, h, Finmap.lookup_insert]
  · rw [if_neg h, Finmap.lookup_insert_of_ne _ h]

/-- The value read back is the one that was inserted. -/
theorem value_insert [Inhabited ν] (table : Table κ ν) (key : κ) (value : ν) :
    Table.value (Finmap.insert key value table) key = value := by
  rw [Table.value, lookup_insert, if_pos rfl, Option.getD_some]

/-- An entry that is erased is gone, and the others are left alone. -/
theorem lookup_erase (table : Table κ ν) (key key' : κ) :
    Finmap.lookup key' (Finmap.erase key table)
      = if key' = key then none else table.lookup key' := by
  by_cases h : key' = key
  · rw [if_pos h, h, Finmap.lookup_erase]
  · rw [if_neg h, Finmap.lookup_erase_ne h]

end Table
