import PcapConstrictor.Common.ByteString
import PcapConstrictor.Common.Transducer

/-!
# Guarded computations

A second reading of a program over byte buffers and fixed-size arrays, in which every access,
unsigned subtraction and narrowing conversion is tested where the program performs it. A test that
fails ends the computation with a `Fault`; so does a loop that outlives its fuel, and a branch
that is declared unreachable. A program is free of such errors when its guarded reading returns
what the plain one does: each operation below has one lemma of that form, with the side condition
that makes the test pass.
-/

open ByteString

namespace Guarded

/-- What a guarded computation tests for. -/
inductive Fault
  /-- A read outside a buffer or an array. -/
  | read
  /-- A write outside an array. -/
  | write
  /-- An unsigned subtraction with a negative result. -/
  | subtraction
  /-- A conversion to 32 bits that loses information. -/
  | narrowing
  /-- A loop that has not ended within its fuel. -/
  | endless
  /-- A branch that must not be taken. -/
  | unreachable
deriving DecidableEq, Repr

end Guarded

/-- A computation that ends with a value or at its first fault. -/
abbrev Guarded (α : Type) := Except Guarded.Fault α

namespace Guarded

variable {α β : Type}

/-- A checked computation goes on behind a step that did not fault. -/
@[simp] theorem ok_bind (a : α) (f : α → Guarded β) :
    ((Except.ok a : Guarded α) >>= f) = f a := rfl

@[simp] theorem pure_eq_ok (a : α) : (pure a : Guarded α) = .ok a := rfl

/-- A fold whose steps do not fault is the plain fold. -/
theorem foldlM_eq_ok {f : β → α → Guarded β} (g : β → α → β) (xs : List α)
    (h : ∀ a ∈ xs, ∀ b, f b a = .ok (g b a)) (b : β) : xs.foldlM f b = .ok (xs.foldl g b) := by
  induction xs generalizing b with
  | nil => rfl
  | cons a xs ih =>
    rw [List.foldlM_cons, h a List.mem_cons_self, ok_bind, List.foldl_cons]
    apply ih
    intro a' ha'
    exact h a' (List.mem_cons_of_mem a ha')

/-! ## Runs -/

/-- A run over a list of inputs: the last state and the outputs in order, or the first fault. -/
def run {σ ι ο : Type} (step : σ → ι → Guarded (σ × ο)) (s : σ) :
    List ι → Guarded (σ × List ο)
  | [] => return (s, [])
  | x :: inputs => do
    let next ← step s x
    let rest ← run step next.1 inputs
    return (rest.1, next.2 :: rest.2)

/-- **Run rule.** When no step faults on the inputs, no run over them does, from any state, and it
is the run of the plain step. -/
theorem run_eq_ok {σ ι ο : Type} {step : σ → ι → Guarded (σ × ο)} {plain : σ → ι → σ × ο}
    {inputs : List ι} (hstep : ∀ s, ∀ x ∈ inputs, step s x = .ok (plain s x)) (s : σ) :
    run step s inputs
      = .ok (Transducer.after plain s inputs, Transducer.outputs plain s inputs) := by
  induction inputs generalizing s with
  | nil => rfl
  | cons x inputs ih =>
    have hrest := ih fun s' x' hx' => hstep s' x' (List.mem_cons_of_mem x hx')
    rw [run, hstep s x List.mem_cons_self, ok_bind, hrest, ok_bind]
    rfl

/-! ## Arithmetic -/

/-- Unsigned subtraction. -/
def sub (a b : ℕ) : Guarded ℕ := if b ≤ a then .ok (a - b) else .error .subtraction

/-- Subtraction of 32-bit values. -/
def sub32 (a b : UInt32) : Guarded UInt32 := if b ≤ a then .ok (a - b) else .error .subtraction

/-- Conversion to 32 bits. -/
def narrow32 (a : ℕ) : Guarded UInt32 :=
  if a < 2 ^ 32 then .ok (UInt32.ofNat a) else .error .narrowing

/-- A subtraction that does not go below zero is the plain one. -/
theorem sub_eq {a b : ℕ} (h : b ≤ a) : sub a b = .ok (a - b) := if_pos h

theorem sub32_eq {a b : UInt32} (h : b ≤ a) : sub32 a b = .ok (a - b) := if_pos h

/-- A narrowing that keeps the value is the plain one. -/
theorem narrow32_eq {a : ℕ} (h : a < 2 ^ 32) : narrow32 a = .ok (UInt32.ofNat a) := if_pos h

/-! ## Buffers -/

section Buffers

variable {bytes : Bytes} {offset count : ℕ}

/-- The byte at `offset`. -/
def readAt (bytes : Bytes) (offset : ℕ) : Guarded UInt8 :=
  if h : offset < bytes.length then .ok bytes[offset] else .error .read

/-- A read inside the buffer is the plain one. -/
theorem readAt_eq (h : offset < bytes.length) :
    readAt bytes offset = .ok (byteAt bytes offset) := by
  rw [readAt, dif_pos h, byteAt, List.getElem_eq_getD 0]

/-- The sub-span of `count` bytes from `offset` on; a span that leaves the buffer is a read outside
of it. -/
def span (bytes : Bytes) (offset count : ℕ) : Guarded Bytes :=
  if offset + count ≤ bytes.length then .ok (subspan bytes offset count) else .error .read

/-- A span inside the buffer is the plain one. -/
theorem span_eq (h : offset + count ≤ bytes.length) :
    span bytes offset count = .ok (subspan bytes offset count) := if_pos h

/-- The range test: the subtraction is reached only where it is harmless. -/
def hasBytes (bytes : Bytes) (offset count : ℕ) : Guarded Bool :=
  if offset ≤ bytes.length then do
    let available ← sub bytes.length offset
    return decide (count ≤ available)
  else
    return false

/-- The bounds check itself never faults. -/
@[simp] theorem hasBytes_eq (bytes : Bytes) (offset count : ℕ) :
    hasBytes bytes offset count = .ok (decide (HasBytes bytes offset count)) := by
  unfold hasBytes HasBytes
  by_cases h : offset ≤ bytes.length
  · simp [h, sub_eq]
  · simp [h]

/-- Big-endian 16-bit read. -/
def readBe16 (bytes : Bytes) (offset : ℕ) : Guarded UInt16 := do
  let b0 ← readAt bytes offset
  let b1 ← readAt bytes (offset + 1)
  return b0.toUInt16 <<< 8 ||| b1.toUInt16

theorem readBe16_eq (h : offset + 2 ≤ bytes.length) :
    readBe16 bytes offset = .ok (ByteString.readBe16 bytes offset) := by
  rw [readBe16, readAt_eq (by omega), ok_bind, readAt_eq (by omega), ok_bind]
  rfl

/-- Little-endian 32-bit read. -/
def readLe32 (bytes : Bytes) (offset : ℕ) : Guarded UInt32 := do
  let b0 ← readAt bytes offset
  let b1 ← readAt bytes (offset + 1)
  let b2 ← readAt bytes (offset + 2)
  let b3 ← readAt bytes (offset + 3)
  return b0.toUInt32 ||| b1.toUInt32 <<< 8 ||| b2.toUInt32 <<< 16 ||| b3.toUInt32 <<< 24

/-- A 32-bit read inside the buffer is the plain one. -/
theorem readLe32_eq (h : offset + 4 ≤ bytes.length) :
    readLe32 bytes offset = .ok (ByteString.readLe32 bytes offset) := by
  rw [readLe32, readAt_eq (by omega), ok_bind, readAt_eq (by omega), ok_bind,
    readAt_eq (by omega), ok_bind, readAt_eq (by omega), ok_bind]
  rfl

/-- Big-endian 32-bit read. -/
def readBe32 (bytes : Bytes) (offset : ℕ) : Guarded UInt32 := do
  let b0 ← readAt bytes offset
  let b1 ← readAt bytes (offset + 1)
  let b2 ← readAt bytes (offset + 2)
  let b3 ← readAt bytes (offset + 3)
  return b0.toUInt32 <<< 24 ||| b1.toUInt32 <<< 16 ||| b2.toUInt32 <<< 8 ||| b3.toUInt32

theorem readBe32_eq (h : offset + 4 ≤ bytes.length) :
    readBe32 bytes offset = .ok (ByteString.readBe32 bytes offset) := by
  rw [readBe32, readAt_eq (by omega), ok_bind, readAt_eq (by omega), ok_bind,
    readAt_eq (by omega), ok_bind, readAt_eq (by omega), ok_bind]
  rfl

end Buffers

/-! ## Arrays -/

section Arrays

variable {n : ℕ} {array : Vector UInt8 n} {bytes : Bytes} {offset index count : ℕ}

/-- The array cell `index`. -/
def readCell (array : Vector UInt8 n) (index : ℕ) : Guarded UInt8 :=
  if h : index < n then .ok array[index] else .error .read

/-- A read inside the array is the plain one. -/
theorem readCell_eq (h : index < n) : readCell array index = .ok array[index] := dif_pos h

/-- The array with `value` in cell `index`. -/
def writeCell (array : Vector UInt8 n) (index : ℕ) (value : UInt8) : Guarded (Vector UInt8 n) :=
  if h : index < n then .ok (array.set index value h) else .error .write

theorem writeCell_eq {value : UInt8} (h : index < n) :
    writeCell array index value = .ok (array.set index value h) := dif_pos h

/-- The first `count` cells, read one after the other. -/
def readCells (array : Vector UInt8 n) : ℕ → Guarded Bytes
  | 0 => return []
  | count + 1 => do
    let front ← readCells array count
    let last ← readCell array count
    return front ++ [last]

/-- A run of reads inside the array gives its first cells. -/
theorem readCells_eq (h : count ≤ n) :
    readCells array count = .ok (array.toList.take count) := by
  induction count with
  | zero => rfl
  | succ count ih =>
    have hlt : count < array.toList.length := by
      rw [Vector.length_toList]
      exact h
    rw [readCells, ih (by omega), ok_bind, readCell_eq h, ok_bind, List.take_add_one,
      List.getElem?_eq_getElem hlt, Vector.getElem_toList]
    rfl

/-- `count` bytes of the buffer copied to the front of the array, one after the other. -/
def copyCells (array : Vector UInt8 n) (bytes : Bytes) (offset : ℕ) :
    ℕ → Guarded (Vector UInt8 n)
  | 0 => return array
  | count + 1 => do
    let array ← copyCells array bytes offset count
    let value ← readAt bytes (offset + count)
    writeCell array count value

/-- A copy that stays inside both the buffer and the array. -/
theorem copyCells_eq (hread : offset + count ≤ bytes.length) (hwrite : count ≤ n) :
    copyCells array bytes offset count
      = .ok (Vector.ofFn fun i =>
          if i.val < count then byteAt bytes (offset + i.val) else array[i]) := by
  induction count with
  | zero =>
    refine congrArg Except.ok (Vector.ext ?_)
    intro i hi
    simp
  | succ count ih =>
    rw [copyCells, ih (by omega) (by omega), ok_bind, readAt_eq (by omega), ok_bind,
      writeCell_eq hwrite]
    refine congrArg Except.ok (Vector.ext ?_)
    intro i hi
    -- cell `count` is the new one, the others are those of the shorter copy
    rw [Vector.getElem_set, Vector.getElem_ofFn, Vector.getElem_ofFn]
    by_cases heq : count = i
    · subst heq
      rw [if_pos rfl, if_pos (Nat.lt_succ_self count)]
    · rw [if_neg heq]
      have hiff : i < count ↔ i < count + 1 := by omega
      exact if_congr hiff rfl rfl

/-- Whether `count` cells from `index` on are the bytes from `offset` on; ends at the first
difference. -/
def equalCells (array : Vector UInt8 n) (bytes : Bytes) (index offset : ℕ) : ℕ → Guarded Bool
  | 0 => return true
  | count + 1 => do
    let left ← readCell array index
    let right ← readAt bytes offset
    if left = right then equalCells array bytes (index + 1) (offset + 1) count else return false

/-- Comparing cells with bytes inside both bounds compares the two spans. -/
theorem equalCells_eq (hcells : index + count ≤ n) (hbytes : offset + count ≤ bytes.length) :
    equalCells array bytes index offset count
      = .ok (subspan array.toList index count == subspan bytes offset count) := by
  induction count generalizing index offset with
  | zero => simp [equalCells, subspan]
  | succ count ih =>
    have hindex : index < array.toList.length := by
      rw [Vector.length_toList]
      omega
    rw [equalCells, readCell_eq (by omega), ok_bind, readAt_eq (by omega), ok_bind,
      ih (by omega) (by omega), subspan_succ hindex, subspan_succ (by omega),
      byteAt_toList array (by omega), List.cons_beq_cons]
    by_cases heq : array[index] = byteAt bytes offset
    · rw [if_pos heq, heq, beq_self_eq_true, Bool.true_and]
    · rw [if_neg heq, beq_eq_false_iff_ne.mpr heq, Bool.false_and]
      rfl

end Arrays

end Guarded
