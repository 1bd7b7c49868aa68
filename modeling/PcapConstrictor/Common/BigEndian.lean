import Mathlib.Data.List.Induction
import PcapConstrictor.Common.Encoding

/-!
# Big-endian numbers of any width

`valueBe` is the number that a byte string stands for, most significant byte first, and `encodeBe n`
writes a number into `n` bytes. The two are inverse on byte strings of `n` bytes and numbers below
`256 ^ n`.
-/

namespace ByteString

/-- The number that `bytes` stand for, most significant byte first. -/
def valueBe (bytes : Bytes) : ℕ := bytes.foldl (fun value byte => 256 * value + byte.toNat) 0

/-- The `n` lowest bytes of a number, most significant byte first. -/
def encodeBe : ℕ → ℕ → Bytes
  | 0, _ => []
  | n + 1, value => UInt8.ofNat (value / 256 ^ n) :: encodeBe n value

/-- An encoding is as long as asked, whatever the value. -/
@[simp] theorem length_encodeBe (n value : ℕ) : (encodeBe n value).length = n := by
  induction n with
  | zero => rfl
  | succ n ih => rw [encodeBe, List.length_cons, ih]

/-- One more byte at the end multiplies by 256 what stands in front of it. -/
theorem valueBe_concat (bytes : Bytes) (byte : UInt8) :
    valueBe (bytes ++ [byte]) = 256 * valueBe bytes + byte.toNat := by
  rw [valueBe, List.foldl_append]
  rfl

/-- The front part counts with the weight of the back part's length. -/
theorem valueBe_append (front back : Bytes) :
    valueBe (front ++ back) = valueBe front * 256 ^ back.length + valueBe back := by
  induction back using List.reverseRecOn with
  | nil => simp [valueBe]
  | append_singleton back byte ih =>
    rw [← List.append_assoc, valueBe_concat, valueBe_concat, ih, List.length_append,
      List.length_singleton, Nat.pow_succ]
    ring

/-- The first byte has the highest weight. -/
theorem valueBe_cons (byte : UInt8) (bytes : Bytes) :
    valueBe (byte :: bytes) = byte.toNat * 256 ^ bytes.length + valueBe bytes := by
  rw [← List.singleton_append, valueBe_append]
  simp [valueBe]

/-- A value stays below the power of its length. -/
theorem valueBe_lt (bytes : Bytes) : valueBe bytes < 256 ^ bytes.length := by
  induction bytes with
  | nil => exact Nat.one_pos
  | cons byte bytes ih =>
    have hbyte := byte.toNat_lt
    rw [valueBe_cons, List.length_cons, Nat.pow_succ]
    calc byte.toNat * 256 ^ bytes.length + valueBe bytes
        < byte.toNat * 256 ^ bytes.length + 256 ^ bytes.length := Nat.add_lt_add_left ih _
      _ = (byte.toNat + 1) * 256 ^ bytes.length := by ring
      _ ≤ 256 * 256 ^ bytes.length := Nat.mul_le_mul_right _ (by omega)
      _ = 256 ^ bytes.length * 256 := Nat.mul_comm _ _

/-- Encoding keeps a value up to the power of the length. -/
theorem valueBe_encodeBe (n value : ℕ) : valueBe (encodeBe n value) = value % 256 ^ n := by
  induction n with
  | zero => rw [Nat.pow_zero, Nat.mod_one]; rfl
  | succ n ih =>
    rw [encodeBe, valueBe_cons, ih, length_encodeBe, Nat.mod_pow_succ, UInt8.toNat_ofNat',
      Nat.mul_comm, Nat.add_comm]

/-- A byte string of `n` bytes is the encoding of its value, and of any number that agrees with it
in the `n` lowest bytes. -/
theorem encodeBe_eq {n value : ℕ} {bytes : Bytes} (hlength : bytes.length = n)
    (h : value % 256 ^ n = valueBe bytes) : encodeBe n value = bytes := by
  induction bytes generalizing n with
  | nil =>
    subst hlength
    rfl
  | cons byte bytes ih =>
    subst hlength
    have hlt := valueBe_lt bytes
    have hbyte := byte.toNat_lt
    rw [List.length_cons, valueBe_cons, Nat.mod_pow_succ] at h
    have hpos : 0 < 256 ^ bytes.length := Nat.pow_pos (by decide)
    -- both sides are a byte and a remainder below `256 ^ bytes.length`
    have hmod := Nat.mod_lt value hpos
    have hdigit : value / 256 ^ bytes.length % 256 = byte.toNat := by
      calc value / 256 ^ bytes.length % 256
          = (value % 256 ^ bytes.length
              + 256 ^ bytes.length * (value / 256 ^ bytes.length % 256)) / 256 ^ bytes.length := by
            rw [Nat.add_mul_div_left _ _ hpos, Nat.div_eq_of_lt hmod, Nat.zero_add]
        _ = (byte.toNat * 256 ^ bytes.length + valueBe bytes) / 256 ^ bytes.length := by rw [h]
        _ = byte.toNat := by
            rw [Nat.mul_comm, Nat.mul_add_div hpos, Nat.div_eq_of_lt hlt, Nat.add_zero]
    rw [hdigit, Nat.mul_comm, Nat.add_comm] at h
    rw [List.length_cons, encodeBe, ih rfl (Nat.add_left_cancel h), List.cons_eq_cons,
      ← UInt8.toNat_inj, UInt8.toNat_ofNat']
    exact ⟨hdigit, rfl⟩

/-- An encoded value stands where there is room for it and the span has that value. -/
theorem holds_encodeBe {bytes : Bytes} {offset n value : ℕ} :
    Holds bytes offset (encodeBe n value)
      ↔ offset + n ≤ bytes.length ∧ valueBe (subspan bytes offset n) = value % 256 ^ n := by
  rw [holds_iff_subspan, length_encodeBe]
  constructor
  · rintro ⟨hle, hchunk⟩
    rw [hchunk, valueBe_encodeBe]
    exact ⟨hle, rfl⟩
  · rintro ⟨hle, hvalue⟩
    exact ⟨hle, (encodeBe_eq (length_subspan hle) hvalue.symm).symm⟩

end ByteString
