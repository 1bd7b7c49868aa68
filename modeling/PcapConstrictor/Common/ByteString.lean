import Mathlib.Data.List.Basic
import Mathlib.Tactic.Linarith
import Mathlib.Tactic.Ring

/-!
# Byte strings

Bounded access to a list of bytes: the range test `HasBytes`, single bytes, sub-spans, and
fixed-width integers in both byte orders. The readers are written with shifts and masks on
fixed-width integers; each comes with its value as a natural number, so that later proofs about
lengths are linear arithmetic.
-/

namespace ByteString

/-- A string of bytes. -/
abbrev Bytes := List UInt8

/-- `count` bytes are available from `offset` on. -/
def HasBytes (bytes : Bytes) (offset count : ℕ) : Prop :=
  offset ≤ bytes.length ∧ count ≤ bytes.length - offset

instance (bytes : Bytes) (offset count : ℕ) : Decidable (HasBytes bytes offset count) :=
  inferInstanceAs (Decidable (_ ∧ _))

/-- The bounds check says what it means, although it avoids the sum. -/
theorem hasBytes_iff {bytes : Bytes} {offset count : ℕ} :
    HasBytes bytes offset count ↔ offset + count ≤ bytes.length := by
  unfold HasBytes
  omega

/-- The byte at `offset`; a position past the end reads as zero. -/
def byteAt (bytes : Bytes) (offset : ℕ) : UInt8 := bytes.getD offset 0

/-- The `count` bytes from `offset` on. -/
def subspan (bytes : Bytes) (offset count : ℕ) : Bytes := (bytes.drop offset).take count

theorem length_subspan {bytes : Bytes} {offset count : ℕ} (h : offset + count ≤ bytes.length) :
    (subspan bytes offset count).length = count := by
  simp only [subspan, List.length_take, List.length_drop]
  omega

/-- A read in the front part does not see what follows it. -/
theorem byteAt_append_left {xs ys : Bytes} {i : ℕ} (h : i < xs.length) :
    byteAt (xs ++ ys) i = byteAt xs i := by
  simp [byteAt, List.getElem?_append_left h]

/-- A read behind the front part is a read of the back part. -/
theorem byteAt_append_right (xs ys : Bytes) (i : ℕ) :
    byteAt (xs ++ ys) (xs.length + i) = byteAt ys i := by
  simp only [byteAt, List.getD_eq_getElem?_getD]
  rw [List.getElem?_append_right (Nat.le_add_right _ _), Nat.add_sub_cancel_left]

/-- Bounds checks behind a front part are those of the back part. -/
theorem hasBytes_append_right (front back : Bytes) (offset count : ℕ) :
    HasBytes (front ++ back) (front.length + offset) count ↔ HasBytes back offset count := by
  rw [hasBytes_iff, hasBytes_iff, List.length_append]
  omega

/-- Spans behind a front part are spans of the back part. -/
theorem subspan_append_right (front back : Bytes) (offset count : ℕ) :
    subspan (front ++ back) (front.length + offset) count = subspan back offset count := by
  rw [subspan, ← List.drop_drop, List.drop_left]
  rfl

/-- Dropping bytes shifts the offset of a read. -/
theorem byteAt_drop (bytes : Bytes) (n i : ℕ) : byteAt (bytes.drop n) i = byteAt bytes (n + i) := by
  simp [byteAt]

/-- A read within the bytes that are kept is unchanged by a cut. -/
theorem byteAt_take {bytes : Bytes} {n i : ℕ} (h : i < n) :
    byteAt (bytes.take n) i = byteAt bytes i := by
  simp [byteAt, List.getElem?_take_of_lt h]

/-- A read in a span is a read in the buffer, from the span's offset on. -/
theorem byteAt_subspan {bytes : Bytes} {offset count i : ℕ} (h : i < count) :
    byteAt (subspan bytes offset count) i = byteAt bytes (offset + i) := by
  rw [subspan, byteAt_take h, byteAt_drop]

/-- A span is its first byte and the span behind it. -/
theorem subspan_succ {bytes : Bytes} {offset : ℕ} (h : offset < bytes.length) (count : ℕ) :
    subspan bytes offset (count + 1)
      = byteAt bytes offset :: subspan bytes (offset + 1) count := by
  rw [subspan, List.drop_eq_getElem_cons h, List.take_succ_cons, List.getElem_eq_getD 0]
  rfl

/-- A span is the span without its last byte, and that byte. -/
theorem subspan_concat {bytes : Bytes} {offset count : ℕ} (h : offset + count < bytes.length) :
    subspan bytes offset (count + 1)
      = subspan bytes offset count ++ [byteAt bytes (offset + count)] := by
  have hlt : count < (bytes.drop offset).length := by
    rw [List.length_drop]
    omega
  rw [subspan, List.take_succ_eq_append_getElem hlt, List.getElem_drop, List.getElem_eq_getD 0]
  rfl

/-- The span at the front of a buffer is a cut of it. -/
theorem subspan_zero (bytes : Bytes) (count : ℕ) : subspan bytes 0 count = bytes.take count := by
  rw [subspan, List.drop_zero]

/-- Reads of an array of fixed size and of its bytes agree. -/
theorem byteAt_toList {n : ℕ} (array : Vector UInt8 n) {i : ℕ} (h : i < n) :
    byteAt array.toList i = array[i] := by
  have hlt : i < array.toList.length := by
    rw [Vector.length_toList]
    exact h
  rw [byteAt, ← List.getElem_eq_getD (h := hlt) 0, Vector.getElem_toList]

/-! ## Fixed-width readers -/

/-- Big-endian 16-bit read. -/
def readBe16 (bytes : Bytes) (offset : ℕ) : UInt16 :=
  (byteAt bytes offset).toUInt16 <<< 8 ||| (byteAt bytes (offset + 1)).toUInt16

/-- Little-endian 16-bit read. -/
def readLe16 (bytes : Bytes) (offset : ℕ) : UInt16 :=
  (byteAt bytes offset).toUInt16 ||| (byteAt bytes (offset + 1)).toUInt16 <<< 8

/-- Big-endian 32-bit read. -/
def readBe32 (bytes : Bytes) (offset : ℕ) : UInt32 :=
  (byteAt bytes offset).toUInt32 <<< 24 ||| (byteAt bytes (offset + 1)).toUInt32 <<< 16 |||
    (byteAt bytes (offset + 2)).toUInt32 <<< 8 ||| (byteAt bytes (offset + 3)).toUInt32

/-- Little-endian 32-bit read. -/
def readLe32 (bytes : Bytes) (offset : ℕ) : UInt32 :=
  (byteAt bytes offset).toUInt32 ||| (byteAt bytes (offset + 1)).toUInt32 <<< 8 |||
    (byteAt bytes (offset + 2)).toUInt32 <<< 16 ||| (byteAt bytes (offset + 3)).toUInt32 <<< 24

/-! Behind other bytes every read finds what it finds in the byte string alone. -/

/-- A 16-bit read behind a front part is a read of the back part. -/
theorem readBe16_append_right (front back : Bytes) (offset : ℕ) :
    readBe16 (front ++ back) (front.length + offset) = readBe16 back offset := by
  simp only [readBe16, Nat.add_assoc, byteAt_append_right]

/-- A 32-bit read behind a front part is a read of the back part. -/
theorem readBe32_append_right (front back : Bytes) (offset : ℕ) :
    readBe32 (front ++ back) (front.length + offset) = readBe32 back offset := by
  simp only [readBe32, Nat.add_assoc, byteAt_append_right]

/-- Disjoint bit ranges: a bitwise or with a shifted value is a sum. -/
theorem or_shiftLeft_eq_add {a b i : ℕ} (h : a < 2 ^ i) : a ||| b <<< i = a + 2 ^ i * b := by
  rw [Nat.or_comm, ← Nat.shiftLeft_add_eq_or_of_lt h, Nat.shiftLeft_eq]
  ring

/-- A little-endian read has its first byte at the bottom. -/
theorem toNat_readLe16 (bytes : Bytes) (offset : ℕ) :
    (readLe16 bytes offset).toNat =
      (byteAt bytes offset).toNat + 256 * (byteAt bytes (offset + 1)).toNat := by
  have h0 := (byteAt bytes offset).toNat_lt
  have h1 := (byteAt bytes (offset + 1)).toNat_lt
  have hs : (byteAt bytes (offset + 1)).toNat <<< 8 % 2 ^ 16
      = (byteAt bytes (offset + 1)).toNat <<< 8 := by
    rw [Nat.shiftLeft_eq]
    omega
  simp only [readLe16, UInt16.toNat_or, UInt16.toNat_shiftLeft, UInt8.toNat_toUInt16]
  rw [show (8 : UInt16).toNat % 16 = 8 from rfl, hs, or_shiftLeft_eq_add h0]
  norm_num

/-- Reading big-endian is reading the reversed bytes little-endian. -/
theorem readBe16_eq_readLe16 (bytes : Bytes) (offset : ℕ) :
    readBe16 bytes offset
      = readLe16 [byteAt bytes (offset + 1), byteAt bytes offset] 0 := by
  simp only [readBe16, readLe16, byteAt, List.getD_cons_zero, List.getD_cons_succ]
  exact UInt16.or_comm _ _

/-- A big-endian read has its first byte at the top. -/
theorem toNat_readBe16 (bytes : Bytes) (offset : ℕ) :
    (readBe16 bytes offset).toNat =
      256 * (byteAt bytes offset).toNat + (byteAt bytes (offset + 1)).toNat := by
  rw [readBe16_eq_readLe16, toNat_readLe16]
  simp only [byteAt, List.getD_cons_zero, List.getD_cons_succ]
  omega

/-- The value of a little-endian read: no two of its four bytes overlap. -/
theorem toNat_readLe32 (bytes : Bytes) (offset : ℕ) :
    (readLe32 bytes offset).toNat =
      (byteAt bytes offset).toNat + 2 ^ 8 * (byteAt bytes (offset + 1)).toNat +
        2 ^ 16 * (byteAt bytes (offset + 2)).toNat +
        2 ^ 24 * (byteAt bytes (offset + 3)).toNat := by
  have h0 := (byteAt bytes offset).toNat_lt
  have h1 := (byteAt bytes (offset + 1)).toNat_lt
  have h2 := (byteAt bytes (offset + 2)).toNat_lt
  have h3 := (byteAt bytes (offset + 3)).toNat_lt
  have hs : ∀ (b : UInt8) (i : ℕ), i ≤ 24 → b.toNat <<< i % 2 ^ 32 = b.toNat <<< i := by
    intro b i hi
    refine Nat.mod_eq_of_lt ?_
    calc b.toNat <<< i = b.toNat * 2 ^ i := Nat.shiftLeft_eq _ _
      _ < 2 ^ 8 * 2 ^ i := Nat.mul_lt_mul_of_pos_right b.toNat_lt (Nat.two_pow_pos i)
      _ ≤ 2 ^ 8 * 2 ^ 24 := Nat.mul_le_mul_left _ (Nat.pow_le_pow_right (by norm_num) hi)
      _ = 2 ^ 32 := by norm_num
  simp only [readLe32, UInt32.toNat_or, UInt32.toNat_shiftLeft, UInt8.toNat_toUInt32]
  rw [show (8 : UInt32).toNat % 32 = 8 from rfl, show (16 : UInt32).toNat % 32 = 16 from rfl,
    show (24 : UInt32).toNat % 32 = 24 from rfl, hs _ 8 (by norm_num), hs _ 16 (by norm_num),
    hs _ 24 (by norm_num), or_shiftLeft_eq_add h0, or_shiftLeft_eq_add (i := 16) (by omega),
    or_shiftLeft_eq_add (i := 24) (by omega)]

/-- A bitwise or of four words may be read in either order. -/
theorem or_reverse (a b c d : UInt32) : a ||| b ||| c ||| d = d ||| c ||| b ||| a := by
  rw [UInt32.or_comm (a ||| b ||| c) d, UInt32.or_comm (a ||| b) c, UInt32.or_comm a b,
    ← UInt32.or_assoc, ← UInt32.or_assoc]

theorem readBe32_eq_readLe32 (bytes : Bytes) (offset : ℕ) :
    readBe32 bytes offset
      = readLe32 [byteAt bytes (offset + 3), byteAt bytes (offset + 2),
          byteAt bytes (offset + 1), byteAt bytes offset] 0 := by
  simp only [readBe32, readLe32, byteAt, List.getD_cons_zero, List.getD_cons_succ]
  exact or_reverse _ _ _ _

/-! ## Fixed-width writers -/

/-- Little-endian encoding of a 16-bit value. -/
def encodeLe16 (value : UInt16) : Bytes :=
  [(value &&& 0xFF).toUInt8, (value >>> 8 &&& 0xFF).toUInt8]

/-- Little-endian encoding of a 32-bit value. -/
def encodeLe32 (value : UInt32) : Bytes :=
  [(value &&& 0xFF).toUInt8, (value >>> 8 &&& 0xFF).toUInt8, (value >>> 16 &&& 0xFF).toUInt8,
    (value >>> 24 &&& 0xFF).toUInt8]

/-- Big-endian encoding of a 16-bit value. -/
def encodeBe16 (value : UInt16) : Bytes :=
  [(value >>> 8 &&& 0xFF).toUInt8, (value &&& 0xFF).toUInt8]

/-- Big-endian encoding of a 32-bit value. -/
def encodeBe32 (value : UInt32) : Bytes :=
  [(value >>> 24 &&& 0xFF).toUInt8, (value >>> 16 &&& 0xFF).toUInt8,
    (value >>> 8 &&& 0xFF).toUInt8, (value &&& 0xFF).toUInt8]

/-- A 16-bit integer takes two bytes, in either order. -/
@[simp] theorem length_encodeLe16 (value : UInt16) : (encodeLe16 value).length = 2 := rfl

@[simp] theorem length_encodeLe32 (value : UInt32) : (encodeLe32 value).length = 4 := rfl

@[simp] theorem length_encodeBe16 (value : UInt16) : (encodeBe16 value).length = 2 := rfl

@[simp] theorem length_encodeBe32 (value : UInt32) : (encodeBe32 value).length = 4 := rfl

/-- The byte of a 16-bit value at bit `i`. -/
theorem toNat_byte16 (value : UInt16) (i : UInt16) (hi : i.toNat < 16) :
    (value >>> i &&& 0xFF).toUInt8.toNat = value.toNat / 2 ^ i.toNat % 256 := by
  rw [UInt16.toNat_toUInt8, UInt16.toNat_and, UInt16.toNat_shiftRight, Nat.mod_eq_of_lt hi,
    Nat.shiftRight_eq_div_pow, show (0xFF : UInt16).toNat = 2 ^ 8 - 1 from rfl,
    Nat.and_two_pow_sub_one_eq_mod, Nat.mod_mod]

/-- The last byte of a 16-bit integer is its remainder. -/
theorem toNat_lowByte16 (value : UInt16) :
    (value &&& 0xFF).toUInt8.toNat = value.toNat % 256 := by
  rw [UInt16.toNat_toUInt8, UInt16.toNat_and, show (0xFF : UInt16).toNat = 2 ^ 8 - 1 from rfl,
    Nat.and_two_pow_sub_one_eq_mod, Nat.mod_mod]

/-- The byte of a 32-bit value at bit `i`. -/
theorem toNat_byte32 (value : UInt32) (i : UInt32) (hi : i.toNat < 32) :
    (value >>> i &&& 0xFF).toUInt8.toNat = value.toNat / 2 ^ i.toNat % 256 := by
  rw [UInt32.toNat_toUInt8, UInt32.toNat_and, UInt32.toNat_shiftRight, Nat.mod_eq_of_lt hi,
    Nat.shiftRight_eq_div_pow, show (0xFF : UInt32).toNat = 2 ^ 8 - 1 from rfl,
    Nat.and_two_pow_sub_one_eq_mod, Nat.mod_mod]

theorem toNat_lowByte32 (value : UInt32) :
    (value &&& 0xFF).toUInt8.toNat = value.toNat % 256 := by
  rw [UInt32.toNat_toUInt8, UInt32.toNat_and, show (0xFF : UInt32).toNat = 2 ^ 8 - 1 from rfl,
    Nat.and_two_pow_sub_one_eq_mod, Nat.mod_mod]

/-! ## What is written at an offset is read back there -/

/-- A read at the end of `front` is a read at the start of what follows. -/
theorem byteAt_append_length (front back : Bytes) :
    byteAt (front ++ back) front.length = byteAt back 0 := byteAt_append_right front back 0

/-- An encoded integer is read back wherever it stands. -/
theorem readLe16_encodeLe16 (front back : Bytes) (value : UInt16) :
    readLe16 (front ++ (encodeLe16 value ++ back)) front.length = value := by
  have hlt := value.toNat_lt
  refine UInt16.toNat_inj.mp ?_
  rw [toNat_readLe16, byteAt_append_length, byteAt_append_right]
  change (value &&& 0xFF).toUInt8.toNat + 256 * (value >>> 8 &&& 0xFF).toUInt8.toNat = _
  rw [toNat_lowByte16, toNat_byte16 _ 8 (by decide), show (8 : UInt16).toNat = 8 from rfl]
  omega

theorem readBe16_encodeBe16 (front back : Bytes) (value : UInt16) :
    readBe16 (front ++ (encodeBe16 value ++ back)) front.length = value := by
  have hlt := value.toNat_lt
  refine UInt16.toNat_inj.mp ?_
  rw [toNat_readBe16, byteAt_append_length, byteAt_append_right]
  change 256 * (value >>> 8 &&& 0xFF).toUInt8.toNat + (value &&& 0xFF).toUInt8.toNat = _
  rw [toNat_byte16 _ 8 (by decide), toNat_lowByte16, show (8 : UInt16).toNat = 8 from rfl]
  omega

theorem readLe32_encodeLe32 (front back : Bytes) (value : UInt32) :
    readLe32 (front ++ (encodeLe32 value ++ back)) front.length = value := by
  have hlt := value.toNat_lt
  refine UInt32.toNat_inj.mp ?_
  rw [toNat_readLe32, byteAt_append_length, byteAt_append_right, byteAt_append_right,
    byteAt_append_right]
  change (value &&& 0xFF).toUInt8.toNat + 2 ^ 8 * (value >>> 8 &&& 0xFF).toUInt8.toNat +
    2 ^ 16 * (value >>> 16 &&& 0xFF).toUInt8.toNat +
    2 ^ 24 * (value >>> 24 &&& 0xFF).toUInt8.toNat = _
  rw [toNat_lowByte32, toNat_byte32 _ 8 (by decide), toNat_byte32 _ 16 (by decide),
    toNat_byte32 _ 24 (by decide), show (8 : UInt32).toNat = 8 from rfl,
    show (16 : UInt32).toNat = 16 from rfl, show (24 : UInt32).toNat = 24 from rfl]
  omega

theorem readBe32_encodeBe32 (front back : Bytes) (value : UInt32) :
    readBe32 (front ++ (encodeBe32 value ++ back)) front.length = value := by
  rw [readBe32_eq_readLe32, byteAt_append_length, byteAt_append_right, byteAt_append_right,
    byteAt_append_right]
  exact readLe32_encodeLe32 [] [] value

end ByteString
