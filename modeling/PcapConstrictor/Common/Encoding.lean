import PcapConstrictor.Common.ByteString

/-!
# Encodings inside byte strings

`Holds bytes offset chunk` says that `chunk` stands at `offset` of `bytes`. It splits along
concatenation, and on the encodings of fixed-width integers it is the equation of the matching
reader. So an encoding built from fields is found at an offset exactly when every field is read
back there, which turns a grammar into the conditions of a hand-written parser and back.
-/

namespace ByteString

/-! ## What is read is encoded as it stood -/

/-- What is read encodes to the bytes it was read from. -/
theorem encodeLe16_readLe16 (bytes : Bytes) (offset : ℕ) :
    encodeLe16 (readLe16 bytes offset) = [byteAt bytes offset, byteAt bytes (offset + 1)] := by
  have h0 := (byteAt bytes offset).toNat_lt
  have h1 := (byteAt bytes (offset + 1)).toNat_lt
  have hvalue := toNat_readLe16 bytes offset
  rw [encodeLe16, List.cons_eq_cons, List.cons_eq_cons]
  simp only [← UInt8.toNat_inj, toNat_lowByte16, toNat_byte16 _ 8 (by decide), hvalue,
    show (8 : UInt16).toNat = 8 from rfl, and_true]
  omega

theorem encodeBe16_readBe16 (bytes : Bytes) (offset : ℕ) :
    encodeBe16 (readBe16 bytes offset) = [byteAt bytes offset, byteAt bytes (offset + 1)] := by
  have hreverse := encodeLe16_readLe16 [byteAt bytes (offset + 1), byteAt bytes offset] 0
  rw [← readBe16_eq_readLe16] at hreverse
  exact congrArg List.reverse hreverse

theorem encodeLe32_readLe32 (bytes : Bytes) (offset : ℕ) :
    encodeLe32 (readLe32 bytes offset)
      = [byteAt bytes offset, byteAt bytes (offset + 1), byteAt bytes (offset + 2),
          byteAt bytes (offset + 3)] := by
  have h0 := (byteAt bytes offset).toNat_lt
  have h1 := (byteAt bytes (offset + 1)).toNat_lt
  have h2 := (byteAt bytes (offset + 2)).toNat_lt
  have h3 := (byteAt bytes (offset + 3)).toNat_lt
  have hvalue := toNat_readLe32 bytes offset
  rw [encodeLe32, List.cons_eq_cons, List.cons_eq_cons, List.cons_eq_cons, List.cons_eq_cons]
  simp only [← UInt8.toNat_inj, toNat_lowByte32, toNat_byte32 _ 8 (by decide),
    toNat_byte32 _ 16 (by decide), toNat_byte32 _ 24 (by decide), hvalue,
    show (8 : UInt32).toNat = 8 from rfl, show (16 : UInt32).toNat = 16 from rfl,
    show (24 : UInt32).toNat = 24 from rfl, and_true]
  omega

theorem encodeBe32_readBe32 (bytes : Bytes) (offset : ℕ) :
    encodeBe32 (readBe32 bytes offset)
      = [byteAt bytes offset, byteAt bytes (offset + 1), byteAt bytes (offset + 2),
          byteAt bytes (offset + 3)] := by
  have hreverse := encodeLe32_readLe32 [byteAt bytes (offset + 3), byteAt bytes (offset + 2),
    byteAt bytes (offset + 1), byteAt bytes offset] 0
  rw [← readBe32_eq_readLe32] at hreverse
  exact congrArg List.reverse hreverse

/-! ## Chunks -/

/-- `chunk` stands at `offset` of `bytes`. -/
def Holds (bytes : Bytes) (offset : ℕ) (chunk : Bytes) : Prop :=
  offset ≤ bytes.length ∧ chunk <+: bytes.drop offset

variable {bytes : Bytes} {offset : ℕ}

/-- A chunk that stands in a buffer ends within it. -/
theorem Holds.length_le {chunk : Bytes} (h : Holds bytes offset chunk) :
    offset + chunk.length ≤ bytes.length := by
  have hle := h.2.length_le
  have hoffset := h.1
  rw [List.length_drop] at hle
  omega

/-- A chunk found by splitting the byte string. -/
theorem holds_of_eq {front chunk back : Bytes} (h : bytes = front ++ (chunk ++ back)) :
    Holds bytes front.length chunk := by
  subst h
  refine ⟨by simp, ?_⟩
  rw [List.drop_left]
  exact List.prefix_append _ _

/-- A byte string splits around a chunk. -/
theorem Holds.split {chunk : Bytes} (h : Holds bytes offset chunk) :
    bytes = bytes.take offset ++ (chunk ++ bytes.drop (offset + chunk.length)) := by
  obtain ⟨back, hback⟩ := h.2
  rw [← List.drop_drop, ← hback, List.drop_left, hback, List.take_append_drop]

/-- The empty chunk stands at every offset up to the end. -/
@[simp] theorem holds_nil : Holds bytes offset [] ↔ offset ≤ bytes.length := by
  simp [Holds]

/-- **Chunks one behind the other.** -/
theorem holds_append {x y : Bytes} :
    Holds bytes offset (x ++ y) ↔ Holds bytes offset x ∧ Holds bytes (offset + x.length) y := by
  constructor
  · intro h
    have hle := h.length_le
    obtain ⟨hoffset, back, hback⟩ := h
    rw [List.length_append] at hle
    rw [List.append_assoc] at hback
    refine ⟨⟨hoffset, y ++ back, hback⟩, by omega, back, ?_⟩
    rw [← List.drop_drop, ← hback, List.drop_left]
  · rintro ⟨⟨hoffset, front, hfront⟩, -, back, hback⟩
    refine ⟨hoffset, back, ?_⟩
    rw [← List.drop_drop, ← hfront, List.drop_left] at hback
    rw [List.append_assoc, hback, hfront]

/-- A chunk stands where its first byte does and the rest behind it. -/
theorem holds_cons {value : UInt8} {chunk : Bytes} :
    Holds bytes offset (value :: chunk)
      ↔ offset < bytes.length ∧ byteAt bytes offset = value ∧ Holds bytes (offset + 1) chunk := by
  rw [← List.singleton_append, holds_append, ← and_assoc, List.length_singleton]
  refine and_congr_left' ?_
  constructor
  · intro h
    have hle := h.length_le
    obtain ⟨-, back, hback⟩ := h
    have hbyte := byteAt_drop bytes offset 0
    rw [← hback, Nat.add_zero] at hbyte
    exact ⟨hle, hbyte.symm⟩
  · rintro ⟨hlt, rfl⟩
    refine ⟨hlt.le, bytes.drop (offset + 1), ?_⟩
    rw [byteAt, ← List.getElem_eq_getD (h := hlt) 0]
    exact (List.drop_eq_getElem_cons hlt).symm

/-- A chunk is the sub-span of its length. -/
theorem holds_iff_subspan {chunk : Bytes} :
    Holds bytes offset chunk
      ↔ offset + chunk.length ≤ bytes.length ∧ subspan bytes offset chunk.length = chunk := by
  constructor
  · intro h
    exact ⟨h.length_le, (List.prefix_iff_eq_take.mp h.2).symm⟩
  · rintro ⟨hle, hchunk⟩
    exact ⟨by omega, List.prefix_iff_eq_take.mpr hchunk.symm⟩

/-- The sub-spans of a byte string stand where they were taken. -/
theorem holds_subspan {count : ℕ} (h : offset + count ≤ bytes.length) :
    Holds bytes offset (subspan bytes offset count) := by
  rw [holds_iff_subspan, length_subspan h]
  exact ⟨h, rfl⟩

/-- Within the bounds, some chunk of each length stands at each offset. -/
theorem exists_chunk {count : ℕ} (h : offset + count ≤ bytes.length) :
    ∃ chunk : Bytes, chunk.length = count ∧ Holds bytes offset chunk :=
  ⟨subspan bytes offset count, length_subspan h, holds_subspan h⟩

/-- A byte string is made of the chunk at its start and what follows it. -/
theorem eq_append_iff_holds {chunk : Bytes} :
    bytes = chunk ++ bytes.drop chunk.length ↔ Holds bytes 0 chunk := by
  constructor
  · intro h
    exact @holds_of_eq _ [] _ _ h
  · intro h
    simpa using h.split

/-- Two chunks of one length at one place are equal. -/
theorem Holds.unique {x y : Bytes} (hx : Holds bytes offset x) (hy : Holds bytes offset y)
    (hlength : x.length = y.length) : x = y := by
  rw [holds_iff_subspan] at hx hy
  rw [← hx.2, ← hy.2, hlength]

/-! ## Fixed-width integers -/

/-- A reader that reads a chunk back behind any other bytes reads it where it stands. -/
theorem Holds.read_eq {α : Type*} {read : Bytes → ℕ → α} {chunk : Bytes} {value : α}
    (h : Holds bytes offset chunk)
    (hread : ∀ front back, read (front ++ (chunk ++ back)) front.length = value) :
    read bytes offset = value := by
  have hvalue := hread (bytes.take offset) (bytes.drop (offset + chunk.length))
  rwa [← h.split, List.length_take, Nat.min_eq_left h.1] at hvalue

/-- An encoded integer stands where there is room for it and reading gives the integer. -/
theorem holds_encodeLe16 {value : UInt16} :
    Holds bytes offset (encodeLe16 value)
      ↔ offset + 2 ≤ bytes.length ∧ readLe16 bytes offset = value := by
  constructor
  · intro h
    exact ⟨h.length_le, h.read_eq fun front back => readLe16_encodeLe16 front back value⟩
  · rintro ⟨hle, rfl⟩
    rw [encodeLe16_readLe16, holds_cons, holds_cons, holds_nil]
    exact ⟨by omega, rfl, by omega, rfl, hle⟩

theorem holds_encodeBe16 {value : UInt16} :
    Holds bytes offset (encodeBe16 value)
      ↔ offset + 2 ≤ bytes.length ∧ readBe16 bytes offset = value := by
  constructor
  · intro h
    exact ⟨h.length_le, h.read_eq fun front back => readBe16_encodeBe16 front back value⟩
  · rintro ⟨hle, rfl⟩
    rw [encodeBe16_readBe16, holds_cons, holds_cons, holds_nil]
    exact ⟨by omega, rfl, by omega, rfl, hle⟩

theorem holds_encodeLe32 {value : UInt32} :
    Holds bytes offset (encodeLe32 value)
      ↔ offset + 4 ≤ bytes.length ∧ readLe32 bytes offset = value := by
  constructor
  · intro h
    exact ⟨h.length_le, h.read_eq fun front back => readLe32_encodeLe32 front back value⟩
  · rintro ⟨hle, rfl⟩
    rw [encodeLe32_readLe32, holds_cons, holds_cons, holds_cons, holds_cons, holds_nil]
    exact ⟨by omega, rfl, by omega, rfl, by omega, rfl, by omega, rfl, hle⟩

theorem holds_encodeBe32 {value : UInt32} :
    Holds bytes offset (encodeBe32 value)
      ↔ offset + 4 ≤ bytes.length ∧ readBe32 bytes offset = value := by
  constructor
  · intro h
    exact ⟨h.length_le, h.read_eq fun front back => readBe32_encodeBe32 front back value⟩
  · rintro ⟨hle, rfl⟩
    rw [encodeBe32_readBe32, holds_cons, holds_cons, holds_cons, holds_cons, holds_nil]
    exact ⟨by omega, rfl, by omega, rfl, by omega, rfl, by omega, rfl, hle⟩

/-! ## Fields of a fixed number of bytes -/

/-- The field of `n` bytes at `offset`. -/
def fixedAt (n : ℕ) (bytes : Bytes) (offset : ℕ) : Vector UInt8 n :=
  Vector.ofFn fun i => byteAt bytes (offset + i)

/-- Reads of an array that was copied out of a buffer are reads of the buffer. -/
theorem byteAt_fixedAt {n i : ℕ} (h : i < n) :
    byteAt (fixedAt n bytes offset).toList i = byteAt bytes (offset + i) := by
  rw [byteAt_toList _ h, fixedAt, Vector.getElem_ofFn]

/-- An array that was copied out of a buffer stands there. -/
theorem holds_fixedAt {n : ℕ} (h : offset + n ≤ bytes.length) :
    Holds bytes offset (fixedAt n bytes offset).toList := by
  have hchunk := holds_subspan h
  have hfield : subspan bytes offset n = (fixedAt n bytes offset).toList := by
    refine List.ext_getElem ?_ ?_
    · rw [length_subspan h, Vector.length_toList]
    · intro i hi hi'
      rw [length_subspan h] at hi
      rw [List.getElem_eq_getD 0, List.getElem_eq_getD 0]
      exact (byteAt_subspan hi).trans (byteAt_fixedAt hi).symm
  rwa [hfield] at hchunk

/-- The bytes of a chunk are the bytes at its place. -/
theorem Holds.byteAt_eq {chunk : Bytes} (h : Holds bytes offset chunk) {i : ℕ}
    (hi : i < chunk.length) : byteAt bytes (offset + i) = byteAt chunk i := by
  rw [holds_iff_subspan] at h
  rw [← h.2, byteAt_subspan hi]

/-! ## Two numbers in one byte -/

/-- The byte with the given upper and lower half. -/
def byteOf (high low : Fin 16) : UInt8 := UInt8.ofNat (16 * high.val + low.val)

/-- The upper half of a byte. -/
def highHalf (byte : UInt8) : Fin 16 :=
  ⟨byte.toNat / 16, by have h := byte.toNat_lt; omega⟩

/-- The lower half of a byte. -/
def lowHalf (byte : UInt8) : Fin 16 := ⟨byte.toNat % 16, Nat.mod_lt _ (by decide)⟩

theorem byteOf_halves (byte : UInt8) : byteOf (highHalf byte) (lowHalf byte) = byte := by
  rw [byteOf, highHalf, lowHalf, Nat.div_add_mod, UInt8.ofNat_toNat]

/-- The high half counts sixteen times. -/
theorem toNat_byteOf (high low : Fin 16) : (byteOf high low).toNat = 16 * high.val + low.val := by
  rw [byteOf, UInt8.toNat_ofNat', Nat.mod_eq_of_lt (by omega)]

theorem highHalf_byteOf (high low : Fin 16) : highHalf (byteOf high low) = high := by
  refine Fin.ext ?_
  change (byteOf high low).toNat / 16 = high.val
  rw [toNat_byteOf]
  omega

theorem lowHalf_byteOf (high low : Fin 16) : lowHalf (byteOf high low) = low := by
  refine Fin.ext ?_
  change (byteOf high low).toNat % 16 = low.val
  rw [toNat_byteOf]
  omega

/-- Shifting by four bits leaves the high half. -/
theorem toNat_shiftRight_four (byte : UInt8) : (byte >>> 4).toNat = highHalf byte := by
  rw [UInt8.toNat_shiftRight, show (4 : UInt8).toNat % 8 = 4 from rfl, Nat.shiftRight_eq_div_pow]
  rfl

/-- A count of 32-bit words in the upper half of a byte, as a count of bytes. -/
theorem toNat_highWords (byte : UInt8) : (byte >>> 4 * 4).toNat = 4 * highHalf byte := by
  rw [UInt8.toNat_mul, toNat_shiftRight_four, show (4 : UInt8).toNat = 4 from rfl]
  omega

/-- A count of 32-bit words in the lower half of a byte, as a count of bytes. -/
theorem toNat_lowWords (byte : UInt8) : ((byte &&& 0x0F) * 4).toNat = 4 * lowHalf byte := by
  have hlow : (byte &&& 0x0F).toNat = lowHalf byte := by
    rw [UInt8.toNat_and, show (0x0F : UInt8).toNat = 2 ^ 4 - 1 from rfl,
      Nat.and_two_pow_sub_one_eq_mod]
    rfl
  rw [UInt8.toNat_mul, hlow, show (4 : UInt8).toNat = 4 from rfl]
  omega

end ByteString
