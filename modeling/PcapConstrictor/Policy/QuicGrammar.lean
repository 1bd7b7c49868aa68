import Mathlib.Data.List.GetD
import Mathlib.Data.Nat.Bitwise
import PcapConstrictor.Common.BigEndian
import PcapConstrictor.Policy.QuicLearning

/-!
# The grammar of long-header packets

`LongPacket` is a long-header packet as the protocol describes it, with every variable-length
integer in the width its sender chose. `ParseLongHeader` succeeds exactly where the encoding of such
a packet stands (`parseLongHeader_iff`), and at most one packet stands there (`LongPacket.unique`).
-/

namespace PcapConstrictor

open ByteString

namespace QuicConstrictor

/-! ## Long-header packets -/

/-- A variable-length integer of `2 ^ exponent` bytes, of which the first two bits hold the
exponent. -/
structure Varint where
  exponent : Fin 4
  value : ℕ
  value_lt : value < 64 * 256 ^ (2 ^ exponent.val - 1)

namespace Varint

/-- The number of bytes behind the first one. -/
def tail (varint : Varint) : ℕ := 2 ^ varint.exponent.val - 1

/-- Two bits of exponent, then the value in the remaining bits, most significant first. -/
def encode (varint : Varint) : Bytes :=
  UInt8.ofNat (64 * varint.exponent + varint.value / 256 ^ varint.tail)
    :: encodeBe varint.tail varint.value

/-- A varint has a byte for its first part and as many as the rest takes. -/
theorem two_pow_exponent (varint : Varint) : 2 ^ varint.exponent.val = 1 + varint.tail := by
  have hpos := Nat.two_pow_pos varint.exponent.val
  rw [tail]
  omega

/-- The exponent gives the encoded length. -/
@[simp] theorem length_encode (varint : Varint) :
    varint.encode.length = 2 ^ varint.exponent.val := by
  rw [encode, List.length_cons, length_encodeBe, two_pow_exponent, Nat.add_comm]

/-- The bits of the value in the first byte. -/
theorem high_lt (varint : Varint) : varint.value / 256 ^ varint.tail < 64 :=
  Nat.div_lt_of_lt_mul (by rw [Nat.mul_comm]; exact varint.value_lt)

/-- A varint's value fits into 64 bits, two bits of which are the exponent. -/
theorem value_lt_size (varint : Varint) : varint.value < UInt64.size := by
  have hlt := varint.exponent.isLt
  have htail : 2 ^ varint.exponent.val ≤ 2 ^ 3 := Nat.pow_le_pow_right (by decide) (by omega)
  calc varint.value < 64 * 256 ^ (2 ^ varint.exponent.val - 1) := varint.value_lt
    _ ≤ 64 * 256 ^ 7 := Nat.mul_le_mul_left _ (Nat.pow_le_pow_right (by decide) (by omega))
    _ ≤ UInt64.size := by decide

end Varint

/-- Bytes behind their number. -/
structure Counted where
  bytes : Bytes
  exponent : Fin 4
  length_lt : bytes.length < 64 * 256 ^ (2 ^ exponent.val - 1)

namespace Counted

def length (counted : Counted) : Varint :=
  ⟨counted.exponent, counted.bytes.length, counted.length_lt⟩

def encode (counted : Counted) : Bytes := counted.length.encode ++ counted.bytes

end Counted

/-- The connection ID in a packet. -/
structure PacketCid where
  bytes : Bytes
  length_le : bytes.length ≤ 20

namespace PacketCid

def encode (cid : PacketCid) : Bytes := UInt8.ofNat cid.bytes.length :: cid.bytes

/-- The length byte does not wrap, by the bound in the structure. -/
theorem toNat_length (cid : PacketCid) :
    (UInt8.ofNat cid.bytes.length).toNat = cid.bytes.length := by
  have hle := cid.length_le
  rw [UInt8.toNat_ofNat', Nat.mod_eq_of_lt (by omega)]

/-- The connection ID as the constrictor stores it. -/
def connectionId (cid : PacketCid) : ConnectionId where
  bytes := Vector.ofFn fun i => byteAt cid.bytes i
  length := UInt8.ofNat cid.bytes.length
  known := true
  length_le := cid.toNat_length.le.trans cid.length_le

end PacketCid

/-- What follows the connection IDs, for each of the four packet types: Initial, 0-RTT, Handshake
and Retry. -/
inductive LongBody
  | initial (token payload : Counted)
  | zeroRtt (payload : Counted)
  | handshake (payload : Counted)
  | retry (bytes : Bytes)

namespace LongBody

def packetType : LongBody → Fin 4
  | initial _ _ => 0
  | zeroRtt _ => 1
  | handshake _ => 2
  | retry _ => 3

def encode : LongBody → Bytes
  | initial token payload => token.encode ++ payload.encode
  | zeroRtt payload => payload.encode
  | handshake payload => payload.encode
  | retry bytes => bytes

end LongBody

/-- A packet with a long header. The fixed bit and the type-specific bits are not read. -/
structure LongPacket where
  fixedBit : Fin 2
  typeSpecific : Fin 16
  version : UInt32
  dcid : PacketCid
  scid : PacketCid
  body : LongBody
  version_ne_zero : version ≠ 0

namespace LongPacket

/-- The upper half of the first byte: the header form, the fixed bit and the packet type. -/
def form (packet : LongPacket) : Fin 16 :=
  ⟨8 + 4 * packet.fixedBit + packet.body.packetType, by omega⟩

def encode (packet : LongPacket) : Bytes :=
  byteOf packet.form packet.typeSpecific :: (encodeBe32 packet.version ++
    (packet.dcid.encode ++ (packet.scid.encode ++ packet.body.encode)))

/-- A Retry packet has no length: it ends with its datagram. -/
def IsRetry (packet : LongPacket) : Prop := packet.body.packetType = 3

end LongPacket

/-! ## Variable-length integers -/

section Varint

variable {payload : Bytes} {offset : ℕ}

/-- The width announced by a first byte. -/
theorem width_eq (first : UInt8) : 1 <<< (first >>> 6).toNat = 2 ^ (first.toNat / 64) := by
  rw [Nat.one_shiftLeft, UInt8.toNat_shiftRight, show (6 : UInt8).toNat % 8 = 6 from rfl,
    Nat.shiftRight_eq_div_pow]

/-- Appending a byte to an integer of at most 54 bits. -/
theorem toNat_appendByte {value : UInt64} (h : value.toNat < 2 ^ 54) (byte : UInt8) :
    (value <<< 8 ||| byte.toUInt64).toNat = 256 * value.toNat + byte.toNat := by
  have hbyte : byte.toNat < 2 ^ 8 := byte.toNat_lt
  have hshift : value.toNat <<< 8 < 2 ^ 64 := by
    rw [Nat.shiftLeft_eq]
    omega
  rw [UInt64.toNat_or, UInt64.toNat_shiftLeft, UInt8.toNat_toUInt64,
    show (8 : UInt64).toNat % 64 = 8 from rfl, Nat.mod_eq_of_lt hshift, Nat.or_comm,
    or_shiftLeft_eq_add hbyte]
  omega

/-- Reading the bytes behind the first one. -/
theorem toNat_varintFold {start : UInt64} (hstart : start.toNat < 64) {k : ℕ} (hk : k ≤ 7)
    (hle : offset + 1 + k ≤ payload.length) :
    ((List.range' 1 k).foldl (fun (value : UInt64) index =>
        value <<< 8 ||| (byteAt payload (offset + index)).toUInt64) start).toNat
      = start.toNat * 256 ^ k + valueBe (subspan payload (offset + 1) k) := by
  induction k with
  | zero => simp [subspan, valueBe]
  | succ k ih =>
    have ih := ih (by omega) (by omega)
    have hlt := valueBe_lt (subspan payload (offset + 1) k)
    rw [length_subspan (by omega)] at hlt
    have hbound : start.toNat * 256 ^ k + valueBe (subspan payload (offset + 1) k) < 2 ^ 54 := by
      calc start.toNat * 256 ^ k + valueBe (subspan payload (offset + 1) k)
          < start.toNat * 256 ^ k + 256 ^ k := Nat.add_lt_add_left hlt _
        _ = (start.toNat + 1) * 256 ^ k := by ring
        _ ≤ 64 * 256 ^ 6 := Nat.mul_le_mul (by omega) (Nat.pow_le_pow_right (by decide) (by omega))
        _ = 2 ^ 54 := by norm_num
    rw [← ih] at hbound
    rw [List.range'_concat, List.foldl_append, List.foldl_cons, List.foldl_nil,
      toNat_appendByte hbound, ih, subspan_concat (by omega), valueBe_concat, Nat.pow_succ,
      Nat.one_mul, Nat.add_assoc]
    ring

/-- `ReadVarint` without machine integers. -/
theorem readVarint_eq_some {value : UInt64} {stop first tail : ℕ}
    (hfirst : (byteAt payload offset).toNat = first) (htail : 2 ^ (first / 64) = 1 + tail) :
    readVarint payload offset = some (value, stop) ↔
      offset + 1 + tail ≤ payload.length ∧
        value.toNat = first % 64 * 256 ^ tail + valueBe (subspan payload (offset + 1) tail) ∧
        stop = offset + 1 + tail := by
  have hlt : first < 256 := hfirst ▸ (byteAt payload offset).toNat_lt
  -- the two high bits give the width, the six low ones the first digit
  have hwidth : 1 <<< (byteAt payload offset >>> 6).toNat = 1 + tail := by
    rw [width_eq, hfirst, htail]
  have hle : tail ≤ 7 := by
    have hpow : 2 ^ (first / 64) ≤ 2 ^ 3 := Nat.pow_le_pow_right (by decide) (by omega)
    omega
  have hlow : (byteAt payload offset &&& 0x3F).toUInt64.toNat = first % 64 := by
    rw [UInt8.toNat_toUInt64, UInt8.toNat_and, show (0x3F : UInt8).toNat = 2 ^ 6 - 1 from rfl,
      Nat.and_two_pow_sub_one_eq_mod, hfirst]
  unfold readVarint
  simp only [hwidth, hasBytes_iff, Nat.add_sub_cancel_left]
  constructor
  · intro h
    split at h
    · cases h
    split at h
    · cases h
    rw [Option.some.injEq, Prod.mk.injEq] at h
    rw [← h.1, toNat_varintFold (by omega) hle (by omega), hlow]
    exact ⟨by omega, rfl, by omega⟩
  · rintro ⟨hend, hvalue, rfl⟩
    rw [if_neg (by omega), if_neg (by omega), Option.some.injEq, Prod.mk.injEq,
      ← UInt64.toNat_inj, toNat_varintFold (by omega) hle hend, hlow, hvalue]
    exact ⟨rfl, by omega⟩

/-- What stands where a variable-length integer is read. -/
theorem holds_varint {varint : Varint} :
    Holds payload offset varint.encode ↔
      offset + 1 + varint.tail ≤ payload.length ∧
        (byteAt payload offset).toNat = 64 * varint.exponent + varint.value / 256 ^ varint.tail ∧
        valueBe (subspan payload (offset + 1) varint.tail)
          = varint.value % 256 ^ varint.tail := by
  have hhigh := varint.high_lt
  have hexponent := varint.exponent.isLt
  rw [Varint.encode, holds_cons, holds_encodeBe, ← UInt8.toNat_inj, UInt8.toNat_ofNat',
    Nat.mod_eq_of_lt (by omega)]
  constructor
  · rintro ⟨-, hfirst, hle, hvalue⟩
    exact ⟨hle, hfirst, hvalue⟩
  · rintro ⟨hle, hfirst, hvalue⟩
    exact ⟨by omega, hfirst, hle, hvalue⟩

/-- **`ReadVarint` reads the encodings of all widths.** -/
theorem readVarint_iff {value : UInt64} {stop : ℕ} :
    readVarint payload offset = some (value, stop) ↔
      ∃ varint : Varint, Holds payload offset varint.encode ∧ value.toNat = varint.value ∧
        stop = offset + varint.encode.length := by
  constructor
  · intro h
    have hlt := (byteAt payload offset).toNat_lt
    have hpos := Nat.two_pow_pos ((byteAt payload offset).toNat / 64)
    generalize hfirst : (byteAt payload offset).toNat = first at hlt hpos
    obtain ⟨tail, htail⟩ : ∃ tail, 2 ^ (first / 64) = 1 + tail :=
      ⟨2 ^ (first / 64) - 1, by omega⟩
    obtain ⟨hle, hvalue, rfl⟩ := (readVarint_eq_some hfirst htail).mp h
    have hrest := valueBe_lt (subspan payload (offset + 1) tail)
    rw [length_subspan hle] at hrest
    have hscale : 0 < 256 ^ tail := Nat.pow_pos (by decide)
    -- the value in base 256, below the first byte's six bits
    have hdiv : value.toNat / 256 ^ tail = first % 64 := by
      rw [hvalue, Nat.mul_comm, Nat.mul_add_div hscale, Nat.div_eq_of_lt hrest, Nat.add_zero]
    have hmod : value.toNat % 256 ^ tail = valueBe (subspan payload (offset + 1) tail) := by
      rw [hvalue, Nat.mul_comm, Nat.mul_add_mod, Nat.mod_eq_of_lt hrest]
    have hbound : value.toNat < 64 * 256 ^ (2 ^ (first / 64) - 1) := by
      rw [htail, Nat.add_sub_cancel_left, ← Nat.div_lt_iff_lt_mul hscale, hdiv]
      exact Nat.mod_lt _ (by decide)
    let varint : Varint := ⟨⟨first / 64, by omega⟩, value.toNat, hbound⟩
    have hwidth : 1 + varint.tail = 1 + tail := varint.two_pow_exponent.symm.trans htail
    have hsame : varint.tail = tail := Nat.add_left_cancel hwidth
    refine ⟨varint, holds_varint.mpr ?_, rfl, ?_⟩
    · rw [hsame, hfirst]
      refine ⟨hle, ?_, hmod.symm⟩
      change first = 64 * (first / 64) + value.toNat / 256 ^ tail
      rw [hdiv]
      omega
    · rw [Varint.length_encode, varint.two_pow_exponent, hsame, Nat.add_assoc]
  · rintro ⟨varint, hholds, hvalue, rfl⟩
    obtain ⟨hle, hfirst, hrest⟩ := holds_varint.mp hholds
    have hhigh := varint.high_lt
    have htail : 2 ^ ((64 * varint.exponent.val + varint.value / 256 ^ varint.tail) / 64)
        = 1 + varint.tail := by
      rw [Nat.mul_add_div (by decide), Nat.div_eq_of_lt hhigh, Nat.add_zero]
      exact varint.two_pow_exponent
    rw [readVarint_eq_some hfirst htail, Varint.length_encode, varint.two_pow_exponent,
      Nat.mul_add_mod, Nat.mod_eq_of_lt hhigh, hrest, hvalue, ← Nat.add_assoc]
    exact ⟨hle, (Nat.div_add_mod' _ _).symm, rfl⟩

end Varint

/-! ## Fields of variable length -/

section Fields

variable {payload : Bytes} {offset stop : ℕ}

/-- A variable-length integer and the bytes it announces. -/
theorem skipCounted_iff :
    skipCounted payload offset = some stop ↔
      ∃ counted : Counted, Holds payload offset counted.encode ∧
        stop = offset + counted.encode.length := by
  unfold skipCounted
  constructor
  · intro h
    split at h
    · cases h
    next value next hread =>
    obtain ⟨varint, hholds, hvalue, rfl⟩ := readVarint_iff.mp hread
    split at h
    · cases h
    next hbytes =>
    simp only [not_or, not_not] at hbytes
    obtain ⟨bytes, hlength, hchunk⟩ := exists_chunk (hasBytes_iff.mp hbytes.2)
    have hlt : bytes.length < 64 * 256 ^ (2 ^ varint.exponent.val - 1) := by
      rw [hlength, hvalue]
      exact varint.value_lt
    have hsame : (Counted.mk bytes varint.exponent hlt).length = varint := by
      cases varint
      simp only [Counted.length, hlength, hvalue]
    refine ⟨⟨bytes, varint.exponent, hlt⟩, ?_, ?_⟩
    · rw [Counted.encode, hsame, holds_append]
      exact ⟨hholds, hchunk⟩
    · rw [Counted.encode, hsame, List.length_append, hlength, ← Option.some.inj h,
        Nat.add_assoc]
  · rintro ⟨counted, hholds, rfl⟩
    obtain ⟨hlength, hchunk⟩ := holds_append.mp hholds
    have hle := hchunk.length_le
    have hvalue : (UInt64.ofNat counted.bytes.length).toNat = counted.bytes.length := by
      rw [UInt64.toNat_ofNat']
      exact Nat.mod_eq_of_lt counted.length.value_lt_size
    have hread : readVarint payload offset = some (UInt64.ofNat counted.bytes.length,
        offset + counted.length.encode.length) :=
      readVarint_iff.mpr ⟨counted.length, hlength, hvalue, rfl⟩
    rw [hread]
    dsimp only
    rw [hvalue, if_neg, Counted.encode, List.length_append, Nat.add_assoc]
    rw [not_or, not_not, hasBytes_iff]
    exact ⟨by omega, hle⟩

/-- The number of bytes in front of a connection ID. -/
theorem holds_packetCid {cid : PacketCid} :
    Holds payload offset cid.encode ↔ offset < payload.length ∧
      (byteAt payload offset).toNat = cid.bytes.length ∧ Holds payload (offset + 1) cid.bytes := by
  rw [PacketCid.encode, holds_cons, ← UInt8.toNat_inj, cid.toNat_length]

theorem ConnectionId.eq_of_fields {id id' : ConnectionId} (hbytes : id.bytes = id'.bytes)
    (hlength : id.length = id'.length) (hknown : id.known = id'.known) : id = id' := by
  cases id
  cases id'
  simp only at hbytes hlength hknown
  subst hbytes hlength hknown
  rfl

/-- The connection ID that is copied out of a payload. -/
theorem connectionId_eq {cid : PacketCid}
    (hlength : (byteAt payload offset).toNat = cid.bytes.length)
    (hchunk : Holds payload (offset + 1) cid.bytes)
    (hle : (byteAt payload offset).toNat ≤ 20) :
    ConnectionId.mk (Vector.ofFn fun i : Fin 20 =>
        if i.val < (byteAt payload offset).toNat then byteAt payload (offset + 1 + i.val) else 0)
      (byteAt payload offset) true hle = cid.connectionId := by
  have hbytes : (Vector.ofFn fun i : Fin 20 =>
        if i.val < (byteAt payload offset).toNat then byteAt payload (offset + 1 + i.val) else 0)
      = cid.connectionId.bytes := by
    refine congrArg Vector.ofFn (funext fun i => ?_)
    rw [hlength]
    split
    · next hlt => exact hchunk.byteAt_eq hlt
    · next hge => exact (List.getD_eq_default _ _ (Nat.not_lt.mp hge)).symm
  have hcount : byteAt payload offset = cid.connectionId.length := by
    rw [← UInt8.toNat_inj, hlength]
    exact cid.toNat_length.symm
  exact ConnectionId.eq_of_fields hbytes hcount rfl

/-- A connection ID. -/
theorem readConnectionId_iff {id : ConnectionId} :
    readConnectionId payload offset = some (id, stop) ↔
      ∃ cid : PacketCid, Holds payload offset cid.encode ∧ id = cid.connectionId ∧
        stop = offset + cid.encode.length := by
  unfold readConnectionId
  dsimp only
  constructor
  · intro h
    split at h
    · cases h
    next hone =>
    split at h
    · cases h
    next hlength =>
    simp only [kMaxConnectionIdLength, not_or, not_not, Nat.not_lt] at hone hlength
    obtain ⟨bytes, hbytes, hchunk⟩ := exists_chunk (hasBytes_iff.mp hlength.2)
    have hle : bytes.length ≤ 20 := hbytes ▸ hlength.1
    rw [Option.some.injEq, Prod.mk.injEq] at h
    obtain ⟨rfl, rfl⟩ := h
    refine ⟨⟨bytes, hle⟩, ?_, ?_, ?_⟩
    · have hlt := hasBytes_iff.mp hone
      exact holds_packetCid.mpr ⟨by omega, hbytes.symm, hchunk⟩
    · exact connectionId_eq hbytes.symm hchunk _
    · rw [PacketCid.encode, List.length_cons, hbytes]
      omega
  · rintro ⟨cid, hholds, rfl, rfl⟩
    obtain ⟨hlt, hlength, hchunk⟩ := holds_packetCid.mp hholds
    have hend := hchunk.length_le
    have hle := cid.length_le
    have hvalid : ¬ ((byteAt payload offset).toNat > kMaxConnectionIdLength ∨
        ¬ HasBytes payload (offset + 1) (byteAt payload offset).toNat) := by
      rw [not_or, not_not, hasBytes_iff, hlength, kMaxConnectionIdLength]
      exact ⟨by omega, hend⟩
    rw [if_neg (not_not.mpr (hasBytes_iff.mpr hlt)), dif_neg hvalid, Option.some.injEq,
      Prod.mk.injEq]
    refine ⟨connectionId_eq hlength hchunk _, ?_⟩
    rw [PacketCid.encode, List.length_cons, hlength]
    omega

end Fields

/-! ## Long headers -/

/-- The header form is the highest bit. -/
theorem isLongHeader_iff (first : UInt8) :
    isLongHeader first = true ↔ 8 ≤ (highHalf first).val := by
  have hlt : first.toNat < 2 ^ 8 := first.toNat_lt
  rw [isLongHeader, bne_iff_ne, ne_eq, ← UInt8.toNat_inj, UInt8.toNat_and,
    show (0x80 : UInt8).toNat = 2 ^ 7 from rfl, show (0 : UInt8).toNat = 0 from rfl,
    Nat.and_two_pow, Nat.testBit_eq_decide_div_mod_eq]
  change _ ↔ 8 ≤ first.toNat / 16
  by_cases hbit : first.toNat / 2 ^ 7 % 2 = 1
  · simp only [hbit, decide_true, Bool.toNat_true]
    omega
  · simp only [hbit, decide_false, Bool.toNat_false]
    omega

/-- The packet type is in the low two bits of the first byte's high half. -/
theorem toNat_packetType (first : UInt8) :
    ((first >>> 4) &&& 0x03).toNat = highHalf first % 4 := by
  rw [UInt8.toNat_and, toNat_shiftRight_four, show (0x03 : UInt8).toNat = 2 ^ 2 - 1 from rfl,
    Nat.and_two_pow_sub_one_eq_mod]

section LongHeaders

variable {payload : Bytes} {start offset stop : ℕ}

/-- The part of a long-header packet that depends on its type. -/
theorem longHeaderEnd_iff {type : Fin 4} {packetType : UInt8} (htype : packetType.toNat = type)
    (hle : offset ≤ payload.length) :
    longHeaderEnd payload packetType offset = some stop ↔
      ∃ body : LongBody, body.packetType = type ∧ Holds payload offset body.encode ∧
        stop = offset + body.encode.length ∧ (type = 3 → stop = payload.length) := by
  have hzero : packetType = 0 ↔ type = 0 := by
    rw [← UInt8.toNat_inj, htype, ← Fin.val_inj]
    rfl
  have hthree : packetType = 3 ↔ type = 3 := by
    rw [← UInt8.toNat_inj, htype, ← Fin.val_inj]
    rfl
  unfold longHeaderEnd
  simp only [hzero, hthree]
  constructor
  · intro h
    split at h
    · next hinitial =>
      split at h
      · cases h
      next middle htoken =>
      obtain ⟨token, hholds, rfl⟩ := skipCounted_iff.mp htoken
      obtain ⟨counted, hholds', rfl⟩ := skipCounted_iff.mp h
      refine ⟨.initial token counted, hinitial.symm, holds_append.mpr ⟨hholds, hholds'⟩, ?_, ?_⟩
      · rw [LongBody.encode, List.length_append, Nat.add_assoc]
      · intro hretry
        rw [hinitial] at hretry
        cases hretry
    next hinitial =>
    split at h
    · next hretry =>
      obtain ⟨bytes, hlength, hholds⟩ :=
        @exists_chunk payload offset (payload.length - offset) (by omega)
      obtain rfl := Option.some.inj h
      refine ⟨.retry bytes, hretry.symm, hholds, ?_, fun _ => rfl⟩
      rw [LongBody.encode, hlength]
      omega
    · next hretry =>
      obtain ⟨counted, hholds, rfl⟩ := skipCounted_iff.mp h
      -- 0-RTT and Handshake packets have the same body
      have htwo : type = 1 ∨ type = 2 := by omega
      rcases htwo with rfl | rfl
      · exact ⟨.zeroRtt counted, rfl, hholds, rfl, fun hretry => absurd hretry (by decide)⟩
      · exact ⟨.handshake counted, rfl, hholds, rfl, fun hretry => absurd hretry (by decide)⟩
  · rintro ⟨body, rfl, hholds, rfl, hend⟩
    cases body with
    | initial token counted =>
      obtain ⟨htoken, hcounted⟩ := holds_append.mp hholds
      have hinitial : (LongBody.initial token counted).packetType = 0 := rfl
      rw [if_pos hinitial, skipCounted_iff.mpr ⟨token, htoken, rfl⟩, LongBody.encode,
        List.length_append, ← Nat.add_assoc]
      exact skipCounted_iff.mpr ⟨counted, hcounted, rfl⟩
    | zeroRtt counted => exact skipCounted_iff.mpr ⟨counted, hholds, rfl⟩
    | handshake counted => exact skipCounted_iff.mpr ⟨counted, hholds, rfl⟩
    | retry bytes => exact congrArg some (hend rfl).symm

namespace LongPacket

/-- The encoded length: seven fixed bytes, both connection IDs and the body. -/
theorem length_encode (packet : LongPacket) :
    packet.encode.length = 7 + packet.dcid.bytes.length + packet.scid.bytes.length
      + packet.body.encode.length := by
  simp only [encode, PacketCid.encode, List.length_cons, List.length_append, length_encodeBe32]
  omega

/-- What the constrictor reads of a long-header packet. -/
def info (packet : LongPacket) : LongHeaderInfo where
  totalSize := packet.encode.length
  packetType := UInt8.ofNat packet.body.packetType
  version := packet.version
  dcid := packet.dcid.connectionId
  scid := packet.scid.connectionId

/-- The fields of a packet, each at its place. -/
theorem holds_encode {packet : LongPacket} :
    Holds payload start packet.encode ↔
      start < payload.length ∧ byteAt payload start = byteOf packet.form packet.typeSpecific ∧
        start + 5 ≤ payload.length ∧ readBe32 payload (start + 1) = packet.version ∧
        Holds payload (start + 5) packet.dcid.encode ∧
        Holds payload (start + 5 + packet.dcid.encode.length) packet.scid.encode ∧
        Holds payload (start + 5 + packet.dcid.encode.length + packet.scid.encode.length)
          packet.body.encode := by
  rw [encode, holds_cons, holds_append, holds_append, holds_append, holds_encodeBe32,
    length_encodeBe32]
  simp only [Nat.add_assoc, Nat.reduceAdd, and_assoc]

/-- The packet type is in the form. -/
theorem form_mod (packet : LongPacket) : packet.form.val % 4 = packet.body.packetType := by
  have hlt := packet.body.packetType.isLt
  change (8 + 4 * packet.fixedBit.val + packet.body.packetType.val) % 4 = _
  omega

end LongPacket

/-- An encoded packet starts with a byte of a long header. -/
theorem LongPacket.isLongHeader {packet : LongPacket} (h : Holds payload start packet.encode) :
    start < payload.length ∧ isLongHeader (byteAt payload start) = true := by
  obtain ⟨hlt, hfirst, -⟩ := LongPacket.holds_encode.mp h
  rw [isLongHeader_iff, hfirst, highHalf_byteOf]
  exact ⟨hlt, Nat.le_add_right_of_le (Nat.le_add_right _ _)⟩

namespace LongPacket

/-- The end of a packet, field by field. -/
theorem end_encode (packet : LongPacket) (start : ℕ) :
    start + packet.encode.length
      = start + 5 + packet.dcid.encode.length + packet.scid.encode.length
        + packet.body.encode.length := by
  rw [length_encode]
  simp only [PacketCid.encode, List.length_cons]
  omega

/-- The packet with the given first byte, except for its form bit and its type. -/
def ofFirstByte (first : UInt8) (version : UInt32) (hversion : version ≠ 0) (dcid scid : PacketCid)
    (body : LongBody) : LongPacket where
  fixedBit := ⟨highHalf first / 4 % 2, Nat.mod_lt _ (by decide)⟩
  typeSpecific := lowHalf first
  version := version
  dcid := dcid
  scid := scid
  body := body
  version_ne_zero := hversion

/-- The form is read back from the first byte. -/
theorem form_ofFirstByte {first : UInt8} {version : UInt32} {hversion : version ≠ 0}
    {dcid scid : PacketCid} {body : LongBody} (hlong : QuicConstrictor.isLongHeader first = true)
    (htype : body.packetType.val = highHalf first % 4) :
    (ofFirstByte first version hversion dcid scid body).form = highHalf first := by
  have hform := (isLongHeader_iff first).mp hlong
  have hhigh := (highHalf first).isLt
  refine Fin.ext ?_
  change 8 + 4 * (highHalf first / 4 % 2) + body.packetType.val = highHalf first
  omega

/-- The type of a packet in its first byte. -/
theorem packetType_encode {packet : LongPacket} (h : Holds payload start packet.encode) :
    ((byteAt payload start >>> 4) &&& 0x03).toNat = packet.body.packetType := by
  rw [toNat_packetType, (holds_encode.mp h).2.1, highHalf_byteOf, packet.form_mod]

/-- The packet that stands at `start` is read. -/
theorem parseLongHeader_encode {packet : LongPacket} (h : Holds payload start packet.encode)
    (hretry : packet.IsRetry → start + packet.encode.length = payload.length) :
    parseLongHeader payload start = some packet.info := by
  have hend := h.length_le
  have hlength := packet.length_encode
  have htype := packetType_encode h
  obtain ⟨-, -, -, hversion, hdcid, hscid, hbody⟩ := holds_encode.mp h
  have hstop := (longHeaderEnd_iff htype hscid.length_le).mpr
    ⟨packet.body, rfl, hbody, rfl, fun h => packet.end_encode start ▸ hretry h⟩
  refine parseLongHeader_eq_some.mpr ⟨hasBytes_iff.mpr (by omega), (isLongHeader h).2,
    hversion ▸ packet.version_ne_zero, _, _, _, _, _, readConnectionId_iff.mpr ⟨_, hdcid, rfl, rfl⟩,
    readConnectionId_iff.mpr ⟨_, hscid, rfl, rfl⟩, hstop, ?_⟩
  rw [← packet.end_encode, Nat.add_sub_cancel_left, hversion, info, ← htype, UInt8.ofNat_toNat]

/-- What is read is a packet that stands at `start`. -/
theorem exists_of_parseLongHeader {info : LongHeaderInfo}
    (h : parseLongHeader payload start = some info) :
    ∃ packet : LongPacket, Holds payload start packet.encode ∧
      (packet.IsRetry → start + packet.encode.length = payload.length) := by
  obtain ⟨hseven, hlong, hversion, _, _, _, _, _, hreadDcid, hreadScid, hstop, -⟩ :=
    parseLongHeader_eq_some.mp h
  rw [hasBytes_iff] at hseven
  obtain ⟨dcid, hdcid, -, rfl⟩ := readConnectionId_iff.mp hreadDcid
  obtain ⟨scid, hscid, -, rfl⟩ := readConnectionId_iff.mp hreadScid
  have htype : ((byteAt payload start >>> 4) &&& 0x03).toNat
      = (⟨highHalf (byteAt payload start) % 4, Nat.mod_lt _ (by decide)⟩ : Fin 4) :=
    toNat_packetType _
  obtain ⟨body, hbody, hholds, rfl, hretry⟩ := (longHeaderEnd_iff htype hscid.length_le).mp hstop
  refine ⟨ofFirstByte (byteAt payload start) _ hversion dcid scid body, ?_, ?_⟩
  · refine holds_encode.mpr ⟨by omega, ?_, by omega, rfl, hdcid, hscid, hholds⟩
    rw [form_ofFirstByte hlong (congrArg Fin.val hbody)]
    exact (byteOf_halves _).symm
  · intro hisRetry
    rw [end_encode]
    exact hretry (hbody.symm.trans hisRetry)

end LongPacket

/-- **`ParseLongHeader` reads the encodings of long-header packets.** -/
theorem parseLongHeader_iff {info : LongHeaderInfo} :
    parseLongHeader payload start = some info ↔
      ∃ packet : LongPacket, Holds payload start packet.encode ∧
        (packet.IsRetry → start + packet.encode.length = payload.length) ∧
        info = packet.info := by
  constructor
  · intro h
    obtain ⟨packet, hholds, hretry⟩ := LongPacket.exists_of_parseLongHeader h
    have hread := LongPacket.parseLongHeader_encode hholds hretry
    exact ⟨packet, hholds, hretry, Option.some.inj (h.symm.trans hread)⟩
  · rintro ⟨packet, hholds, hretry, rfl⟩
    exact LongPacket.parseLongHeader_encode hholds hretry

end LongHeaders

/-! ## Encodings are read in one way only -/

section Unique

variable {payload : Bytes} {offset : ℕ}

/-- Only one varint stands at a place. -/
theorem Varint.unique {v w : Varint} (hv : Holds payload offset v.encode)
    (hw : Holds payload offset w.encode) : v = w := by
  obtain ⟨-, hfirst, hrest⟩ := holds_varint.mp hv
  obtain ⟨-, hfirst', hrest'⟩ := holds_varint.mp hw
  -- the first bytes split into the same exponent and the same high bits
  have hsplit : ∀ e e' high high' : ℕ, high < 64 → high' < 64 → 64 * e + high = 64 * e' + high' →
      e = e' ∧ high = high' := by omega
  obtain ⟨hexponent, hhigh⟩ := hsplit _ _ _ _ v.high_lt w.high_lt (hfirst.symm.trans hfirst')
  replace hexponent : v.exponent = w.exponent := Fin.ext hexponent
  have htail : v.tail = w.tail := congrArg (fun e : Fin 4 => 2 ^ e.val - 1) hexponent
  have hvalue : v.value = w.value := by
    rw [← Nat.div_add_mod v.value (256 ^ v.tail), ← Nat.div_add_mod w.value (256 ^ w.tail),
      ← hrest, ← hrest', hhigh, htail]
  cases v
  cases w
  simp only at hexponent hvalue
  subst hexponent hvalue
  rfl

theorem Counted.unique {x y : Counted} (hx : Holds payload offset x.encode)
    (hy : Holds payload offset y.encode) : x = y := by
  obtain ⟨hlength, hbytes⟩ := holds_append.mp hx
  obtain ⟨hlength', hbytes'⟩ := holds_append.mp hy
  have hsame := Varint.unique hlength hlength'
  have hexponent : x.exponent = y.exponent := congrArg Varint.exponent hsame
  rw [← hsame] at hbytes'
  have heq := hbytes.unique hbytes' (congrArg Varint.value hsame)
  cases x
  cases y
  simp only at hexponent heq
  subst hexponent heq
  rfl

theorem PacketCid.unique {x y : PacketCid} (hx : Holds payload offset x.encode)
    (hy : Holds payload offset y.encode) : x = y := by
  obtain ⟨-, hlength, hbytes⟩ := holds_packetCid.mp hx
  obtain ⟨-, hlength', hbytes'⟩ := holds_packetCid.mp hy
  have heq := hbytes.unique hbytes' (hlength.symm.trans hlength')
  cases x
  cases y
  simp only at heq
  subst heq
  rfl

/-- Only one body of a type stands at a place; a Retry's needs its length, which nothing encodes. -/
theorem LongBody.unique {x y : LongBody} (htype : x.packetType = y.packetType)
    (hx : Holds payload offset x.encode) (hy : Holds payload offset y.encode)
    (hend : x.packetType = 3 → x.encode.length = y.encode.length) : x = y := by
  cases x with
  | initial token counted =>
    cases y with
    | initial token' counted' =>
      obtain ⟨htoken, hcounted⟩ := holds_append.mp hx
      obtain ⟨htoken', hcounted'⟩ := holds_append.mp hy
      obtain rfl := Counted.unique htoken htoken'
      rw [Counted.unique hcounted hcounted']
    | zeroRtt _ => cases htype
    | handshake _ => cases htype
    | retry _ => cases htype
  | zeroRtt counted =>
    cases y with
    | zeroRtt counted' => rw [Counted.unique hx hy]
    | initial _ _ => cases htype
    | handshake _ => cases htype
    | retry _ => cases htype
  | handshake counted =>
    cases y with
    | handshake counted' => rw [Counted.unique hx hy]
    | initial _ _ => cases htype
    | zeroRtt _ => cases htype
    | retry _ => cases htype
  | retry bytes =>
    cases y with
    | retry bytes' => exact congrArg LongBody.retry (hx.unique hy (hend rfl))
    | initial _ _ => cases htype
    | zeroRtt _ => cases htype
    | handshake _ => cases htype

/-- Two packets at one place are equal; a Retry packet is known to end with the payload. -/
theorem LongPacket.unique {p q : LongPacket} (hp : Holds payload offset p.encode)
    (hq : Holds payload offset q.encode)
    (hpend : p.IsRetry → offset + p.encode.length = payload.length)
    (hqend : q.IsRetry → offset + q.encode.length = payload.length) : p = q := by
  have hlength := p.length_encode
  have hlength' := q.length_encode
  obtain ⟨-, hfirst, -, hversion, hdcid, hscid, hbody⟩ := LongPacket.holds_encode.mp hp
  obtain ⟨-, hfirst', -, hversion', hdcid', hscid', hbody'⟩ := LongPacket.holds_encode.mp hq
  have hbyte := hfirst.symm.trans hfirst'
  have hform : p.form.val = q.form.val := by
    rw [← highHalf_byteOf p.form p.typeSpecific, hbyte, highHalf_byteOf]
  have hlow : p.typeSpecific = q.typeSpecific := by
    rw [← lowHalf_byteOf p.form p.typeSpecific, hbyte, lowHalf_byteOf]
  have htype : p.body.packetType = q.body.packetType := by
    refine Fin.ext ?_
    rw [← p.form_mod, ← q.form_mod, hform]
  have hfixed : p.fixedBit = q.fixedBit := by
    change 8 + 4 * p.fixedBit.val + p.body.packetType.val
      = 8 + 4 * q.fixedBit.val + q.body.packetType.val at hform
    rw [htype] at hform
    exact Fin.ext (by omega)
  -- from front to back, as each field's place depends on the lengths in front of it
  have hdcids := PacketCid.unique hdcid hdcid'
  rw [← hdcids] at hscid' hbody' hlength'
  have hscids := PacketCid.unique hscid hscid'
  rw [← hscids] at hbody' hlength'
  have hbodies : p.body = q.body := by
    refine LongBody.unique htype hbody hbody' fun hretry => ?_
    have hpstop := hpend hretry
    have hqstop := hqend (htype.symm.trans hretry)
    omega
  have hversions := hversion.symm.trans hversion'
  cases p
  cases q
  simp only at hfixed hlow hversions hdcids hscids hbodies
  subst hfixed hlow hversions hdcids hscids hbodies
  rfl

end Unique

end QuicConstrictor

end PcapConstrictor
