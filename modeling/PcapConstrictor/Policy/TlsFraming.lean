import PcapConstrictor.Policy.TlsConstrictor
import Mathlib.Tactic.SplitIfs

/-!
# Framing a TLS payload

The framing loop of the TLS constrictor interleaves reading record headers with writing flags. Here
the two are separated. `framing` lists the records whose headers are met from an entry offset on,
and says whether a position without a valid header was hit. `framingLoop_eq` shows that the loop
computes nothing but functions of that list.
-/

namespace PcapConstrictor.TlsConstrictor

open ByteString

/-- A record whose header was read at `offset`; `totalSize` counts the header. -/
structure FramedRecord where
  offset : ℕ
  contentType : UInt8
  totalSize : ℕ
deriving DecidableEq, Repr

/-- The records met from an entry offset on. `valid` is false when a position inside the payload
had no valid header. -/
structure Framing where
  records : List FramedRecord
  valid : Bool
deriving DecidableEq, Repr

/-- The framing of `payload` from `offset` on: each record follows the one before, and the last one
may run past the end of the payload. -/
def framing (payload : Bytes) (offset : ℕ) : Framing :=
  if _h : offset < payload.length then
    match readTlsRecordHeader payload offset with
    | none => ⟨[], false⟩
    | some (contentType, recordLength) =>
      let totalSize := kTlsRecordHeaderSize + recordLength.toNat
      let record : FramedRecord := ⟨offset, contentType, totalSize⟩
      if totalSize > payload.length - offset then
        ⟨[record], true⟩
      else
        let rest := framing payload (offset + totalSize)
        ⟨record :: rest.records, rest.valid⟩
  else
    ⟨[], true⟩
termination_by payload.length - offset
decreasing_by
  simp only [kTlsRecordHeaderSize]
  omega

namespace FramedRecord

def isHandshake (record : FramedRecord) : Bool := record.contentType == kTlsHandshake

def isAppData (record : FramedRecord) : Bool := record.contentType == kTlsApplicationData

/-- The bytes of the record that a payload of `n` bytes holds. -/
def present (record : FramedRecord) (n : ℕ) : ℕ := min record.totalSize (n - record.offset)

end FramedRecord

namespace Framing

/-- Some framed record is a Handshake record. -/
def hasHandshake (f : Framing) : Bool := f.records.any FramedRecord.isHandshake

/-- The last framed Application Data record. -/
def lastAppData (f : Framing) : Option FramedRecord :=
  (f.records.filter FramedRecord.isAppData).getLast?

/-- The last framed record, if it runs past the end of a payload of `n` bytes. -/
def overhang (f : Framing) (n : ℕ) : Option FramedRecord :=
  f.records.getLast?.filter fun record => n - record.offset < record.totalSize

/-- The loop refuses to start: the direction is unsynchronized, and its first position has no valid
header or, without an earlier confirmation, a header that is not a Handshake's. -/
def refused (f : Framing) (synchronized confirmedTls : Bool) : Bool :=
  !synchronized &&
    match f.records.head? with
    | none => !f.valid
    | some record => !record.isHandshake && !confirmedTls

end Framing

/-- The flags a direction has after framing `f` in a payload of `n` bytes. -/
def DirectionState.afterFraming (state : DirectionState) (f : Framing) (n : ℕ) : DirectionState :=
  let flagged :=
    { state with
      confirmedTls := state.confirmedTls || f.hasHandshake
      hasSeenApplicationData := state.hasSeenApplicationData || f.lastAppData.isSome
      synchronized := state.synchronized || !f.records.isEmpty }
  match f.overhang n with
  | none => flagged
  | some record =>
    { flagged with
      hasActiveRecord := true
      activeRecordContentType := record.contentType
      activeRecordRemainingBytes := UInt32.ofNat (record.totalSize - (n - record.offset))
      activeRecordConstrictible := record.isAppData }

/-- The payload bytes kept when the cut falls into the framed record `record`. -/
def keepInRecord (config : TlsOptions) (n : ℕ) (record : FramedRecord) : ℕ :=
  record.offset + clampedKeepSize config.appDataKeepRecordBytes (record.present n)

/-- The locals of the loop after framing `f`. -/
def FramingLocals.afterFraming (l : FramingLocals) (config : TlsOptions)
    (reverseKey : DirectionKey) (f : Framing) (n : ℕ) : FramingLocals where
  directions := if f.hasHandshake then confirm l.directions reverseKey else l.directions
  state := l.state.afterFraming f n
  payloadOffset :=
    match f.records.getLast? with
    | none => l.payloadOffset
    | some record => min n (record.offset + record.totalSize)
  candidatePayloadSize := (f.lastAppData.map (keepInRecord config n)).getD l.candidatePayloadSize
  hasCandidate := l.hasCandidate || f.lastAppData.isSome
  uncertain := l.uncertain || !f.valid

/-! ## The loop computes the framing -/

/-- What a header looks like. -/
theorem readTlsRecordHeader_eq_some {payload : Bytes} {offset : ℕ} {contentType : UInt8}
    {length : UInt16} (h : readTlsRecordHeader payload offset = some (contentType, length)) :
    offset + kTlsRecordHeaderSize ≤ payload.length ∧ byteAt payload offset = contentType ∧
      byteAt payload (offset + 1) = 0x03 ∧ readBe16 payload (offset + 3) = length := by
  unfold readTlsRecordHeader at h
  split at h
  · cases h
  next hbytes =>
  split at h
  · cases h
  next hheader =>
  simp only [Bool.or_eq_true, Bool.not_eq_true', bne_iff_ne, ne_eq, not_or, not_not,
    Bool.not_eq_false] at hheader
  rw [Option.some.injEq, Prod.mk.injEq] at h
  exact ⟨hasBytes_iff.mp (not_not.mp hbytes), h.1, hheader.2, h.2⟩

/-- The four content types are adjacent. -/
theorem isTlsContentType_iff (contentType : UInt8) :
    isTlsContentType contentType = true ↔ 0x14 ≤ contentType ∧ contentType ≤ 0x17 := by
  simp only [isTlsContentType, kTlsChangeCipherSpec, kTlsAlert, kTlsHandshake,
    kTlsApplicationData, Bool.or_eq_true, beq_iff_eq, ← UInt8.toNat_inj, UInt8.le_iff_toNat_le]
  change ((contentType.toNat = 20 ∨ contentType.toNat = 21) ∨ contentType.toNat = 22) ∨
    contentType.toNat = 23 ↔ 20 ≤ contentType.toNat ∧ contentType.toNat ≤ 23
  omega

/-- A header announces one of the four content types. -/
theorem contentType_of_header {payload : Bytes} {offset : ℕ} {contentType : UInt8}
    {length : UInt16} (h : readTlsRecordHeader payload offset = some (contentType, length)) :
    0x14 ≤ contentType ∧ contentType ≤ 0x17 := by
  rw [← isTlsContentType_iff]
  unfold readTlsRecordHeader at h
  split at h
  · cases h
  split at h
  · cases h
  next htype =>
  simp only [Bool.or_eq_true, Bool.not_eq_true', not_or, Bool.not_eq_false] at htype
  simp only [Option.some.injEq, Prod.mk.injEq] at h
  rw [← h.1]
  exact htype.1

/-- A direction is confirmed, and nothing else of its state changes. -/
theorem value_confirm (directions : Directions) (key : DirectionKey) :
    (confirm directions key).value key = { directions.value key with confirmedTls := true } := by
  rw [Table.value, confirm, Table.lookup_insert, if_pos rfl, Option.getD_some]

/-- Confirming a direction twice changes nothing. -/
theorem confirm_confirm (directions : Directions) (key : DirectionKey) :
    confirm (confirm directions key) key = confirm directions key := by
  rw [confirm, value_confirm]
  exact Finmap.insert_insert directions

/-- At the end of the payload framing succeeds. -/
theorem framing_of_le {payload : Bytes} {offset : ℕ} (h : payload.length ≤ offset) :
    framing payload offset = ⟨[], true⟩ := by
  rw [framing, dif_neg (by omega)]

/-- Bytes that are no record header end the framing in error. -/
theorem framing_of_none {payload : Bytes} {offset : ℕ} (h : offset < payload.length)
    (hread : readTlsRecordHeader payload offset = none) :
    framing payload offset = ⟨[], false⟩ := by
  rw [framing, dif_pos h, hread]

/-- A record longer than the payload is the last one. -/
theorem framing_of_overhang {payload : Bytes} {offset : ℕ} {contentType : UInt8}
    {recordLength : UInt16} (h : offset < payload.length)
    (hread : readTlsRecordHeader payload offset = some (contentType, recordLength))
    (hlen : kTlsRecordHeaderSize + recordLength.toNat > payload.length - offset) :
    framing payload offset
      = ⟨[⟨offset, contentType, kTlsRecordHeaderSize + recordLength.toNat⟩], true⟩ := by
  rw [framing, dif_pos h, hread]
  simp only [if_pos hlen]

/-- Behind a record within the payload the framing goes on. -/
theorem framing_of_fits {payload : Bytes} {offset : ℕ} {contentType : UInt8}
    {recordLength : UInt16} (h : offset < payload.length)
    (hread : readTlsRecordHeader payload offset = some (contentType, recordLength))
    (hlen : ¬ kTlsRecordHeaderSize + recordLength.toNat > payload.length - offset) :
    framing payload offset
      = ⟨⟨offset, contentType, kTlsRecordHeaderSize + recordLength.toNat⟩ ::
            (framing payload (offset + (kTlsRecordHeaderSize + recordLength.toNat))).records,
          (framing payload (offset + (kTlsRecordHeaderSize + recordLength.toNat))).valid⟩ := by
  rw [framing, dif_pos h, hread]
  simp only [if_neg hlen]

/-- The last Application Data record of a longer framing. -/
theorem lastAppData_cons (record : FramedRecord) (f : Framing) :
    Framing.lastAppData ⟨record :: f.records, f.valid⟩
      = f.lastAppData.or (if record.isAppData then some record else none) := by
  unfold Framing.lastAppData
  by_cases h : record.isAppData
  · simp only [List.filter_cons, h, if_true, List.getLast?_cons]
    cases (f.records.filter FramedRecord.isAppData).getLast? <;> rfl
  · simp only [List.filter_cons, h, if_false, Bool.false_eq_true, Option.or_none]

/-- The last framed Application Data record is one. -/
theorem lastAppData_mem {f : Framing} {framed : FramedRecord} (h : f.lastAppData = some framed) :
    framed ∈ f.records ∧ framed.contentType = kTlsApplicationData := by
  have hmem := List.mem_of_getLast? h
  rw [List.mem_filter] at hmem
  exact ⟨hmem.1, by simpa [FramedRecord.isAppData] using hmem.2⟩

/-- A record that fits is not the overhang. -/
theorem overhang_cons {record : FramedRecord} (f : Framing) {n : ℕ}
    (h : record.totalSize ≤ n - record.offset) :
    Framing.overhang ⟨record :: f.records, f.valid⟩ n = f.overhang n := by
  unfold Framing.overhang
  simp only [List.getLast?_cons]
  cases f.records.getLast? with
  | none => simp [Option.filter, Nat.not_lt.mpr h]
  | some last => rfl

/-- A handshake is the first record, or among the others. -/
theorem hasHandshake_cons (record : FramedRecord) (f : Framing) :
    Framing.hasHandshake ⟨record :: f.records, f.valid⟩
      = (record.isHandshake || f.hasHandshake) := rfl

/-- Only an unsynchronized direction is refused. -/
theorem refused_of_synchronized (f : Framing) (confirmedTls : Bool) :
    f.refused true confirmedTls = false := rfl

/-- Accepting a header, flag by flag. -/
theorem acceptHeader_eq (l : FramingLocals) (reverseKey : DirectionKey) (contentType : UInt8) :
    l.acceptHeader reverseKey contentType
      = { l with
          directions :=
            if contentType == kTlsHandshake then confirm l.directions reverseKey else l.directions
          state :=
            { l.state with
              synchronized := true
              confirmedTls := l.state.confirmedTls || contentType == kTlsHandshake } } := by
  unfold FramingLocals.acceptHeader
  by_cases h : contentType = kTlsHandshake <;> simp [h]

/-- Moving the candidate, flag by flag. -/
theorem keepCandidate_eq (l : FramingLocals) (config : TlsOptions) (isAppData : Bool)
    (available : ℕ) :
    l.keepCandidate config isAppData available
      = { l with
          state :=
            { l.state with
              hasSeenApplicationData := l.state.hasSeenApplicationData || isAppData }
          candidatePayloadSize :=
            if isAppData then
              l.payloadOffset + clampedKeepSize config.appDataKeepRecordBytes available
            else l.candidatePayloadSize
          hasCandidate := l.hasCandidate || isAppData } := by
  unfold FramingLocals.keepCandidate
  cases isAppData <;> simp

/-- An accepted header whose record runs past the end of the payload. -/
theorem afterFraming_overhang (l : FramingLocals) (config : TlsOptions) (reverseKey : DirectionKey)
    {contentType : UInt8} {totalSize n : ℕ} (hoff : l.payloadOffset < n)
    (hlen : totalSize > n - l.payloadOffset) :
    let kept := (l.acceptHeader reverseKey contentType).keepCandidate config
      (contentType == kTlsApplicationData) (n - l.payloadOffset)
    l.afterFraming config reverseKey ⟨[⟨l.payloadOffset, contentType, totalSize⟩], true⟩ n
      = { kept with
          state :=
            { kept.state with
              hasActiveRecord := true
              activeRecordContentType := contentType
              activeRecordRemainingBytes := UInt32.ofNat (totalSize - (n - l.payloadOffset))
              activeRecordConstrictible := contentType == kTlsApplicationData }
          payloadOffset := n } := by
  have hpresent : min totalSize (n - l.payloadOffset) = n - l.payloadOffset := by omega
  have hend : min n (l.payloadOffset + totalSize) = n := by omega
  rw [keepCandidate_eq, acceptHeader_eq]
  cases ha : contentType == kTlsApplicationData <;>
    simp [FramingLocals.afterFraming, DirectionState.afterFraming, Framing.hasHandshake,
      Framing.lastAppData, Framing.overhang, FramedRecord.isHandshake, FramedRecord.isAppData,
      FramedRecord.present, keepInRecord, Option.filter, ha, hlen, hpresent, hend]

/-- An accepted header whose record fits, followed by the framing of the rest. -/
theorem afterFraming_fits (l : FramingLocals) (config : TlsOptions) (reverseKey : DirectionKey)
    {contentType : UInt8} {totalSize n : ℕ} (f : Framing) (hoff : l.payloadOffset < n)
    (hlen : ¬ totalSize > n - l.payloadOffset) :
    let kept := (l.acceptHeader reverseKey contentType).keepCandidate config
      (contentType == kTlsApplicationData) totalSize
    l.afterFraming config reverseKey
        ⟨⟨l.payloadOffset, contentType, totalSize⟩ :: f.records, f.valid⟩ n
      = { kept with payloadOffset := l.payloadOffset + totalSize }.afterFraming config reverseKey
          f n := by
  have hpresent : min totalSize (n - l.payloadOffset) = totalSize := by omega
  have hend : min n (l.payloadOffset + totalSize) = l.payloadOffset + totalSize := by omega
  have hover : Framing.overhang ⟨⟨l.payloadOffset, contentType, totalSize⟩ :: f.records, f.valid⟩ n
      = f.overhang n := overhang_cons f (Nat.not_lt.mp hlen)
  rw [keepCandidate_eq, acceptHeader_eq]
  simp only [FramingLocals.afterFraming, DirectionState.afterFraming, hasHandshake_cons,
    lastAppData_cons, hover, FramedRecord.isHandshake, FramedRecord.isAppData,
    List.getLast?_cons]
  congr 1
  · by_cases hh : contentType = kTlsHandshake <;> by_cases hf : f.hasHandshake = true <;>
      simp [hh, hf, confirm_confirm]
  · by_cases ha : contentType = kTlsApplicationData <;> cases f.overhang n <;>
      cases f.lastAppData <;> simp [ha, Bool.or_assoc]
  · cases f.records.getLast? <;> simp [hend]
  · by_cases ha : contentType = kTlsApplicationData <;> cases f.lastAppData <;>
      simp [ha, keepInRecord, FramedRecord.present, hpresent]
  · by_cases ha : contentType = kTlsApplicationData <;> cases f.lastAppData <;> simp [ha]

/-- Framing nothing changes nothing but `uncertain`. -/
theorem afterFraming_nil (l : FramingLocals) (config : TlsOptions) (reverseKey : DirectionKey)
    (valid : Bool) (n : ℕ) :
    l.afterFraming config reverseKey ⟨[], valid⟩ n
      = { l with uncertain := l.uncertain || !valid } := by
  simp [FramingLocals.afterFraming, DirectionState.afterFraming, Framing.hasHandshake,
    Framing.lastAppData, Framing.overhang, Option.filter]

/-- A framing that starts with a record is refused exactly when its header is. -/
theorem refused_cons (record : FramedRecord) (records : List FramedRecord)
    (valid synchronized confirmedTls : Bool) :
    Framing.refused ⟨record :: records, valid⟩ synchronized confirmedTls
      = (!synchronized && record.contentType != kTlsHandshake && !confirmedTls) := by
  simp only [Framing.refused, List.head?_cons, FramedRecord.isHandshake, bne, Bool.and_assoc]

/-- **The framing loop computes functions of the framing**: it refuses, or it applies the framing
to its locals. -/
theorem framingLoop_eq (config : TlsOptions) (key reverseKey : DirectionKey) (confirmedTls : Bool)
    (payload : Bytes) (l : FramingLocals) :
    framingLoop config key reverseKey confirmedTls payload l
      = if (framing payload l.payloadOffset).refused l.state.synchronized confirmedTls then
          .error (if confirmedTls then l.directions.insert key l.state else l.directions.erase key)
        else
          .ok (l.afterFraming config reverseKey (framing payload l.payloadOffset)
            payload.length) := by
  fun_induction framingLoop config key reverseKey confirmedTls payload l with
  | case1 l hoff hread hsync =>
    rw [framing_of_none hoff hread]
    have hrefused : Framing.refused ⟨[], false⟩ l.state.synchronized confirmedTls = true := by
      simpa [Framing.refused] using hsync
    rw [if_pos hrefused]
    cases confirmedTls <;> rfl
  | case2 l hoff hread hsync =>
    rw [framing_of_none hoff hread, afterFraming_nil,
      if_neg (by simpa [Framing.refused] using hsync)]
    simp
  | case3 l hoff contentType recordLength hread hrefuse =>
    -- the header is refused whether or not its record fits
    have hconfirmed : confirmedTls = false := by simp_all
    have hrefused : (framing payload l.payloadOffset).refused l.state.synchronized confirmedTls
        = true := by
      by_cases hlen : kTlsRecordHeaderSize + recordLength.toNat > payload.length - l.payloadOffset
      · rw [framing_of_overhang hoff hread hlen, refused_cons, hrefuse]
      · rw [framing_of_fits hoff hread hlen, refused_cons, hrefuse]
    rw [if_pos hrefused, if_neg (by simp [hconfirmed])]
  | case4 l hoff contentType recordLength hread hrefuse accepted total remaining isApp hlen kept =>
    rw [framing_of_overhang hoff hread hlen, refused_cons, if_neg hrefuse]
    exact congrArg _ (afterFraming_overhang l config reverseKey hoff hlen).symm
  | case5 l hoff contentType recordLength hread hrefuse accepted total remaining isApp hlen kept
      ih =>
    have hsync : kept.state.synchronized = true := by
      simp only [kept, accepted, keepCandidate_eq, acceptHeader_eq]
    rw [ih, hsync, refused_of_synchronized, if_neg Bool.false_ne_true,
      framing_of_fits hoff hread hlen, refused_cons, if_neg hrefuse]
    exact congrArg _ (afterFraming_fits l config reverseKey _ hoff hlen).symm
  | case6 l hoff =>
    rw [framing_of_le (Nat.not_lt.mp hoff), afterFraming_nil,
      if_neg (by simp [Framing.refused])]
    simp

end PcapConstrictor.TlsConstrictor
