import PcapConstrictor.Policy.TlsConstrictor
import PcapConstrictor.Safety.PacketDecode

/-!
# The TLS constrictor reads inside the payload

Reference: `policy/TlsConstrictor.cpp`.

The guarded reading of the TLS constrictor. Besides the accesses to the payload it tests the cells
of the address arrays that the hash of a direction key reads, the conversions of `size_t` values to
`std::uint32_t`, and the subtraction that counts down the active record; the fallback for a payload
range outside the packet is an `unreachable` fault. The framing loop runs on fuel.

What the plain reading relies on is what the decoder promises about a TCP packet: the payload lies
inside the packet and an address fits its array. Nothing is assumed about the table.
-/

namespace PcapConstrictor

open ByteString Guarded

namespace TlsConstrictor

/-! ## Table accesses -/

/-- `DirectionKeyHash`. The hash value is not observable, the array cells it reads are. -/
def Checked.hash (key : DirectionKey) : Guarded Unit := do
  let _ ← readCells key.srcIp key.addressLength.toNat
  let _ ← readCells key.dstIp key.addressLength.toNat
  return ()

/-- `directions_.erase(key)`. -/
def Checked.erase (directions : Directions) (key : DirectionKey) : Guarded Directions := do
  let _ ← hash key
  return directions.erase key

/-- `directions_[key]`, read. -/
def Checked.value (directions : Directions) (key : DirectionKey) : Guarded DirectionState := do
  let _ ← hash key
  return Table.value directions key

/-- `directions_[key].confirmed_tls = true`. -/
def Checked.confirm (directions : Directions) (key : DirectionKey) : Guarded Directions := do
  let _ ← hash key
  return TlsConstrictor.confirm directions key

section TableAccesses

variable {key : DirectionKey} (h : key.addressLength.toNat ≤ 16)
include h

/-- Hashing a key reads no further than its address. -/
theorem Checked.hash_eq : Checked.hash key = .ok () := by
  rw [hash, readCells_eq h, ok_bind, readCells_eq h, ok_bind]
  rfl

theorem Checked.erase_eq (directions : Directions) :
    Checked.erase directions key = .ok (directions.erase key) := by
  rw [erase, hash_eq h]
  rfl

theorem Checked.value_eq (directions : Directions) :
    Checked.value directions key = .ok (Table.value directions key) := by
  rw [value, hash_eq h]
  rfl

theorem Checked.confirm_eq (directions : Directions) :
    Checked.confirm directions key = .ok (TlsConstrictor.confirm directions key) := by
  rw [confirm, hash_eq h]
  rfl

end TableAccesses

/-! ## Record headers and the active record -/

/-- `ReadTlsRecordHeader`; the version byte is read only behind a known content type. -/
def Checked.readTlsRecordHeader (payload : Bytes) (offset : ℕ) :
    Guarded (Option (UInt8 × UInt16)) := do
  let fits ← hasBytes payload offset kTlsRecordHeaderSize
  if ¬ fits = true then
    return none
  else
    let contentType ← readAt payload offset
    if !isTlsContentType contentType then
      return none
    else
      let version ← readAt payload (offset + 1)
      if version != 0x03 then
        return none
      else
        let recordLength ← readBe16 payload (offset + 3)
        return some (contentType, recordLength)

/-- Reading a record header never faults, wherever it starts. -/
theorem Checked.readTlsRecordHeader_eq (payload : Bytes) (offset : ℕ) :
    Checked.readTlsRecordHeader payload offset
      = .ok (TlsConstrictor.readTlsRecordHeader payload offset) := by
  unfold readTlsRecordHeader TlsConstrictor.readTlsRecordHeader
  simp only [hasBytes_eq, ok_bind, pure_eq_ok, decide_eq_true_eq]
  split
  · rfl
  next hfits =>
  simp only [hasBytes_iff, not_not, kTlsRecordHeaderSize] at hfits
  rw [readAt_eq (by omega), ok_bind, readAt_eq (by omega), ok_bind, readBe16_eq (by omega), ok_bind]
  cases isTlsContentType (byteAt payload offset) with
  | false => rfl
  | true =>
    simp only [Bool.not_true, Bool.false_or]
    split
    · next hfalse => exact absurd hfalse Bool.false_ne_true
    split <;> rfl

/-- `AdvanceTcpSeq`. -/
def Checked.advanceTcpSeq (seq : UInt32) (payloadSize : ℕ) : Guarded UInt32 := do
  let payloadSize ← narrow32 payloadSize
  return seq + payloadSize

/-- A payload's length is narrowed without loss. -/
theorem Checked.advanceTcpSeq_eq {payloadSize : ℕ} (seq : UInt32) (h : payloadSize < 2 ^ 32) :
    Checked.advanceTcpSeq seq payloadSize
      = .ok (TlsConstrictor.advanceTcpSeq seq payloadSize) := by
  rw [advanceTcpSeq, narrow32_eq h]
  rfl

/-- The block `if (state.has_active_record)` of `Evaluate`. -/
def Checked.continueActiveRecord (config : TlsOptions) (payload : Bytes) (state : DirectionState) :
    Guarded Continuation :=
  if state.hasActiveRecord then
    let remainingRecordBytes := state.activeRecordRemainingBytes.toNat
    if remainingRecordBytes > payload.length then do
      let payloadSize ← narrow32 payload.length
      let remaining ← sub32 state.activeRecordRemainingBytes payloadSize
      return {
        state := { state with activeRecordRemainingBytes := remaining }
        payloadOffset := payload.length
        candidatePayloadSize := payload.length
        keptMiddleContinuation := state.activeRecordConstrictible }
    else if remainingRecordBytes = payload.length then
      return {
        state := state.clearActiveRecord
        payloadOffset := payload.length
        candidatePayloadSize :=
          if state.activeRecordConstrictible then
            clampedKeepSize config.appDataContinuationKeepBytes payload.length
          else payload.length
        hasCandidate := state.activeRecordConstrictible }
    else
      return {
        state := state.clearActiveRecord
        payloadOffset := remainingRecordBytes
        candidatePayloadSize := payload.length
        resetDirection := state.activeRecordConstrictible }
  else
    return { state, payloadOffset := 0, candidatePayloadSize := payload.length }

/-- Going on in a record never faults: each subtraction is behind a comparison. -/
theorem Checked.continueActiveRecord_eq (config : TlsOptions) (payload : Bytes)
    (state : DirectionState) :
    Checked.continueActiveRecord config payload state
      = .ok (TlsConstrictor.continueActiveRecord config payload state) := by
  unfold continueActiveRecord TlsConstrictor.continueActiveRecord
  dsimp only
  split
  · split
    · next hlarge =>
      -- a record longer than the payload: the payload size is below a 32-bit value
      have hsize : payload.length < 2 ^ 32 := by
        have hlt := state.activeRecordRemainingBytes.toNat_lt
        omega
      have hle : UInt32.ofNat payload.length ≤ state.activeRecordRemainingBytes := by
        rw [UInt32.le_iff_toNat_le, UInt32.toNat_ofNat', Nat.mod_eq_of_lt hsize]
        exact hlarge.le
      rw [narrow32_eq hsize, ok_bind, sub32_eq hle]
      rfl
    split <;> rfl
  · rfl

/-! ## The framing loop -/

/-- The effect of an accepted record header on the flags of both directions. -/
def Checked.acceptHeader (l : FramingLocals) (reverseKey : DirectionKey) (contentType : UInt8) :
    Guarded FramingLocals :=
  if contentType = kTlsHandshake then do
    let directions ← confirm l.directions reverseKey
    return { l with
      state := { l.state with synchronized := true, confirmedTls := true }
      directions }
  else
    return { l with state := { l.state with synchronized := true } }

/-- Taking note of a header never faults. -/
theorem Checked.acceptHeader_eq (l : FramingLocals) {reverseKey : DirectionKey}
    (h : reverseKey.addressLength.toNat ≤ 16) (contentType : UInt8) :
    Checked.acceptHeader l reverseKey contentType
      = .ok (l.acceptHeader reverseKey contentType) := by
  unfold acceptHeader FramingLocals.acceptHeader
  split
  · rw [confirm_eq h]
    rfl
  · rfl

/-- The framing loop of `Evaluate`, for at most `fuel` records. -/
def Checked.framingLoop (config : TlsOptions) (key reverseKey : DirectionKey) (confirmedTls : Bool)
    (payload : Bytes) : ℕ → FramingLocals → Guarded (Except Directions FramingLocals)
  | 0, _ => .error .endless
  | fuel + 1, l =>
    if l.payloadOffset < payload.length then do
      let header ← readTlsRecordHeader payload l.payloadOffset
      match header with
      | none =>
        if !l.state.synchronized then
          if !confirmedTls then
            let directions ← erase l.directions key
            return .error directions
          else
            return .error (l.directions.insert key l.state)
        else
          return .ok { l with uncertain := true }
      | some (contentType, recordLength) =>
        if !l.state.synchronized && contentType != kTlsHandshake && !confirmedTls then
          let directions ← erase l.directions key
          return .error directions
        else
          let accepted ← acceptHeader l reverseKey contentType
          let recordTotalSize := kTlsRecordHeaderSize + recordLength.toNat
          let remainingPayload ← sub payload.length l.payloadOffset
          let isAppData := contentType == kTlsApplicationData
          if recordTotalSize > remainingPayload then
            let kept := accepted.keepCandidate config isAppData remainingPayload
            let missing ← sub recordTotalSize remainingPayload
            let activeRecordRemainingBytes ← narrow32 missing
            return .ok
              { kept with
                state :=
                  { kept.state with
                    hasActiveRecord := true
                    activeRecordContentType := contentType
                    activeRecordRemainingBytes
                    activeRecordConstrictible := isAppData }
                payloadOffset := payload.length }
          else
            let kept := accepted.keepCandidate config isAppData recordTotalSize
            framingLoop config key reverseKey confirmedTls payload fuel
              { kept with payloadOffset := l.payloadOffset + recordTotalSize }
    else
      return .ok l

/-- A record takes at least the five bytes of its header, so the loop ends within as many rounds as
bytes are left. -/
theorem Checked.framingLoop_eq {key reverseKey : DirectionKey} {payload : Bytes} {fuel : ℕ}
    (config : TlsOptions) (confirmedTls : Bool) (hkey : key.addressLength.toNat ≤ 16)
    (hreverse : reverseKey.addressLength.toNat ≤ 16) (l : FramingLocals)
    (hfuel : payload.length - l.payloadOffset < fuel) :
    Checked.framingLoop config key reverseKey confirmedTls payload fuel l
      = .ok (TlsConstrictor.framingLoop config key reverseKey confirmedTls payload l) := by
  induction fuel generalizing l with
  | zero => omega
  | succ fuel ih =>
    unfold framingLoop TlsConstrictor.framingLoop
    by_cases hoffset : l.payloadOffset < payload.length
    · rw [if_pos hoffset, dif_pos hoffset, readTlsRecordHeader_eq, ok_bind]
      cases TlsConstrictor.readTlsRecordHeader payload l.payloadOffset with
      | none =>
        dsimp only
        split
        · split
          · rw [erase_eq hkey]
            rfl
          · rfl
        · rfl
      | some header =>
        obtain ⟨contentType, recordLength⟩ := header
        dsimp only
        split
        · rw [erase_eq hkey]
          rfl
        rw [acceptHeader_eq l hreverse, ok_bind, sub_eq hoffset.le, ok_bind]
        split
        · next hlarge =>
          -- the record goes on behind the payload; what is missing is below 65540 bytes
          have hmissing : kTlsRecordHeaderSize + recordLength.toNat
              - (payload.length - l.payloadOffset) < 2 ^ 32 := by
            have hlt := recordLength.toNat_lt
            simp only [kTlsRecordHeaderSize]
            omega
          rw [sub_eq hlarge.le, ok_bind, narrow32_eq hmissing]
          rfl
        · apply ih
          simp only [kTlsRecordHeaderSize]
          omega
    · rw [if_neg hoffset, dif_neg hoffset]
      rfl

/-! ## Evaluate -/

/-- The part of `Evaluate` behind the framing loop; `result` is the answer prepared at its head. -/
def Checked.finish (directions : Directions) (key : DirectionKey) (result : TlsConstrictResult)
    (decoded : PacketDecodeResult) (c : Continuation) (l : FramingLocals) :
    Guarded (Directions × TlsConstrictResult) := do
  let expectedTcpSeq ← advanceTcpSeq decoded.tcpSeq decoded.transportPayloadLength
  let state := { l.state with expectedTcpSeq }
  if c.resetDirection then
    let erased ← erase directions key
    if state.confirmedTls then
      let _ ← hash key
      return (erased.insert key
          { confirmedTls := true, hasSeenApplicationData := state.hasSeenApplicationData },
        { result with disposition := .noApplicationData })
    else
      return (erased, { result with disposition := .noApplicationData })
  else if l.uncertain then
    return (directions.insert key state, { result with disposition := .malformed })
  else if c.keptMiddleContinuation then
    return (directions.insert key state, { result with disposition := .noApplicationData })
  else if !state.synchronized || !l.hasCandidate ||
      l.candidatePayloadSize ≥ decoded.transportPayloadLength then
    return (directions.insert key state,
      { result with
        disposition := if state.synchronized then .noApplicationData else .noRecord })
  else
    let outputLen ← narrow32 (decoded.transportPayloadOffset + l.candidatePayloadSize)
    return (directions.insert key state, { disposition := .appDataPrefix, outputLen })

/-- Everything behind the framing loop is done without a fault. -/
theorem Checked.finish_eq {packet : Bytes} {decoded : PacketDecodeResult} {key : DirectionKey}
    (hdecoded : TransportDecoded packet decoded) (hpacket : packet.length < 2 ^ 32)
    (hkey : key.addressLength.toNat ≤ 16) (directions : Directions) (c : Continuation)
    (l : FramingLocals) :
    Checked.finish directions key (keepPacket packet .noRecord) decoded c l
      = .ok (TlsConstrictor.finish directions key packet decoded c l) := by
  have hpayload := hdecoded.payload_le_length
  unfold finish TlsConstrictor.finish
  rw [advanceTcpSeq_eq _ (by omega), ok_bind]
  dsimp only
  split
  · rw [erase_eq hkey, ok_bind, hash_eq hkey, ok_bind]
    split <;> rfl
  split
  · rfl
  split
  · rfl
  split
  · rfl
  next hcut =>
  -- the cut lies inside the payload, which lies inside the packet
  simp only [Bool.or_eq_true, decide_eq_true_eq, not_or, Nat.not_le] at hcut
  rw [narrow32_eq (by omega)]
  rfl

/-- The part of `Evaluate` behind its early returns: the packet carries payload. -/
def Checked.evaluatePayload (fuel : ℕ) (directions : Directions) (packet : Bytes)
    (result : TlsConstrictResult) (decoded : PacketDecodeResult) (config : TlsOptions) :
    Guarded (Directions × TlsConstrictResult) := do
  let key := makeDirectionKey decoded
  let reverseKey := makeReverseKey decoded
  let state ← value directions key
  let directions := directions.insert key state
  let confirmedTls := state.confirmedTls
  let payload ← span packet decoded.transportPayloadOffset decoded.transportPayloadLength
  let c ← continueActiveRecord config payload (state.dropOnGap decoded.tcpSeq)
  let l : FramingLocals :=
    { directions, state := c.state, payloadOffset := c.payloadOffset
      candidatePayloadSize := c.candidatePayloadSize, hasCandidate := c.hasCandidate
      uncertain := false }
  if c.resetDirection then
    finish directions key result decoded c l
  else
    let framed ← framingLoop config key reverseKey confirmedTls payload fuel l
    match framed with
    | .error directions => return (directions, { result with disposition := .noRecord })
    | .ok l => finish l.directions key result decoded c l

/-- With fuel for each byte of the packet, its payload is evaluated without a fault. -/
theorem Checked.evaluatePayload_eq {fuel : ℕ} {packet : Bytes} {decoded : PacketDecodeResult}
    (hdecoded : TransportDecoded packet decoded) (hpacket : packet.length < 2 ^ 32)
    (hfuel : packet.length < fuel) (directions : Directions) (config : TlsOptions) :
    Checked.evaluatePayload fuel directions packet (keepPacket packet .noRecord) decoded config
      = .ok (TlsConstrictor.evaluatePayload directions packet decoded config) := by
  have hkey : (makeDirectionKey decoded).addressLength.toNat ≤ 16 := hdecoded.addressLength_le
  have hreverse : (makeReverseKey decoded).addressLength.toNat ≤ 16 := hdecoded.addressLength_le
  have hpayload := hdecoded.payload_le_length
  have hlength := length_subspan hpayload
  unfold evaluatePayload TlsConstrictor.evaluatePayload
  dsimp only
  rw [value_eq hkey, ok_bind, span_eq hpayload, ok_bind, continueActiveRecord_eq, ok_bind]
  split
  · apply finish_eq hdecoded hpacket hkey
  rw [framingLoop_eq config _ hkey hreverse _ (by rw [hlength]; omega), ok_bind]
  generalize TlsConstrictor.framingLoop config _ _ _ _ _ = framed
  cases framed with
  | error directions => rfl
  | ok l => apply finish_eq hdecoded hpacket hkey

/-- The table after the SYN/RST check of `Evaluate`. -/
def Checked.resetOnSynRst (directions : Directions) (decoded : PacketDecodeResult) :
    Guarded Directions :=
  if decoded.tcpFlags &&& (kTcpFlagSyn ||| kTcpFlagRst) ≠ 0 then do
    let directions ← erase directions (makeDirectionKey decoded)
    erase directions (makeReverseKey decoded)
  else
    return directions

theorem Checked.resetOnSynRst_eq {packet : Bytes} {decoded : PacketDecodeResult}
    (hdecoded : TransportDecoded packet decoded) (directions : Directions) :
    Checked.resetOnSynRst directions decoded
      = .ok (TlsConstrictor.resetOnSynRst directions decoded) := by
  have hkey : (makeDirectionKey decoded).addressLength.toNat ≤ 16 := hdecoded.addressLength_le
  have hreverse : (makeReverseKey decoded).addressLength.toNat ≤ 16 := hdecoded.addressLength_le
  unfold resetOnSynRst TlsConstrictor.resetOnSynRst
  split
  · rw [erase_eq hkey, ok_bind]
    apply erase_eq hreverse
  · rfl

/-- `TlsConstrictor::Evaluate`. -/
def Checked.evaluate (fuel : ℕ) (directions : Directions) (packet : Bytes)
    (decoded : PacketDecodeResult) (config : TlsOptions) :
    Guarded (Directions × TlsConstrictResult) := do
  let outputLen ← narrow32 packet.length
  let result : TlsConstrictResult := { disposition := .noRecord, outputLen }
  if decoded.transportProtocol ≠ .tcp then
    return (directions, { result with disposition := .malformed })
  else
    let directions ← resetOnSynRst directions decoded
    if decoded.transportPayloadLength = 0 then
      return (directions, { result with disposition := .noApplicationData })
    else
      let fits ← hasBytes packet decoded.transportPayloadOffset decoded.transportPayloadLength
      if ¬ fits = true then
        -- `Malformed` for a payload range outside the packet
        .error .unreachable
      else
        evaluatePayload fuel directions packet result decoded config

/-- **The TLS constrictor is safe.** On a packet the decoder has accepted, from every table, it
returns without a fault. -/
theorem Checked.evaluate_eq {fuel : ℕ} {packet : Bytes} {decoded : PacketDecodeResult}
    (hdecoded : TransportDecoded packet decoded) (hpacket : packet.length < 2 ^ 32)
    (hfuel : packet.length < fuel) (directions : Directions) (config : TlsOptions) :
    Checked.evaluate fuel directions packet decoded config
      = .ok (TlsConstrictor.evaluate directions packet decoded config) := by
  unfold evaluate TlsConstrictor.evaluate
  rw [narrow32_eq hpacket, ok_bind]
  dsimp only
  split
  · rfl
  rw [resetOnSynRst_eq hdecoded, ok_bind]
  split
  · rfl
  rw [hasBytes_eq, ok_bind, decide_eq_true hdecoded.hasBytes_payload, if_neg (not_not.mpr rfl),
    if_neg (not_not.mpr hdecoded.hasBytes_payload)]
  exact evaluatePayload_eq hdecoded hpacket hfuel _ config

end TlsConstrictor

end PcapConstrictor
