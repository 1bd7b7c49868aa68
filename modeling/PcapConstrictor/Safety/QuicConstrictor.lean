import PcapConstrictor.Policy.QuicConstrictor
import PcapConstrictor.Safety.TlsConstrictor

/-!
# The QUIC constrictor reads inside the payload

Reference: `policy/QuicConstrictor.cpp`.

The guarded reading of the QUIC constrictor: the nested length fields of a long header, the copy
of a connection ID into its array of twenty bytes, the comparison with a connection ID that an
earlier packet has stored, and the cells that the hash and the order of end points read. The loop
over coalesced long headers runs on fuel, and the fallback for a payload range outside the packet is
an `unreachable` fault.

A stored connection ID carries the bound of its length, so nothing is assumed about the table.
-/

namespace PcapConstrictor

open ByteString Guarded

namespace QuicConstrictor

/-! ## Flows -/

/-- The loop of `CompareEndpoints`, from cell `index` on. -/
def Checked.compareBytes (left right : IpAddress) (index : ℕ) : ℕ → Guarded Ordering
  | 0 => return .eq
  | count + 1 => do
    let leftByte ← readCell left index
    let rightByte ← readCell right index
    if leftByte < rightByte then return .lt
    else if leftByte > rightByte then return .gt
    else compareBytes left right (index + 1) count

/-- Comparing cells inside both addresses never faults. -/
theorem Checked.compareBytes_eq (left right : IpAddress) {index count : ℕ}
    (h : index + count ≤ 16) :
    Checked.compareBytes left right index count
      = .ok (QuicConstrictor.compareBytes (subspan left.toList index count)
          (subspan right.toList index count)) := by
  induction count generalizing index with
  | zero => simp [compareBytes, QuicConstrictor.compareBytes, subspan]
  | succ count ih =>
    have hlength : ∀ array : IpAddress, index < array.toList.length := by
      intro array
      rw [Vector.length_toList]
      omega
    rw [compareBytes, readCell_eq (by omega), ok_bind, readCell_eq (by omega), ok_bind,
      subspan_succ (hlength left), subspan_succ (hlength right), byteAt_toList left (by omega),
      byteAt_toList right (by omega), QuicConstrictor.compareBytes]
    split
    · rfl
    split
    · rfl
    · apply ih
      omega

/-- `CompareEndpoints`. -/
def Checked.compareEndpoints (left right : Endpoint) : Guarded Ordering := do
  let compareLength := min left.addressLength.toNat right.addressLength.toNat
  let order ← compareBytes left.address right.address 0 compareLength
  match order with
  | .lt => return .lt
  | .gt => return .gt
  | .eq =>
    if left.addressLength < right.addressLength then return .lt
    else if left.addressLength > right.addressLength then return .gt
    else if left.port < right.port then return .lt
    else if left.port > right.port then return .gt
    else return .eq

/-- Comparing endpoints never faults: an address length is at most 16. -/
theorem Checked.compareEndpoints_eq {left right : Endpoint}
    (hleft : left.addressLength.toNat ≤ 16) :
    Checked.compareEndpoints left right
      = .ok (QuicConstrictor.compareEndpoints left right) := by
  unfold compareEndpoints QuicConstrictor.compareEndpoints
  dsimp only
  rw [compareBytes_eq _ _ (by omega), ok_bind, subspan_zero, subspan_zero]
  cases QuicConstrictor.compareBytes _ _ with
  | lt => rfl
  | gt => rfl
  | eq =>
    dsimp only
    split
    · rfl
    split
    · rfl
    split
    · rfl
    split <;> rfl

/-- `MakeCanonicalFlow`. -/
def Checked.makeCanonicalFlow (decoded : PacketDecodeResult) :
    Guarded (FlowKey × FlowDirection) := do
  let source := sourceOf decoded
  let destination := destinationOf decoded
  let order ← compareEndpoints source destination
  if order ≠ .gt then
    return ({ ipVersion := decoded.ipVersion, endpointA := source, endpointB := destination },
      .aToB)
  else
    return ({ ipVersion := decoded.ipVersion, endpointA := destination, endpointB := source },
      .bToA)

/-- Ordering a packet's endpoints never faults. -/
theorem Checked.makeCanonicalFlow_eq {decoded : PacketDecodeResult}
    (h : decoded.addressLength.toNat ≤ 16) :
    Checked.makeCanonicalFlow decoded
      = .ok (QuicConstrictor.makeCanonicalFlow decoded) := by
  unfold makeCanonicalFlow QuicConstrictor.makeCanonicalFlow
  dsimp only
  rw [compareEndpoints_eq h, ok_bind]
  split <;> rfl

/-- `FlowKeyHash`. The hash value is not observable, the array cells it reads are. -/
def Checked.hash (key : FlowKey) : Guarded Unit := do
  let _ ← readCells key.endpointA.address key.endpointA.addressLength.toNat
  let _ ← readCells key.endpointB.address key.endpointB.addressLength.toNat
  return ()

/-- Both addresses of the key fit their arrays. -/
def FlowKey.Fits (key : FlowKey) : Prop :=
  key.endpointA.addressLength.toNat ≤ 16 ∧ key.endpointB.addressLength.toNat ≤ 16

/-- Hashing a key reads no further than its addresses. -/
theorem Checked.hash_eq {key : FlowKey} (h : key.Fits) : Checked.hash key = .ok () := by
  rw [hash, readCells_eq h.1, ok_bind, readCells_eq h.2, ok_bind]
  rfl

/-- A packet's own key has addresses that fit. -/
theorem makeCanonicalFlow_fits {decoded : PacketDecodeResult}
    (h : decoded.addressLength.toNat ≤ 16) : (makeCanonicalFlow decoded).1.Fits := by
  unfold makeCanonicalFlow
  dsimp only
  split <;> exact ⟨h, h⟩

/-! ## Long headers -/

/-- `ReadConnectionId`. -/
def Checked.readConnectionId (payload : Bytes) (offset : ℕ) :
    Guarded (Option (ConnectionId × ℕ)) := do
  let fits ← hasBytes payload offset 1
  if ¬ fits = true then
    return none
  else
    let length ← readAt payload offset
    let fits ← hasBytes payload (offset + 1) length.toNat
    if h : length.toNat > kMaxConnectionIdLength ∨ ¬ fits = true then
      return none
    else
      let bytes ← copyCells (Vector.replicate 20 0) payload (offset + 1) length.toNat
      return some
        ({ bytes, length, known := true, length_le := Nat.not_lt.mp fun hlt => h (Or.inl hlt) },
          offset + 1 + length.toNat)

/-- Reading a connection ID never faults, wherever it starts. -/
theorem Checked.readConnectionId_eq (payload : Bytes) (offset : ℕ) :
    Checked.readConnectionId payload offset
      = .ok (QuicConstrictor.readConnectionId payload offset) := by
  unfold readConnectionId QuicConstrictor.readConnectionId
  simp only [hasBytes_eq, ok_bind, pure_eq_ok, decide_eq_true_eq]
  split
  · rfl
  next hfits =>
  simp only [hasBytes_iff, not_not] at hfits
  rw [readAt_eq (by omega), ok_bind]
  split
  · rfl
  next hlength =>
  -- the length was tested against the array before the copy
  simp only [kMaxConnectionIdLength, hasBytes_iff, not_or, not_not, Nat.not_lt] at hlength
  rw [copyCells_eq hlength.2 hlength.1, ok_bind]
  simp only [Fin.getElem_fin, Vector.getElem_replicate]

/-- `ReadVarint`. -/
def Checked.readVarint (bytes : Bytes) (offset : ℕ) : Guarded (Option (UInt64 × ℕ)) := do
  let fits ← hasBytes bytes offset 1
  if ¬ fits = true then
    return none
  else
    let first ← readAt bytes offset
    let length := 1 <<< (first >>> 6).toNat
    let fits ← hasBytes bytes offset length
    if ¬ fits = true then
      return none
    else
      let value ← (List.range' 1 (length - 1)).foldlM
        (fun (value : UInt64) index => do
          let next ← readAt bytes (offset + index)
          return value <<< 8 ||| next.toUInt64)
        (first &&& 0x3F).toUInt64
      return some (value, offset + length)

/-- Reading a varint never faults, wherever it starts. -/
theorem Checked.readVarint_eq (bytes : Bytes) (offset : ℕ) :
    Checked.readVarint bytes offset = .ok (QuicConstrictor.readVarint bytes offset) := by
  unfold readVarint QuicConstrictor.readVarint
  simp only [hasBytes_eq, ok_bind, pure_eq_ok, decide_eq_true_eq]
  split
  · rfl
  next hfits =>
  simp only [hasBytes_iff, not_not] at hfits
  rw [readAt_eq (by omega), ok_bind]
  split
  · rfl
  next hlength =>
  simp only [hasBytes_iff, not_not] at hlength
  -- the loop index stays below the length that was tested
  rw [foldlM_eq_ok fun (value : UInt64) index =>
    value <<< 8 ||| (byteAt bytes (offset + index)).toUInt64]
  · rfl
  intro index hindex value
  rw [List.mem_range'_1] at hindex
  rw [readAt_eq (by omega), ok_bind]

/-- A length field read as a varint, together with the bytes it announces. -/
def Checked.skipCounted (payload : Bytes) (offset : ℕ) : Guarded (Option ℕ) := do
  let counted ← readVarint payload offset
  match counted with
  | none => return none
  | some (length, offset) =>
    let fits ← hasBytes payload offset length.toNat
    if length.toNat > payload.length ∨ ¬ fits = true then
      return none
    else
      return some (offset + length.toNat)

/-- Skipping a counted field never faults: its length is compared before it is added. -/
theorem Checked.skipCounted_eq (payload : Bytes) (offset : ℕ) :
    Checked.skipCounted payload offset = .ok (QuicConstrictor.skipCounted payload offset) := by
  unfold skipCounted QuicConstrictor.skipCounted
  rw [readVarint_eq, ok_bind]
  cases QuicConstrictor.readVarint payload offset with
  | none => rfl
  | some counted =>
    simp only [hasBytes_eq, ok_bind, pure_eq_ok, decide_eq_true_eq]
    split <;> rfl

/-- The end of a long-header packet whose connection IDs end at `offset`. -/
def Checked.longHeaderEnd (payload : Bytes) (packetType : UInt8) (offset : ℕ) :
    Guarded (Option ℕ) :=
  if packetType = 0 then do
    let token ← skipCounted payload offset
    match token with
    | none => return none
    | some offset => skipCounted payload offset
  else if packetType = 3 then
    return some payload.length
  else
    skipCounted payload offset

/-- Finding the end of a long header never faults. -/
theorem Checked.longHeaderEnd_eq (payload : Bytes) (packetType : UInt8) (offset : ℕ) :
    Checked.longHeaderEnd payload packetType offset
      = .ok (QuicConstrictor.longHeaderEnd payload packetType offset) := by
  unfold longHeaderEnd QuicConstrictor.longHeaderEnd
  split
  · rw [skipCounted_eq, ok_bind]
    cases QuicConstrictor.skipCounted payload offset with
    | none => rfl
    | some offset => apply skipCounted_eq
  split
  · rfl
  · apply skipCounted_eq

/-- `ParseLongHeader`. -/
def Checked.parseLongHeader (payload : Bytes) (start : ℕ) : Guarded (Option LongHeaderInfo) := do
  let fits ← hasBytes payload start 7
  if ¬ fits = true then
    return none
  else
    let firstByte ← readAt payload start
    if !isLongHeader firstByte then
      return none
    else
      let packetType := (firstByte >>> 4) &&& 0x03
      let version ← readBe32 payload (start + 1)
      if version = 0 then
        return none
      else
        let dcid ← readConnectionId payload (start + 5)
        match dcid with
        | none => return none
        | some (dcid, offset) =>
          let scid ← readConnectionId payload offset
          match scid with
          | none => return none
          | some (scid, offset) =>
            let stop ← longHeaderEnd payload packetType offset
            match stop with
            | none => return none
            | some stop =>
              let totalSize ← sub stop start
              return some { totalSize, packetType, version, dcid, scid }

/-- Parsing a long header never faults, wherever it starts. -/
theorem Checked.parseLongHeader_eq (payload : Bytes) (start : ℕ) :
    Checked.parseLongHeader payload start
      = .ok (QuicConstrictor.parseLongHeader payload start) := by
  unfold parseLongHeader QuicConstrictor.parseLongHeader
  simp only [hasBytes_eq, ok_bind, pure_eq_ok, decide_eq_true_eq]
  split
  · rfl
  next hfits =>
  simp only [hasBytes_iff, not_not] at hfits
  rw [readAt_eq (by omega), ok_bind]
  split
  · rfl
  rw [readBe32_eq (by omega), ok_bind]
  split
  · rfl
  rw [readConnectionId_eq, ok_bind]
  cases hdcid : QuicConstrictor.readConnectionId payload (start + 5) with
  | none => rfl
  | some dcid =>
    dsimp only
    rw [readConnectionId_eq, ok_bind]
    cases hscid : QuicConstrictor.readConnectionId payload dcid.2 with
    | none => rfl
    | some scid =>
      dsimp only
      rw [longHeaderEnd_eq, ok_bind]
      cases hstop : QuicConstrictor.longHeaderEnd payload _ scid.2 with
      | none => rfl
      | some stop =>
        -- every reader has moved forward from `start`
        obtain ⟨hdcid', -⟩ := readConnectionId_spec hdcid
        obtain ⟨hscid', hle, -⟩ := readConnectionId_spec hscid
        have hend := longHeaderEnd_spec hle hstop
        dsimp only
        rw [sub_eq (by omega)]
        rfl

/-- The loop over coalesced long headers, for at most `fuel` headers. -/
def Checked.longHeaderLoop (flowKey : FlowKey) (direction : FlowDirection) (payload : Bytes) :
    ℕ → LongHeaderLocals → Guarded (Except FlowStates LongHeaderLocals)
  | 0, _ => .error .endless
  | fuel + 1, l =>
    if l.offset < payload.length then do
      let firstByte ← readAt payload l.offset
      if isLongHeader firstByte then
        let parsed ← parseLongHeader payload l.offset
        match parsed with
        | none => return .error l.flowStates
        | some longHeader =>
          let _ ← hash flowKey
          longHeaderLoop flowKey direction payload fuel
            { flowStates := l.flowStates.insert flowKey
                ((l.flowStates.value flowKey).learn direction longHeader.scid)
              offset := l.offset + longHeader.totalSize
              sawLongHeader := true }
      else
        return .ok l
    else
      return .ok l

/-- A long header is never empty, so the loop ends within as many rounds as bytes are left. -/
theorem Checked.longHeaderLoop_eq {flowKey : FlowKey} {payload : Bytes} {fuel : ℕ}
    (direction : FlowDirection) (hkey : flowKey.Fits) (l : LongHeaderLocals)
    (hfuel : payload.length - l.offset < fuel) :
    Checked.longHeaderLoop flowKey direction payload fuel l
      = .ok (QuicConstrictor.longHeaderLoop flowKey direction payload l) := by
  induction fuel generalizing l with
  | zero => omega
  | succ fuel ih =>
    unfold longHeaderLoop QuicConstrictor.longHeaderLoop
    by_cases hoffset : l.offset < payload.length
    · rw [if_pos hoffset, readAt_eq hoffset, ok_bind]
      by_cases hlong : isLongHeader (byteAt payload l.offset) = true
      · -- both loops parse the same header; the guarded one pays a round for it
        rw [if_pos hlong, dif_pos ⟨hoffset, hlong⟩, parseLongHeader_eq, ok_bind]
        split
        · next hparse => rw [hparse]; rfl
        · next longHeader hparse =>
          have hpos := (parseLongHeader_bounds hparse).1
          rw [hash_eq hkey, ok_bind, ih _ (by dsimp only; omega)]
          congr 1
          split
          · next hnone => rw [hparse] at hnone; cases hnone
          · next hsome =>
            rw [hparse] at hsome
            cases hsome
            rfl
      · rw [if_neg hlong, dif_neg fun h => hlong h.2]
        rfl
    · rw [if_neg hoffset, dif_neg fun h => hoffset h.1]
      rfl

/-- The loop leaves the payload nowhere but at its end. -/
theorem longHeaderLoop_offset_le {flowKey : FlowKey} {direction : FlowDirection} {payload : Bytes}
    {l l' : LongHeaderLocals} (hl : l.offset ≤ payload.length)
    (h : longHeaderLoop flowKey direction payload l = .ok l') : l'.offset ≤ payload.length := by
  fun_induction longHeaderLoop flowKey direction payload l with
  | case1 l hlong hparse => cases h
  | case2 l hlong longHeader hparse ih => exact ih (parseLongHeader_bounds hparse).2.1 h
  | case3 l hlong =>
    cases h
    exact hl

/-! ## Evaluate -/

/-- `ConnectionIdMatches`. -/
def Checked.connectionIdMatches (connectionId : ConnectionId) (payload : Bytes) (offset : ℕ) :
    Guarded Bool :=
  if !connectionId.known then
    return false
  else
    equalCells connectionId.bytes payload 0 offset connectionId.length.toNat

/-- Matching a connection ID never faults when the payload is long enough for it. -/
theorem Checked.connectionIdMatches_eq {connectionId : ConnectionId} {payload : Bytes} {offset : ℕ}
    (h : offset + connectionId.length.toNat ≤ payload.length) :
    Checked.connectionIdMatches connectionId payload offset
      = .ok (QuicConstrictor.connectionIdMatches connectionId payload offset) := by
  have hlength := connectionId.length_le
  unfold connectionIdMatches QuicConstrictor.connectionIdMatches
  rw [equalCells_eq (by omega) h, subspan_zero]
  cases connectionId.known <;> rfl

/-- The answer for a short header at `offset` of which at least `minimum` bytes are kept. -/
def Checked.shortHeaderMatched (decoded : PacketDecodeResult) (config : QuicOptions)
    (payload : Bytes) (offset minimum : ℕ) : Guarded QuicConstrictResult := do
  let available ← sub payload.length offset
  let outputLen ← narrow32 (decoded.transportPayloadOffset + offset +
    min available (max config.shortHeaderKeepPacketBytes.toNat minimum))
  return { disposition := .shortHeaderMatched, outputLen }

/-- The lengths kept of a short header fit into 32 bits. -/
theorem Checked.shortHeaderMatched_eq {decoded : PacketDecodeResult} {payload : Bytes} {offset : ℕ}
    (hoffset : offset ≤ payload.length)
    (hpayload : decoded.transportPayloadOffset + payload.length < 2 ^ 32) (config : QuicOptions)
    (minimum : ℕ) :
    Checked.shortHeaderMatched decoded config payload offset minimum
      = .ok (QuicConstrictor.shortHeaderMatched decoded config payload offset minimum) := by
  rw [shortHeaderMatched, sub_eq hoffset, ok_bind, narrow32_eq (by omega)]
  rfl

/-- The part of `Evaluate` behind the lookup of the flow, for a short header at `offset`. -/
def Checked.evaluateShortHeader (found : Option FlowState) (direction : FlowDirection)
    (decoded : PacketDecodeResult) (config : QuicOptions) (payload : Bytes) (offset : ℕ) :
    Guarded QuicConstrictResult :=
  match (found.map (·.expectedDcid direction)).filter (·.known) with
  | none =>
    if config.requireDcidMatch || !config.allowShortHeaderWithoutKnownDcid then
      return { disposition := .unknownCidFallback }
    else
      shortHeaderMatched decoded config payload offset 1
  | some expectedDcid => do
    let requiredPrefixBytes := 1 + expectedDcid.length.toNat
    let fits ← hasBytes payload offset requiredPrefixBytes
    if ¬ fits = true then
      return { disposition := .malformedFallback }
    else
      let matched ← connectionIdMatches expectedDcid payload (offset + 1)
      if !matched then
        return { disposition := .dcidMismatchFallback }
      else
        shortHeaderMatched decoded config payload offset requiredPrefixBytes

/-- Judging a short header never faults: the match is behind a length check. -/
theorem Checked.evaluateShortHeader_eq {decoded : PacketDecodeResult} {payload : Bytes}
    {offset : ℕ} (hoffset : offset ≤ payload.length)
    (hpayload : decoded.transportPayloadOffset + payload.length < 2 ^ 32)
    (found : Option FlowState) (direction : FlowDirection) (config : QuicOptions) :
    Checked.evaluateShortHeader found direction decoded config payload offset
      = .ok (QuicConstrictor.evaluateShortHeader found direction decoded config payload
          offset) := by
  unfold evaluateShortHeader QuicConstrictor.evaluateShortHeader
  cases (found.map (·.expectedDcid direction)).filter (·.known) with
  | none =>
    dsimp only
    split
    · rfl
    · apply shortHeaderMatched_eq hoffset hpayload
  | some expectedDcid =>
    simp only [hasBytes_eq, ok_bind, pure_eq_ok, decide_eq_true_eq]
    split
    · rfl
    next hprefix =>
    simp only [hasBytes_iff, not_not] at hprefix
    rw [connectionIdMatches_eq (by omega), ok_bind]
    split
    · rfl
    · apply shortHeaderMatched_eq hoffset hpayload

/-- The part of `Evaluate` behind the loop over long headers. -/
def Checked.evaluateRest (flowKey : FlowKey) (direction : FlowDirection)
    (decoded : PacketDecodeResult) (config : QuicOptions) (payload : Bytes)
    (l : LongHeaderLocals) : Guarded QuicConstrictResult :=
  if l.offset = payload.length then
    if l.sawLongHeader then return { disposition := .longHeader } else return {}
  else do
    let firstByte ← readAt payload l.offset
    if !isShortHeaderCompatible firstByte then
      if l.sawLongHeader then return { disposition := .malformedFallback } else return {}
    else
      let _ ← hash flowKey
      evaluateShortHeader (l.flowStates.lookup flowKey) direction decoded config payload l.offset

/-- What follows the long headers is judged without a fault. -/
theorem Checked.evaluateRest_eq {flowKey : FlowKey} {decoded : PacketDecodeResult}
    {payload : Bytes} {l : LongHeaderLocals} (hkey : flowKey.Fits)
    (hoffset : l.offset ≤ payload.length)
    (hpayload : decoded.transportPayloadOffset + payload.length < 2 ^ 32)
    (direction : FlowDirection) (config : QuicOptions) :
    Checked.evaluateRest flowKey direction decoded config payload l
      = .ok (QuicConstrictor.evaluateRest flowKey direction decoded config payload l) := by
  unfold evaluateRest QuicConstrictor.evaluateRest
  split
  · split <;> rfl
  next hend =>
  rw [readAt_eq (by omega), ok_bind]
  split
  · split <;> rfl
  · rw [hash_eq hkey, ok_bind]
    apply evaluateShortHeader_eq hoffset hpayload

/-- `QuicConstrictor::Evaluate`. -/
def Checked.evaluate (fuel : ℕ) (flowStates : FlowStates) (packet : Bytes)
    (decoded : PacketDecodeResult) (config : QuicOptions) :
    Guarded (FlowStates × QuicConstrictResult) :=
  if !applicable decoded config then
    return (flowStates, {})
  else if decoded.transportPayloadOffset > packet.length then
    -- `MalformedFallback` for a payload range outside the packet
    .error .unreachable
  else do
    let available ← sub packet.length decoded.transportPayloadOffset
    if decoded.transportPayloadLength > available then
      .error .unreachable
    else
      let payload ← span packet decoded.transportPayloadOffset decoded.transportPayloadLength
      if payload = [] then
        return (flowStates, {})
      else
        let flow ← makeCanonicalFlow decoded
        let looped ← longHeaderLoop flow.1 flow.2 payload fuel { flowStates }
        match looped with
        | .error flowStates => return (flowStates, { disposition := .malformedFallback })
        | .ok l =>
          let result ← evaluateRest flow.1 flow.2 decoded config payload l
          return (l.flowStates, result)

/-- **The QUIC constrictor is safe.** On a packet the decoder has accepted, from every table, it
returns without a fault. -/
theorem Checked.evaluate_eq {fuel : ℕ} {packet : Bytes} {decoded : PacketDecodeResult}
    (hdecoded : TransportDecoded packet decoded) (hpacket : packet.length < 2 ^ 32)
    (hfuel : packet.length < fuel) (flowStates : FlowStates) (config : QuicOptions) :
    Checked.evaluate fuel flowStates packet decoded config
      = .ok (QuicConstrictor.evaluate flowStates packet decoded config) := by
  have hpayload := hdecoded.payload_le_length
  have hlength := length_subspan hpayload
  have hkey := makeCanonicalFlow_fits hdecoded.addressLength_le
  unfold evaluate QuicConstrictor.evaluate
  split
  · rfl
  rw [if_neg (by omega), sub_eq (by omega), ok_bind, if_neg (by omega), if_neg (by omega),
    span_eq hpayload, ok_bind]
  dsimp only
  split
  · rfl
  rw [makeCanonicalFlow_eq hdecoded.addressLength_le, ok_bind,
    longHeaderLoop_eq _ hkey _ (by rw [hlength]; omega), ok_bind]
  cases hloop : QuicConstrictor.longHeaderLoop _ _ _ _ with
  | error flowStates => rfl
  | ok l =>
    have hoffset := longHeaderLoop_offset_le (Nat.zero_le _) hloop
    dsimp only
    rw [evaluateRest_eq hkey hoffset (by omega)]
    rfl

end QuicConstrictor

end PcapConstrictor
