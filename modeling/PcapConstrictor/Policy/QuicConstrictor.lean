import PcapConstrictor.Common.Table
import PcapConstrictor.Decode.PacketDecode

/-!
# The QUIC constrictor

Reference: `policy/QuicConstrictor.hpp`, `policy/QuicConstrictor.cpp`.

The readers of the source return `bool` and write through references; here each returns an `Option`
with what was written. The connection ID carries the bound of its length, which only
`readConnectionId` establishes and `connectionIdMatches` relies on.
-/

namespace PcapConstrictor

open ByteString

/-- `QuicConstrictDisposition`. -/
inductive QuicConstrictDisposition
  | notApplicable
  | longHeader
  | shortHeaderMatched
  | unknownCidFallback
  | dcidMismatchFallback
  | malformedFallback
deriving DecidableEq, Repr

/-- `QuicConstrictResult`. -/
structure QuicConstrictResult where
  disposition : QuicConstrictDisposition := .notApplicable
  outputLen : UInt32 := 0
deriving DecidableEq, Repr

namespace QuicConstrictor

/-- `kMaxConnectionIdLength`. -/
def kMaxConnectionIdLength : ℕ := 20

/-- `QuicConstrictor::ConnectionId`. Bytes behind `length` are zero. -/
structure ConnectionId where
  bytes : Vector UInt8 20 := Vector.replicate 20 0
  length : UInt8 := 0
  known : Bool := false
  length_le : length.toNat ≤ 20 := by decide
deriving DecidableEq, Repr

instance : Inhabited ConnectionId := ⟨{}⟩

/-- The bytes of the connection ID proper. -/
def ConnectionId.value (id : ConnectionId) : Bytes := id.bytes.toList.take id.length.toNat

/-- `QuicConstrictor::Endpoint`. -/
structure Endpoint where
  address : IpAddress := IpAddress.zero
  addressLength : UInt8 := 0
  port : UInt16 := 0
deriving DecidableEq, Repr

/-- `QuicConstrictor::FlowKey`. -/
structure FlowKey where
  ipVersion : IpVersion := .none
  endpointA : Endpoint := {}
  endpointB : Endpoint := {}
deriving DecidableEq, Repr

/-- `QuicConstrictor::FlowDirection`. -/
inductive FlowDirection
  | aToB
  | bToA
deriving DecidableEq, Repr

/-- `QuicConstrictor::FlowState`. -/
structure FlowState where
  endpointAScid : ConnectionId := {}
  endpointBScid : ConnectionId := {}
deriving DecidableEq, Repr

instance : Inhabited FlowState := ⟨{}⟩

/-- The type of `flow_states_`. -/
abbrev FlowStates := Table FlowKey FlowState

/-- `LongHeaderInfo`. -/
structure LongHeaderInfo where
  totalSize : ℕ
  packetType : UInt8
  version : UInt32
  dcid : ConnectionId
  scid : ConnectionId
deriving DecidableEq, Repr

/-- `IsLongHeader`. -/
def isLongHeader (firstByte : UInt8) : Bool := firstByte &&& 0x80 != 0

/-- `IsShortHeaderCompatible`. -/
def isShortHeaderCompatible (firstByte : UInt8) : Bool :=
  firstByte &&& 0x80 == 0 && firstByte &&& 0x40 != 0

/-! ## Flows -/

/-- The loop of `CompareEndpoints` over two byte sequences of one length. -/
def compareBytes : Bytes → Bytes → Ordering
  | a :: left, b :: right =>
    if a < b then .lt
    else if a > b then .gt
    else compareBytes left right
  | _, _ => .eq

/-- `CompareEndpoints`; the source returns `-1`, `0` or `1`. -/
def compareEndpoints (left right : Endpoint) : Ordering :=
  let compareLength := min left.addressLength.toNat right.addressLength.toNat
  match compareBytes (left.address.toList.take compareLength)
      (right.address.toList.take compareLength) with
  | .lt => .lt
  | .gt => .gt
  | .eq =>
    if left.addressLength < right.addressLength then .lt
    else if left.addressLength > right.addressLength then .gt
    else if left.port < right.port then .lt
    else if left.port > right.port then .gt
    else .eq

/-- The local `source` of `MakeCanonicalFlow`. -/
def sourceOf (decoded : PacketDecodeResult) : Endpoint where
  address := decoded.srcAddress
  addressLength := decoded.addressLength
  port := decoded.srcPort

/-- The local `destination` of `MakeCanonicalFlow`. -/
def destinationOf (decoded : PacketDecodeResult) : Endpoint where
  address := decoded.dstAddress
  addressLength := decoded.addressLength
  port := decoded.dstPort

/-- `MakeCanonicalFlow`. -/
def makeCanonicalFlow (decoded : PacketDecodeResult) : FlowKey × FlowDirection :=
  let source := sourceOf decoded
  let destination := destinationOf decoded
  if compareEndpoints source destination ≠ .gt then
    ({ ipVersion := decoded.ipVersion, endpointA := source, endpointB := destination }, .aToB)
  else
    ({ ipVersion := decoded.ipVersion, endpointA := destination, endpointB := source }, .bToA)

/-! ## Long headers -/

/-- `ReadConnectionId`: the connection ID at `offset` and the offset behind it. -/
def readConnectionId (payload : Bytes) (offset : ℕ) : Option (ConnectionId × ℕ) :=
  if ¬ HasBytes payload offset 1 then
    none
  else
    let length := byteAt payload offset
    if h : length.toNat > kMaxConnectionIdLength ∨ ¬ HasBytes payload (offset + 1) length.toNat then
      none
    else
      some
        ({ bytes := Vector.ofFn fun i =>
             if i.val < length.toNat then byteAt payload (offset + 1 + i.val) else 0
           length
           known := true
           length_le := Nat.not_lt.mp fun hlt => h (Or.inl hlt) },
          offset + 1 + length.toNat)

/-- `ReadVarint`: the value at `offset` and the offset behind it. -/
def readVarint (bytes : Bytes) (offset : ℕ) : Option (UInt64 × ℕ) :=
  if ¬ HasBytes bytes offset 1 then
    none
  else
    let first := byteAt bytes offset
    let length := 1 <<< (first >>> 6).toNat
    if ¬ HasBytes bytes offset length then
      none
    else
      some
        ((List.range' 1 (length - 1)).foldl
            (fun value index => value <<< 8 ||| (byteAt bytes (offset + index)).toUInt64)
            (first &&& 0x3F).toUInt64,
          offset + length)

/-- A length field read as a varint, together with the bytes it announces: the offset behind
them. -/
def skipCounted (payload : Bytes) (offset : ℕ) : Option ℕ :=
  match readVarint payload offset with
  | none => none
  | some (length, offset) =>
    if length.toNat > payload.length ∨ ¬ HasBytes payload offset length.toNat then
      none
    else
      some (offset + length.toNat)

/-- The end of a long-header packet whose connection IDs end at `offset`: the part of
`ParseLongHeader` that depends on the packet type. -/
def longHeaderEnd (payload : Bytes) (packetType : UInt8) (offset : ℕ) : Option ℕ :=
  if packetType = 0 then
    match skipCounted payload offset with
    | none => none
    | some offset => skipCounted payload offset
  else if packetType = 3 then
    some payload.length
  else
    skipCounted payload offset

/-- `ParseLongHeader`. -/
def parseLongHeader (payload : Bytes) (start : ℕ) : Option LongHeaderInfo :=
  if ¬ HasBytes payload start 7 then
    none
  else
    let firstByte := byteAt payload start
    if !isLongHeader firstByte then
      none
    else
      let packetType := (firstByte >>> 4) &&& 0x03
      let version := readBe32 payload (start + 1)
      if version = 0 then
        none
      else
        match readConnectionId payload (start + 5) with
        | none => none
        | some (dcid, offset) =>
          match readConnectionId payload offset with
          | none => none
          | some (scid, offset) =>
            match longHeaderEnd payload packetType offset with
            | none => none
            | some stop => some { totalSize := stop - start, packetType, version, dcid, scid }

/-! Each reader moves forward and stays inside the payload, so the loop over coalesced long headers
ends. -/

/-- What `ReadConnectionId` returns. -/
theorem readConnectionId_spec {payload : Bytes} {offset stop : ℕ} {id : ConnectionId}
    (h : readConnectionId payload offset = some (id, stop)) :
    stop = offset + 1 + id.length.toNat ∧ stop ≤ payload.length ∧ id.known = true ∧
      id.value = subspan payload (offset + 1) id.length.toNat := by
  unfold readConnectionId at h
  split at h
  · cases h
  dsimp only at h
  split at h
  · cases h
  next hlength =>
  simp only [kMaxConnectionIdLength, not_or, not_not, Nat.not_lt] at hlength
  have hbytes := hasBytes_iff.mp hlength.2
  rw [Option.some.injEq, Prod.mk.injEq] at h
  obtain ⟨rfl, rfl⟩ := h
  refine ⟨rfl, hbytes, rfl, ?_⟩
  have hle := hlength.1
  refine List.ext_getElem ?_ ?_
  · rw [length_subspan hbytes]
    simpa [ConnectionId.value] using hle
  · intro i hi _
    simp only [ConnectionId.value, List.length_take, Vector.length_toList] at hi
    have hlt : i < (byteAt payload offset).toNat := by omega
    simp only [ConnectionId.value, subspan, List.getElem_take, List.getElem_drop,
      Vector.getElem_toList, Vector.getElem_ofFn]
    rw [if_pos hlt, byteAt, ← List.getElem_eq_getD 0]

/-- A varint that is read ends within the buffer. -/
theorem readVarint_spec {bytes : Bytes} {offset stop : ℕ} {value : UInt64}
    (h : readVarint bytes offset = some (value, stop)) :
    offset < stop ∧ stop ≤ bytes.length := by
  unfold readVarint at h
  split at h
  · cases h
  dsimp only at h
  split at h
  · cases h
  next hbytes =>
  have hle := hasBytes_iff.mp (not_not.mp hbytes)
  rw [Option.some.injEq, Prod.mk.injEq] at h
  obtain ⟨-, rfl⟩ := h
  have hpos : 0 < 1 <<< (byteAt bytes offset >>> 6).toNat := by
    rw [Nat.one_shiftLeft]
    exact Nat.two_pow_pos _
  omega

/-- A counted field that is skipped ends within the payload. -/
theorem skipCounted_spec {payload : Bytes} {offset stop : ℕ}
    (h : skipCounted payload offset = some stop) : offset < stop ∧ stop ≤ payload.length := by
  unfold skipCounted at h
  split at h
  · cases h
  next value next hread =>
  obtain ⟨hlt, -⟩ := readVarint_spec hread
  split at h
  · cases h
  next hbytes =>
  simp only [not_or, not_not] at hbytes
  have hle := hasBytes_iff.mp hbytes.2
  rw [Option.some.injEq] at h
  omega

/-- A long header ends within the payload. -/
theorem longHeaderEnd_spec {payload : Bytes} {packetType : UInt8} {offset stop : ℕ}
    (hoffset : offset ≤ payload.length) (h : longHeaderEnd payload packetType offset = some stop) :
    offset ≤ stop ∧ stop ≤ payload.length := by
  unfold longHeaderEnd at h
  split at h
  · split at h
    · cases h
    · next next hskip =>
      have hfirst := skipCounted_spec hskip
      have hsecond := skipCounted_spec h
      omega
  split at h
  · rw [Option.some.injEq] at h
    omega
  · have hskip := skipCounted_spec h
    omega

/-- What `ParseLongHeader` checks and reads. -/
theorem parseLongHeader_eq_some {payload : Bytes} {start : ℕ} {info : LongHeaderInfo} :
    parseLongHeader payload start = some info ↔
      HasBytes payload start 7 ∧ isLongHeader (byteAt payload start) = true ∧
        readBe32 payload (start + 1) ≠ 0 ∧
        ∃ dcid offset scid offset' stop,
          readConnectionId payload (start + 5) = some (dcid, offset) ∧
          readConnectionId payload offset = some (scid, offset') ∧
          longHeaderEnd payload ((byteAt payload start >>> 4) &&& 0x03) offset' = some stop ∧
          info = ⟨stop - start, (byteAt payload start >>> 4) &&& 0x03,
            readBe32 payload (start + 1), dcid, scid⟩ := by
  unfold parseLongHeader
  dsimp only
  constructor
  · intro h
    split at h
    · cases h
    next hseven =>
    split at h
    · cases h
    next hlong =>
    split at h
    · cases h
    next hversion =>
    split at h
    · cases h
    next dcid offset hdcid =>
    split at h
    · cases h
    next scid offset' hscid =>
    split at h
    · cases h
    next stop hstop =>
    rw [Bool.not_eq_true', Bool.not_eq_false] at hlong
    exact ⟨not_not.mp hseven, hlong, hversion, dcid, offset, scid, offset', stop, hdcid, hscid,
      hstop, (Option.some.inj h).symm⟩
  · rintro ⟨hseven, hlong, hversion, dcid, offset, scid, offset', stop, hdcid, hscid, hstop, rfl⟩
    rw [if_neg (not_not.mpr hseven), if_neg (by rw [hlong]; decide), if_neg hversion, hdcid]
    dsimp only
    rw [hscid]
    dsimp only
    rw [hstop]

/-- A parsed long header moves forward and stays inside the payload. -/
theorem parseLongHeader_bounds {payload : Bytes} {start : ℕ} {info : LongHeaderInfo}
    (h : parseLongHeader payload start = some info) :
    0 < info.totalSize ∧ start + info.totalSize ≤ payload.length ∧ info.scid.known = true := by
  obtain ⟨-, -, -, dcid, offset, scid, offset', stop, hdcid, hscid, hstop, rfl⟩ :=
    parseLongHeader_eq_some.mp h
  obtain ⟨hoffset, -, -⟩ := readConnectionId_spec hdcid
  obtain ⟨hoffset', hle, hknown, -⟩ := readConnectionId_spec hscid
  have hend := longHeaderEnd_spec hle hstop
  refine ⟨?_, ?_, hknown⟩ <;> dsimp only <;> omega

/-! ## Evaluate -/

/-- The update of a flow with the source connection ID of a long header: only a known, non-empty
one is stored, in the slot of the sending end point. -/
def FlowState.learn (state : FlowState) (direction : FlowDirection) (scid : ConnectionId) :
    FlowState :=
  if scid.known && scid.length > 0 then
    match direction with
    | .aToB => { state with endpointAScid := scid }
    | .bToA => { state with endpointBScid := scid }
  else
    state

/-- The locals of the loop over coalesced long headers. -/
structure LongHeaderLocals where
  flowStates : FlowStates
  offset : ℕ := 0
  sawLongHeader : Bool := false

/-- The loop over coalesced long headers. A header that does not parse returns `MalformedFallback`
from `Evaluate`, here an `error` carrying the table. -/
def longHeaderLoop (flowKey : FlowKey) (direction : FlowDirection) (payload : Bytes)
    (l : LongHeaderLocals) : Except FlowStates LongHeaderLocals :=
  if _h : l.offset < payload.length ∧ isLongHeader (byteAt payload l.offset) = true then
    match _hparse : parseLongHeader payload l.offset with
    | none => .error l.flowStates
    | some longHeader =>
      longHeaderLoop flowKey direction payload
        { flowStates := l.flowStates.insert flowKey
            ((l.flowStates.value flowKey).learn direction longHeader.scid)
          offset := l.offset + longHeader.totalSize
          sawLongHeader := true }
  else
    .ok l
termination_by payload.length - l.offset
decreasing_by
  have hpos := (parseLongHeader_bounds _hparse).1
  omega

/-- `ConnectionIdMatches`. -/
def connectionIdMatches (connectionId : ConnectionId) (payload : Bytes) (offset : ℕ) : Bool :=
  connectionId.known && connectionId.value == subspan payload offset connectionId.length.toNat

/-- The slot of the end point a packet is sent to, which holds the connection ID that end point
chose. -/
def FlowState.expectedDcid (state : FlowState) (direction : FlowDirection) : ConnectionId :=
  match direction with
  | .aToB => state.endpointBScid
  | .bToA => state.endpointAScid

/-- The answer for a short header at `offset` of the payload of which at least `minimum` bytes are
kept. -/
def shortHeaderMatched (decoded : PacketDecodeResult) (config : QuicOptions) (payload : Bytes)
    (offset minimum : ℕ) : QuicConstrictResult where
  disposition := .shortHeaderMatched
  outputLen := UInt32.ofNat (decoded.transportPayloadOffset + offset +
    min (payload.length - offset) (max config.shortHeaderKeepPacketBytes.toNat minimum))

/-- The part of `Evaluate` behind the lookup of the flow, for a short header at `offset`. -/
def evaluateShortHeader (found : Option FlowState) (direction : FlowDirection)
    (decoded : PacketDecodeResult) (config : QuicOptions) (payload : Bytes) (offset : ℕ) :
    QuicConstrictResult :=
  match (found.map (·.expectedDcid direction)).filter (·.known) with
  | none =>
    if config.requireDcidMatch || !config.allowShortHeaderWithoutKnownDcid then
      { disposition := .unknownCidFallback }
    else
      shortHeaderMatched decoded config payload offset 1
  | some expectedDcid =>
    let requiredPrefixBytes := 1 + expectedDcid.length.toNat
    if ¬ HasBytes payload offset requiredPrefixBytes then
      { disposition := .malformedFallback }
    else if !connectionIdMatches expectedDcid payload (offset + 1) then
      { disposition := .dcidMismatchFallback }
    else
      shortHeaderMatched decoded config payload offset requiredPrefixBytes

/-- The part of `Evaluate` behind the loop over long headers. -/
def evaluateRest (flowKey : FlowKey) (direction : FlowDirection) (decoded : PacketDecodeResult)
    (config : QuicOptions) (payload : Bytes) (l : LongHeaderLocals) : QuicConstrictResult :=
  if l.offset = payload.length then
    if l.sawLongHeader then { disposition := .longHeader } else {}
  else if !isShortHeaderCompatible (byteAt payload l.offset) then
    if l.sawLongHeader then { disposition := .malformedFallback } else {}
  else
    evaluateShortHeader (l.flowStates.lookup flowKey) direction decoded config payload l.offset

/-- The guard at the head of `Evaluate`. -/
def applicable (decoded : PacketDecodeResult) (config : QuicOptions) : Bool :=
  config.enabled && decoded.transportProtocol == .udp && decoded.transportPayloadLength != 0 &&
    (portConfigured config.ports decoded.srcPort || portConfigured config.ports decoded.dstPort)

/-- `QuicConstrictor::Evaluate`. -/
def evaluate (flowStates : FlowStates) (packet : Bytes) (decoded : PacketDecodeResult)
    (config : QuicOptions) : FlowStates × QuicConstrictResult :=
  if !applicable decoded config then
    (flowStates, {})
  else if decoded.transportPayloadOffset > packet.length ∨
      decoded.transportPayloadLength > packet.length - decoded.transportPayloadOffset then
    (flowStates, { disposition := .malformedFallback })
  else
    let payload := subspan packet decoded.transportPayloadOffset decoded.transportPayloadLength
    if payload = [] then
      (flowStates, {})
    else
      let (flowKey, direction) := makeCanonicalFlow decoded
      match longHeaderLoop flowKey direction payload { flowStates } with
      | .error flowStates => (flowStates, { disposition := .malformedFallback })
      | .ok l => (l.flowStates, evaluateRest flowKey direction decoded config payload l)

end QuicConstrictor

end PcapConstrictor
