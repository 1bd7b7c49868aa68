import PcapConstrictor.Common.Table
import PcapConstrictor.Decode.PacketDecode

/-!
# The TLS constrictor

Reference: `policy/TlsConstrictor.hpp`, `policy/TlsConstrictor.cpp`.

`directions_` is a `Table` keyed by direction. The source holds a reference `state` to the entry of
the packet's own direction while it writes `directions_[reverse_key].confirmed_tls`; here `state`
is a value that is stored back at `key` when the function returns. The two only differ in between,
and when `key` and `reverse_key` coincide the write through `reverse_key` sets a flag that `state`
already has.
-/

namespace PcapConstrictor

open ByteString

/-- `TlsConstrictDisposition`. -/
inductive TlsConstrictDisposition
  | noRecord
  | malformed
  | noApplicationData
  | appDataPrefix
  | uncertainFallback
deriving DecidableEq, Repr

/-- `TlsConstrictResult`. -/
structure TlsConstrictResult where
  disposition : TlsConstrictDisposition := .noRecord
  outputLen : UInt32 := 0
deriving DecidableEq, Repr

namespace TlsConstrictor

/-- `TlsConstrictor::DirectionKey`. -/
structure DirectionKey where
  srcIp : IpAddress := IpAddress.zero
  dstIp : IpAddress := IpAddress.zero
  addressLength : UInt8 := 0
  srcPort : UInt16 := 0
  dstPort : UInt16 := 0
deriving DecidableEq, Repr

/-- `TlsConstrictor::DirectionState`. -/
structure DirectionState where
  confirmedTls : Bool := false
  hasSeenApplicationData : Bool := false
  synchronized : Bool := false
  expectedTcpSeq : UInt32 := 0
  hasActiveRecord : Bool := false
  activeRecordContentType : UInt8 := 0
  activeRecordRemainingBytes : UInt32 := 0
  activeRecordConstrictible : Bool := false
deriving DecidableEq, Repr, Inhabited

/-- The type of `directions_`. -/
abbrev Directions := Table DirectionKey DirectionState

def kTlsChangeCipherSpec : UInt8 := 0x14
def kTlsAlert : UInt8 := 0x15
def kTlsHandshake : UInt8 := 0x16
def kTlsApplicationData : UInt8 := 0x17
def kTlsRecordHeaderSize : ℕ := 5
def kTcpFlagSyn : UInt8 := 0x02
def kTcpFlagRst : UInt8 := 0x04

/-- `IsTlsContentType`. -/
def isTlsContentType (contentType : UInt8) : Bool :=
  contentType == kTlsChangeCipherSpec || contentType == kTlsAlert ||
    contentType == kTlsHandshake || contentType == kTlsApplicationData

/-- `ReadTlsRecordHeader`: the content type and record length of the header at `offset`. -/
def readTlsRecordHeader (payload : Bytes) (offset : ℕ) : Option (UInt8 × UInt16) :=
  if ¬ HasBytes payload offset kTlsRecordHeaderSize then
    none
  else if !isTlsContentType (byteAt payload offset) || byteAt payload (offset + 1) != 0x03 then
    none
  else
    some (byteAt payload offset, readBe16 payload (offset + 3))

/-- `AdvanceTcpSeq`: sequence numbers wrap modulo `2 ^ 32`. -/
def advanceTcpSeq (seq : UInt32) (payloadSize : ℕ) : UInt32 := seq + UInt32.ofNat payloadSize

/-- `ClampedKeepSize`. -/
def clampedKeepSize (configured : UInt32) (available : ℕ) : ℕ := min configured.toNat available

/-- `MakeDirectionKey`. -/
def makeDirectionKey (decoded : PacketDecodeResult) : DirectionKey where
  srcIp := decoded.srcAddress
  dstIp := decoded.dstAddress
  addressLength := decoded.addressLength
  srcPort := decoded.srcPort
  dstPort := decoded.dstPort

/-- The `reverse_key` of `Evaluate`. -/
def makeReverseKey (decoded : PacketDecodeResult) : DirectionKey where
  srcIp := decoded.dstAddress
  dstIp := decoded.srcAddress
  addressLength := decoded.addressLength
  srcPort := decoded.dstPort
  dstPort := decoded.srcPort

/-- The lambda `clear_active_record`. -/
def DirectionState.clearActiveRecord (state : DirectionState) : DirectionState :=
  { state with
    hasActiveRecord := false
    activeRecordConstrictible := false
    activeRecordContentType := 0
    activeRecordRemainingBytes := 0 }

/-- A sequence number other than the expected one discards the framing. -/
def DirectionState.dropOnGap (state : DirectionState) (tcpSeq : UInt32) : DirectionState :=
  if state.synchronized && tcpSeq != state.expectedTcpSeq then
    { state.clearActiveRecord with synchronized := false, expectedTcpSeq := 0 }
  else
    state

/-- `directions_[key].confirmed_tls = true`. -/
def confirm (directions : Directions) (key : DirectionKey) : Directions :=
  directions.insert key { directions.value key with confirmedTls := true }

/-- The locals of `Evaluate` after the block that continues the active record. -/
structure Continuation where
  state : DirectionState
  payloadOffset : ℕ
  candidatePayloadSize : ℕ
  hasCandidate : Bool := false
  resetDirection : Bool := false
  keptMiddleContinuation : Bool := false

/-- The block `if (state.has_active_record)` of `Evaluate`. -/
def continueActiveRecord (config : TlsOptions) (payload : Bytes) (state : DirectionState) :
    Continuation :=
  if state.hasActiveRecord then
    let remainingRecordBytes := state.activeRecordRemainingBytes.toNat
    if remainingRecordBytes > payload.length then
      { state :=
          { state with
            activeRecordRemainingBytes :=
              state.activeRecordRemainingBytes - UInt32.ofNat payload.length }
        payloadOffset := payload.length
        candidatePayloadSize := payload.length
        keptMiddleContinuation := state.activeRecordConstrictible }
    else if remainingRecordBytes = payload.length then
      { state := state.clearActiveRecord
        payloadOffset := payload.length
        candidatePayloadSize :=
          if state.activeRecordConstrictible then
            clampedKeepSize config.appDataContinuationKeepBytes payload.length
          else payload.length
        hasCandidate := state.activeRecordConstrictible }
    else
      { state := state.clearActiveRecord
        payloadOffset := remainingRecordBytes
        candidatePayloadSize := payload.length
        resetDirection := state.activeRecordConstrictible }
  else
    { state, payloadOffset := 0, candidatePayloadSize := payload.length }

/-- The locals of `Evaluate` that its framing loop reads and writes. -/
structure FramingLocals where
  directions : Directions
  state : DirectionState
  payloadOffset : ℕ
  candidatePayloadSize : ℕ
  hasCandidate : Bool
  uncertain : Bool

/-- The candidate cut inside an Application Data record of which `available` bytes are present. -/
def FramingLocals.keepCandidate (l : FramingLocals) (config : TlsOptions) (isAppData : Bool)
    (available : ℕ) : FramingLocals :=
  if isAppData then
    { l with
      state := { l.state with hasSeenApplicationData := true }
      candidatePayloadSize :=
        l.payloadOffset + clampedKeepSize config.appDataKeepRecordBytes available
      hasCandidate := true }
  else l

/-- The effect of an accepted record header on the flags of both directions. -/
def FramingLocals.acceptHeader (l : FramingLocals) (reverseKey : DirectionKey)
    (contentType : UInt8) : FramingLocals :=
  if contentType = kTlsHandshake then
    { l with
      state := { l.state with synchronized := true, confirmedTls := true }
      directions := confirm l.directions reverseKey }
  else
    { l with state := { l.state with synchronized := true } }

/-- The framing loop of `Evaluate`. The source leaves it early with disposition `NoRecord`, here an
`error` carrying the table, when an unsynchronized direction shows no acceptable record. -/
def framingLoop (config : TlsOptions) (key reverseKey : DirectionKey) (confirmedTls : Bool)
    (payload : Bytes) (l : FramingLocals) : Except Directions FramingLocals :=
  if _h : l.payloadOffset < payload.length then
    match readTlsRecordHeader payload l.payloadOffset with
    | none =>
      if !l.state.synchronized then
        .error (if !confirmedTls then l.directions.erase key else l.directions.insert key l.state)
      else
        .ok { l with uncertain := true }
    | some (contentType, recordLength) =>
      if !l.state.synchronized && contentType != kTlsHandshake && !confirmedTls then
        .error (l.directions.erase key)
      else
        let accepted := l.acceptHeader reverseKey contentType
        let recordTotalSize := kTlsRecordHeaderSize + recordLength.toNat
        let remainingPayload := payload.length - l.payloadOffset
        let isAppData := contentType == kTlsApplicationData
        if recordTotalSize > remainingPayload then
          let kept := accepted.keepCandidate config isAppData remainingPayload
          .ok
            { kept with
              state :=
                { kept.state with
                  hasActiveRecord := true
                  activeRecordContentType := contentType
                  activeRecordRemainingBytes := UInt32.ofNat (recordTotalSize - remainingPayload)
                  activeRecordConstrictible := isAppData }
              payloadOffset := payload.length }
        else
          let kept := accepted.keepCandidate config isAppData recordTotalSize
          framingLoop config key reverseKey confirmedTls payload
            { kept with payloadOffset := l.payloadOffset + recordTotalSize }
  else
    .ok l
termination_by payload.length - l.payloadOffset
decreasing_by
  simp only [kTlsRecordHeaderSize]
  omega

/-- The default answer of `Evaluate`: the packet is kept in full. -/
def keepPacket (packet : Bytes) (disposition : TlsConstrictDisposition) : TlsConstrictResult where
  disposition := disposition
  outputLen := UInt32.ofNat packet.length

/-- The part of `Evaluate` behind the framing loop. -/
def finish (directions : Directions) (key : DirectionKey) (packet : Bytes)
    (decoded : PacketDecodeResult) (c : Continuation) (l : FramingLocals) :
    Directions × TlsConstrictResult :=
  let state :=
    { l.state with
      expectedTcpSeq := advanceTcpSeq decoded.tcpSeq decoded.transportPayloadLength }
  if c.resetDirection then
    let erased := directions.erase key
    (if state.confirmedTls then
        erased.insert key
          { confirmedTls := true, hasSeenApplicationData := state.hasSeenApplicationData }
      else erased,
      keepPacket packet .noApplicationData)
  else
    (directions.insert key state,
      if l.uncertain then
        keepPacket packet .malformed
      else if c.keptMiddleContinuation then
        keepPacket packet .noApplicationData
      else if !state.synchronized || !l.hasCandidate ||
          l.candidatePayloadSize ≥ decoded.transportPayloadLength then
        keepPacket packet (if state.synchronized then .noApplicationData else .noRecord)
      else
        { disposition := .appDataPrefix
          outputLen := UInt32.ofNat (decoded.transportPayloadOffset + l.candidatePayloadSize) })

/-- The part of `Evaluate` behind its early returns: the packet carries payload. -/
def evaluatePayload (directions : Directions) (packet : Bytes) (decoded : PacketDecodeResult)
    (config : TlsOptions) : Directions × TlsConstrictResult :=
  let key := makeDirectionKey decoded
  let reverseKey := makeReverseKey decoded
  let state := directions.value key
  let directions := directions.insert key state
  let confirmedTls := state.confirmedTls
  let payload := subspan packet decoded.transportPayloadOffset decoded.transportPayloadLength
  let c := continueActiveRecord config payload (state.dropOnGap decoded.tcpSeq)
  let l : FramingLocals :=
    { directions, state := c.state, payloadOffset := c.payloadOffset
      candidatePayloadSize := c.candidatePayloadSize, hasCandidate := c.hasCandidate
      uncertain := false }
  if c.resetDirection then
    finish directions key packet decoded c l
  else
    match framingLoop config key reverseKey confirmedTls payload l with
    | .error directions => (directions, keepPacket packet .noRecord)
    | .ok l => finish l.directions key packet decoded c l

/-- The table after the SYN/RST check of `Evaluate`. -/
def resetOnSynRst (directions : Directions) (decoded : PacketDecodeResult) : Directions :=
  if decoded.tcpFlags &&& (kTcpFlagSyn ||| kTcpFlagRst) ≠ 0 then
    (directions.erase (makeDirectionKey decoded)).erase (makeReverseKey decoded)
  else
    directions

/-- `TlsConstrictor::Evaluate`. -/
def evaluate (directions : Directions) (packet : Bytes) (decoded : PacketDecodeResult)
    (config : TlsOptions) : Directions × TlsConstrictResult :=
  if decoded.transportProtocol ≠ .tcp then
    (directions, keepPacket packet .malformed)
  else
    let directions := resetOnSynRst directions decoded
    if decoded.transportPayloadLength = 0 then
      (directions, keepPacket packet .noApplicationData)
    else if ¬ HasBytes packet decoded.transportPayloadOffset decoded.transportPayloadLength then
      (directions, keepPacket packet .malformed)
    else
      evaluatePayload directions packet decoded config

end TlsConstrictor

end PcapConstrictor
