import PcapConstrictor.Policy.QuicConstrictor
import PcapConstrictor.Policy.TlsConstrictor

/-!
# The live capture policy

Reference: `policy/LiveCapturePolicy.hpp`, `policy/LiveCapturePolicy.cpp`.

The state of a `LiveCapturePolicy` is the state of its two constrictors; the configuration does not
change.
-/

namespace PcapConstrictor

/-- `DecisionReason`. -/
inductive DecisionReason
  | default
  | parseError
  | nonIp
  | tcp
  | udp
  | tlsCandidate
  | tlsApplicationDataConstricted
  | tlsMalformedFallback
  | tlsNoRecordFallback
  | quicCandidate
  | quicLongHeader
  | quicShortHeaderMatched
  | quicShortHeaderConstricted
  | quicShortHeaderUnknownCidFallback
  | quicShortHeaderDcidMismatchFallback
  | quicMalformedFallback
deriving DecidableEq, Repr

/-- `LiveCaptureDecision`. -/
structure LiveCaptureDecision where
  outputLen : UInt32 := 0
  originalLen : UInt32 := 0
  reason : DecisionReason := .default
  decode : PacketDecodeResult := {}
deriving DecidableEq, Repr

namespace LiveCapturePolicy

/-- The members `tls_constrictor_` and `quic_constrictor_`. -/
structure State where
  tlsConstrictor : TlsConstrictor.Directions := ∅
  quicConstrictor : QuicConstrictor.FlowStates := ∅

def kTcpSynOrRstFlags : UInt8 := 0x06

/-- `ApplyMinimumSavingsThreshold`. -/
def applyMinimumSavingsThreshold
    (baselineOutputLen candidateOutputLen minSavedBytesPerPacket : UInt32) : UInt32 :=
  if candidateOutputLen ≥ baselineOutputLen then
    baselineOutputLen
  else if baselineOutputLen - candidateOutputLen < minSavedBytesPerPacket then
    baselineOutputLen
  else
    candidateOutputLen

/-- The local `malformed`: the lengths of the packet contradict each other. -/
def malformed (packet : CapturedPacket) : Bool :=
  packet.capturedLen.toNat > packet.data.length ||
    packet.originalLen < packet.packet.safeCapturedLen

/-- The local `output_len`. -/
def baseOutputLen (config : PolicyConfig) (packet : CapturedPacket) : UInt32 :=
  min (min (min packet.packet.safeCapturedLen packet.originalLen) config.capture.defaultSnaplen)
    config.capture.maxCaptureLen

/-- The locals `tls_candidate` and `quic_candidate`. -/
def candidate (enabled : Bool) (ports : List UInt16) (decoded : PacketDecodeResult) : Bool :=
  enabled && (portConfigured ports decoded.srcPort || portConfigured ports decoded.dstPort)

/-- The reason before the constrictors are asked. -/
def initialReason (config : PolicyConfig) (packet : CapturedPacket) : DecisionReason :=
  let decoded := packet.decoded
  if malformed packet then .parseError
  else if decoded.failureReason ≠ .none then .parseError
  else if decoded.isNonIp then .nonIp
  else if decoded.transportProtocol = .tcp then
    if candidate config.tls.enabled config.tls.ports decoded then .tlsCandidate else .tcp
  else if decoded.transportProtocol = .udp then
    if candidate config.quic.enabled config.quic.ports decoded then .quicCandidate else .udp
  else .default

/-- The gate in front of the TLS constrictor. -/
def tlsGate (config : PolicyConfig) (packet : CapturedPacket) : Bool :=
  !malformed packet && packet.decoded.failureReason == .none &&
    initialReason config packet == .tlsCandidate &&
    (packet.decoded.transportPayloadLength > 0 ||
      packet.decoded.tcpFlags &&& kTcpSynOrRstFlags != 0)

/-- The gate in front of the QUIC constrictor. -/
def quicGate (config : PolicyConfig) (packet : CapturedPacket) : Bool :=
  !malformed packet && packet.decoded.failureReason == .none &&
    initialReason config packet == .quicCandidate && packet.decoded.transportPayloadLength > 0

/-- The final output length and reason after a TLS result. -/
def applyTls (config : PolicyConfig) (outputLen : UInt32) (reason : DecisionReason)
    (result : TlsConstrictResult) : UInt32 × DecisionReason :=
  match result.disposition with
  | .appDataPrefix =>
    let finalOutputLen := applyMinimumSavingsThreshold outputLen (min outputLen result.outputLen)
      config.general.minSavedBytesPerPacket
    (finalOutputLen, if finalOutputLen < outputLen then .tlsApplicationDataConstricted else reason)
  | .malformed => (outputLen, .tlsMalformedFallback)
  | .uncertainFallback => (outputLen, .tlsMalformedFallback)
  | .noRecord => (outputLen, .tlsNoRecordFallback)
  | .noApplicationData => (outputLen, reason)

/-- The final output length and reason after a QUIC result. -/
def applyQuic (config : PolicyConfig) (outputLen : UInt32) (reason : DecisionReason)
    (result : QuicConstrictResult) : UInt32 × DecisionReason :=
  match result.disposition with
  | .longHeader => (outputLen, .quicLongHeader)
  | .shortHeaderMatched =>
    let finalOutputLen := applyMinimumSavingsThreshold outputLen (min outputLen result.outputLen)
      config.general.minSavedBytesPerPacket
    (finalOutputLen,
      if finalOutputLen < outputLen then .quicShortHeaderConstricted else .quicShortHeaderMatched)
  | .unknownCidFallback => (outputLen, .quicShortHeaderUnknownCidFallback)
  | .dcidMismatchFallback => (outputLen, .quicShortHeaderDcidMismatchFallback)
  | .malformedFallback => (outputLen, .quicMalformedFallback)
  | .notApplicable => (outputLen, reason)

/-- The decision of `Evaluate` from its final locals. -/
def decision (config : PolicyConfig) (packet : CapturedPacket) (final : UInt32 × DecisionReason) :
    LiveCaptureDecision where
  outputLen := final.1
  originalLen := max packet.originalLen (baseOutputLen config packet)
  reason := final.2
  decode := packet.decoded

/-- `LiveCapturePolicy::Evaluate`. -/
def evaluate (config : PolicyConfig) (state : State) (packet : CapturedPacket) :
    State × LiveCaptureDecision :=
  let outputLen := baseOutputLen config packet
  let reason := initialReason config packet
  if tlsGate config packet then
    let (tlsConstrictor, result) :=
      TlsConstrictor.evaluate state.tlsConstrictor packet.safeData packet.decoded config.tls
    ({ state with tlsConstrictor },
      decision config packet (applyTls config outputLen reason result))
  else if quicGate config packet then
    let (quicConstrictor, result) :=
      QuicConstrictor.evaluate state.quicConstrictor packet.safeData packet.decoded config.quic
    ({ state with quicConstrictor },
      decision config packet (applyQuic config outputLen reason result))
  else
    (state, decision config packet (outputLen, reason))

end LiveCapturePolicy

end PcapConstrictor
