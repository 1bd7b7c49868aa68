import PcapConstrictor.Policy.PolicyRun
import PcapConstrictor.Safety.QuicConstrictor

/-!
# The policy never faults

Reference: `capture/PacketView.hpp`, `policy/LiveCapturePolicy.cpp`.

The guarded reading of `Evaluate` puts the decoder and both constrictors together on the span of the
first `safe_captured_len` bytes of the packet. Between the calls the source reads fields of the
decode result and of the configuration only, so the gates and the answers are those of the plain
reading. A run from any state over any packets, with lengths that need not agree with the data,
ends without a fault.
-/

namespace PcapConstrictor

open ByteString Guarded

/-- `PacketView::safe_captured_len`. -/
def PacketView.Checked.safeCapturedLen (view : PacketView) : Guarded UInt32 :=
  narrow32 (min view.capturedLen.toNat view.data.length)

/-- The length of a view is narrowed without loss. -/
theorem PacketView.Checked.safeCapturedLen_eq (view : PacketView) :
    PacketView.Checked.safeCapturedLen view = .ok view.safeCapturedLen := by
  have hlt := view.capturedLen.toNat_lt
  exact narrow32_eq (by omega)

/-- The span that the decoder and both constrictors read lies inside the data. -/
theorem CapturedPacket.span_eq_safeData (packet : CapturedPacket) :
    span packet.data 0 packet.packet.safeCapturedLen.toNat = .ok packet.safeData := by
  have hle : 0 + packet.packet.safeCapturedLen.toNat ≤ packet.data.length := by
    rw [PacketView.toNat_safeCapturedLen, data]
    omega
  rw [span_eq hle, subspan_zero]
  rfl

namespace LiveCapturePolicy

/-- `ApplyMinimumSavingsThreshold`. -/
def Checked.applyMinimumSavingsThreshold
    (baselineOutputLen candidateOutputLen minSavedBytesPerPacket : UInt32) : Guarded UInt32 :=
  if candidateOutputLen ≥ baselineOutputLen then
    return baselineOutputLen
  else do
    let savedBytes ← sub32 baselineOutputLen candidateOutputLen
    if savedBytes < minSavedBytesPerPacket then
      return baselineOutputLen
    else
      return candidateOutputLen

/-- The saved bytes are subtracted behind a comparison. -/
theorem Checked.applyMinimumSavingsThreshold_eq
    (baselineOutputLen candidateOutputLen minSavedBytesPerPacket : UInt32) :
    Checked.applyMinimumSavingsThreshold baselineOutputLen candidateOutputLen
        minSavedBytesPerPacket
      = .ok (LiveCapturePolicy.applyMinimumSavingsThreshold baselineOutputLen candidateOutputLen
          minSavedBytesPerPacket) := by
  unfold applyMinimumSavingsThreshold LiveCapturePolicy.applyMinimumSavingsThreshold
  split
  · rfl
  next hlt =>
  rw [sub32_eq (UInt32.le_of_lt (UInt32.not_le.mp hlt)), ok_bind]
  split <;> rfl

/-- The final output length and reason after a TLS result. -/
def Checked.applyTls (config : PolicyConfig) (outputLen : UInt32) (reason : DecisionReason)
    (result : TlsConstrictResult) : Guarded (UInt32 × DecisionReason) :=
  match result.disposition with
  | .appDataPrefix => do
    let finalOutputLen ← applyMinimumSavingsThreshold outputLen (min outputLen result.outputLen)
      config.general.minSavedBytesPerPacket
    return (finalOutputLen,
      if finalOutputLen < outputLen then .tlsApplicationDataConstricted else reason)
  | .malformed => return (outputLen, .tlsMalformedFallback)
  | .uncertainFallback => return (outputLen, .tlsMalformedFallback)
  | .noRecord => return (outputLen, .tlsNoRecordFallback)
  | .noApplicationData => return (outputLen, reason)

/-- The TLS answer is applied without a fault. -/
theorem Checked.applyTls_eq (config : PolicyConfig) (outputLen : UInt32) (reason : DecisionReason)
    (result : TlsConstrictResult) :
    Checked.applyTls config outputLen reason result
      = .ok (LiveCapturePolicy.applyTls config outputLen reason result) := by
  unfold applyTls LiveCapturePolicy.applyTls
  cases result.disposition with
  | appDataPrefix =>
    dsimp only
    rw [applyMinimumSavingsThreshold_eq]
    rfl
  | _ => rfl

/-- The final output length and reason after a QUIC result. -/
def Checked.applyQuic (config : PolicyConfig) (outputLen : UInt32) (reason : DecisionReason)
    (result : QuicConstrictResult) : Guarded (UInt32 × DecisionReason) :=
  match result.disposition with
  | .longHeader => return (outputLen, .quicLongHeader)
  | .shortHeaderMatched => do
    let finalOutputLen ← applyMinimumSavingsThreshold outputLen (min outputLen result.outputLen)
      config.general.minSavedBytesPerPacket
    return (finalOutputLen,
      if finalOutputLen < outputLen then .quicShortHeaderConstricted else .quicShortHeaderMatched)
  | .unknownCidFallback => return (outputLen, .quicShortHeaderUnknownCidFallback)
  | .dcidMismatchFallback => return (outputLen, .quicShortHeaderDcidMismatchFallback)
  | .malformedFallback => return (outputLen, .quicMalformedFallback)
  | .notApplicable => return (outputLen, reason)

theorem Checked.applyQuic_eq (config : PolicyConfig) (outputLen : UInt32) (reason : DecisionReason)
    (result : QuicConstrictResult) :
    Checked.applyQuic config outputLen reason result
      = .ok (LiveCapturePolicy.applyQuic config outputLen reason result) := by
  unfold applyQuic LiveCapturePolicy.applyQuic
  cases result.disposition with
  | shortHeaderMatched =>
    dsimp only
    rw [applyMinimumSavingsThreshold_eq]
    rfl
  | _ => rfl

/-- `LiveCapturePolicy::Evaluate`, with `fuel` rounds for each loop. -/
def Checked.evaluate (fuel : ℕ) (config : PolicyConfig) (state : State) (packet : CapturedPacket) :
    Guarded (State × LiveCaptureDecision) := do
  let safeCapturedLen ← PacketView.Checked.safeCapturedLen packet.packet
  let data ← span packet.data 0 safeCapturedLen.toNat
  let decoded ← PcapConstrictor.Checked.decodePacket fuel data packet.linkType
  let outputLen := baseOutputLen config packet
  let reason := initialReason config packet
  if tlsGate config packet then
    let answer ← TlsConstrictor.Checked.evaluate fuel state.tlsConstrictor data decoded config.tls
    let final ← applyTls config outputLen reason answer.2
    return ({ state with tlsConstrictor := answer.1 }, decision config packet final)
  else if quicGate config packet then
    let answer ←
      QuicConstrictor.Checked.evaluate fuel state.quicConstrictor data decoded config.quic
    let final ← applyQuic config outputLen reason answer.2
    return ({ state with quicConstrictor := answer.1 }, decision config packet final)
  else
    return (state, decision config packet (outputLen, reason))

/-- **One evaluation is safe.** For every state and every packet, fuel for as many rounds as the
packet has readable bytes is enough. -/
theorem Checked.evaluate_eq {fuel : ℕ} (config : PolicyConfig) (state : State)
    {packet : CapturedPacket} (hfuel : packet.safeData.length < fuel) :
    Checked.evaluate fuel config state packet
      = .ok (LiveCapturePolicy.evaluate config state packet) := by
  have hpacket := packet.length_safeData_lt
  unfold evaluate LiveCapturePolicy.evaluate
  rw [PacketView.Checked.safeCapturedLen_eq, ok_bind, packet.span_eq_safeData, ok_bind,
    PcapConstrictor.Checked.decodePacket_eq packet.linkType hfuel, ok_bind]
  dsimp only
  split
  · next htls =>
    have hdecoded := (isTcp_of_tlsGate htls).transportDecoded
    change (TlsConstrictor.Checked.evaluate fuel state.tlsConstrictor packet.safeData
      packet.decoded config.tls >>= _) = _
    rw [TlsConstrictor.Checked.evaluate_eq hdecoded hpacket hfuel, ok_bind, applyTls_eq]
    rfl
  split
  · next hquic =>
    have hdecoded := (isUdp_of_quicGate hquic).transportDecoded
    change (QuicConstrictor.Checked.evaluate fuel state.quicConstrictor packet.safeData
      packet.decoded config.quic >>= _) = _
    rw [QuicConstrictor.Checked.evaluate_eq hdecoded hpacket hfuel, ok_bind, applyQuic_eq]
    rfl
  · rfl

/-- **No run faults.** From any state of the policy, over any packets, every evaluation returns:
every access of the decoder and of the constrictors is in range, every subtraction is
non-negative, every conversion to 32 bits is lossless, every loop ends within its fuel and neither
bounds fallback is reached. The decisions are those of the plain reading. -/
theorem run_never_faults {fuel : ℕ} {packets : List CapturedPacket}
    (hfuel : ∀ packet ∈ packets, packet.safeData.length < fuel) (config : PolicyConfig)
    (state : State) :
    Guarded.run (Checked.evaluate fuel config) state packets
      = .ok (Transducer.after (evaluate config) state packets,
          Transducer.outputs (evaluate config) state packets) := by
  apply Guarded.run_eq_ok
  intro state' packet hpacket
  exact Checked.evaluate_eq config state' (hfuel packet hpacket)

/-- A frame that ends inside its second VLAN tag and claims more bytes than it has. -/
def truncatedVlanFrame : CapturedPacket where
  packet :=
    { data := List.replicate 12 0 ++ [0x81, 0x00, 0x00, 0x01, 0x88, 0xA8, 0x00]
      capturedLen := 0xFFFFFFFF
      originalLen := 0 }

/-- A frame that ends inside a VLAN tag. -/
theorem run_never_faults_truncatedVlanFrame :
    (∀ packet ∈ [truncatedVlanFrame], packet.safeData.length < 20) ∧
      Guarded.run (Checked.evaluate 20 {}) {} [truncatedVlanFrame]
        = .ok (Transducer.after (evaluate {}) {} [truncatedVlanFrame],
            Transducer.outputs (evaluate {}) {} [truncatedVlanFrame]) :=
  ⟨by decide, run_never_faults (by decide) {} {}⟩

end LiveCapturePolicy

end PcapConstrictor
