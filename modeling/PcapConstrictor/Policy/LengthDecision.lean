import PcapConstrictor.Policy.HandshakeFirst
import PcapConstrictor.Policy.QuicMatching
import PcapConstrictor.Writer.PcapWriter

/-!
# The length decision

The output length of a decision never exceeds the base length, the least of the four limits. It is
less exactly when the reason says so, and then it saves at least the configured number of bytes and
keeps all headers. The writer accepts every decided length and reports the same original length.
-/

namespace PcapConstrictor

open ByteString

theorem toNat_min32 (a b : UInt32) : (min a b).toNat = min a.toNat b.toNat := by
  have hmin : min a b = if a ≤ b then a else b := rfl
  rw [hmin]
  split
  · next h => exact (Nat.min_eq_left (UInt32.le_iff_toNat_le.mp h)).symm
  · next h => exact (Nat.min_eq_right (Nat.le_of_not_le (h ∘ UInt32.le_iff_toNat_le.mpr))).symm

theorem toNat_max32 (a b : UInt32) : (max a b).toNat = max a.toNat b.toNat := by
  have hmax : max a b = if a ≤ b then b else a := rfl
  rw [hmax]
  split
  · next h => exact (Nat.max_eq_right (UInt32.le_iff_toNat_le.mp h)).symm
  · next h => exact (Nat.max_eq_left (Nat.le_of_not_le (h ∘ UInt32.le_iff_toNat_le.mpr))).symm

/-- A length that is large enough is left alone. -/
theorem max32_eq_left {a b : UInt32} (h : b ≤ a) : max a b = a := by
  rw [← UInt32.toNat_inj, toNat_max32]
  exact Nat.max_eq_left (UInt32.le_iff_toNat_le.mp h)

namespace QuicConstrictor

/-- In every mode, what is kept of a matching short header reaches into its payload. -/
theorem outputLen_of_matched {config : QuicOptions} {flowStates : FlowStates}
    {packet : CapturedPacket}
    (h : (step config flowStates packet).2.disposition = .shortHeaderMatched) :
    packet.IsUdp ∧ packet.decoded.transportPayloadOffset
      ≤ (step config flowStates packet).2.outputLen.toNat := by
  cases happ : applicable packet.decoded config with
  | false =>
    rw [step_of_not_applicable happ] at h
    cases h
  | true =>
    obtain ⟨hudp, -⟩ := isUdp_of_applicable happ
    refine ⟨hudp, ?_⟩
    have hstop : (chainOf packet).stop ≤ packet.payload.length :=
      longHeaders_stop_le (Nat.zero_le _)
    rw [step_of_applicable happ] at h ⊢
    dsimp only at h ⊢
    split at h
    · next hvalid =>
      rw [if_pos hvalid]
      unfold evaluateRest evaluateShortHeader at h ⊢
      dsimp only at h ⊢
      split at h
      · split at h <;> cases h
      next hend =>
      split at h
      · split at h <;> cases h
      next hcompatible =>
      rw [if_neg hend, if_neg hcompatible]
      split at h
      · -- no connection ID is known
        split at h
        · cases h
        next hlax =>
        rw [if_neg hlax]
        have hbounds := shortHeaderMatched_bounds hudp config
          (show (chainOf packet).stop + 1 ≤ packet.payload.length by omega)
        omega
      · -- the known connection ID is inside the payload
        split at h
        · cases h
        next hbytes =>
        split at h
        · cases h
        next hmatch =>
        rw [if_neg hbytes, if_neg hmatch]
        have hbounds := shortHeaderMatched_bounds hudp config
          (hasBytes_iff.mp (not_not.mp hbytes))
        omega
    · cases h

end QuicConstrictor

namespace TlsConstrictor

/-- What is kept of a cut packet contains all headers. -/
theorem outputLen_of_cut {config : TlsOptions} {directions : Directions} {packet : CapturedPacket}
    (h : (step config directions packet).2.disposition = .appDataPrefix) :
    packet.IsTcp ∧ packet.decoded.transportPayloadOffset
      ≤ (step config directions packet).2.outputLen.toNat := by
  have hcarries := carries_of_appDataPrefix h
  refine ⟨hcarries.1, ?_⟩
  rw [step_outputLen hcarries]
  split
  · have hend := hcarries.1.transportDecoded.payload_le_length
    omega
  · exact Nat.le_add_right _ _

end TlsConstrictor

namespace LiveCapturePolicy

/-- What the saving threshold leaves of a candidate: the baseline, or a candidate that saves
enough. -/
theorem applyMinimumSavingsThreshold_cases (baseline candidate minSaved : UInt32) :
    let final := applyMinimumSavingsThreshold baseline (min baseline candidate) minSaved
    final = baseline ∨
      final = candidate ∧ candidate < baseline ∧
        max 1 minSaved.toNat ≤ baseline.toNat - candidate.toNat := by
  have hmin := toNat_min32 baseline candidate
  unfold applyMinimumSavingsThreshold
  dsimp only
  split
  · exact Or.inl rfl
  split
  · exact Or.inl rfl
  next hlt hsaved =>
  refine Or.inr ?_
  rw [ge_iff_le, UInt32.le_iff_toNat_le, hmin] at hlt
  have hcandidate : min baseline candidate = candidate := by
    apply UInt32.toNat_inj.mp
    omega
  rw [hcandidate, UInt32.lt_iff_toNat_lt, UInt32.toNat_sub_of_le] at hsaved
  · refine ⟨hcandidate, UInt32.lt_iff_toNat_lt.mpr (by omega), by omega⟩
  · exact UInt32.le_iff_toNat_le.mpr (by omega)

/-- The output length `outputLen` cuts `packet` as the constrictor of `protocol` may: the packet is
complete and unfragmented, one of its ports is configured, the saving is worth it and all headers
are kept. -/
structure Cut (config : PolicyConfig) (packet : CapturedPacket) (protocol : TransportProtocol)
    (enabled : Bool) (ports : List UInt16) (outputLen : UInt32) : Prop where
  complete : TransportDecoded packet.safeData packet.decoded
  transportProtocol : packet.decoded.transportProtocol = protocol
  enabled : enabled = true
  port : packet.decoded.srcPort ∈ ports ∨ packet.decoded.dstPort ∈ ports
  saved : max 1 config.general.minSavedBytesPerPacket.toNat
    ≤ (baseOutputLen config packet).toNat - outputLen.toNat
  headers : packet.decoded.transportPayloadOffset ≤ outputLen.toNat

/-- A packet is a candidate when one of its ports is configured. -/
theorem candidate_iff {enabled : Bool} {ports : List UInt16} {decoded : PacketDecodeResult} :
    candidate enabled ports decoded = true ↔
      enabled = true ∧ (decoded.srcPort ∈ ports ∨ decoded.dstPort ∈ ports) := by
  simp [candidate, portConfigured]

/-- What a gate lets through is a candidate. -/
theorem candidate_of_initialReason {config : PolicyConfig} {packet : CapturedPacket} :
    (initialReason config packet = .tlsCandidate →
      candidate config.tls.enabled config.tls.ports packet.decoded = true) ∧
    (initialReason config packet = .quicCandidate →
      candidate config.quic.enabled config.quic.ports packet.decoded = true) := by
  unfold initialReason
  dsimp only
  split_ifs <;> simp_all

/-- A TLS result leaves the base length, or cuts at a candidate that saves enough. -/
theorem applyTls_cases (config : PolicyConfig) (base : UInt32) {reason : DecisionReason}
    (hreason : Uncut reason) (result : TlsConstrictResult) :
    let final := applyTls config base reason result
    final.1 = base ∧ Uncut final.2 ∨
      result.disposition = .appDataPrefix ∧
        final = (result.outputLen, .tlsApplicationDataConstricted) ∧ result.outputLen < base ∧
        max 1 config.general.minSavedBytesPerPacket.toNat
          ≤ base.toNat - result.outputLen.toNat := by
  unfold applyTls
  cases hdisposition : result.disposition with
  | appDataPrefix =>
    rcases applyMinimumSavingsThreshold_cases base result.outputLen
      config.general.minSavedBytesPerPacket with heq | ⟨heq, hlt, hsaved⟩
    · refine Or.inl ?_
      simp only [heq, if_neg (UInt32.lt_irrefl base)]
      exact ⟨trivial, hreason⟩
    · refine Or.inr ⟨rfl, ?_, hlt, hsaved⟩
      simp only [heq, if_pos hlt]
  | malformed => exact Or.inl ⟨rfl, nofun, nofun⟩
  | uncertainFallback => exact Or.inl ⟨rfl, nofun, nofun⟩
  | noRecord => exact Or.inl ⟨rfl, nofun, nofun⟩
  | noApplicationData => exact Or.inl ⟨rfl, hreason⟩

/-- A QUIC result leaves the base length, or cuts at a candidate that saves enough. -/
theorem applyQuic_cases (config : PolicyConfig) (base : UInt32) {reason : DecisionReason}
    (hreason : Uncut reason) (result : QuicConstrictResult) :
    let final := applyQuic config base reason result
    final.1 = base ∧ Uncut final.2 ∨
      result.disposition = .shortHeaderMatched ∧
        final = (result.outputLen, .quicShortHeaderConstricted) ∧ result.outputLen < base ∧
        max 1 config.general.minSavedBytesPerPacket.toNat
          ≤ base.toNat - result.outputLen.toNat := by
  unfold applyQuic
  cases hdisposition : result.disposition with
  | shortHeaderMatched =>
    rcases applyMinimumSavingsThreshold_cases base result.outputLen
      config.general.minSavedBytesPerPacket with heq | ⟨heq, hlt, hsaved⟩
    · refine Or.inl ?_
      simp only [heq, if_neg (UInt32.lt_irrefl base)]
      exact ⟨trivial, nofun, nofun⟩
    · refine Or.inr ⟨rfl, ?_, hlt, hsaved⟩
      simp only [heq, if_pos hlt]
  | longHeader => exact Or.inl ⟨rfl, nofun, nofun⟩
  | unknownCidFallback => exact Or.inl ⟨rfl, nofun, nofun⟩
  | dcidMismatchFallback => exact Or.inl ⟨rfl, nofun, nofun⟩
  | malformedFallback => exact Or.inl ⟨rfl, nofun, nofun⟩
  | notApplicable => exact Or.inl ⟨rfl, hreason⟩

/-- **The three outcomes of a decision**: the base length, a TLS cut or a QUIC cut. -/
theorem evaluate_length (config : PolicyConfig) (state : State) (packet : CapturedPacket) :
    let d := (evaluate config state packet).2
    let base := baseOutputLen config packet
    d.outputLen = base ∧ Uncut d.reason ∨
    d.outputLen < base ∧ d.reason = .tlsApplicationDataConstricted ∧
      Cut config packet .tcp config.tls.enabled config.tls.ports d.outputLen ∨
    d.outputLen < base ∧ d.reason = .quicShortHeaderConstricted ∧
      Cut config packet .udp config.quic.enabled config.quic.ports d.outputLen := by
  intro d base
  have hinitial := uncut_initialReason config packet
  rcases evaluate_cases config state packet with
    ⟨hgate, heq⟩ | ⟨-, hgate, heq⟩ | ⟨-, -, heq⟩ <;> simp only [d, heq, decision]
  · -- the TLS constrictor was asked
    rcases applyTls_cases config base hinitial
        (TlsConstrictor.step config.tls state.tlsConstrictor packet).2 with
      hbase | ⟨hcut, hfinal, hlt, hsaved⟩
    · exact Or.inl hbase
    · obtain ⟨htcp, hheaders⟩ := TlsConstrictor.outputLen_of_cut hcut
      simp only [tlsGate, Bool.and_eq_true, beq_iff_eq] at hgate
      obtain ⟨henabled, hport⟩ :=
        candidate_iff.mp (candidate_of_initialReason.1 hgate.1.2)
      rw [hfinal]
      exact Or.inr (Or.inl ⟨hlt, rfl,
        ⟨htcp.transportDecoded, htcp, henabled, hport, hsaved, hheaders⟩⟩)
  · -- the QUIC constrictor was asked
    rcases applyQuic_cases config base hinitial
        (QuicConstrictor.step config.quic state.quicConstrictor packet).2 with
      hbase | ⟨hmatched, hfinal, hlt, hsaved⟩
    · exact Or.inl hbase
    · obtain ⟨hudp, hheaders⟩ := QuicConstrictor.outputLen_of_matched hmatched
      simp only [quicGate, Bool.and_eq_true, beq_iff_eq] at hgate
      obtain ⟨henabled, hport⟩ :=
        candidate_iff.mp (candidate_of_initialReason.2 hgate.1.2)
      rw [hfinal]
      exact Or.inr (Or.inr ⟨hlt, rfl,
        ⟨hudp.transportDecoded, hudp, henabled, hport, hsaved, hheaders⟩⟩)
  · exact Or.inl ⟨rfl, hinitial⟩

/-- A decision never stores more than without a cut. -/
theorem outputLen_le_base (config : PolicyConfig) (state : State) (packet : CapturedPacket) :
    (evaluate config state packet).2.outputLen ≤ baseOutputLen config packet := by
  rcases evaluate_length config state packet with ⟨heq, -⟩ | ⟨hlt, -⟩ | ⟨hlt, -⟩
  · exact UInt32.le_of_eq heq
  · exact UInt32.le_of_lt hlt
  · exact UInt32.le_of_lt hlt

/-- What is stored without a cut: the least of the lengths and the two limits. -/
theorem toNat_baseOutputLen (config : PolicyConfig) (packet : CapturedPacket) :
    (baseOutputLen config packet).toNat
      = min (min (min packet.packet.safeCapturedLen.toNat packet.originalLen.toNat)
          config.capture.defaultSnaplen.toNat) config.capture.maxCaptureLen.toNat := by
  simp only [baseOutputLen, toNat_min32]

/-- What is stored is captured, and was on the wire. -/
theorem baseOutputLen_le (config : PolicyConfig) (packet : CapturedPacket) :
    baseOutputLen config packet ≤ packet.packet.safeCapturedLen ∧
      baseOutputLen config packet ≤ packet.originalLen := by
  simp only [UInt32.le_iff_toNat_le, toNat_baseOutputLen]
  omega

/-- The decision reports the original length of the packet: the base length does not exceed it. -/
theorem originalLen_evaluate (config : PolicyConfig) (state : State) (packet : CapturedPacket) :
    (evaluate config state packet).2.originalLen = packet.originalLen := by
  have hmax := max32_eq_left (baseOutputLen_le config packet).2
  rcases evaluate_cases config state packet with
    ⟨-, heq⟩ | ⟨-, -, heq⟩ | ⟨-, -, heq⟩ <;> rw [heq] <;> exact hmax

/-- The writer accepts every decided length, so a decided packet becomes one record. -/
theorem writePacket_evaluate (config : PolicyConfig) (state : State) (packet : CapturedPacket)
    (writer : PcapWriter) (clock : SystemClock) (written : PcapWriter.State) :
    let d := (evaluate config state packet).2
    writer.writePacket clock written packet d.outputLen
      = .ok
          { output := (writer.writeGlobalHeader written).output
              ++ PcapWriter.record clock packet d.outputLen
            globalHeaderWritten := true } := by
  intro d
  have hle : d.outputLen ≤ packet.packet.safeCapturedLen :=
    UInt32.le_trans (outputLen_le_base config state packet) (baseOutputLen_le config packet).1
  rw [PcapWriter.writePacket, if_neg (UInt32.not_lt.mpr hle)]
  dsimp only
  congr 2
  unfold PcapWriter.writeGlobalHeader
  split
  · assumption
  · rfl

/-- **The length decision is sound and always writable.** -/
theorem length_decision_sound (config : PolicyConfig) (state : State) (packet : CapturedPacket)
    (writer : PcapWriter) (clock : SystemClock) (written : PcapWriter.State) :
    let d := (evaluate config state packet).2
    let base := baseOutputLen config packet
    let record := PcapWriter.record clock packet d.outputLen
    d.outputLen ≤ base ∧
    (d.outputLen < base ↔
      d.reason = .tlsApplicationDataConstricted ∨ d.reason = .quicShortHeaderConstricted) ∧
    (d.reason = .tlsApplicationDataConstricted →
      Cut config packet .tcp config.tls.enabled config.tls.ports d.outputLen) ∧
    (d.reason = .quicShortHeaderConstricted →
      Cut config packet .udp config.quic.enabled config.quic.ports d.outputLen) ∧
    d.originalLen = packet.originalLen ∧
    writer.writePacket clock written packet d.outputLen
      = .ok
          { output := (writer.writeGlobalHeader written).output ++ record
            globalHeaderWritten := true } ∧
    readLe32 record 12 = d.originalLen := by
  intro d base record
  have horiginal : d.originalLen = packet.originalLen := originalLen_evaluate config state packet
  have hle : d.outputLen ≤ base := outputLen_le_base config state packet
  -- the length written as original is never raised by the captured one
  have hrecord : readLe32 record 12 = d.originalLen := by
    rw [horiginal]
    exact ((PcapWriter.record_fields clock packet d.outputLen).2.2.2).trans
      (max32_eq_left (UInt32.le_trans hle (baseOutputLen_le config packet).2))
  have hwrite := writePacket_evaluate config state packet writer clock written
  rcases evaluate_length config state packet with
    ⟨heq, htls, hquic⟩ | ⟨hlt, htls, hcut⟩ | ⟨hlt, hquic, hcut⟩
  · refine ⟨hle, ⟨?_, ?_⟩, fun h => absurd h htls, fun h => absurd h hquic, horiginal, hwrite,
      hrecord⟩
    · intro hlt
      rw [heq] at hlt
      exact absurd hlt (UInt32.lt_irrefl base)
    · intro h
      exact h.elim (absurd · htls) (absurd · hquic)
  · exact ⟨hle, ⟨fun _ => Or.inl htls, fun _ => hlt⟩, fun _ => hcut,
      fun h => absurd (htls.symm.trans h) nofun, horiginal, hwrite, hrecord⟩
  · exact ⟨hle, ⟨fun _ => Or.inr hquic, fun _ => hlt⟩,
      fun h => absurd (hquic.symm.trans h) nofun, fun _ => hcut, horiginal, hwrite, hrecord⟩

end LiveCapturePolicy

end PcapConstrictor
