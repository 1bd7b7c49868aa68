import PcapConstrictor.Decode.Frames
import PcapConstrictor.Policy.PolicyRun
import PcapConstrictor.Policy.TlsProvenance

/-!
# A connection is constricted only after its Handshake

The policy cuts a TLS packet only in a confirmed direction. `constricted_after_handshake` turns the
invariant of the constrictor into a statement about the packets the policy was given: the gate in
front of the constrictor lets every SYN and RST of a candidate connection through, with or without
payload, so that none is missed.
-/

namespace PcapConstrictor.LiveCapturePolicy

open ByteString TlsConstrictor

/-- Two packets of one TCP connection, in either direction. -/
def SameConnection (packet other : CapturedPacket) : Prop :=
  OnConnection (directionOf packet) other

/-- In the payload of `packet`, given after the packets `before`, the TLS constrictor frames a
Handshake record: at an offset where it expects a header it finds the bytes `0x16 0x03`. -/
def HandshakeAt (config : PolicyConfig) (before : List CapturedPacket) (packet : CapturedPacket) :
    Prop :=
  ∃ framed ∈ framedRecords (Transducer.after (evaluate config) {} before).tlsConstrictor packet,
    byteAt packet.payload framed.offset = 0x16 ∧ byteAt packet.payload (framed.offset + 1) = 0x03

/-- Only the TLS constrictor gives the reason for a TLS cut. -/
theorem tls_of_reason {config : PolicyConfig} {state : State} {packet : CapturedPacket}
    (h : (evaluate config state packet).2.reason = .tlsApplicationDataConstricted) :
    tlsGate config packet = true ∧
      (TlsConstrictor.step config.tls state.tlsConstrictor packet).2.disposition
        = .appDataPrefix := by
  have hinitial := (uncut_initialReason config packet).1
  rcases evaluate_cases config state packet with
    ⟨hgate, heq⟩ | ⟨-, -, heq⟩ | ⟨-, -, heq⟩ <;> rw [heq] at h
  · refine ⟨hgate, ?_⟩
    simp only [decision, applyTls] at h
    split at h
    · next hd => exact hd
    · cases h
    · cases h
    · cases h
    · exact absurd h hinitial
  · simp only [decision, applyQuic] at h
    split at h
    · cases h
    · dsimp only at h
      split at h <;> cases h
    · cases h
    · cases h
    · cases h
    · exact absurd h hinitial
  · exact absurd h hinitial

/-- The gate of the TLS constrictor for a TCP packet with consistent lengths. -/
theorem tlsGate_iff {config : PolicyConfig} {packet : CapturedPacket} (htcp : packet.IsTcp) :
    tlsGate config packet = true ↔ malformed packet = false ∧
      candidate config.tls.enabled config.tls.ports packet.decoded = true ∧
      (packet.payload ≠ [] ∨ packet.HasSynRst) := by
  have hdec := htcp.transportDecoded
  have htcp' : packet.decoded.transportProtocol = .tcp := htcp
  have hip : packet.decoded.isNonIp = false := by
    rcases hdec.addressLength with ⟨hip, -⟩ | ⟨hip, -⟩ <;> simp [PacketDecodeResult.isNonIp, hip]
  have hlength : (packet.decoded.transportPayloadLength > 0) ↔ packet.payload ≠ [] := by
    rw [← CapturedPacket.length_payload hdec, gt_iff_lt, List.length_pos_iff]
  have hreason : malformed packet = false → (initialReason config packet = .tlsCandidate ↔
      candidate config.tls.enabled config.tls.ports packet.decoded = true) := by
    intro hm
    unfold initialReason
    simp only [hm, hdec.failureReason, hip, htcp', ne_eq, not_true_eq_false, if_false, if_true,
      Bool.false_eq_true]
    split <;> simp_all
  unfold tlsGate
  simp only [Bool.and_eq_true, Bool.not_eq_true', beq_iff_eq, Bool.or_eq_true,
    decide_eq_true_iff, synRst_flags, hlength, hdec.failureReason, and_true]
  constructor
  · rintro ⟨⟨hm, hr⟩, hp⟩
    exact ⟨hm, (hreason hm).mp hr, hp⟩
  · rintro ⟨hm, hc, hp⟩
    exact ⟨⟨hm, (hreason hm).mpr hc⟩, hp⟩

/-- The packets of one connection have the same ports. -/
theorem candidate_of_sameConnection {packet other : CapturedPacket}
    (h : SameConnection packet other) (enabled : Bool) (ports : List UInt16) :
    candidate enabled ports other.decoded = candidate enabled ports packet.decoded := by
  unfold candidate
  rcases h.2 with heq | heq
  · have hsrc : packet.decoded.srcPort = other.decoded.srcPort := congrArg DirectionKey.srcPort heq
    have hdst : packet.decoded.dstPort = other.decoded.dstPort := congrArg DirectionKey.dstPort heq
    rw [hsrc, hdst]
  · have hsrc : packet.decoded.srcPort = other.decoded.dstPort := congrArg DirectionKey.srcPort heq
    have hdst : packet.decoded.dstPort = other.decoded.srcPort := congrArg DirectionKey.dstPort heq
    rw [hsrc, hdst, Bool.or_comm]

/-- **A TCP connection is constricted only after a Handshake in its current incarnation.** When the
policy cuts a TLS packet, that packet or an earlier one of the connection carried a Handshake header
where the framing expected one, and no later packet of the connection with consistent lengths has
the SYN or RST flag. -/
theorem constricted_after_handshake {config : PolicyConfig} (inputs : List CapturedPacket)
    (packet : CapturedPacket)
    (h : (evaluate config (Transducer.after (evaluate config) {} inputs) packet).2.reason
      = .tlsApplicationDataConstricted) :
    ∃ before handshake after, inputs ++ [packet] = before ++ handshake :: after ∧
      SameConnection packet handshake ∧ HandshakeAt config before handshake ∧
      ∀ later ∈ after, SameConnection packet later → malformed later = false →
        ¬ later.HasSynRst := by
  obtain ⟨hgate, hcut⟩ := tls_of_reason h
  have htcp : packet.IsTcp := (carries_of_appDataPrefix hcut).1
  rw [tls_run] at hcut
  have hconfirmed := confirmed_of_cut hcut
  have hfilter : inputs.filter (tlsGate config) ++ [packet]
      = (inputs ++ [packet]).filter (tlsGate config) := by simp [hgate]
  rw [hfilter] at hconfirmed
  obtain ⟨before', handshake, after', heq, hon, ⟨-, framed, hmem, htype⟩, hafter⟩ := hconfirmed
  -- the packets in front of the Handshake and behind it, with those the gate holds back
  obtain ⟨before, rest, hsplit, rfl, hrest⟩ := List.filter_eq_append_iff.mp heq
  obtain ⟨skipped, after, rfl, hskipped, hhandshake, rfl⟩ := List.filter_eq_cons_iff.mp hrest
  obtain ⟨-, -, length, hread, -⟩ := framing_mem (framedRecords_subset hmem)
  obtain ⟨-, hcontentType, hmajor, -⟩ := readTlsRecordHeader_eq_some hread
  refine ⟨before ++ skipped, handshake, after, by simp [hsplit], hon,
    ⟨framed, ?_, hcontentType.trans htype, hmajor⟩, ?_⟩
  · rw [tls_run, List.filter_append, List.filter_eq_nil_iff.mpr hskipped, List.append_nil]
    exact hmem
  · -- a SYN or RST of the connection would have passed the gate, because this packet has
    intro later hlater hsame hconsistent hflags
    have hcandidate := ((tlsGate_iff htcp).mp hgate).2.1
    rw [← candidate_of_sameConnection hsame] at hcandidate
    refine hafter later (List.mem_filter.mpr ⟨hlater, ?_⟩) ⟨hsame, hflags⟩
    exact (tlsGate_iff hsame.1).mpr ⟨hconsistent, hcandidate, Or.inr hflags⟩

/-- The packet holds its own handshake record, in front of the one that is cut. -/
theorem constricted_after_handshake_plain :
    ∃ before handshake after, [] ++ [plainPacket] = before ++ handshake :: after ∧
      SameConnection plainPacket handshake ∧ HandshakeAt exampleConfig before handshake ∧
      ∀ later ∈ after, SameConnection plainPacket later → malformed later = false →
        ¬ later.HasSynRst :=
  constricted_after_handshake [] plainPacket (by decide +kernel)

end PcapConstrictor.LiveCapturePolicy
