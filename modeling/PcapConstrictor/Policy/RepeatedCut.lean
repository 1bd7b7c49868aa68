import PcapConstrictor.Decode.Recognition
import PcapConstrictor.Policy.Settlement

/-!
# Cutting what has been cut

What the policy keeps of a packet may come before it again, in a later pass. A cut ends at the end
of the payload at the latest. Behind a cut inside the payload the packet is incomplete and no
constrictor sees it again, so a packet is cut twice at most (`cutsLeft_take_lt`).
-/

namespace PcapConstrictor

open ByteString

/-- What is decoded of the beginning of a packet is decoded of the packet. -/
theorem decodePacket_take {packet : Bytes} {n : ℕ} {linkType : PcapLinkType}
    (h : (decodePacket (packet.take n) linkType).transportProtocol ≠ .none) :
    decodePacket packet linkType = decodePacket (packet.take n) linkType := by
  obtain ⟨frame, rfl, hframe⟩ := exists_frame h
  -- the rest of the packet follows the frame like any other trailing bytes
  let whole : Frame := { frame with trailing := frame.trailing ++ packet.drop n }
  have hwhole : packet = whole.encode := by
    have hencode : whole.encode = frame.encode ++ packet.drop n := by
      simp only [whole, Frame.encode, List.append_assoc]
    rw [hencode, ← hframe, List.take_append_drop]
  have hdecoded : whole.decoded = frame.decoded := rfl
  rw [hframe, Frame.decodePacket_eq frame.holds_encode.1 frame.holds_encode.2, ← hdecoded, hwhole]
  exact Frame.decodePacket_eq whole.holds_encode.1 whole.holds_encode.2

/-- How often the data of a packet can still be cut: not at all when no transport header is decoded,
and once when nothing follows the payload. -/
def cutsLeft (data : Bytes) (linkType : PcapLinkType) : ℕ :=
  let decoded := decodePacket data linkType
  if decoded.transportProtocol = .none then 0
  else if data.length ≤ decoded.transportPayloadOffset + decoded.transportPayloadLength then 1
  else 2

/-- A packet is cut at most twice. -/
theorem cutsLeft_le (data : Bytes) (linkType : PcapLinkType) : cutsLeft data linkType ≤ 2 := by
  unfold cutsLeft
  dsimp only
  split_ifs <;> decide

/-- A cut at the end of the payload or before leaves fewer cuts. -/
theorem cutsLeft_take_lt {data : Bytes} {n : ℕ} {linkType : PcapLinkType}
    (hdecoded : (decodePacket data linkType).transportProtocol ≠ .none)
    (hpayload : n ≤ (decodePacket data linkType).transportPayloadOffset
      + (decodePacket data linkType).transportPayloadLength) (hlt : n < data.length) :
    cutsLeft (data.take n) linkType < cutsLeft data linkType := by
  have hlength : (data.take n).length = n := List.length_take_of_le hlt.le
  have hwhole : 1 ≤ cutsLeft data linkType := by
    unfold cutsLeft
    dsimp only
    rw [if_neg hdecoded]
    split_ifs <;> decide
  by_cases hcut : (decodePacket (data.take n) linkType).transportProtocol = .none
  · have hnone : cutsLeft (data.take n) linkType = 0 := if_pos hcut
    omega
  · -- the payload is still there, so the cut has removed what followed it
    have hsame := decodePacket_take hcut
    have hend := (decodePacket_transport hcut).payload_le_length
    rw [hlength, ← hsame] at hend
    have hone : cutsLeft (data.take n) linkType = 1 := by
      unfold cutsLeft
      dsimp only
      rw [if_neg hcut, if_pos (by rw [hlength, ← hsame]; exact hpayload)]
    have htwo : cutsLeft data linkType = 2 := by
      unfold cutsLeft
      dsimp only
      rw [if_neg hdecoded, if_neg (by omega)]
    omega

namespace LiveCapturePolicy

/-- A proposal is for a packet with a transport header, and keeps at most its payload. -/
theorem proposal_within {config : PolicyConfig} {state : State} {packet : CapturedPacket}
    {length : ℕ} (h : (proposal config state packet).outputLen packet = some length) :
    packet.decoded.transportProtocol ≠ .none ∧
      length ≤ packet.decoded.transportPayloadOffset + packet.decoded.transportPayloadLength := by
  obtain ⟨keep, hkeep, rfl⟩ := Option.map_eq_some_iff.mp h
  by_cases htls : tlsGate config packet = true
  · have htcp : packet.IsTcp := isTcp_of_tlsGate htls
    have hanswer := (TlsConstrictor.step_answer htcp config.tls state.tlsConstrictor).2
    rw [proposal_of_tls htls] at hkeep
    dsimp only at hkeep
    rw [hkeep] at hanswer
    -- a cut keeps less than the payload
    have hlt := hanswer.2.1
    rw [CapturedPacket.length_payload htcp.transportDecoded] at hlt
    rw [CapturedPacket.IsTcp] at htcp
    exact ⟨by rw [htcp]; decide, Nat.add_le_add_left hlt.le _⟩
  rw [Bool.not_eq_true] at htls
  by_cases hquic : quicGate config packet = true
  · have hudp : packet.IsUdp := isUdp_of_quicGate hquic
    have hanswer :=
      (QuicConstrictor.step_kept (applicable_of_quicGate hquic) state.quicConstrictor).2
    rw [proposal_of_quic htls hquic] at hkeep
    dsimp only at hkeep
    rw [hkeep] at hanswer
    have hle := hanswer.2.1
    rw [CapturedPacket.length_payload hudp.transportDecoded] at hle
    rw [CapturedPacket.IsUdp] at hudp
    exact ⟨by rw [hudp]; decide, Nat.add_le_add_left hle _⟩
  · rw [Bool.not_eq_true] at hquic
    rw [proposal_of_neither htls hquic] at hkeep
    cases hkeep

/-- **A packet keeps its base length or loses a cut.** -/
theorem cutsLeft_evaluate (config : PolicyConfig) (state : State) (packet : CapturedPacket) :
    let outputLen := (evaluate config state packet).2.outputLen
    outputLen = baseOutputLen config packet ∨
      cutsLeft (packet.safeData.take outputLen.toNat) packet.linkType
        < cutsLeft packet.safeData packet.linkType := by
  intro outputLen
  have hbase := UInt32.le_iff_toNat_le.mp (baseOutputLen_le config packet).1
  rw [← packet.length_safeData] at hbase
  have hsettled := (evaluate_settled config state packet).1
  cases hproposal : (proposal config state packet).outputLen packet with
  | none =>
    rw [hproposal, settle_none] at hsettled
    exact Or.inl (UInt32.toNat_inj.mp hsettled)
  | some proposed =>
    obtain ⟨hdecoded, hpayload⟩ := proposal_within hproposal
    rw [hproposal, settle_some] at hsettled
    split at hsettled
    · next hle =>
      refine Or.inr ?_
      rw [show outputLen.toNat = proposed from hsettled]
      exact cutsLeft_take_lt hdecoded hpayload (by omega)
    · exact Or.inl (UInt32.toNat_inj.mp hsettled)

end LiveCapturePolicy

end PcapConstrictor
