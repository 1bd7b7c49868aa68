import PcapConstrictor.Decode.Relocation
import PcapConstrictor.Decode.VlanTags
import PcapConstrictor.Policy.Settlement

/-!
# Link framing does not change the policy

The policy reads a packet through its decode result and its payload, so two captured packets that
agree on these are treated alike (`evaluate_alike`). An IP packet framed with an Ethernet header and
with a loopback header gives two such packets, and so two runs over the same IP packets give the
same reasons and drop the same numbers of bytes (`link_framing_irrelevant`).
-/

namespace PcapConstrictor

open ByteString

/-- Two captured packets the policy cannot tell apart, up to the number of bytes in front of the
payload. -/
structure Alike (p q : CapturedPacket) : Prop where
  failed : p.decoded.failureReason = .none ↔ q.decoded.failureReason = .none
  content : p.decoded.failureReason = .none → p.decoded.content = q.decoded.content
  payload : p.decoded.transportProtocol ≠ .none → p.payload = q.payload
  tail : p.decoded.transportProtocol ≠ .none →
    p.safeData.length + q.decoded.transportPayloadOffset
      = q.safeData.length + p.decoded.transportPayloadOffset

/-- A decode result with a transport header has not failed. -/
theorem CapturedPacket.failureReason_of_transport {packet : CapturedPacket}
    (h : packet.decoded.transportProtocol ≠ .none) : packet.decoded.failureReason = .none :=
  (decodePacket_transport h).failureReason

section ContentEq

variable {p q : CapturedPacket}

/-- The transport protocol is part of what the policy reads. -/
theorem transportProtocol_of_content (h : p.decoded.content = q.decoded.content) :
    p.decoded.transportProtocol = q.decoded.transportProtocol := by
  have hprotocol : p.decoded.content.transportProtocol = q.decoded.content.transportProtocol := by
    rw [h]
  exact hprotocol

end ContentEq

namespace TlsConstrictor

variable {p q : CapturedPacket}

/-- The TLS constrictor treats packets alike that agree on what it reads. -/
theorem step_alike (h : Alike p q) (htcp : p.IsTcp) (config : TlsOptions)
    (directions : Directions) :
    (step config directions p).1 = (step config directions q).1 ∧
      answer config directions p = answer config directions q := by
  have hne : p.decoded.transportProtocol ≠ .none := by
    rw [htcp]
    exact nofun
  have hcontent := h.content (CapturedPacket.failureReason_of_transport hne)
  have htcp' : q.IsTcp := (transportProtocol_of_content hcontent).symm.trans htcp
  have hpayload := h.payload hne
  -- keys, reset and sequence number are read from the content of the decode result
  have hdirection : directionOf p = directionOf q := by
    change makeDirectionKey p.decoded.content = makeDirectionKey q.decoded.content
    rw [hcontent]
  have hreverse : reverseOf p = reverseOf q := by
    change makeReverseKey p.decoded.content = makeReverseKey q.decoded.content
    rw [hcontent]
  have hreset : resetOnSynRst directions p.decoded = resetOnSynRst directions q.decoded := by
    change resetOnSynRst directions p.decoded.content = resetOnSynRst directions q.decoded.content
    rw [hcontent]
  have hseq : p.decoded.tcpSeq = q.decoded.tcpSeq := by
    change p.decoded.content.tcpSeq = q.decoded.content.tcpSeq
    rw [hcontent]
  have houtcome : outcomeOf config directions p = outcomeOf config directions q := by
    unfold outcomeOf stateAtPayload
    rw [hpayload, hseq, hdirection, ← lookup_resetOnSynRst directions htcp, hreset,
      lookup_resetOnSynRst directions htcp']
  refine ⟨?_, by unfold answer; rw [hpayload, houtcome]⟩
  by_cases hnil : p.payload = []
  · rw [step_of_tcp htcp, if_pos hnil, step_of_tcp htcp', if_pos (hpayload ▸ hnil)]
    exact hreset
  · refine Finmap.ext_lookup fun key => ?_
    rw [(step_of_payload htcp hnil config directions key).1,
      (step_of_payload htcp' (hpayload ▸ hnil) config directions key).1, hreset, hdirection,
      hreverse, houtcome]

end TlsConstrictor

namespace QuicConstrictor

variable {p q : CapturedPacket}

/-- The QUIC constrictor treats packets alike that agree on what it reads. -/
theorem step_alike (h : Alike p q) {config : QuicOptions}
    (happ : applicable p.decoded config = true) (flowStates : FlowStates) :
    (step config flowStates p).1 = (step config flowStates q).1 ∧
      answer config flowStates p = answer config flowStates q := by
  have hudp : p.decoded.transportProtocol = .udp := (isUdp_of_applicable happ).1
  have hne : p.decoded.transportProtocol ≠ .none := by
    rw [hudp]
    exact nofun
  have hcontent := h.content (CapturedPacket.failureReason_of_transport hne)
  have hpayload := h.payload hne
  have happ' : applicable q.decoded config = true := by
    change applicable p.decoded.content config = true at happ
    rw [hcontent] at happ
    exact happ
  have hflow : flowOf p = flowOf q := by
    change makeCanonicalFlow p.decoded.content = makeCanonicalFlow q.decoded.content
    rw [hcontent]
  have hlearned : learnedFrom flowStates p = learnedFrom flowStates q := by
    unfold learnedFrom chainOf
    rw [hflow, hpayload]
  refine ⟨?_, by unfold answer; rw [hlearned, hflow, hpayload]⟩
  rw [step_answer happ, step_answer happ']
  exact hlearned

end QuicConstrictor

namespace LiveCapturePolicy

variable {p q : CapturedPacket} {config : PolicyConfig}

/-- Packets that agree on what the policy reads start with the same reason. -/
theorem initialReason_alike (h : Alike p q) (hp : malformed p = false)
    (hq : malformed q = false) : initialReason config p = initialReason config q := by
  unfold initialReason
  dsimp only
  rw [hp, hq]
  by_cases hfailed : p.decoded.failureReason = .none
  · have hcontent := h.content hfailed
    have hnonIp : p.decoded.isNonIp = q.decoded.isNonIp := by
      change p.decoded.content.isNonIp = q.decoded.content.isNonIp
      rw [hcontent]
    have hcandidate : ∀ enabled ports,
        candidate enabled ports p.decoded = candidate enabled ports q.decoded := by
      intro enabled ports
      change candidate enabled ports p.decoded.content = candidate enabled ports q.decoded.content
      rw [hcontent]
    simp only [hfailed, h.failed.mp hfailed, hnonIp, hcandidate,
      transportProtocol_of_content hcontent]
  · have hfailed' : ¬ q.decoded.failureReason = .none := fun heq => hfailed (h.failed.mpr heq)
    simp only [ne_eq, hfailed, hfailed', Bool.false_eq_true, if_false, not_false_eq_true, if_true]

/-- Packets that agree on what the policy reads go to the same constrictor. -/
theorem gates_alike (h : Alike p q) (hp : malformed p = false) (hq : malformed q = false) :
    tlsGate config p = tlsGate config q ∧ quicGate config p = quicGate config q := by
  unfold tlsGate quicGate
  rw [initialReason_alike h hp hq, hp, hq]
  by_cases hfailed : p.decoded.failureReason = .none
  · have hcontent := h.content hfailed
    have hlength : p.decoded.transportPayloadLength = q.decoded.transportPayloadLength := by
      change p.decoded.content.transportPayloadLength = q.decoded.content.transportPayloadLength
      rw [hcontent]
    have hflags : p.decoded.tcpFlags = q.decoded.tcpFlags := by
      change p.decoded.content.tcpFlags = q.decoded.content.tcpFlags
      rw [hcontent]
    rw [hlength, hflags, hfailed, h.failed.mp hfailed]
    exact ⟨rfl, rfl⟩
  · have hp' : (p.decoded.failureReason == .none) = false := beq_eq_false_iff_ne.mpr hfailed
    have hq' : (q.decoded.failureReason == .none) = false :=
      beq_eq_false_iff_ne.mpr fun heq => hfailed (h.failed.mpr heq)
    rw [hp', hq']
    simp

/-- **Packets that are alike are treated alike.** -/
theorem evaluate_alike (h : Alike p q) (hp : malformed p = false) (hq : malformed q = false)
    (config : PolicyConfig) (state : State) :
    (evaluate config state p).1 = (evaluate config state q).1 ∧
      proposal config state p = proposal config state q := by
  obtain ⟨htlsEq, hquicEq⟩ := @gates_alike p q config h hp hq
  have hinitial := @initialReason_alike p q config h hp hq
  rcases evaluate_cases config state p with
    ⟨htls, heq⟩ | ⟨htls, hquic, heq⟩ | ⟨htls, hquic, heq⟩
  · obtain ⟨hstep, hanswer⟩ :=
      TlsConstrictor.step_alike h (isTcp_of_tlsGate htls) config.tls state.tlsConstrictor
    have htls' : tlsGate config q = true := htlsEq ▸ htls
    rw [heq, evaluate_of_tls htls', proposal_of_tls htls, proposal_of_tls htls', hstep, hanswer,
      hinitial]
    exact ⟨rfl, rfl⟩
  · obtain ⟨hstep, hanswer⟩ :=
      QuicConstrictor.step_alike h (applicable_of_quicGate hquic) state.quicConstrictor
    have htls' : tlsGate config q = false := htlsEq ▸ htls
    have hquic' : quicGate config q = true := hquicEq ▸ hquic
    rw [heq, evaluate_of_quic htls' hquic', proposal_of_quic htls hquic,
      proposal_of_quic htls' hquic', hstep, hanswer, hinitial]
    exact ⟨rfl, rfl⟩
  · have htls' : tlsGate config q = false := htlsEq ▸ htls
    have hquic' : quicGate config q = false := hquicEq ▸ hquic
    rw [heq, evaluate_of_neither htls' hquic', proposal_of_neither htls hquic,
      proposal_of_neither htls' hquic', hinitial]
    exact ⟨rfl, rfl⟩

/-- Only packets with a transport header are cut. -/
theorem transport_of_proposal {state : State} {keep : ℕ}
    (h : (proposal config state p).keep = some keep) : p.decoded.transportProtocol ≠ .none := by
  unfold proposal at h
  dsimp only at h
  split at h
  · next htls =>
    have htcp : p.decoded.transportProtocol = .tcp := isTcp_of_tlsGate htls
    rw [htcp]
    exact nofun
  split at h
  · next hquic =>
    have hudp : p.decoded.transportProtocol = .udp := isUdp_of_quicGate hquic
    rw [hudp]
    exact nofun
  · cases h

/-- Moving the base length and the payload offset by one amount leaves what is dropped. -/
theorem settle_shift {base base' offset offset' : ℕ} (minSaved : ℕ) (keep : Option ℕ)
    (h : keep ≠ none → base + offset' = base' + offset) :
    ((base : ℤ) - settle base minSaved (keep.map (offset + ·))
        = base' - settle base' minSaved (keep.map (offset' + ·))) ∧
      (settle base minSaved (keep.map (offset + ·)) < base
        ↔ settle base' minSaved (keep.map (offset' + ·)) < base') := by
  cases keep with
  | none => simp
  | some keep =>
    have hshift := h (Option.some_ne_none keep)
    rw [Option.map_some, Option.map_some, settle_some, settle_some]
    split
    · rw [if_pos (by omega)]
      omega
    · rw [if_neg (by omega)]
      omega

/-- What `Evaluate` reports of a packet: the reason and the number of dropped bytes. -/
def report (config : PolicyConfig) (state : State) (packet : CapturedPacket) :
    State × (DecisionReason × ℤ) :=
  let (state, decision) := evaluate config state packet
  (state, decision.reason, packet.capturedLen.toNat - decision.outputLen.toNat)

/-- Alike packets that are kept whole unless they are cut are reported alike. -/
theorem report_alike (h : Alike p q) (hp : malformed p = false) (hq : malformed q = false)
    (hbase : baseOutputLen config p = p.capturedLen)
    (hbase' : baseOutputLen config q = q.capturedLen)
    (hlength : p.safeData.length = p.capturedLen.toNat)
    (hlength' : q.safeData.length = q.capturedLen.toNat) (state : State) :
    report config state p = report config state q := by
  obtain ⟨hstate, hproposal⟩ := evaluate_alike h hp hq config state
  obtain ⟨hout, hreason⟩ := evaluate_settled config state p
  obtain ⟨hout', hreason'⟩ := evaluate_settled config state q
  -- the same proposal, at a payload offset and a base length that moved by one amount
  have htail : (proposal config state q).keep ≠ none →
      (baseOutputLen config p).toNat + q.decoded.transportPayloadOffset
        = (baseOutputLen config q).toNat + p.decoded.transportPayloadOffset := by
    intro hsome
    obtain ⟨keep, hkeep⟩ := Option.ne_none_iff_exists'.mp hsome
    rw [hbase, hbase', ← hlength, ← hlength']
    exact h.tail (transport_of_proposal (hproposal ▸ hkeep))
  obtain ⟨hdropped, hcut⟩ :=
    settle_shift config.general.minSavedBytesPerPacket.toNat _ htail
  rw [hproposal] at hout hreason
  refine Prod.ext hstate (Prod.ext ?_ ?_)
  · change (evaluate config state p).2.reason = (evaluate config state q).2.reason
    rw [hreason, hreason']
    exact if_congr hcut rfl rfl
  · change (p.capturedLen.toNat : ℤ) - (evaluate config state p).2.outputLen.toNat
      = q.capturedLen.toNat - (evaluate config state q).2.outputLen.toNat
    rw [hout, hout', ← hbase, ← hbase']
    exact hdropped

/-! ## One IP packet in two frames -/

/-- The address family of an IP version. -/
def familyOf : IpVersion → UInt32
  | .ipv4 => 2
  | .ipv6 => 23
  | .none => 0

/-- `packet` is the IP packet `ip` behind a link header, captured in full and within the limits of
the configuration. -/
structure Framed (config : PolicyConfig) (link : Link) (ipVersion : IpVersion) (ip : Bytes)
    (packet : CapturedPacket) : Prop where
  data : packet.data = link.encode ipVersion ++ ip
  linkType : packet.linkType = link.linkType
  captured : packet.capturedLen.toNat = packet.data.length
  original : packet.capturedLen ≤ packet.originalLen
  snaplen : packet.capturedLen ≤ config.capture.defaultSnaplen
  maxCaptureLen : packet.capturedLen ≤ config.capture.maxCaptureLen

/-- The bytes of an IP packet, well-formed or not, framed twice: behind an Ethernet header with any
VLAN tags, and behind a loopback header with the address family of the IP version. -/
structure TwiceFramed (config : PolicyConfig) where
  ipVersion : IpVersion
  isIp : ipVersion ≠ .none
  ip : Bytes
  addresses : Vector UInt8 12
  tags : List VlanTag
  ethernet : CapturedPacket
  loopback : CapturedPacket
  ethernetFramed : Framed config (.ethernet addresses tags) ipVersion ip ethernet
  loopbackFramed : Framed config (.null (familyOf ipVersion)) ipVersion ip loopback

namespace Framed

variable {link : Link} {ipVersion : IpVersion} {ip : Bytes}

/-- A framed packet is captured as far as it says. -/
theorem toNat_safeCapturedLen (h : Framed config link ipVersion ip p) :
    p.packet.safeCapturedLen.toNat = p.capturedLen.toNat := by
  have hcaptured := h.captured
  rw [PacketView.toNat_safeCapturedLen]
  exact Nat.min_eq_left hcaptured.le

/-- A framed packet is its link header and the IP packet. -/
theorem safeData_eq (h : Framed config link ipVersion ip p) :
    p.safeData = link.encode ipVersion ++ ip := by
  rw [CapturedPacket.safeData, h.toNat_safeCapturedLen, h.captured, List.take_length, h.data]

/-- All captured bytes of a framed packet may be read. -/
theorem length_safeData (h : Framed config link ipVersion ip p) :
    p.safeData.length = p.capturedLen.toNat := by
  rw [CapturedPacket.length_safeData, h.toNat_safeCapturedLen]

/-- A framed packet has consistent lengths. -/
theorem malformed_eq (h : Framed config link ipVersion ip p) : malformed p = false := by
  have hsafe := h.toNat_safeCapturedLen
  have hcaptured := h.captured
  have horiginal := UInt32.le_iff_toNat_le.mp h.original
  simp only [malformed, Bool.or_eq_false_iff, decide_eq_false_iff_not, gt_iff_lt, Nat.not_lt,
    UInt32.lt_iff_toNat_lt, hsafe]
  exact ⟨hcaptured.le, horiginal⟩

/-- A framed packet is stored in full, if nothing cuts it. -/
theorem baseOutputLen_eq (h : Framed config link ipVersion ip p) :
    baseOutputLen config p = p.capturedLen := by
  have horiginal := UInt32.le_iff_toNat_le.mp h.original
  have hsnaplen := UInt32.le_iff_toNat_le.mp h.snaplen
  have hmax := UInt32.le_iff_toNat_le.mp h.maxCaptureLen
  refine UInt32.toNat_inj.mp ?_
  rw [toNat_baseOutputLen, h.toNat_safeCapturedLen]
  omega

end Framed

/-- What the decoder says about the bytes of an IP packet by themselves. -/
def decodedAlone (ipVersion : IpVersion) (ip : Bytes) : PacketDecodeResult :=
  Network.decode ipVersion { success := true } ip 0

/-- If a frame is decoded to the transport header, then so is the IP packet alone. -/
theorem transportProtocol_ne {ipVersion : IpVersion} {ip : Bytes} {n : ℕ}
    (h : Relocated n p.decoded (decodedAlone ipVersion ip)) :
    p.decoded.transportProtocol ≠ .none →
      (decodedAlone ipVersion ip).transportProtocol ≠ .none := by
  have hprotocol : p.decoded.content.transportProtocol
      = (decodedAlone ipVersion ip).content.transportProtocol := by rw [h.content]
  exact fun hne heq => hne (hprotocol.trans heq)

/-- Where the IP packet stands, there stands its payload. -/
theorem payload_of_relocated {ipVersion : IpVersion} {front ip : Bytes}
    (hdata : p.safeData = front ++ ip)
    (h : Relocated front.length p.decoded (decodedAlone ipVersion ip))
    (hne : p.decoded.transportProtocol ≠ .none) :
    p.payload = subspan ip (decodedAlone ipVersion ip).transportPayloadOffset
      (decodedAlone ipVersion ip).transportPayloadLength := by
  have hlength : p.decoded.content.transportPayloadLength
      = (decodedAlone ipVersion ip).content.transportPayloadLength := by rw [h.content]
  rw [CapturedPacket.payload, hdata, h.payloadOffset (transportProtocol_ne h hne),
    subspan_append_right]
  exact congrArg _ hlength

/-- Two frames that decode like the IP packet in them agree on what the policy reads. -/
theorem alike_of_relocated {ipVersion : IpVersion} {front front' ip : Bytes}
    (hdata : p.safeData = front ++ ip) (hdata' : q.safeData = front' ++ ip)
    (h : Relocated front.length p.decoded (decodedAlone ipVersion ip))
    (h' : Relocated front'.length q.decoded (decodedAlone ipVersion ip)) : Alike p q := by
  have hcontent : p.decoded.content = q.decoded.content := h.content.trans h'.content.symm
  have hfailed : p.decoded.content.failureReason = q.decoded.content.failureReason := by
    rw [hcontent]
  have hne : p.decoded.transportProtocol ≠ .none → q.decoded.transportProtocol ≠ .none := by
    rw [transportProtocol_of_content hcontent]
    exact id
  refine ⟨?_, fun _ => hcontent, fun hp => ?_, fun hp => ?_⟩
  · change p.decoded.content.failureReason = .none ↔ q.decoded.content.failureReason = .none
    rw [hfailed]
  · rw [payload_of_relocated hdata h hp, payload_of_relocated hdata' h' (hne hp)]
  · rw [hdata, hdata', h.payloadOffset (transportProtocol_ne h hp),
      h'.payloadOffset (transportProtocol_ne h' (hne hp)), List.length_append, List.length_append]
    omega

/-- A decodable IP packet has its version in the first half byte. -/
theorem nibbleIpVersion_of_decoded {ipVersion : IpVersion} {front ip : Bytes}
    (hfront : front.length = 4) (h : (decodedAlone ipVersion ip).failureReason = .none)
    (hne : ipVersion ≠ .none) :
    nibbleIpVersion (front ++ ip) = .none ∨ nibbleIpVersion (front ++ ip) = ipVersion := by
  have hbyte : byteAt (front ++ ip) 4 = byteAt ip 0 := by
    rw [← hfront]
    exact byteAt_append_right front ip 0
  unfold nibbleIpVersion
  split
  · dsimp only
    rw [hbyte]
    cases ipVersion with
    | none => exact absurd rfl hne
    | ipv4 =>
      rcases decodeIpv4_cases { success := true } ip 0 with
        ⟨reason, hreason, heq⟩ | ⟨ihl, -, hversion, -⟩
      · exact absurd ((congrArg PacketDecodeResult.failureReason heq).symm.trans h) hreason
      · rw [hversion]
        exact Or.inr rfl
    | ipv6 =>
      rcases decodeIpv6_cases { success := true } ip 0 with
        ⟨reason, hreason, heq⟩ | ⟨hversion, -⟩
      · exact absurd ((congrArg PacketDecodeResult.failureReason heq).symm.trans h) hreason
      · rw [hversion]
        exact Or.inr rfl
  · exact Or.inl rfl

/-- A loopback header whose family contradicts the first half byte fails. -/
theorem decodePacket_null_mismatch {packet : Bytes} {family : UInt32}
    (h : Holds packet 0 (encodeLe32 family)) (hfamily : familyIpVersion family ≠ .none)
    (hnibble : nibbleIpVersion packet ≠ .none)
    (hdiffer : familyIpVersion family ≠ nibbleIpVersion packet) :
    (decodePacket packet .null).failureReason ≠ .none := by
  obtain ⟨hlength, hread⟩ := holds_encodeLe32.mp h
  unfold decodePacket
  dsimp only
  unfold decodeNull
  rw [if_neg (by rw [hasBytes_iff]; omega), hread]
  dsimp only
  rw [if_pos ⟨hfamily, hnibble, hdiffer⟩]
  exact nofun

theorem familyIpVersion_familyOf (ipVersion : IpVersion) :
    familyIpVersion (familyOf ipVersion) = ipVersion := by
  cases ipVersion <;> rfl

/-- The link header stands at the front. -/
theorem Framed.holds_link {link : Link} {ipVersion : IpVersion} {ip : Bytes}
    (h : Framed config link ipVersion ip p) : Holds p.safeData 0 (link.encode ipVersion) :=
  @holds_of_eq _ [] _ _ h.safeData_eq

/-- An Ethernet frame decodes like the IP packet in it. -/
theorem relocated_ethernet {ipVersion : IpVersion} {ip : Bytes} {addresses : Vector UInt8 12}
    {tags : List VlanTag} (hne : ipVersion ≠ .none)
    (h : Framed config (.ethernet addresses tags) ipVersion ip p) :
    Relocated ((Link.ethernet addresses tags).encode ipVersion).length p.decoded
      (decodedAlone ipVersion ip) := by
  have hlength : ((Link.ethernet addresses tags).encode ipVersion).length = 14 + 4 * tags.length :=
    Link.length_encode _ _
  rw [CapturedPacket.decoded, h.linkType]
  change Relocated _ (decodePacket p.safeData .ethernet) _
  rw [decodePacket_ethernet hne h.holds_link, h.safeData_eq, ← hlength]
  exact decode_relocated ipVersion (.of_content rfl rfl) rfl

/-- So does a loopback frame, if the half byte behind its family names no other version. -/
theorem relocated_loopback {ipVersion : IpVersion} {ip : Bytes} (hne : ipVersion ≠ .none)
    (h : Framed config (.null (familyOf ipVersion)) ipVersion ip p)
    (hnibble : nibbleIpVersion p.safeData = .none ∨ nibbleIpVersion p.safeData = ipVersion) :
    Relocated 4 p.decoded (decodedAlone ipVersion ip) := by
  have hfamily := familyIpVersion_familyOf ipVersion
  rw [CapturedPacket.decoded, h.linkType]
  change Relocated _ (decodePacket p.safeData .null) _
  rw [decodePacket_null hne (Or.inr hfamily) hnibble (Or.inl hfamily) h.holds_link, h.safeData_eq]
  exact @decode_relocated (encodeLe32 (familyOf ipVersion)) ip _ _ ipVersion
    (.of_content rfl rfl) rfl

/-- The two frames of an IP packet are alike: where the loopback header contradicts the packet, both
fail. -/
theorem TwiceFramed.alike (x : TwiceFramed config) : Alike x.ethernet x.loopback := by
  obtain ⟨ipVersion, hne, ip, addresses, tags, p, q, hp, hq⟩ := x
  have hethernet := relocated_ethernet hne hp
  have hdata := hq.safeData_eq
  by_cases hnibble : nibbleIpVersion q.safeData = .none ∨ nibbleIpVersion q.safeData = ipVersion
  · exact alike_of_relocated hp.safeData_eq hdata hethernet (relocated_loopback hne hq hnibble)
  · have hfailed : p.decoded.content.failureReason ≠ .none := by
      rw [hethernet.content]
      intro hnone
      refine hnibble ?_
      rw [hdata]
      exact nibbleIpVersion_of_decoded rfl hnone hne
    rw [not_or] at hnibble
    have hfailed' : q.decoded.failureReason ≠ .none := by
      have hfamily := familyIpVersion_familyOf ipVersion
      rw [CapturedPacket.decoded, hq.linkType]
      refine decodePacket_null_mismatch hq.holds_link ?_ hnibble.1 ?_
      · rw [hfamily]
        exact hne
      · rw [hfamily]
        exact Ne.symm hnibble.2
    refine ⟨⟨fun h => absurd h hfailed, fun h => absurd h hfailed'⟩, fun h => absurd h hfailed,
      fun h => ?_, fun h => ?_⟩
    · exact absurd (CapturedPacket.failureReason_of_transport h) hfailed
    · exact absurd (CapturedPacket.failureReason_of_transport h) hfailed

/-- **Link framing does not change the policy.** Two runs over the same IP packets, framed once for
Ethernet and once for the loopback device, give the same reasons and drop as many bytes. -/
theorem link_framing_irrelevant (config : PolicyConfig) (trace : List (TwiceFramed config)) :
    Transducer.outputs (report config) {} (trace.map (·.ethernet))
      = Transducer.outputs (report config) {} (trace.map (·.loopback)) := by
  refine Transducer.outputs_eq_of_simulation (report config) _ _ Eq ?_ rfl trace
  rintro state _ x rfl
  have hreport := report_alike x.alike x.ethernetFramed.malformed_eq x.loopbackFramed.malformed_eq
    x.ethernetFramed.baseOutputLen_eq x.loopbackFramed.baseOutputLen_eq
    x.ethernetFramed.length_safeData x.loopbackFramed.length_safeData state
  rw [hreport]
  exact ⟨rfl, rfl⟩

/-- The IP packet of `plainPacket`. -/
def plainIp : Bytes := plainPacket.data.drop 14

/-- A service tag. -/
def serviceTag : VlanTag where
  tpid := 0x88A8
  tci := 7
  tpid_eq := Or.inr rfl

/-- An outer and an inner VLAN tag. -/
def twoTags : List VlanTag := [serviceTag, customerTag]

/-- `plainPacket` with these tags. -/
def taggedPacket : CapturedPacket :=
  .ofFrame ((Link.ethernet (Vector.replicate 12 0) twoTags).encode .ipv4 ++ plainIp)

/-- `plainPacket` on the loopback device. -/
def loopbackPacket : CapturedPacket :=
  { CapturedPacket.ofFrame ((Link.null 2).encode .ipv4 ++ plainIp) with linkType := .null }

/-- The tagged packet is framed within all limits. -/
theorem framed_taggedPacket :
    Framed exampleConfig (.ethernet (Vector.replicate 12 0) twoTags) .ipv4 plainIp taggedPacket :=
  ⟨rfl, rfl, by decide +kernel, by decide +kernel, by decide +kernel, by decide +kernel⟩

theorem framed_loopbackPacket :
    Framed exampleConfig (.null 2) .ipv4 plainIp loopbackPacket :=
  ⟨rfl, rfl, by decide +kernel, by decide +kernel, by decide +kernel, by decide +kernel⟩

theorem ipv4_ne_none : IpVersion.ipv4 ≠ .none := nofun

/-- One IP packet in both frames. -/
def plainTwice : TwiceFramed exampleConfig where
  ipVersion := .ipv4
  isIp := ipv4_ne_none
  ip := plainIp
  addresses := Vector.replicate 12 0
  tags := twoTags
  ethernet := taggedPacket
  loopback := loopbackPacket
  ethernetFramed := framed_taggedPacket
  loopbackFramed := framed_loopbackPacket

/-- Its Application Data record is cut by four bytes in both. -/
theorem link_framing_irrelevant_plainTwice :
    let reports := Transducer.outputs (report exampleConfig) {}
    reports [taggedPacket] = reports [loopbackPacket] ∧
      reports [loopbackPacket] = [(.tlsApplicationDataConstricted, 4)] :=
  ⟨link_framing_irrelevant exampleConfig [plainTwice], by decide +kernel⟩

end LiveCapturePolicy

end PcapConstrictor
