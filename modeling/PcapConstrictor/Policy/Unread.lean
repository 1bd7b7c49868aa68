import PcapConstrictor.Common.Hidden
import PcapConstrictor.Decode.Headers
import PcapConstrictor.Policy.QuicDatagram
import PcapConstrictor.Policy.Settlement
import PcapConstrictor.Policy.TlsProvenance

/-!
# What the policy does not look at

The policy reads headers: those that the decoder finds, the headers of the TLS records that are
framed in a payload, and a QUIC datagram up to the connection ID of its short header. `Unread` says
which bytes of a packet are left, in a given state. Other bytes in their place change neither the
decision nor the state behind it (`evaluate_agree`).
-/

namespace PcapConstrictor

open ByteString

/-! ## TLS -/

namespace TlsConstrictor

/-- The position lies in one of the records, behind its header. -/
def InBody (records : List FramedRecord) (i : ℕ) : Prop :=
  ∃ record ∈ records, record.offset + kTlsRecordHeaderSize ≤ i ∧
    i < record.offset + record.totalSize

/-- Framing from `entry` on does not look at the position. -/
def Unread (payload : Bytes) (entry i : ℕ) : Prop :=
  i < entry ∨ InBody (framing payload entry).records i

/-- No body lies in front of the first header behind `offset`. -/
theorem not_inBody {payload : Bytes} {offset i : ℕ} (h : i < offset + kTlsRecordHeaderSize) :
    ¬ InBody (framing payload offset).records i := by
  rintro ⟨record, hmem, hle, -⟩
  have hstart := (framing_mem hmem).1
  omega

/-- A record header is read from its own five bytes. -/
theorem readTlsRecordHeader_congr {payload payload' : Bytes} {offset : ℕ}
    (hlength : payload.length = payload'.length)
    (h : ∀ i, offset ≤ i → i < offset + kTlsRecordHeaderSize →
      byteAt payload i = byteAt payload' i) :
    readTlsRecordHeader payload offset = readTlsRecordHeader payload' offset := by
  have hbytes : HasBytes payload offset kTlsRecordHeaderSize
      ↔ HasBytes payload' offset kTlsRecordHeaderSize := by
    rw [hasBytes_iff, hasBytes_iff, hlength]
  have hread : ∀ k < kTlsRecordHeaderSize,
      byteAt payload (offset + k) = byteAt payload' (offset + k) :=
    fun k hk => h _ (Nat.le_add_right _ _) (Nat.add_lt_add_left hk offset)
  have hfirst : byteAt payload offset = byteAt payload' offset := hread 0 (by decide)
  have hversion := hread 1 (by decide)
  have hlow : byteAt payload (offset + 3 + 1) = byteAt payload' (offset + 3 + 1) :=
    hread 4 (by decide)
  simp only [readTlsRecordHeader, readBe16, hbytes, hfirst, hversion, hread 3 (by decide), hlow]

/-- Framing looks at headers only. -/
theorem framing_congr {payload payload' : Bytes} {offset : ℕ}
    (hlength : payload.length = payload'.length)
    (h : ∀ i, offset ≤ i → ¬ InBody (framing payload offset).records i →
      byteAt payload i = byteAt payload' i) :
    framing payload' offset = framing payload offset := by
  have hheader : readTlsRecordHeader payload' offset = readTlsRecordHeader payload offset :=
    (readTlsRecordHeader_congr hlength fun i hle hlt => h i hle (not_inBody hlt)).symm
  fun_induction framing payload offset with
  | case1 offset hlt hread =>
    exact framing_of_none (hlength ▸ hlt) (hheader.trans hread)
  | case2 offset hlt contentType recordLength hread totalSize record hover =>
    exact framing_of_overhang (hlength ▸ hlt) (hheader.trans hread) (hlength ▸ hover)
  | case3 offset hlt contentType recordLength hread totalSize record hover rest ih =>
    have hrest : framing payload' (offset + totalSize) = framing payload (offset + totalSize) := by
      have hbehind : ∀ i, offset + totalSize ≤ i →
          ¬ InBody (framing payload (offset + totalSize)).records i →
          byteAt payload i = byteAt payload' i := by
        rintro i hle hnot
        refine h i (by omega) ?_
        rintro ⟨other, hmem, hbody⟩
        rcases List.mem_cons.mp hmem with rfl | hmem
        · exact absurd hbody.2 (Nat.not_lt.mpr hle)
        · exact hnot ⟨other, hmem, hbody⟩
      exact ih hbehind
        (readTlsRecordHeader_congr hlength fun i hle hlt => hbehind i hle (not_inBody hlt)).symm
    rw [framing_of_fits (hlength ▸ hlt) (hheader.trans hread) (hlength ▸ hover), hrest]
  | case4 offset hge => exact framing_of_le (hlength ▸ Nat.not_lt.mp hge)

/-- Framing starts behind the active record. -/
theorem continueActiveRecord_payloadOffset (config : TlsOptions) (payload : Bytes)
    (state : DirectionState) :
    (continueActiveRecord config payload state).payloadOffset = state.entry payload.length := by
  unfold DirectionState.entry
  cases hactive : state.hasActiveRecord with
  | false => simp [continueActiveRecord, hactive]
  | true =>
    rw [if_pos rfl]
    rcases Nat.lt_trichotomy payload.length state.activeRecordRemainingBytes.toNat with h | h | h
    · rw [continueActiveRecord_middle config hactive h]
      exact (Nat.min_eq_right h.le).symm
    · rw [continueActiveRecord_last config hactive h]
      exact (Nat.min_eq_right h.le).symm
    · rw [continueActiveRecord_behind config hactive h]
      exact (Nat.min_eq_left h.le).symm

/-- A payload does to its direction what its headers say. -/
theorem segment_congr {config : TlsOptions} {payload payload' : Bytes} {tcpSeq : UInt32}
    {state : DirectionState}
    (h : AgreeOutside (Unread payload ((state.dropOnGap tcpSeq).entry payload.length)) payload
      payload') :
    segment config payload' tcpSeq state = segment config payload tcpSeq state := by
  have hcontinue : continueActiveRecord config payload' (state.dropOnGap tcpSeq)
      = continueActiveRecord config payload (state.dropOnGap tcpSeq) := by
    simp only [continueActiveRecord, h.length_eq]
  have hframing : framing payload' ((state.dropOnGap tcpSeq).entry payload.length)
      = framing payload ((state.dropOnGap tcpSeq).entry payload.length) :=
    framing_congr h.length_eq fun i hle hnot =>
      h.byteAt_eq i (not_or.mpr ⟨Nat.not_lt.mpr hle, hnot⟩)
  simp only [segment, hcontinue, continueActiveRecord_payloadOffset, hframing, ← h.length_eq]

end TlsConstrictor

/-! ## QUIC -/

namespace QuicConstrictor

/-- The bytes of a short header that are compared with the expected connection ID. -/
def comparedLength (expected : Option ConnectionId) : ℕ :=
  ((expected.filter (·.known)).map (·.length.toNat)).getD 0

/-- The position lies behind the long headers of a datagram, and behind the connection ID of the
short header that follows them. -/
def Unread (expected : Option ConnectionId) (payload : Bytes) (i : ℕ) : Prop :=
  (longHeaders payload 0).valid = true ∧
    (longHeaders payload 0).stop + 1 + comparedLength expected ≤ i

variable {payload payload' : Bytes} {expected : Option ConnectionId}

/-- The chain of long headers depends on them and the byte behind them. -/
theorem longHeaders_congr (hvalid : (longHeaders payload 0).valid = true)
    (hlength : payload.length = payload'.length)
    (hfront : payload.take ((longHeaders payload 0).stop + 1)
      = payload'.take ((longHeaders payload 0).stop + 1)) :
    longHeaders payload' 0 = longHeaders payload 0 := by
  obtain ⟨packets, remainder, h⟩ := decomposes_of_longHeaders (Nat.zero_le _) hvalid
  have hchain := longHeaders_of_decomposes (Nat.zero_le _) h
  rw [List.drop_zero] at h
  have hstop : (longHeaders payload 0).stop = (packets.flatMap LongPacket.encode).length := by
    rw [hchain, List.length_flatMap]
    exact Nat.zero_add _
  generalize (longHeaders payload 0).stop = stop at hstop hfront
  have hremainder : payload.drop stop = remainder := by
    rw [h.concat, hstop, List.drop_left]
  have hpackets : payload'.take stop = packets.flatMap LongPacket.encode := by
    have htake := congrArg (List.take stop) hfront
    rw [List.take_take, List.take_take, Nat.min_eq_left (Nat.le_succ stop)] at htake
    rw [← htake, h.concat, hstop, List.take_left]
  -- the byte behind the long headers is not hidden, so the walk ends there on both sides
  have hhead : (payload'.drop stop).head? = remainder.head? := by
    have hdrop := congrArg (fun bytes => (bytes.drop stop).head?) hfront
    simpa [List.drop_take, List.head?_take, hremainder, eq_comm] using hdrop
  have hdecomposes : Decomposes payload' packets (payload'.drop stop) := by
    refine ⟨?_, fun first hfirst => h.short first (hhead ▸ hfirst), ?_⟩
    · rw [← hpackets, List.take_append_drop]
    · intro before packet after hsplit hretry
      obtain ⟨hafter, hnil⟩ := h.toEnd before packet after hsplit hretry
      refine ⟨hafter, ?_⟩
      rw [hnil, List.drop_eq_nil_iff] at hremainder
      exact List.drop_eq_nil_of_le (hlength ▸ hremainder)
  rw [hchain]
  exact longHeaders_of_decomposes (Nat.zero_le _) hdecomposes

/-- The long headers are read alike: their bytes are not hidden. -/
theorem longHeaders_agree (h : AgreeOutside (Unread expected payload) payload payload') :
    longHeaders payload' 0 = longHeaders payload 0 := by
  by_cases hvalid : (longHeaders payload 0).valid = true
  · refine longHeaders_congr hvalid h.length_eq (h.take_eq fun i hi hunread => ?_)
    have hle := hunread.2
    omega
  · rw [h.eq_of_visible fun i _ hunread => hvalid hunread.1]

/-- A datagram comes to what its headers say. -/
theorem datagramOutcome_agree (config : QuicOptions)
    (h : AgreeOutside (Unread expected payload) payload payload') :
    datagramOutcome expected config payload' = datagramOutcome expected config payload := by
  have hchain := longHeaders_agree h
  by_cases hvalid : (longHeaders payload 0).valid = true
  · have hfirst : byteAt payload (longHeaders payload 0).stop
        = byteAt payload' (longHeaders payload 0).stop := by
      refine h.byteAt_eq _ fun hunread => ?_
      have hle := hunread.2
      omega
    have hshort : shortHeaderOutcome expected config payload' (longHeaders payload 0).stop
        = shortHeaderOutcome expected config payload (longHeaders payload 0).stop := by
      unfold shortHeaderOutcome
      cases hdcid : expected.filter (·.known) with
      | none => simp only [matchedOutcome, h.length_eq]
      | some dcid =>
        have hcompared : comparedLength expected = dcid.length.toNat := by
          rw [comparedLength, hdcid]
          rfl
        have hmatches : connectionIdMatches dcid payload' ((longHeaders payload 0).stop + 1)
            = connectionIdMatches dcid payload ((longHeaders payload 0).stop + 1) := by
          rw [connectionIdMatches, connectionIdMatches, h.subspan_eq fun i _ hi hunread => ?_]
          have hle := hunread.2
          omega
        simp only [hmatches, matchedOutcome, h.hasBytes_iff, h.length_eq]
    simp only [datagramOutcome, hchain, hshort, hfirst, h.length_eq]
  · rw [h.eq_of_visible fun i _ hunread => hvalid hunread.1]

end QuicConstrictor

/-! ## Packets -/

/-- Two packets that agree but for hidden bytes of what was captured. -/
structure CapturedPacket.Agree (hidden : ℕ → Prop) (p q : CapturedPacket) : Prop where
  linkType : p.linkType = q.linkType
  capturedLen : p.capturedLen = q.capturedLen
  originalLen : p.originalLen = q.originalLen
  data : AgreeOutside hidden p.data q.data

/-- Packets that agree outside a set agree outside a larger one. -/
theorem CapturedPacket.Agree.mono {hidden hidden' : ℕ → Prop} {p q : CapturedPacket}
    (h : p.Agree hidden q) (hsub : ∀ i, hidden i → hidden' i) : p.Agree hidden' q :=
  ⟨h.linkType, h.capturedLen, h.originalLen, h.data.mono fun i _ => hsub i⟩

/-- Two packets with one decode result and payloads that agree outside hidden positions. -/
structure CapturedPacket.SameHeaders (hidden : ℕ → Prop) (p q : CapturedPacket) : Prop where
  decoded : p.decoded = q.decoded
  length_safeData : p.safeData.length = q.safeData.length
  payload : AgreeOutside hidden p.payload q.payload

namespace TlsConstrictor

/-- The TLS constrictor does not look at the position of the payload. -/
def UnreadAt (directions : Directions) (packet : CapturedPacket) (i : ℕ) : Prop :=
  Unread packet.payload ((checkedState directions packet).entry packet.payload.length) i

/-- A TLS step does not see what it leaves unread. -/
theorem step_agree {config : TlsOptions} {directions : Directions} {p q : CapturedPacket}
    (htcp : p.IsTcp) (h : p.SameHeaders (UnreadAt directions p) q) :
    step config directions q = step config directions p := by
  have htcp' : q.IsTcp := by rwa [CapturedPacket.IsTcp, ← h.decoded]
  have hkeep : ∀ disposition, keepPacket q.safeData disposition
      = keepPacket p.safeData disposition := by
    intro disposition
    rw [keepPacket, keepPacket, h.length_safeData]
  have hnil : q.payload = [] ↔ p.payload = [] := by
    rw [← List.length_eq_zero_iff, ← List.length_eq_zero_iff, h.payload.length_eq]
  by_cases hpay : p.payload = []
  · rw [step_of_tcp htcp', step_of_tcp htcp, if_pos hpay, if_pos (hnil.mpr hpay), hkeep, h.decoded]
  have hdirection : directionOf q = directionOf p := by
    rw [directionOf, directionOf, h.decoded]
  have hreverse : reverseOf q = reverseOf p := by
    rw [reverseOf, reverseOf, h.decoded]
  have hstate : stateAtPayload directions q = stateAtPayload directions p := by
    rw [stateAtPayload, stateAtPayload, ← lookup_resetOnSynRst directions htcp',
      ← lookup_resetOnSynRst directions htcp, hdirection, h.decoded]
  have houtcome : outcomeOf config directions q = outcomeOf config directions p := by
    rw [outcomeOf, outcomeOf, hstate, ← h.decoded]
    exact segment_congr h.payload
  have hpay' : q.payload ≠ [] := mt hnil.mp hpay
  refine Prod.ext (Finmap.ext_lookup fun key => ?_) ?_
  · rw [(step_of_payload htcp' hpay' config directions key).1,
      (step_of_payload htcp hpay config directions key).1, hdirection, hreverse, houtcome,
      h.decoded]
  · rw [(step_of_payload htcp' hpay' config directions (directionOf p)).2,
      (step_of_payload htcp hpay config directions (directionOf p)).2, houtcome, ← h.decoded,
      SegmentOutcome.result, SegmentOutcome.result, h.length_safeData]

end TlsConstrictor

namespace QuicConstrictor

/-- The connection ID that is expected from a packet. -/
def expectedFrom (flowStates : FlowStates) (packet : CapturedPacket) : Option ConnectionId :=
  ((learnedFrom flowStates packet).lookup (flowOf packet).1).map (·.expectedDcid (flowOf packet).2)

/-- The QUIC constrictor does not look at the position of the payload. -/
def UnreadAt (flowStates : FlowStates) (packet : CapturedPacket) (i : ℕ) : Prop :=
  Unread (expectedFrom flowStates packet) packet.payload i

/-- A QUIC step does not see what it leaves unread. -/
theorem step_agree {config : QuicOptions} {flowStates : FlowStates} {p q : CapturedPacket}
    (happ : applicable p.decoded config = true) (h : p.SameHeaders (UnreadAt flowStates p) q) :
    step config flowStates q = step config flowStates p := by
  have happ' : applicable q.decoded config = true := h.decoded ▸ happ
  have hflow : flowOf q = flowOf p := by
    rw [flowOf, flowOf, h.decoded]
  have hlearned : learnedFrom flowStates q = learnedFrom flowStates p := by
    rw [learnedFrom, learnedFrom, hflow, chainOf, chainOf, longHeaders_agree h.payload]
  have hanswer : answer config flowStates q = answer config flowStates p := by
    rw [answer, answer, hlearned, hflow]
    exact datagramOutcome_agree config h.payload
  rw [step_answer happ', step_answer happ, hlearned, hanswer, h.decoded]

end QuicConstrictor

namespace LiveCapturePolicy

variable {config : PolicyConfig} {state : State} {p q : CapturedPacket}

/-- No constrictor looks at the position of the payload. -/
def UnreadPayload (config : PolicyConfig) (state : State) (packet : CapturedPacket) (i : ℕ) :
    Prop :=
  (tlsGate config packet = true → TlsConstrictor.UnreadAt state.tlsConstrictor packet i) ∧
    (quicGate config packet = true → QuicConstrictor.UnreadAt state.quicConstrictor packet i)

/-- The policy does not look at the position of the captured bytes: it lies behind the headers that
are decoded, and in the payload no constrictor looks at it. -/
def Unread (config : PolicyConfig) (state : State) (packet : CapturedPacket) (i : ℕ) : Prop :=
  packet.decoded.transportProtocol ≠ .none ∧ packet.decoded.transportPayloadOffset ≤ i ∧
    (i - packet.decoded.transportPayloadOffset < packet.payload.length →
      UnreadPayload config state packet (i - packet.decoded.transportPayloadOffset))

/-- The lengths of packets that agree. -/
theorem safeCapturedLen_agree {hidden : ℕ → Prop} (h : p.Agree hidden q) :
    p.packet.safeCapturedLen = q.packet.safeCapturedLen := by
  have hcaptured : p.packet.capturedLen = q.packet.capturedLen := h.capturedLen
  have hlength : p.packet.data.length = q.packet.data.length := h.data.length_eq
  rw [PacketView.safeCapturedLen, PacketView.safeCapturedLen, hcaptured, hlength]

/-- Packets that agree outside the unread bytes have the same headers. -/
theorem sameHeaders_agree (h : p.Agree (Unread config state p) q) :
    p.SameHeaders (UnreadPayload config state p) q := by
  have hsafe : AgreeOutside (Unread config state p) p.safeData q.safeData := by
    rw [CapturedPacket.safeData, CapturedPacket.safeData, ← safeCapturedLen_agree h]
    exact h.data.front _
  have hdecoded : p.decoded = q.decoded := by
    rw [CapturedPacket.decoded, CapturedPacket.decoded, ← h.linkType]
    by_cases hnone : (decodePacket p.safeData p.linkType).transportProtocol = .none
    · rw [hsafe.eq_of_visible fun i _ hunread => hunread.1 hnone]
    · refine (decodePacket_congr hnone hsafe.length_eq (hsafe.take_eq fun i hi hunread => ?_)).symm
      exact absurd hunread.2.1 (Nat.not_le.mpr hi)
  refine ⟨hdecoded, hsafe.length_eq, ?_⟩
  have hpayload := hsafe.span p.decoded.transportPayloadOffset p.decoded.transportPayloadLength
  have hq : q.payload
      = subspan q.safeData p.decoded.transportPayloadOffset p.decoded.transportPayloadLength := by
    rw [hdecoded]
    rfl
  rw [hq]
  refine hpayload.mono fun i hi hunread => ?_
  have hbody := hunread.2.2
  rw [Nat.add_sub_cancel_left] at hbody
  exact hbody hi

/-- **The policy looks at headers only.** Packets that agree but for bytes that it does not look at
get the same decision and leave the same state. -/
theorem evaluate_agree (h : p.Agree (Unread config state p) q) :
    evaluate config state q = evaluate config state p := by
  have hheaders := sameHeaders_agree h
  have hsafe := safeCapturedLen_agree h
  have hdecoded := hheaders.decoded
  have hmalformed : malformed q = malformed p := by
    rw [malformed, malformed, h.capturedLen, h.originalLen, hsafe, h.data.length_eq]
  have hbase : baseOutputLen config q = baseOutputLen config p := by
    rw [baseOutputLen, baseOutputLen, hsafe, h.originalLen]
  have hinitial : initialReason config q = initialReason config p := by
    simp only [initialReason, hmalformed, hdecoded]
  have hdecision : decision config q = decision config p := by
    funext final
    rw [decision, decision, hbase, h.originalLen, hdecoded]
  have htlsGate : tlsGate config q = tlsGate config p := by
    simp only [tlsGate, hmalformed, hdecoded, hinitial]
  have hquicGate : quicGate config q = quicGate config p := by
    simp only [quicGate, hmalformed, hdecoded, hinitial]
  -- headers and lengths are visible, so both packets go through the same gate
  rcases evaluate_cases config state p with
    ⟨htls, heq⟩ | ⟨htls, hquic, heq⟩ | ⟨htls, hquic, heq⟩ <;> rw [heq]
  · have hstep := @TlsConstrictor.step_agree config.tls _ _ _ (isTcp_of_tlsGate htls)
      ⟨hdecoded, hheaders.length_safeData, hheaders.payload.mono fun i _ hi => hi.1 htls⟩
    rw [evaluate_of_tls (htlsGate.trans htls), hstep, hbase, hinitial, hdecision]
  · have hstep := QuicConstrictor.step_agree (applicable_of_quicGate hquic)
      ⟨hdecoded, hheaders.length_safeData, hheaders.payload.mono fun i _ hi => hi.2 hquic⟩
    rw [evaluate_of_quic (htlsGate.trans htls) (hquicGate.trans hquic), hstep, hbase, hinitial,
      hdecision]
  · rw [evaluate_of_neither (htlsGate.trans htls) (hquicGate.trans hquic), hbase, hinitial,
      hdecision]

end LiveCapturePolicy

end PcapConstrictor
