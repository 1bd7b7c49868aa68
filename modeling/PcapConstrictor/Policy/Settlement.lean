import PcapConstrictor.Policy.LengthDecision
import PcapConstrictor.Policy.QuicOutcome

/-!
# How a decision is settled

A constrictor proposes to keep some bytes of the payload; the policy takes the proposal when it
saves enough (`settle`), and otherwise keeps the base length. `evaluate_settled` brings `Evaluate`
into this form: what is proposed depends on the payload and the state, and where the payload starts
and how long the packet is enter in one place only.
-/

namespace PcapConstrictor

open ByteString

namespace TlsConstrictor

/-- The answer to a TCP packet: the disposition, and the payload bytes kept when it is cut. -/
def answer (config : TlsOptions) (directions : Directions) (packet : CapturedPacket) :
    TlsConstrictDisposition × Option ℕ :=
  if packet.payload = [] then (.noApplicationData, none)
  else
    ((outcomeOf config directions packet).disposition, (outcomeOf config directions packet).cut)

/-- A TLS step returns its answer: a cut as the length to keep, anything else without one. -/
theorem step_answer {packet : CapturedPacket} (htcp : packet.IsTcp) (config : TlsOptions)
    (directions : Directions) :
    (step config directions packet).2.disposition = (answer config directions packet).1 ∧
      match (answer config directions packet).2 with
      | none => (answer config directions packet).1 ≠ .appDataPrefix
      | some keep => (answer config directions packet).1 = .appDataPrefix ∧
          keep < packet.payload.length ∧
          (step config directions packet).2.outputLen.toNat
            = packet.decoded.transportPayloadOffset + keep := by
  unfold answer
  by_cases hnil : packet.payload = []
  · rw [if_pos hnil, step_of_tcp htcp, if_pos hnil]
    exact ⟨rfl, nofun⟩
  · have hcarries : Carries (directionOf packet) packet := ⟨htcp, rfl, hnil⟩
    have hresult := step_result hcarries config directions
    have hlength := step_outputLen hcarries config directions
    have hcut := segment_cut config packet.payload packet.decoded.tcpSeq
      (stateAtPayload directions packet)
    rw [if_neg hnil]
    refine ⟨by rw [hresult]; rfl, ?_⟩
    change match (outcomeOf config directions packet).cut with
      | none => (outcomeOf config directions packet).disposition ≠ .appDataPrefix
      | some keep => (outcomeOf config directions packet).disposition = .appDataPrefix ∧
          keep < packet.payload.length at hcut
    dsimp only
    cases hkeep : (outcomeOf config directions packet).cut with
    | none =>
      rw [hkeep] at hcut
      exact hcut
    | some keep =>
      rw [hkeep] at hcut hlength
      exact ⟨hcut.1, hcut.2, hlength⟩

end TlsConstrictor

namespace QuicConstrictor

/-- The table after the long headers of a packet. -/
def learnedFrom (flowStates : FlowStates) (packet : CapturedPacket) : FlowStates :=
  learnChain flowStates (flowOf packet).1 (flowOf packet).2 (chainOf packet).headers

/-- The answer to an applicable packet. -/
def answer (config : QuicOptions) (flowStates : FlowStates) (packet : CapturedPacket) :
    DatagramOutcome :=
  datagramOutcome (((learnedFrom flowStates packet).lookup (flowOf packet).1).map
    (·.expectedDcid (flowOf packet).2)) config packet.payload

/-- A QUIC step returns its answer, with the payload's offset added to a cut. -/
theorem step_answer {config : QuicOptions} {packet : CapturedPacket}
    (h : applicable packet.decoded config = true) (flowStates : FlowStates) :
    step config flowStates packet = (learnedFrom flowStates packet,
      (answer config flowStates packet).result packet.decoded.transportPayloadOffset) :=
  evaluate_of_applicable h (isUdp_of_applicable h).1.transportDecoded.hasBytes_payload flowStates

/-- The answer to an applicable packet, as the policy reads it. -/
theorem step_kept {config : QuicOptions} {packet : CapturedPacket}
    (h : applicable packet.decoded config = true) (flowStates : FlowStates) :
    (step config flowStates packet).2.disposition = (answer config flowStates packet).disposition ∧
      match (answer config flowStates packet).kept with
      | none => (answer config flowStates packet).disposition ≠ .shortHeaderMatched
      | some kept => (answer config flowStates packet).disposition = .shortHeaderMatched ∧
          kept ≤ packet.payload.length ∧
          (step config flowStates packet).2.outputLen.toNat
            = packet.decoded.transportPayloadOffset + kept := by
  have hdecoded := (isUdp_of_applicable h).1.transportDecoded
  have hend := hdecoded.payload_le_length
  have hlength := CapturedPacket.length_payload hdecoded
  have hlt := packet.length_safeData_lt
  have hkept : (answer config flowStates packet).Fits packet.payload.length :=
    fits_datagramOutcome _ config packet.payload
  unfold DatagramOutcome.Fits at hkept
  rw [step_answer h]
  refine ⟨rfl, ?_⟩
  cases hsome : (answer config flowStates packet).kept with
  | none =>
    rw [hsome] at hkept
    exact hkept
  | some kept =>
    rw [hsome] at hkept
    -- offset and kept bytes lie in the packet, so their sum fits into 32 bits
    refine ⟨hkept.1, hkept.2, ?_⟩
    have hle := hkept.2
    simp only [DatagramOutcome.result, hsome, UInt32.toNat_ofNat']
    exact Nat.mod_eq_of_lt (by omega)

end QuicConstrictor

namespace LiveCapturePolicy

/-- The length taken from a base length and a proposed one: a proposal must save at least one byte
and at least the configured minimum. -/
def settle (base minSaved : ℕ) : Option ℕ → ℕ
  | none => base
  | some proposed => if proposed + max 1 minSaved ≤ base then proposed else base

/-- The threshold of the code settles a proposal. -/
theorem toNat_applyMinimumSavingsThreshold (base candidate minSaved : UInt32) :
    (applyMinimumSavingsThreshold base (min base candidate) minSaved).toNat
      = settle base.toNat minSaved.toNat (some candidate.toNat) := by
  have hmin := toNat_min32 base candidate
  unfold settle applyMinimumSavingsThreshold
  dsimp only
  split
  · next hge =>
    rw [ge_iff_le, UInt32.le_iff_toNat_le, hmin] at hge
    rw [if_neg (by omega)]
  next hlt =>
  rw [ge_iff_le, UInt32.le_iff_toNat_le, hmin] at hlt
  have hle : min base candidate ≤ base := UInt32.le_iff_toNat_le.mpr (by omega)
  split
  · next hsaved =>
    rw [UInt32.lt_iff_toNat_lt, UInt32.toNat_sub_of_le _ _ hle] at hsaved
    rw [if_neg (by omega)]
  · next hsaved =>
    rw [UInt32.lt_iff_toNat_lt, UInt32.toNat_sub_of_le _ _ hle] at hsaved
    rw [if_pos (by omega)]
    omega

@[simp] theorem settle_none (base minSaved : ℕ) : settle base minSaved none = base := rfl

/-- A proposal is taken when it saves the minimum, and something. -/
theorem settle_some (base minSaved proposed : ℕ) :
    settle base minSaved (some proposed)
      = if proposed + max 1 minSaved ≤ base then proposed else base := rfl

/-- Settling never exceeds what would be stored without a cut. -/
theorem settle_le (base minSaved : ℕ) (proposed : Option ℕ) :
    settle base minSaved proposed ≤ base := by
  cases proposed with
  | none => exact Nat.le_refl base
  | some proposed =>
    rw [settle_some]
    split <;> omega

/-- The reason given for a TLS answer that cuts nothing. -/
def tlsReason (initial : DecisionReason) : TlsConstrictDisposition → DecisionReason
  | .appDataPrefix => initial
  | .noApplicationData => initial
  | .malformed => .tlsMalformedFallback
  | .uncertainFallback => .tlsMalformedFallback
  | .noRecord => .tlsNoRecordFallback

/-- The reason given for a QUIC answer that cuts nothing. -/
def quicReason (initial : DecisionReason) : QuicConstrictDisposition → DecisionReason
  | .longHeader => .quicLongHeader
  | .shortHeaderMatched => .quicShortHeaderMatched
  | .unknownCidFallback => .quicShortHeaderUnknownCidFallback
  | .dcidMismatchFallback => .quicShortHeaderDcidMismatchFallback
  | .malformedFallback => .quicMalformedFallback
  | .notApplicable => initial

/-- What is proposed for a packet: the payload bytes kept by a cut, and the reasons given when the
cut is taken and when it is not. -/
structure Proposal where
  keep : Option ℕ
  cutReason : DecisionReason
  reason : DecisionReason
deriving DecidableEq, Repr

def proposal (config : PolicyConfig) (state : State) (packet : CapturedPacket) : Proposal :=
  let initial := initialReason config packet
  if tlsGate config packet then
    let answer := TlsConstrictor.answer config.tls state.tlsConstrictor packet
    ⟨answer.2, .tlsApplicationDataConstricted, tlsReason initial answer.1⟩
  else if quicGate config packet then
    let answer := QuicConstrictor.answer config.quic state.quicConstrictor packet
    ⟨answer.kept, .quicShortHeaderConstricted, quicReason initial answer.disposition⟩
  else
    ⟨none, initial, initial⟩

section ProposalOf

variable {config : PolicyConfig} {packet : CapturedPacket}

/-- Behind the TLS gate the proposal is the TLS constrictor's answer. -/
theorem proposal_of_tls (h : tlsGate config packet = true) (state : State) :
    proposal config state packet
      = ⟨(TlsConstrictor.answer config.tls state.tlsConstrictor packet).2,
          .tlsApplicationDataConstricted, tlsReason (initialReason config packet)
            (TlsConstrictor.answer config.tls state.tlsConstrictor packet).1⟩ :=
  if_pos h

/-- Behind the QUIC gate the proposal is the QUIC constrictor's answer. -/
theorem proposal_of_quic (htls : tlsGate config packet = false)
    (h : quicGate config packet = true) (state : State) :
    proposal config state packet
      = ⟨(QuicConstrictor.answer config.quic state.quicConstrictor packet).kept,
          .quicShortHeaderConstricted, quicReason (initialReason config packet)
            (QuicConstrictor.answer config.quic state.quicConstrictor packet).disposition⟩ :=
  (if_neg (by rw [htls]; exact Bool.false_ne_true)).trans (if_pos h)

/-- For any other packet there is no proposal. -/
theorem proposal_of_neither (htls : tlsGate config packet = false)
    (hquic : quicGate config packet = false) (state : State) :
    proposal config state packet
      = ⟨none, initialReason config packet, initialReason config packet⟩ := by
  simp only [proposal, htls, hquic, Bool.false_eq_true, if_false]

end ProposalOf

/-- The output length proposed for a packet. -/
def Proposal.outputLen (p : Proposal) (packet : CapturedPacket) : Option ℕ :=
  p.keep.map (packet.decoded.transportPayloadOffset + ·)

section Settled

variable (config : PolicyConfig) (base : UInt32) (initial : DecisionReason)

/-- `ApplyTls` settles the answer, and its reason tells whether it was taken. -/
theorem applyTls_settled (result : TlsConstrictResult) (keep : Option ℕ)
    (hkeep : match keep with
      | none => result.disposition ≠ .appDataPrefix
      | some keep => result.disposition = .appDataPrefix ∧ result.outputLen.toNat = keep) :
    let length := settle base.toNat config.general.minSavedBytesPerPacket.toNat keep
    (applyTls config base initial result).1.toNat = length ∧
      (applyTls config base initial result).2
        = if length < base.toNat then .tlsApplicationDataConstricted
          else tlsReason initial result.disposition := by
  cases keep with
  | some keep =>
    obtain ⟨hdisposition, rfl⟩ := hkeep
    simp only [applyTls, hdisposition, UInt32.lt_iff_toNat_lt,
      toNat_applyMinimumSavingsThreshold, tlsReason, and_self]
  | none =>
    dsimp only at hkeep
    simp only [settle_none, Nat.lt_irrefl, if_false]
    unfold applyTls
    cases hdisposition : result.disposition with
    | appDataPrefix => exact absurd hdisposition hkeep
    | malformed => exact ⟨rfl, rfl⟩
    | uncertainFallback => exact ⟨rfl, rfl⟩
    | noRecord => exact ⟨rfl, rfl⟩
    | noApplicationData => exact ⟨rfl, rfl⟩

/-- `ApplyQuic` settles the answer, and its reason tells whether it was taken. -/
theorem applyQuic_settled (result : QuicConstrictResult) (keep : Option ℕ)
    (hkeep : match keep with
      | none => result.disposition ≠ .shortHeaderMatched
      | some keep => result.disposition = .shortHeaderMatched ∧ result.outputLen.toNat = keep) :
    let length := settle base.toNat config.general.minSavedBytesPerPacket.toNat keep
    (applyQuic config base initial result).1.toNat = length ∧
      (applyQuic config base initial result).2
        = if length < base.toNat then .quicShortHeaderConstricted
          else quicReason initial result.disposition := by
  cases keep with
  | some keep =>
    obtain ⟨hdisposition, rfl⟩ := hkeep
    simp only [applyQuic, hdisposition, UInt32.lt_iff_toNat_lt,
      toNat_applyMinimumSavingsThreshold, quicReason, and_self]
  | none =>
    dsimp only at hkeep
    simp only [settle_none, Nat.lt_irrefl, if_false]
    unfold applyQuic
    cases hdisposition : result.disposition with
    | shortHeaderMatched => exact absurd hdisposition hkeep
    | longHeader => exact ⟨rfl, rfl⟩
    | unknownCidFallback => exact ⟨rfl, rfl⟩
    | dcidMismatchFallback => exact ⟨rfl, rfl⟩
    | malformedFallback => exact ⟨rfl, rfl⟩
    | notApplicable => exact ⟨rfl, rfl⟩

end Settled

/-- The policy's gate is narrower than the constrictor's own. -/
theorem applicable_of_quicGate {config : PolicyConfig} {packet : CapturedPacket}
    (h : quicGate config packet = true) :
    QuicConstrictor.applicable packet.decoded config.quic = true := by
  have hudp : packet.decoded.transportProtocol = .udp := isUdp_of_quicGate h
  simp only [quicGate, Bool.and_eq_true, beq_iff_eq, decide_eq_true_eq] at h
  have hcandidate := candidate_of_initialReason.2 h.1.2
  have hlength : packet.decoded.transportPayloadLength ≠ 0 := Nat.pos_iff_ne_zero.mp h.2
  unfold candidate at hcandidate
  rw [Bool.and_eq_true] at hcandidate
  simp only [QuicConstrictor.applicable, hcandidate.1, hudp, beq_self_eq_true, Bool.true_and,
    bne_iff_ne.mpr hlength]
  exact hcandidate.2

/-- **How a decision is settled.** The output length and the reason follow from the proposal, the
base length and the position of the payload. -/
theorem evaluate_settled (config : PolicyConfig) (state : State) (packet : CapturedPacket) :
    let d := (evaluate config state packet).2
    let p := proposal config state packet
    let base := (baseOutputLen config packet).toNat
    let length := settle base config.general.minSavedBytesPerPacket.toNat (p.outputLen packet)
    d.outputLen.toNat = length ∧ d.reason = if length < base then p.cutReason else p.reason := by
  intro d p base length
  rcases evaluate_cases config state packet with
    ⟨hgate, heq⟩ | ⟨htls, hgate, heq⟩ | ⟨htls, hquic, heq⟩ <;> simp only [d, heq, decision]
  · -- the TLS constrictor proposes
    have hp : p = _ := proposal_of_tls hgate state
    obtain ⟨hdisposition, hanswer⟩ := TlsConstrictor.step_answer (isTcp_of_tlsGate hgate)
      config.tls state.tlsConstrictor
    have hsettled := applyTls_settled config (baseOutputLen config packet)
      (initialReason config packet)
      (TlsConstrictor.step config.tls state.tlsConstrictor packet).2 (p.outputLen packet) (by
        rw [hp, Proposal.outputLen, hdisposition]
        cases hkeep : (TlsConstrictor.answer config.tls state.tlsConstrictor packet).2 with
        | none =>
          rw [hkeep] at hanswer
          exact hanswer
        | some keep =>
          rw [hkeep] at hanswer
          exact ⟨hanswer.1, hanswer.2.2⟩)
    rw [hdisposition] at hsettled
    refine ⟨hsettled.1, hsettled.2.trans ?_⟩
    simp only [length, hp, base]
  · -- the QUIC constrictor proposes
    have hp : p = _ := proposal_of_quic htls hgate state
    obtain ⟨hdisposition, hanswer⟩ := QuicConstrictor.step_kept (applicable_of_quicGate hgate)
      state.quicConstrictor
    have hsettled := applyQuic_settled config (baseOutputLen config packet)
      (initialReason config packet)
      (QuicConstrictor.step config.quic state.quicConstrictor packet).2 (p.outputLen packet) (by
        rw [hp, Proposal.outputLen, hdisposition]
        cases hkeep : (QuicConstrictor.answer config.quic state.quicConstrictor packet).kept with
        | none =>
          rw [hkeep] at hanswer
          exact hanswer
        | some keep =>
          rw [hkeep] at hanswer
          exact ⟨hanswer.1, hanswer.2.2⟩)
    rw [hdisposition] at hsettled
    refine ⟨hsettled.1, hsettled.2.trans ?_⟩
    simp only [length, hp, base]
  · -- nothing is proposed
    have hp : p = _ := proposal_of_neither htls hquic state
    simp only [length, hp, Proposal.outputLen, Option.map_none, settle_none, ite_self, base,
      and_self]

end LiveCapturePolicy

end PcapConstrictor
