import PcapConstrictor.Policy.QuicMatching
import PcapConstrictor.Policy.Settlement

/-!
# What a QUIC decision remembers

Of everything captured before, the decision for a datagram depends on one thing: the connection ID
that its receiver has sent last. `quic_by_last_scid` says what the decision is, given that.
-/

namespace PcapConstrictor

open ByteString

namespace QuicConstrictor

/-- The connection ID that the receiver of `packet` has sent last. A datagram that an end point
sends to itself has no opposite ones. -/
def expectedScid (packet : CapturedPacket) (inputs : List CapturedPacket) : Option ConnectionId :=
  if sourceOf packet.decoded = destinationOf packet.decoded then none
  else
    (inputs.filterMap fun earlier =>
      if Opposite packet earlier then taughtScid earlier else none).getLast?

/-- The packets that teach the slot of the receiver are those of the opposite direction. -/
theorem teaches_opposite {config : QuicOptions} {packet : CapturedPacket}
    (h : applicable packet.decoded config = true)
    (hne : sourceOf packet.decoded ≠ destinationOf packet.decoded) (earlier : CapturedPacket) :
    teaches config ((flowOf packet).1, (flowOf packet).2.opposite) earlier
      = if Opposite packet earlier then taughtScid earlier else none := by
  have hudp := (isUdp_of_applicable h).1
  unfold teaches
  by_cases hopposite : Opposite packet earlier
  · rw [if_pos hopposite,
      if_pos ⟨applicable_of_opposite h hopposite, flowOf_of_opposite hudp hne hopposite⟩]
  · rw [if_neg hopposite, if_neg]
    rintro ⟨happ, hflow⟩
    obtain ⟨hudp', hpayload⟩ := isUdp_of_applicable happ
    exact hopposite (opposite_of_flowOf hudp' hpayload hflow).1

/-- What is expected of a packet is the latest connection ID of its receiver. -/
theorem latestScid_opposite {config : QuicOptions} {packet : CapturedPacket}
    (h : applicable packet.decoded config = true) (inputs : List CapturedPacket) :
    latestScid config ((flowOf packet).1, (flowOf packet).2.opposite) inputs
      = expectedScid packet inputs := by
  unfold latestScid expectedScid
  by_cases hself : sourceOf packet.decoded = destinationOf packet.decoded
  · rw [if_pos hself]
    have hnone : inputs.filterMap
        (teaches config ((flowOf packet).1, (flowOf packet).2.opposite)) = [] := by
      refine List.filterMap_eq_nil_iff.mpr fun earlier _ => ?_
      rw [teaches, if_neg]
      rintro ⟨happ, hflow⟩
      obtain ⟨hudp', hpayload⟩ := isUdp_of_applicable happ
      exact (opposite_of_flowOf hudp' hpayload hflow).2 hself
    rw [hnone]
    rfl
  · rw [if_neg hself]
    exact congrArg List.getLast?
      (List.filterMap_congr fun earlier _ => teaches_opposite h hself earlier)

/-- Only a known connection ID matters. -/
theorem datagramOutcome_congr {expected expected' : Option ConnectionId}
    (h : expected.filter (·.known) = expected'.filter (·.known)) (config : QuicOptions)
    (payload : Bytes) :
    datagramOutcome expected config payload = datagramOutcome expected' config payload := by
  simp only [datagramOutcome, shortHeaderOutcome, h]

/-- The slot of the receiver, as the answer to a datagram reads it. -/
theorem filter_expectedDcid {config : QuicOptions} {packet : CapturedPacket}
    (h : applicable packet.decoded config = true) (inputs : List CapturedPacket) :
    (((learnedFrom (Transducer.after (step config) ∅ inputs) packet).lookup (flowOf packet).1).map
        (·.expectedDcid (flowOf packet).2)).filter (·.known)
      = (expectedScid packet inputs).filter (·.known) := by
  have hslot := learned_run config inputs (flowOf packet).1 (flowOf packet).2.opposite
  generalize Transducer.after (step config) ∅ inputs = flowStates at hslot ⊢
  rw [latestScid_opposite h] at hslot
  -- the long headers of the packet itself teach the other slot
  have hvalue : ((learnedFrom flowStates packet).value (flowOf packet).1).expectedDcid
      (flowOf packet).2 = (expectedScid packet inputs).getD default := by
    rw [expectedDcid_eq, learnedFrom, value_learnChain, if_pos rfl, scidOf_learnAll,
      if_neg (opposite_ne _), hslot]
  have hunknown : ∀ direction, ((default : FlowState).expectedDcid direction) = default := by
    intro direction
    cases direction <;> rfl
  rw [Table.value] at hvalue
  cases hlookup : (learnedFrom flowStates packet).lookup (flowOf packet).1 with
  | none =>
    rw [hlookup, Option.getD_none, hunknown] at hvalue
    cases hscid : expectedScid packet inputs with
    | none => rfl
    | some scid =>
      rw [hscid, Option.getD_some] at hvalue
      rw [← hvalue]
      rfl
  | some state =>
    rw [hlookup, Option.getD_some] at hvalue
    cases hscid : expectedScid packet inputs with
    | none =>
      rw [hscid, Option.getD_none] at hvalue
      rw [Option.map_some, hvalue]
      rfl
    | some scid =>
      rw [hscid, Option.getD_some] at hvalue
      rw [Option.map_some, hvalue]

/-- **The answer to a datagram** is that to its payload, with the connection ID that its receiver
has sent last. -/
theorem answer_run {config : QuicOptions} {packet : CapturedPacket}
    (h : applicable packet.decoded config = true) (inputs : List CapturedPacket) :
    answer config (Transducer.after (step config) ∅ inputs) packet
      = datagramOutcome (expectedScid packet inputs) config packet.payload :=
  datagramOutcome_congr (filter_expectedDcid h inputs) config packet.payload

/-! ## The table -/

/-- The flow of a datagram that starts with a long header. -/
def openedFlow (config : QuicOptions) (packet : CapturedPacket) : Option FlowKey :=
  if applicable packet.decoded config = true ∧ (chainOf packet).headers ≠ [] then
    some (flowOf packet).1
  else none

/-- A packet stores its flow, if it starts with a long header, and no other one. -/
theorem mem_step (config : QuicOptions) (flowStates : FlowStates) (packet : CapturedPacket)
    (flowKey : FlowKey) :
    flowKey ∈ (step config flowStates packet).1
      ↔ flowKey ∈ flowStates ∨ openedFlow config packet = some flowKey := by
  unfold openedFlow
  cases happ : applicable packet.decoded config with
  | false => simp [step_of_not_applicable happ]
  | true =>
    simp only [step_of_applicable happ, ← Finmap.lookup_isSome, lookup_learnChain, true_and]
    by_cases hheaders : (chainOf packet).headers = []
    · simp [hheaders]
    · by_cases hkey : flowKey = (flowOf packet).1
      · simp [hkey, hheaders]
      · simp [hkey, hheaders, Ne.symm hkey]

/-- The stored flows are those with a datagram that starts with a long header. -/
theorem mem_run (config : QuicOptions) (inputs : List CapturedPacket) (flowKey : FlowKey) :
    flowKey ∈ Transducer.after (step config) ∅ inputs
      ↔ flowKey ∈ inputs.filterMap (openedFlow config) := by
  refine Transducer.invariant (step config) (fun read flowStates =>
    flowKey ∈ flowStates ↔ flowKey ∈ read.filterMap (openedFlow config)) ?_ ?_ inputs
  · exact iff_of_false Finmap.notMem_empty List.not_mem_nil
  · intro read flowStates packet hinv
    rw [mem_step, hinv, List.filterMap_append, List.mem_append, List.mem_filterMap (l := [packet])]
    simp

/-- What a run should have stored: for each flow that was opened, the connection ID that each of its
ends has sent last. -/
def historyOf (config : QuicOptions) (inputs : List CapturedPacket) (flowKey : FlowKey) :
    Option FlowState :=
  if flowKey ∈ inputs.filterMap (openedFlow config) then
    some
      { endpointAScid := (latestScid config (flowKey, .aToB) inputs).getD default
        endpointBScid := (latestScid config (flowKey, .bToA) inputs).getD default }
  else none

/-- **The table is the history** of the run. -/
theorem lookup_run (config : QuicOptions) (inputs : List CapturedPacket) (flowKey : FlowKey) :
    (Transducer.after (step config) ∅ inputs).lookup flowKey
      = historyOf config inputs flowKey := by
  have hmem := mem_run config inputs flowKey
  have hslots := learned_run config inputs flowKey
  unfold historyOf
  cases hlookup : (Transducer.after (step config) ∅ inputs).lookup flowKey with
  | none => rw [if_neg (mt hmem.mpr (Finmap.lookup_eq_none.mp hlookup))]
  | some state =>
    have hopened := hmem.mp (Finmap.mem_of_lookup_eq_some hlookup)
    rw [Table.value, hlookup, Option.getD_some] at hslots
    rw [if_pos hopened]
    exact congrArg some ((FlowState.mk.injEq ..).mpr ⟨hslots .aToB, hslots .bToA⟩)

end QuicConstrictor

namespace LiveCapturePolicy

open QuicConstrictor

/-- **What a QUIC decision depends on.** In every run of a fresh policy, the decision for a datagram
that passes the gate is a function of the datagram, the configuration and the connection ID that its
receiver has sent last. -/
theorem quic_by_last_scid (config : PolicyConfig) (inputs : List CapturedPacket)
    (packet : CapturedPacket) (hgate : quicGate config packet = true) :
    let d := (evaluate config (Transducer.after (evaluate config) {} inputs) packet).2
    let o := datagramOutcome (expectedScid packet (inputs.filter (quicGate config))) config.quic
      packet.payload
    let base := (baseOutputLen config packet).toNat
    let length := settle base config.general.minSavedBytesPerPacket.toNat
      (o.kept.map (packet.decoded.transportPayloadOffset + ·))
    d.outputLen.toNat = length ∧
      d.reason = if length < base then .quicShortHeaderConstricted
        else quicReason (initialReason config packet) o.disposition := by
  intro d o base length
  have hanswer := answer_run (applicable_of_quicGate hgate) (inputs.filter (quicGate config))
  have hquic := quic_run config {} inputs
  have hproposal := proposal_of_quic (tlsGate_of_quicGate hgate) hgate
    (Transducer.after (evaluate config) {} inputs)
  have hsettled := evaluate_settled config (Transducer.after (evaluate config) {} inputs) packet
  rw [hquic, hanswer] at hproposal
  rw [hproposal] at hsettled
  exact hsettled

/-- **What is remembered of QUIC traffic.** After every run of a fresh policy, its QUIC table holds
the flows with a datagram that passed the gate and starts with a long header, each with the
connection IDs that its ends have sent last, and nothing else. -/
theorem quic_table_exact (config : PolicyConfig) (inputs : List CapturedPacket)
    (flowKey : FlowKey) :
    (Transducer.after (evaluate config) {} inputs).quicConstrictor.lookup flowKey
      = historyOf config.quic (inputs.filter (quicGate config)) flowKey := by
  rw [quic_run]
  exact lookup_run config.quic _ flowKey

/-- A configuration that keeps no more of a short header than it has to. -/
def tightQuic : PolicyConfig where
  general := { minSavedBytesPerPacket := 0 }
  quic := { shortHeaderKeepPacketBytes := 0 }

/-- The client's short header is cut by the server's connection ID. -/
theorem quic_by_last_scid_handshake :
    (evaluate tightQuic (Transducer.after (evaluate tightQuic) {} [serverHandshake])
      clientShort).2.outputLen.toNat = 42 + 1 + 4 :=
  (quic_by_last_scid tightQuic [serverHandshake] clientShort (by decide +kernel)).1.trans
    (by decide +kernel)

end LiveCapturePolicy

end PcapConstrictor
