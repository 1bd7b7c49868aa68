import PcapConstrictor.Decode.Frames
import PcapConstrictor.Policy.QuicLearning

/-!
# Short headers match learned connection IDs

With DCID matching in force, a short header is only accepted when its destination connection ID is
the one its receiver sent last as a source connection ID. `short_header_backed` traces it back to
the packet that taught it.
-/

namespace PcapConstrictor.QuicConstrictor

open ByteString

theorem opposite_ne (direction : FlowDirection) : direction.opposite ≠ direction := by
  cases direction <;> exact nofun

/-- `earlier` carries UDP payload in the direction opposite to `packet`'s. -/
def Opposite (packet earlier : CapturedPacket) : Prop :=
  earlier.IsUdp ∧ earlier.payload ≠ [] ∧ earlier.decoded.ipVersion = packet.decoded.ipVersion ∧
    sourceOf earlier.decoded = destinationOf packet.decoded ∧
    destinationOf earlier.decoded = sourceOf packet.decoded

instance (packet earlier : CapturedPacket) : Decidable (Opposite packet earlier) :=
  inferInstanceAs (Decidable (_ ∧ _))

/-- A short header is accepted only when it matches a known connection ID. -/
def Strict (config : QuicOptions) : Prop :=
  config.requireDcidMatch = true ∨ config.allowShortHeaderWithoutKnownDcid = false

/-- The gate of `Evaluate` looks at both ports, so it treats the two directions alike. -/
theorem applicable_of_opposite {config : QuicOptions} {packet earlier : CapturedPacket}
    (happ : applicable packet.decoded config = true) (h : Opposite packet earlier) :
    applicable earlier.decoded config = true := by
  obtain ⟨hudp, hpayload, -, hsource, hdestination⟩ := h
  have hlength : earlier.decoded.transportPayloadLength ≠ 0 := by
    rw [← CapturedPacket.length_payload hudp.transportDecoded]
    exact fun hzero => hpayload (List.eq_nil_of_length_eq_zero hzero)
  have hsrc : earlier.decoded.srcPort = packet.decoded.dstPort :=
    congrArg Endpoint.port hsource
  have hdst : earlier.decoded.dstPort = packet.decoded.srcPort :=
    congrArg Endpoint.port hdestination
  have hproto : earlier.decoded.transportProtocol = .udp := hudp
  simp only [applicable, Bool.and_eq_true, beq_iff_eq, bne_iff_ne, Bool.or_eq_true] at happ ⊢
  exact ⟨⟨⟨happ.1.1.1, hproto⟩, hlength⟩, by rw [hsrc, hdst]; exact happ.2.symm⟩

/-- The opposite packets of a flow have its key and the opposite direction. -/
theorem flowOf_of_opposite {packet earlier : CapturedPacket} (hudp : packet.IsUdp)
    (hne : sourceOf packet.decoded ≠ destinationOf packet.decoded) (h : Opposite packet earlier) :
    flowOf earlier = ((flowOf packet).1, (flowOf packet).2.opposite) := by
  obtain ⟨-, -, hversion, hsource, hdestination⟩ := h
  have hswap := orderedKey_swap packet.decoded.ipVersion
    (padded_source hudp.transportDecoded) (padded_destination hudp.transportDecoded)
  rw [flowOf, makeCanonicalFlow_eq, hversion, hsource, hdestination]
  exact Prod.ext hswap.1 (hswap.2 hne)

/-- A packet with the key of a flow and the opposite direction is an opposite one. -/
theorem opposite_of_flowOf {packet earlier : CapturedPacket} (hudp' : earlier.IsUdp)
    (hpayload : earlier.payload ≠ [])
    (h : flowOf earlier = ((flowOf packet).1, (flowOf packet).2.opposite)) :
    Opposite packet earlier ∧ sourceOf packet.decoded ≠ destinationOf packet.decoded := by
  have hkey : (flowOf earlier).1 = (flowOf packet).1 := by rw [h]
  obtain ⟨hversion, hends⟩ := (flowKey_eq_iff hudp'.transportDecoded).mp hkey
  -- with the same source and destination the direction would be the same
  have hsame : ¬ (sourceOf earlier.decoded = sourceOf packet.decoded ∧
      destinationOf earlier.decoded = destinationOf packet.decoded) := by
    rintro ⟨hs, hd⟩
    refine (opposite_ne (flowOf packet).2).symm ?_
    have hflow : flowOf earlier = flowOf packet := by
      rw [flowOf, flowOf, makeCanonicalFlow_eq, makeCanonicalFlow_eq, hversion, hs, hd]
    exact congrArg Prod.snd (hflow.symm.trans h)
  rcases Sym2.eq_iff.mp hends with hs | hs
  · exact absurd hs hsame
  · refine ⟨⟨hudp', hpayload, hversion, hs⟩, fun heq => hsame ?_⟩
    rw [hs.1, hs.2, heq]
    exact ⟨rfl, rfl⟩

/-- A short header that matches in strict mode matches a known slot. -/
theorem evaluateShortHeader_matched {found : Option FlowState} {direction : FlowDirection}
    {decoded : PacketDecodeResult} {config : QuicOptions} {payload : Bytes} {offset : ℕ}
    (hstrict : Strict config)
    (h : (evaluateShortHeader found direction decoded config payload offset).disposition
      = .shortHeaderMatched) :
    ∃ state, found = some state ∧ (state.expectedDcid direction).known = true ∧
      offset + (1 + (state.expectedDcid direction).length.toNat) ≤ payload.length ∧
      (state.expectedDcid direction).value
        = subspan payload (offset + 1) (state.expectedDcid direction).length.toNat ∧
      evaluateShortHeader found direction decoded config payload offset
        = shortHeaderMatched decoded config payload offset
            (1 + (state.expectedDcid direction).length.toNat) := by
  unfold evaluateShortHeader at h ⊢
  cases hslot : (found.map (·.expectedDcid direction)).filter (·.known) with
  | none =>
    rw [hslot] at h
    dsimp only at h
    -- in strict mode nothing is matched without a known connection ID
    rw [if_pos (by rcases hstrict with h' | h' <;> simp [h'])] at h
    cases h
  | some expected =>
    rw [Option.filter_eq_some_iff, Option.map_eq_some_iff] at hslot
    obtain ⟨⟨state, hfound, rfl⟩, hknown⟩ := hslot
    simp only [hfound, Option.map_some, Option.filter_some, hknown, if_true] at h ⊢
    split at h
    · cases h
    next hbytes =>
    split at h
    · cases h
    next hmatch =>
    have hle := hasBytes_iff.mp (not_not.mp hbytes)
    simp only [connectionIdMatches, hknown, Bool.true_and, Bool.not_eq_true', Bool.not_eq_false,
      beq_iff_eq] at hmatch
    refine ⟨state, rfl, hknown, hle, hmatch, ?_⟩
    rw [if_neg hbytes, if_neg (by simp [connectionIdMatches, hknown, hmatch])]

/-- The bytes kept of a matching packet: at least up to `minimum` bytes of the short header, at most
the payload. -/
theorem shortHeaderMatched_bounds {packet : CapturedPacket} (hudp : packet.IsUdp)
    (config : QuicOptions) {offset minimum : ℕ}
    (hle : offset + minimum ≤ packet.payload.length) :
    let result := shortHeaderMatched packet.decoded config packet.payload offset minimum
    packet.decoded.transportPayloadOffset + offset + minimum ≤ result.outputLen.toNat ∧
      result.outputLen.toNat
        ≤ packet.decoded.transportPayloadOffset + packet.payload.length := by
  have hend := hudp.transportDecoded.payload_le_length
  have hlength := CapturedPacket.length_payload hudp.transportDecoded
  have hlt := packet.length_safeData_lt
  dsimp only [shortHeaderMatched]
  rw [UInt32.toNat_ofNat', Nat.mod_eq_of_lt (by omega)]
  omega

/-- The output length `outputLen` for a short header in `packet` is backed by the inputs before it.
An earlier packet of the opposite direction carried, in its chain of long headers, a source
connection ID `scid` that no later packet of that direction replaced; the short header carries
`scid` behind its first byte; and what is kept covers the coalesced long headers, the first byte and
`scid`, and ends inside the payload. -/
def BackedBy (inputs : List CapturedPacket) (packet : CapturedPacket) (outputLen : UInt32) :
    Prop :=
  ∃ before earlier after scid, inputs = before ++ earlier :: after ∧
    Opposite packet earlier ∧ taughtScid earlier = some scid ∧
    (∀ later ∈ after, Opposite packet later → taughtScid later = none) ∧
    0 < scid.length.toNat ∧ scid.length.toNat ≤ kMaxConnectionIdLength ∧
    scid.value = subspan packet.payload (coalescedBytes packet + 1) scid.length.toNat ∧
    packet.decoded.transportPayloadOffset + coalescedBytes packet + (1 + scid.length.toNat)
      ≤ outputLen.toNat ∧
    outputLen.toNat ≤ packet.decoded.transportPayloadOffset + packet.payload.length

/-- **Matching is backed by learning.** In strict mode, a short header is only accepted on the
ground of a connection ID that its receiver sent last. -/
theorem short_header_backed {config : QuicOptions} (hstrict : Strict config)
    (inputs : List CapturedPacket) (packet : CapturedPacket)
    (hmatched : (step config (Transducer.after (step config) ∅ inputs) packet).2.disposition
      = .shortHeaderMatched) :
    BackedBy inputs packet
      (step config (Transducer.after (step config) ∅ inputs) packet).2.outputLen := by
  cases happ : applicable packet.decoded config with
  | false =>
    rw [step_of_not_applicable happ] at hmatched
    cases hmatched
  | true =>
    obtain ⟨hudp, -⟩ := isUdp_of_applicable happ
    rw [step_of_applicable happ] at hmatched ⊢
    unfold BackedBy
    dsimp only at hmatched ⊢
    generalize hstates : Transducer.after (step config) ∅ inputs = flowStates at hmatched ⊢
    split at hmatched
    · next hvalid =>
      rw [if_pos hvalid]
      unfold evaluateRest at hmatched ⊢
      dsimp only at hmatched ⊢
      rw [stop_chainOf] at hmatched ⊢
      split at hmatched
      · split at hmatched <;> cases hmatched
      next hend =>
      split at hmatched
      · split at hmatched <;> cases hmatched
      next hcompatible =>
      rw [if_neg hend, if_neg hcompatible]
      obtain ⟨state, hfound, hknown, hle, hvalue, hresult⟩ :=
        evaluateShortHeader_matched hstrict hmatched
      rw [hresult]
      -- the slot of the receiver is the one taught last by the opposite direction
      have hslot : state.expectedDcid (flowOf packet).2
          = (latestScid config ((flowOf packet).1, (flowOf packet).2.opposite) inputs).getD
              default := by
        have hvalue : (learnChain flowStates (flowOf packet).1 (flowOf packet).2
            (chainOf packet).headers).value (flowOf packet).1 = state := by
          rw [Table.value, hfound, Option.getD_some]
        rw [expectedDcid_eq, ← hvalue, value_learnChain, if_pos rfl, scidOf_learnAll,
          if_neg (opposite_ne _), ← hstates]
        exact learned_run config inputs (flowOf packet).1 (flowOf packet).2.opposite
      -- a known slot cannot be the default, so some earlier packet has taught it
      cases hlatest : latestScid config ((flowOf packet).1, (flowOf packet).2.opposite) inputs with
      | none =>
        rw [hslot, hlatest] at hknown
        cases hknown
      | some scid =>
        rw [hslot, hlatest, Option.getD_some] at hle hvalue ⊢
        obtain ⟨before, earlier, after, rfl, hteaches, hafter⟩ :=
          exists_of_getLast?_filterMap hlatest
        unfold teaches at hteaches hafter
        rw [Option.ite_none_right_eq_some] at hteaches
        obtain ⟨⟨happ', hflow⟩, htaught⟩ := hteaches
        obtain ⟨hudp', hpayload'⟩ := isUdp_of_applicable happ'
        obtain ⟨hopposite, hne⟩ := opposite_of_flowOf hudp' hpayload' hflow
        refine ⟨before, earlier, after, scid, rfl, hopposite, htaught, ?_,
          (taughtScid_nonEmpty htaught).2, scid.length_le, hvalue,
          shortHeaderMatched_bounds hudp config hle⟩
        intro later hlater hopposite'
        have hnone := hafter later hlater
        rwa [if_pos ⟨applicable_of_opposite happ hopposite',
          flowOf_of_opposite hudp hne hopposite'⟩] at hnone
    · cases hmatched

/-- A Handshake packet of the server with the source connection ID `1 2 3 4`. -/
def serverHandshake : CapturedPacket :=
  .ofFrame (exampleEnds.udpFrame [0xE0, 0, 0, 0, 1, 0, 4, 1, 2, 3, 4, 1, 0xAA])

/-- A short header of the client with that connection ID. -/
def clientShort : CapturedPacket :=
  .ofFrame (exampleEnds.reverse.udpFrame [0x40, 1, 2, 3, 4, 5, 6, 7])

/-- The client's short header is backed by the server's handshake. -/
theorem short_header_backed_handshake :
    BackedBy [serverHandshake] clientShort
      (step {} (Transducer.after (step {}) ∅ [serverHandshake]) clientShort).2.outputLen :=
  short_header_backed (Or.inl rfl) [serverHandshake] clientShort (by decide +kernel)

end PcapConstrictor.QuicConstrictor
