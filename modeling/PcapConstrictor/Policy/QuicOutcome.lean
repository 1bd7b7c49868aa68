import PcapConstrictor.Policy.QuicLearning

/-!
# What a QUIC datagram comes to

The answer of the QUIC constrictor to a datagram is a function of its payload and of the connection
ID expected from it, `datagramOutcome`. Where the payload stands in the packet only shifts the
output length. Everything that compares two runs of the constrictor goes through this function.
-/

namespace PcapConstrictor.QuicConstrictor

open ByteString

/-- The answer to a datagram, relative to the start of its payload. -/
structure DatagramOutcome where
  disposition : QuicConstrictDisposition
  /-- The payload bytes kept, when a short header is accepted. -/
  kept : Option ℕ
deriving DecidableEq, Repr

/-- The answer for a packet whose payload starts at `payloadOffset`. -/
def DatagramOutcome.result (o : DatagramOutcome) (payloadOffset : ℕ) : QuicConstrictResult where
  disposition := o.disposition
  outputLen :=
    match o.kept with
    | none => 0
    | some kept => UInt32.ofNat (payloadOffset + kept)

/-- A short header at `offset` of which at least `minimum` bytes are kept. -/
def matchedOutcome (config : QuicOptions) (payload : Bytes) (offset minimum : ℕ) :
    DatagramOutcome where
  disposition := .shortHeaderMatched
  kept := some (offset +
    min (payload.length - offset) (max config.shortHeaderKeepPacketBytes.toNat minimum))

/-- A short header at `offset`, judged against the expected connection ID. -/
def shortHeaderOutcome (expected : Option ConnectionId) (config : QuicOptions) (payload : Bytes)
    (offset : ℕ) : DatagramOutcome :=
  match expected.filter (·.known) with
  | none =>
    if config.requireDcidMatch || !config.allowShortHeaderWithoutKnownDcid then
      ⟨.unknownCidFallback, none⟩
    else
      matchedOutcome config payload offset 1
  | some dcid =>
    if ¬ HasBytes payload offset (1 + dcid.length.toNat) then
      ⟨.malformedFallback, none⟩
    else if !connectionIdMatches dcid payload (offset + 1) then
      ⟨.dcidMismatchFallback, none⟩
    else
      matchedOutcome config payload offset (1 + dcid.length.toNat)

/-- The answer to a datagram with the given payload. -/
def datagramOutcome (expected : Option ConnectionId) (config : QuicOptions) (payload : Bytes) :
    DatagramOutcome :=
  let chain := longHeaders payload 0
  if !chain.valid then
    ⟨.malformedFallback, none⟩
  else if chain.stop = payload.length then
    ⟨if chain.headers.isEmpty then .notApplicable else .longHeader, none⟩
  else if !isShortHeaderCompatible (byteAt payload chain.stop) then
    ⟨if chain.headers.isEmpty then .notApplicable else .malformedFallback, none⟩
  else
    shortHeaderOutcome expected config payload chain.stop

/-- A short header is judged by the connection ID that is expected, and nothing else of the flow. -/
theorem evaluateShortHeader_eq (found : Option FlowState) (direction : FlowDirection)
    (decoded : PacketDecodeResult) (config : QuicOptions) (payload : Bytes) (offset : ℕ) :
    evaluateShortHeader found direction decoded config payload offset
      = (shortHeaderOutcome (found.map (·.expectedDcid direction)) config payload offset).result
          decoded.transportPayloadOffset := by
  have hmatched : ∀ minimum, shortHeaderMatched decoded config payload offset minimum
      = (matchedOutcome config payload offset minimum).result decoded.transportPayloadOffset := by
    intro minimum
    rw [shortHeaderMatched, Nat.add_assoc]
    rfl
  unfold evaluateShortHeader shortHeaderOutcome
  cases (found.map (·.expectedDcid direction)).filter (·.known) with
  | none =>
    dsimp only
    split
    · rfl
    · exact hmatched 1
  | some dcid =>
    dsimp only
    split
    · rfl
    split
    · rfl
    · exact hmatched _

/-- **What `Evaluate` does with an applicable datagram**: its long headers are learned, and the
answer is the outcome of its payload. -/
theorem evaluate_of_applicable {packet : Bytes} {decoded : PacketDecodeResult}
    {config : QuicOptions} (h : applicable decoded config = true)
    (hbytes : HasBytes packet decoded.transportPayloadOffset decoded.transportPayloadLength)
    (flowStates : FlowStates) :
    let payload := subspan packet decoded.transportPayloadOffset decoded.transportPayloadLength
    let flow := makeCanonicalFlow decoded
    let learned := learnChain flowStates flow.1 flow.2 (longHeaders payload 0).headers
    evaluate flowStates packet decoded config
      = (learned,
          (datagramOutcome ((learned.lookup flow.1).map (·.expectedDcid flow.2)) config
            payload).result decoded.transportPayloadOffset) := by
  intro payload flow learned
  refine (evaluate_walk h hbytes flowStates).trans (Prod.ext rfl ?_)
  unfold datagramOutcome
  dsimp only
  cases (longHeaders payload 0).valid with
  | false => rfl
  | true =>
    simp only [if_true, Bool.not_true, Bool.false_eq_true, if_false, evaluateRest]
    split
    · cases (longHeaders payload 0).headers.isEmpty <;> rfl
    split
    · cases (longHeaders payload 0).headers.isEmpty <;> rfl
    · exact evaluateShortHeader_eq _ _ _ _ _ _

/-- A payload of `n` bytes is cut exactly when its short header is accepted, and the cut falls
inside the payload. -/
def DatagramOutcome.Fits (o : DatagramOutcome) (n : ℕ) : Prop :=
  match o.kept with
  | none => o.disposition ≠ .shortHeaderMatched
  | some kept => o.disposition = .shortHeaderMatched ∧ kept ≤ n

/-- A matched short header is cut within the payload. -/
theorem fits_matchedOutcome (config : QuicOptions) {payload : Bytes} {offset : ℕ}
    (hle : offset ≤ payload.length) (minimum : ℕ) :
    (matchedOutcome config payload offset minimum).Fits payload.length := by
  refine ⟨rfl, ?_⟩
  omega

/-- An outcome without a match cuts nothing. -/
theorem fits_of_not_matched {disposition : QuicConstrictDisposition}
    (h : disposition ≠ .shortHeaderMatched) (n : ℕ) :
    DatagramOutcome.Fits ⟨disposition, none⟩ n := h

theorem fits_shortHeaderOutcome (expected : Option ConnectionId) (config : QuicOptions)
    {payload : Bytes} {offset : ℕ} (hle : offset ≤ payload.length) :
    (shortHeaderOutcome expected config payload offset).Fits payload.length := by
  unfold shortHeaderOutcome
  cases expected.filter (·.known) with
  | none =>
    dsimp only
    split
    · exact fits_of_not_matched (by decide) _
    · exact fits_matchedOutcome config hle 1
  | some dcid =>
    dsimp only
    split
    · exact fits_of_not_matched (by decide) _
    split
    · exact fits_of_not_matched (by decide) _
    · exact fits_matchedOutcome config hle _

/-- A datagram is cut within the payload. -/
theorem fits_datagramOutcome (expected : Option ConnectionId) (config : QuicOptions)
    (payload : Bytes) : (datagramOutcome expected config payload).Fits payload.length := by
  unfold datagramOutcome
  dsimp only
  split
  · exact fits_of_not_matched (by decide) _
  split
  · refine fits_of_not_matched ?_ _
    split <;> decide
  split
  · refine fits_of_not_matched ?_ _
    split <;> decide
  · exact fits_shortHeaderOutcome expected config (longHeaders_stop_le (Nat.zero_le _))

end PcapConstrictor.QuicConstrictor
