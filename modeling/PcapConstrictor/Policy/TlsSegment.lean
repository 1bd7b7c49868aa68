import PcapConstrictor.Policy.TlsFraming
import PcapConstrictor.Decode.Transport

/-!
# The transition of one direction

`segment` is what a payload does to the state of its own direction, as a function of that state
alone. `evaluatePayload_spec` shows that `Evaluate` performs this transition on the table: it stores
the outcome at the packet's key, may confirm the entry of the reverse key, and leaves every other
entry alone. All later results about the TLS constrictor go through this equation and never unfold
`evaluatePayload`.
-/

namespace PcapConstrictor.TlsConstrictor

open ByteString

/-- What a payload does to its direction. -/
structure SegmentOutcome where
  /-- The entry of the direction afterwards; `none` when it is erased. -/
  own : Option DirectionState
  /-- A Handshake record was framed, which confirms the reverse direction as well. -/
  confirmsReverse : Bool
  disposition : TlsConstrictDisposition
  /-- The payload bytes kept, when the packet is cut. -/
  cut : Option ℕ
deriving DecidableEq, Repr

/-- The answer for the packet: the cut counts from the start of the payload. -/
def SegmentOutcome.result (o : SegmentOutcome) (packet : Bytes) (payloadOffset : ℕ) :
    TlsConstrictResult where
  disposition := o.disposition
  outputLen :=
    match o.cut with
    | none => UInt32.ofNat packet.length
    | some keep => UInt32.ofNat (payloadOffset + keep)

/-- The record state of a confirmed direction that has lost its framing; an unconfirmed one is
forgotten. -/
def DirectionState.forgetFraming (state : DirectionState) : Option DirectionState :=
  if state.confirmedTls then
    some { confirmedTls := true, hasSeenApplicationData := state.hasSeenApplicationData }
  else none

/-- The payload continues past the end of an active Application Data record. -/
def segmentReset (state : DirectionState) : SegmentOutcome where
  own := state.forgetFraming
  confirmsReverse := false
  disposition := .noApplicationData
  cut := none

/-- The payload shows no acceptable record to an unsynchronized direction. -/
def segmentRefused (confirmedTls : Bool) (state : DirectionState) : SegmentOutcome where
  own := if confirmedTls then some state else none
  confirmsReverse := false
  disposition := .noRecord
  cut := none

/-- The payload bytes kept by the candidate cut after framing `f`. -/
def Continuation.candidate (c : Continuation) (config : TlsOptions) (f : Framing) (n : ℕ) : ℕ :=
  (f.lastAppData.map (keepInRecord config n)).getD c.candidatePayloadSize

/-- The payload of `n` bytes was framed as `f`. -/
def segmentFramed (config : TlsOptions) (n : ℕ) (tcpSeq : UInt32) (c : Continuation)
    (f : Framing) : SegmentOutcome :=
  let state := { c.state.afterFraming f n with expectedTcpSeq := advanceTcpSeq tcpSeq n }
  let keep := c.candidate config f n
  let cuts := f.valid && !c.keptMiddleContinuation && state.synchronized &&
    (c.hasCandidate || f.lastAppData.isSome) && keep < n
  { own := some state
    confirmsReverse := f.hasHandshake
    disposition :=
      if !f.valid then .malformed
      else if c.keptMiddleContinuation then .noApplicationData
      else if cuts then .appDataPrefix
      else if state.synchronized then .noApplicationData
      else .noRecord
    cut := if cuts then some keep else none }

/-- The transition of a direction in `state` at a payload with sequence number `tcpSeq`. -/
def segment (config : TlsOptions) (payload : Bytes) (tcpSeq : UInt32) (state : DirectionState) :
    SegmentOutcome :=
  let c := continueActiveRecord config payload (state.dropOnGap tcpSeq)
  let f := framing payload c.payloadOffset
  if c.resetDirection then segmentReset c.state
  else if f.refused c.state.synchronized state.confirmedTls then
    segmentRefused state.confirmedTls c.state
  else segmentFramed config payload.length tcpSeq c f

/-! ## `Evaluate` performs the transition -/

/-- The payload of a packet as the constrictor reads it. -/
def payloadOf (packet : Bytes) (decoded : PacketDecodeResult) : Bytes :=
  subspan packet decoded.transportPayloadOffset decoded.transportPayloadLength

/-- The entries after a transition at `key`. -/
def storeOutcome (directions : Directions) (key reverseKey : DirectionKey) (o : SegmentOutcome)
    (key' : DirectionKey) : Option DirectionState :=
  if key' = key then o.own
  else if key' = reverseKey ∧ o.confirmsReverse = true then
    some { directions.value key' with confirmedTls := true }
  else directions.lookup key'

/-- The locals of the framing loop on entry. -/
def Continuation.locals (c : Continuation) (directions : Directions) : FramingLocals where
  directions := directions
  state := c.state
  payloadOffset := c.payloadOffset
  candidatePayloadSize := c.candidatePayloadSize
  hasCandidate := c.hasCandidate
  uncertain := false

/-- Confirming makes an entry, and leaves the others. -/
theorem lookup_confirm (directions : Directions) (key key' : DirectionKey) :
    (confirm directions key).lookup key'
      = if key' = key then some { directions.value key' with confirmedTls := true }
        else directions.lookup key' := by
  rw [confirm, Table.lookup_insert]
  split
  · next h => rw [h]
  · rfl

/-- What `finish` stores and answers after a reset. -/
theorem finish_reset {c : Continuation} (h : c.resetDirection = true) (directions : Directions)
    (key reverseKey : DirectionKey) (packet : Bytes) (decoded : PacketDecodeResult)
    (key' : DirectionKey) :
    let out := finish (directions.insert key (directions.value key)) key packet decoded c
      (c.locals (directions.insert key (directions.value key)))
    out.1.lookup key' = storeOutcome directions key reverseKey (segmentReset c.state) key' ∧
      out.2 = (segmentReset c.state).result packet decoded.transportPayloadOffset := by
  unfold finish
  refine ⟨?_, by simp [h, segmentReset, SegmentOutcome.result, keepPacket]⟩
  by_cases hk : key' = key <;> by_cases hc : c.state.confirmedTls = true <;>
    simp [h, hk, hc, Continuation.locals, storeOutcome, segmentReset,
      DirectionState.forgetFraming, Table.lookup_insert, Table.lookup_erase]

/-- The nested conditionals at the end of `finish`, with the condition for a cut made explicit. -/
theorem answer_eq (packet : Bytes) (offset n keep : ℕ) (valid middle synchronized cand : Bool) :
    (if !valid then keepPacket packet .malformed
      else if middle then keepPacket packet .noApplicationData
      else if !synchronized || !cand || keep ≥ n then
        keepPacket packet (if synchronized then .noApplicationData else .noRecord)
      else { disposition := .appDataPrefix, outputLen := UInt32.ofNat (offset + keep) })
      = { disposition :=
            if !valid then .malformed
            else if middle then .noApplicationData
            else if valid && !middle && synchronized && cand && keep < n then .appDataPrefix
            else if synchronized then .noApplicationData
            else .noRecord
          outputLen :=
            match if valid && !middle && synchronized && cand && keep < n then some keep
              else none with
            | none => UInt32.ofNat packet.length
            | some keep => UInt32.ofNat (offset + keep) } := by
  by_cases hkeep : keep < n <;> cases valid <;> cases middle <;> cases synchronized <;>
    cases cand <;> simp [hkeep, keepPacket]

/-- What `finish` stores and answers after framing. -/
theorem finish_framed {c : Continuation} (h : c.resetDirection = false) (directions : Directions)
    (key reverseKey : DirectionKey) (packet : Bytes) (decoded : PacketDecodeResult)
    (config : TlsOptions) (f : Framing) (key' : DirectionKey) :
    let l := (c.locals (directions.insert key (directions.value key))).afterFraming config
      reverseKey f decoded.transportPayloadLength
    let o := segmentFramed config decoded.transportPayloadLength decoded.tcpSeq c f
    let out := finish l.directions key packet decoded c l
    out.1.lookup key' = storeOutcome directions key reverseKey o key' ∧
      out.2 = o.result packet decoded.transportPayloadOffset := by
  unfold finish
  simp only [h, if_false, Bool.false_eq_true]
  constructor
  · by_cases hk : key' = key <;> by_cases hf : f.hasHandshake = true <;>
      simp [hk, hf, Continuation.locals, storeOutcome, segmentFramed, FramingLocals.afterFraming,
        Table.lookup_insert, lookup_confirm, Table.value]
  · simp only [segmentFramed, SegmentOutcome.result, FramingLocals.afterFraming,
      Continuation.locals, Continuation.candidate, Bool.false_or]
    exact answer_eq _ _ _ _ _ _ _ _

/-- **`Evaluate` performs the transition.** A packet with payload stores the outcome of its own
direction at its key, confirms the reverse key when a Handshake record was framed, and touches
nothing else. -/
theorem evaluatePayload_spec (directions : Directions) (packet : Bytes)
    (decoded : PacketDecodeResult) (config : TlsOptions)
    (hpay : HasBytes packet decoded.transportPayloadOffset decoded.transportPayloadLength)
    (key' : DirectionKey) :
    let o := segment config (payloadOf packet decoded) decoded.tcpSeq
      (directions.value (makeDirectionKey decoded))
    let out := evaluatePayload directions packet decoded config
    out.1.lookup key'
        = storeOutcome directions (makeDirectionKey decoded) (makeReverseKey decoded) o key' ∧
      out.2 = o.result packet decoded.transportPayloadOffset := by
  have hlen : (payloadOf packet decoded).length = decoded.transportPayloadLength :=
    length_subspan (hasBytes_iff.mp hpay)
  intro o out
  have hout : out = evaluatePayload directions packet decoded config := rfl
  have ho : o = segment config (payloadOf packet decoded) decoded.tcpSeq
      (directions.value (makeDirectionKey decoded)) := rfl
  clear_value o out
  subst ho hout
  unfold evaluatePayload segment
  dsimp only
  rw [← payloadOf]
  generalize continueActiveRecord config (payloadOf packet decoded)
    ((directions.value (makeDirectionKey decoded)).dropOnGap decoded.tcpSeq) = c
  -- three ways out: the reset behind a continuation, the refusal in the loop, and its end
  cases hreset : c.resetDirection with
  | true =>
    simp only [if_true]
    exact finish_reset hreset directions _ _ packet decoded key'
  | false =>
    simp only [Bool.false_eq_true, if_false, framingLoop_eq]
    cases hrefused : (framing (payloadOf packet decoded) c.payloadOffset).refused
      c.state.synchronized (directions.value (makeDirectionKey decoded)).confirmedTls with
    | true =>
      simp only [if_true]
      refine ⟨?_, rfl⟩
      by_cases hk : key' = makeDirectionKey decoded <;>
        cases hc : (directions.value (makeDirectionKey decoded)).confirmedTls <;>
        simp [hk, storeOutcome, segmentRefused, Table.lookup_insert, Table.lookup_erase]
    | false =>
      simp only [Bool.false_eq_true, if_false, hlen]
      exact finish_framed hreset directions _ _ packet decoded config _ key'

/-! ## The five kinds of transition -/

/-- The active record goes on behind a payload of `n` bytes. -/
def segmentMiddle (n : ℕ) (tcpSeq : UInt32) (state : DirectionState) : SegmentOutcome where
  own := some
    { state with
      activeRecordRemainingBytes := state.activeRecordRemainingBytes - UInt32.ofNat n
      expectedTcpSeq := advanceTcpSeq tcpSeq n }
  confirmsReverse := false
  disposition :=
    if state.activeRecordConstrictible || state.synchronized then .noApplicationData
    else .noRecord
  cut := none

/-- The active record ends exactly with a payload of `n` bytes. -/
def segmentLast (config : TlsOptions) (n : ℕ) (tcpSeq : UInt32) (state : DirectionState) :
    SegmentOutcome :=
  let keep := clampedKeepSize config.appDataContinuationKeepBytes n
  let cuts := state.activeRecordConstrictible && state.synchronized && keep < n
  { own := some { state.clearActiveRecord with expectedTcpSeq := advanceTcpSeq tcpSeq n }
    confirmsReverse := false
    disposition :=
      if cuts then .appDataPrefix
      else if state.synchronized then .noApplicationData
      else .noRecord
    cut := if cuts then some keep else none }

/-- The state in which framing starts. -/
def DirectionState.framingStart (state : DirectionState) : DirectionState :=
  if state.hasActiveRecord then state.clearActiveRecord else state

/-- The offset in a payload of `n` bytes at which the next record header is expected. -/
def DirectionState.entry (state : DirectionState) (n : ℕ) : ℕ :=
  if state.hasActiveRecord then min state.activeRecordRemainingBytes.toNat n else 0

/-- The framing `f` of a payload of `n` bytes was accepted from `state` on. -/
def segmentFrames (config : TlsOptions) (n : ℕ) (tcpSeq : UInt32) (state : DirectionState)
    (f : Framing) : SegmentOutcome :=
  segmentFramed config n tcpSeq { state, payloadOffset := 0, candidatePayloadSize := n } f

/-- Framing from the end of the payload finds nothing and accepts it. -/
theorem segment_of_payloadOffset_eq {config : TlsOptions} {payload : Bytes} {tcpSeq : UInt32}
    {before : DirectionState} {c : Continuation}
    (hc : continueActiveRecord config payload (before.dropOnGap tcpSeq) = c)
    (hreset : c.resetDirection = false) (hoff : c.payloadOffset = payload.length) :
    segment config payload tcpSeq before
      = segmentFramed config payload.length tcpSeq c ⟨[], true⟩ := by
  unfold segment
  simp only [hc, hreset, hoff, framing_of_le le_rfl, Bool.false_eq_true, if_false]
  rw [if_neg (by simp [Framing.refused])]

/-- Framing nothing leaves the state as it is. -/
theorem DirectionState.afterFraming_nil (state : DirectionState) (valid : Bool) (n : ℕ) :
    state.afterFraming ⟨[], valid⟩ n = state := by
  simp [DirectionState.afterFraming, Framing.hasHandshake, Framing.lastAppData, Framing.overhang,
    Option.filter]

/-! The three ways in which a payload continues an active record. -/

section ContinueActiveRecord

variable (config : TlsOptions) {payload : Bytes} {state : DirectionState}
  (hactive : state.hasActiveRecord = true)
include hactive

/-- A payload within the record is all of it continuation. -/
theorem continueActiveRecord_middle
    (h : payload.length < state.activeRecordRemainingBytes.toNat) :
    continueActiveRecord config payload state
      = { state :=
            { state with
              activeRecordRemainingBytes :=
                state.activeRecordRemainingBytes - UInt32.ofNat payload.length }
          payloadOffset := payload.length
          candidatePayloadSize := payload.length
          keptMiddleContinuation := state.activeRecordConstrictible } := by
  rw [continueActiveRecord, if_pos hactive]
  exact if_pos h

/-- A payload that ends the record leaves it. -/
theorem continueActiveRecord_last
    (h : payload.length = state.activeRecordRemainingBytes.toNat) :
    continueActiveRecord config payload state
      = { state := state.clearActiveRecord
          payloadOffset := payload.length
          candidatePayloadSize :=
            if state.activeRecordConstrictible then
              clampedKeepSize config.appDataContinuationKeepBytes payload.length
            else payload.length
          hasCandidate := state.activeRecordConstrictible } := by
  rw [continueActiveRecord, if_pos hactive]
  dsimp only
  rw [if_neg (by omega), if_pos h.symm]

/-- Behind the end of the record, framing starts. -/
theorem continueActiveRecord_behind
    (h : state.activeRecordRemainingBytes.toNat < payload.length) :
    continueActiveRecord config payload state
      = { state := state.clearActiveRecord
          payloadOffset := state.activeRecordRemainingBytes.toNat
          candidatePayloadSize := payload.length
          resetDirection := state.activeRecordConstrictible } := by
  rw [continueActiveRecord, if_pos hactive]
  dsimp only
  rw [if_neg (by omega), if_neg (by omega)]

end ContinueActiveRecord

/-- **What a payload can do to its direction.** -/
theorem segment_cases (config : TlsOptions) (payload : Bytes) (tcpSeq : UInt32)
    (before : DirectionState) :
    let state := before.dropOnGap tcpSeq
    let n := payload.length
    let f := framing payload (state.entry n)
    let remaining := state.activeRecordRemainingBytes.toNat
    let out := segment config payload tcpSeq before
    (state.hasActiveRecord = true ∧ n < remaining ∧ out = segmentMiddle n tcpSeq state) ∨
    (state.hasActiveRecord = true ∧ n = remaining ∧ out = segmentLast config n tcpSeq state) ∨
    (state.hasActiveRecord = true ∧ remaining < n ∧ state.activeRecordConstrictible = true ∧
      out = segmentReset state.clearActiveRecord) ∨
    ((state.hasActiveRecord = true → remaining < n ∧ state.activeRecordConstrictible = false) ∧
      (f.refused state.synchronized before.confirmedTls = true ∧
          out = segmentRefused before.confirmedTls state.framingStart ∨
        f.refused state.synchronized before.confirmedTls = false ∧
          out = segmentFrames config n tcpSeq state.framingStart f)) := by
  intro state n f remaining out
  have hout : out = segment config payload tcpSeq before := rfl
  have hstate : before.dropOnGap tcpSeq = state := rfl
  clear_value out state
  subst hout
  cases hactive : state.hasActiveRecord with
  | false =>
    have hentry : state.entry n = 0 := by simp [DirectionState.entry, hactive]
    have hstart : state.framingStart = state := by simp [DirectionState.framingStart, hactive]
    refine Or.inr (Or.inr (Or.inr ⟨by simp, ?_⟩))
    simp only [f, hentry, hstart, segment, hstate, continueActiveRecord, hactive,
      Bool.false_eq_true, if_false]
    cases (framing payload 0).refused state.synchronized before.confirmedTls <;>
      simp [segmentFrames, n]
  | true =>
    have hentry : state.entry n = min remaining n := by
      simp [DirectionState.entry, hactive, remaining]
    have hstart : state.framingStart = state.clearActiveRecord := by
      simp [DirectionState.framingStart, hactive]
    rcases Nat.lt_trichotomy n remaining with hlt | heq | hgt
    · -- the payload lies inside the active record
      have hc := (congrArg (continueActiveRecord config payload) hstate).trans
        (continueActiveRecord_middle config hactive hlt)
      refine Or.inl ⟨rfl, hlt, ?_⟩
      rw [segment_of_payloadOffset_eq hc rfl rfl, segmentFramed, segmentMiddle]
      simp only [DirectionState.afterFraming_nil]
      cases state.activeRecordConstrictible <;> cases state.synchronized <;> rfl
    · -- the payload ends with the active record
      have hc := (congrArg (continueActiveRecord config payload) hstate).trans
        (continueActiveRecord_last config hactive heq)
      refine Or.inr (Or.inl ⟨rfl, heq, ?_⟩)
      rw [segment_of_payloadOffset_eq hc rfl rfl, segmentFramed, segmentLast]
      simp only [DirectionState.afterFraming_nil]
      have hsync : state.clearActiveRecord.synchronized = state.synchronized := rfl
      cases state.activeRecordConstrictible <;> simp only [hsync] <;>
        cases state.synchronized <;> rfl
    · -- the active record ends inside the payload
      have hc := (congrArg (continueActiveRecord config payload) hstate).trans
        (continueActiveRecord_behind config hactive hgt)
      cases hcon : state.activeRecordConstrictible with
      | true =>
        refine Or.inr (Or.inr (Or.inl ⟨rfl, hgt, rfl, ?_⟩))
        simp only [segment, hc, hcon, if_true]
      | false =>
        refine Or.inr (Or.inr (Or.inr ⟨fun _ => ⟨hgt, rfl⟩, ?_⟩))
        have hoff : min remaining n = remaining := by omega
        have hsync : state.clearActiveRecord.synchronized = state.synchronized := rfl
        simp only [f, hentry, hstart, hoff, segment, hc, hcon, hsync, Bool.false_eq_true, if_false]
        cases (framing payload remaining).refused state.synchronized before.confirmedTls with
        | true => exact Or.inl ⟨rfl, rfl⟩
        | false => exact Or.inr ⟨rfl, rfl⟩

/-- The five kinds of transition as one equation. -/
theorem segment_eq (config : TlsOptions) (payload : Bytes) (tcpSeq : UInt32)
    (before : DirectionState) :
    segment config payload tcpSeq before
      = let state := before.dropOnGap tcpSeq
        let n := payload.length
        let f := framing payload (state.entry n)
        let remaining := state.activeRecordRemainingBytes.toNat
        if state.hasActiveRecord = true ∧ n < remaining then segmentMiddle n tcpSeq state
        else if state.hasActiveRecord = true ∧ n = remaining then
          segmentLast config n tcpSeq state
        else if state.hasActiveRecord = true ∧ state.activeRecordConstrictible = true then
          segmentReset state.clearActiveRecord
        else if f.refused state.synchronized before.confirmedTls = true then
          segmentRefused before.confirmedTls state.framingStart
        else segmentFrames config n tcpSeq state.framingStart f := by
  dsimp only
  rcases segment_cases config payload tcpSeq before with
    ⟨hactive, hlt, hout⟩ | ⟨hactive, heq, hout⟩ | ⟨hactive, hgt, hcon, hout⟩ |
    ⟨hentry, ⟨hrefused, hout⟩ | ⟨hrefused, hout⟩⟩
  · -- each case excludes the tests in front of its own
    rw [hout, if_pos ⟨hactive, hlt⟩]
  · rw [hout, if_neg (fun h => Nat.ne_of_lt h.2 heq), if_pos ⟨hactive, heq⟩]
  · rw [hout, if_neg (fun h => Nat.lt_asymm hgt h.2), if_neg (fun h => Nat.ne_of_gt hgt h.2),
      if_pos ⟨hactive, hcon⟩]
  · rw [hout, if_neg (fun h => Nat.lt_asymm (hentry h.1).1 h.2),
      if_neg (fun h => Nat.ne_of_gt (hentry h.1).1 h.2),
      if_neg (fun h => Bool.false_ne_true ((hentry h.1).2.symm.trans h.2)), if_pos hrefused]
  · rw [hout, if_neg (fun h => Nat.lt_asymm (hentry h.1).1 h.2),
      if_neg (fun h => Nat.ne_of_gt (hentry h.1).1 h.2),
      if_neg (fun h => Bool.false_ne_true ((hentry h.1).2.symm.trans h.2)),
      if_neg (by rw [hrefused]; exact Bool.false_ne_true)]

/-- What a payload does to the entries does not depend on the options: these only say where a packet
is cut. -/
theorem segment_state (config config' : TlsOptions) (payload : Bytes) (tcpSeq : UInt32)
    (before : DirectionState) :
    (segment config payload tcpSeq before).own = (segment config' payload tcpSeq before).own ∧
      (segment config payload tcpSeq before).confirmsReverse
        = (segment config' payload tcpSeq before).confirmsReverse := by
  rw [segment_eq, segment_eq]
  dsimp only
  split
  · exact ⟨rfl, rfl⟩
  split
  · exact ⟨rfl, rfl⟩
  split
  · exact ⟨rfl, rfl⟩
  split
  · exact ⟨rfl, rfl⟩
  · exact ⟨rfl, rfl⟩

/-- An active record after the gap check was not dropped by it. -/
theorem dropOnGap_of_active {state : DirectionState} {tcpSeq : UInt32}
    (h : (state.dropOnGap tcpSeq).hasActiveRecord = true) : state.dropOnGap tcpSeq = state := by
  unfold DirectionState.dropOnGap at h ⊢
  split at h
  · cases h
  · next hgap => rw [if_neg hgap]

theorem framingStart_inactive (state : DirectionState) :
    state.framingStart.hasActiveRecord = false := by
  unfold DirectionState.framingStart
  split
  · rfl
  · next h => simpa using h

/-- A packet is reported as cut exactly when it is cut, and the cut falls inside the payload. -/
theorem segment_cut (config : TlsOptions) (payload : Bytes) (tcpSeq : UInt32)
    (state : DirectionState) :
    match (segment config payload tcpSeq state).cut with
    | none => (segment config payload tcpSeq state).disposition ≠ .appDataPrefix
    | some keep => (segment config payload tcpSeq state).disposition = .appDataPrefix ∧
        keep < payload.length := by
  unfold segment
  dsimp only
  split_ifs
  · exact nofun
  · exact nofun
  · unfold segmentFramed
    dsimp only
    split_ifs <;> simp_all

/-- A framing is cut inside its last Application Data record. -/
theorem segmentFrames_cut {config : TlsOptions} {n : ℕ} {tcpSeq : UInt32} {state : DirectionState}
    {f : Framing} {keep : ℕ} (h : (segmentFrames config n tcpSeq state f).cut = some keep) :
    f.valid = true ∧
      ∃ framed, f.lastAppData = some framed ∧ keep = keepInRecord config n framed := by
  unfold segmentFrames segmentFramed at h
  dsimp only at h
  rw [Option.ite_none_right_eq_some] at h
  obtain ⟨hcuts, hkeep⟩ := h
  simp only [Bool.and_eq_true, Bool.false_or] at hcuts
  obtain ⟨framed, hlast⟩ := Option.isSome_iff_exists.mp hcuts.1.2
  rw [Continuation.candidate, hlast, Option.map_some, Option.getD_some, Option.some.injEq] at hkeep
  exact ⟨hcuts.1.1.1.1, framed, hlast, hkeep.symm⟩

end PcapConstrictor.TlsConstrictor
