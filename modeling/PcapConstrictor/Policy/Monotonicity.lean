import PcapConstrictor.Decode.Frames
import PcapConstrictor.Policy.Settlement

/-!
# Keeping more never loses bytes

The four settings that say how much is kept decide where a packet is cut, and nothing else: the
state of both constrictors evolves the same under all of them. Raising them moves every cut back or
undoes it, so no packet comes out shorter (`keeping_more_keeps_more`).
-/

namespace PcapConstrictor

open ByteString

/-- A cut is undone, or moved back: `none` is no cut at all. -/
def CutBack (cut cut' : Option ℕ) : Prop :=
  ∀ keep' ∈ cut', ∃ keep ∈ cut, keep ≤ keep'

theorem CutBack.refl (cut : Option ℕ) : CutBack cut cut := fun keep h => ⟨keep, h, Nat.le_refl keep⟩

/-- Cutting nothing undoes every cut. -/
theorem CutBack.none_right (cut : Option ℕ) : CutBack cut none := nofun

/-- Keeping more moves a cut back. -/
theorem CutBack.some {keep keep' : ℕ} (h : keep ≤ keep') : CutBack (some keep) (some keep') := by
  intro k hk
  cases hk
  exact ⟨keep, rfl, h⟩

/-- Cuts of a payload are compared like cuts of the packet around it. -/
theorem CutBack.map {cut cut' : Option ℕ} (h : CutBack cut cut') (offset : ℕ) :
    CutBack (cut.map (offset + ·)) (cut'.map (offset + ·)) := by
  intro moved' hmoved'
  obtain ⟨keep', hkeep', rfl⟩ := Option.map_eq_some_iff.mp hmoved'
  obtain ⟨keep, hkeep, hle⟩ := h keep' hkeep'
  exact ⟨offset + keep, Option.map_eq_some_iff.mpr ⟨keep, hkeep, rfl⟩, by omega⟩

/-- Cuts that are made where they fall inside `n` bytes. -/
theorem CutBack.ite_lt {cuts : Bool} {keep keep' n : ℕ} (h : keep ≤ keep') :
    CutBack (if (cuts && decide (keep < n)) = true then Option.some keep else none)
      (if (cuts && decide (keep' < n)) = true then Option.some keep' else none) := by
  cases cuts with
  | false => exact .none_right _
  | true =>
    simp only [Bool.true_and, decide_eq_true_eq]
    by_cases hlt : keep' < n
    · rw [if_pos hlt, if_pos (h.trans_lt hlt)]
      exact .some h
    · rw [if_neg hlt]
      exact .none_right _

/-- The configuration with other values for how much is kept. -/
def PolicyConfig.keeping (config : PolicyConfig)
    (appDataKeepRecordBytes appDataContinuationKeepBytes shortHeaderKeepPacketBytes
      minSavedBytesPerPacket : UInt32) : PolicyConfig :=
  { config with
    general := { minSavedBytesPerPacket }
    tls := { config.tls with appDataKeepRecordBytes, appDataContinuationKeepBytes }
    quic := { config.quic with shortHeaderKeepPacketBytes } }

/-! ## TLS -/

namespace TlsConstrictor

/-- `o'` cuts the packet no further than `o`. -/
def KeepsAtLeast (o o' : SegmentOutcome) : Prop := CutBack o.cut o'.cut

theorem KeepsAtLeast.refl (o : SegmentOutcome) : KeepsAtLeast o o := CutBack.refl _

/-- Outcomes are compared branch by branch. -/
theorem KeepsAtLeast.ite {p : Prop} [Decidable p] {o₁ o₂ o₁' o₂' : SegmentOutcome}
    (h₁ : KeepsAtLeast o₁ o₁') (h₂ : KeepsAtLeast o₂ o₂') :
    KeepsAtLeast (if p then o₁ else o₂) (if p then o₁' else o₂') := by
  split
  · exact h₁
  · exact h₂

variable {config config' : TlsOptions}

/-- Clamping keeps the order of the configured sizes. -/
theorem clampedKeepSize_mono {configured configured' : UInt32} (h : configured ≤ configured')
    (available : ℕ) :
    clampedKeepSize configured available ≤ clampedKeepSize configured' available := by
  have hle := UInt32.le_iff_toNat_le.mp h
  unfold clampedKeepSize
  omega

/-- The last bytes of a tracked record: the longer continuation is kept. -/
theorem segmentLast_keepsAtLeast
    (h : config.appDataContinuationKeepBytes ≤ config'.appDataContinuationKeepBytes) (n : ℕ)
    (tcpSeq : UInt32) (state : DirectionState) :
    KeepsAtLeast (segmentLast config n tcpSeq state) (segmentLast config' n tcpSeq state) :=
  CutBack.ite_lt (clampedKeepSize_mono h n)

/-- Framed records: the longer beginning of the last one is kept. -/
theorem segmentFrames_keepsAtLeast
    (h : config.appDataKeepRecordBytes ≤ config'.appDataKeepRecordBytes) (n : ℕ)
    (tcpSeq : UInt32) (state : DirectionState) (f : Framing) :
    KeepsAtLeast (segmentFrames config n tcpSeq state f)
      (segmentFrames config' n tcpSeq state f) := by
  refine CutBack.ite_lt ?_
  unfold Continuation.candidate
  cases f.lastAppData with
  | none => exact Nat.le_refl _
  | some record => exact Nat.add_le_add_left (clampedKeepSize_mono h _) _

/-- Each part of a segment keeps more, and the state behind it is the same. -/
theorem segment_keepsAtLeast
    (hrecord : config.appDataKeepRecordBytes ≤ config'.appDataKeepRecordBytes)
    (hcontinuation : config.appDataContinuationKeepBytes ≤ config'.appDataContinuationKeepBytes)
    (payload : Bytes) (tcpSeq : UInt32) (state : DirectionState) :
    KeepsAtLeast (segment config payload tcpSeq state) (segment config' payload tcpSeq state) := by
  rw [segment_eq, segment_eq]
  refine .ite (.refl _) (.ite ?_ (.ite (.refl _) (.ite (.refl _) ?_)))
  · exact segmentLast_keepsAtLeast hcontinuation _ _ _
  · exact segmentFrames_keepsAtLeast hrecord _ _ _ _

/-- Keeping more cuts no further. -/
theorem answer_keepsAtLeast
    (hrecord : config.appDataKeepRecordBytes ≤ config'.appDataKeepRecordBytes)
    (hcontinuation : config.appDataContinuationKeepBytes ≤ config'.appDataContinuationKeepBytes)
    (packet : CapturedPacket) (directions : Directions) :
    CutBack (answer config directions packet).2 (answer config' directions packet).2 := by
  unfold answer
  split
  · exact .refl _
  · exact segment_keepsAtLeast hrecord hcontinuation _ _ _

end TlsConstrictor

/-! ## QUIC -/

namespace QuicConstrictor

/-- `o'` cuts the datagram no further than `o`. -/
def KeepsAtLeast (o o' : DatagramOutcome) : Prop := CutBack o.kept o'.kept

theorem KeepsAtLeast.refl (o : DatagramOutcome) : KeepsAtLeast o o := CutBack.refl _

theorem KeepsAtLeast.ite {p : Prop} [Decidable p] {o₁ o₂ o₁' o₂' : DatagramOutcome}
    (h₁ : KeepsAtLeast o₁ o₁') (h₂ : KeepsAtLeast o₂ o₂') :
    KeepsAtLeast (if p then o₁ else o₂) (if p then o₁' else o₂') := by
  split
  · exact h₁
  · exact h₂

variable {keep keep' : UInt32} (config : QuicOptions) (payload : Bytes)

/-- A matched short header keeps more. -/
theorem matchedOutcome_keepsAtLeast (h : keep ≤ keep') (offset minimum : ℕ) :
    KeepsAtLeast
      (matchedOutcome { config with shortHeaderKeepPacketBytes := keep } payload offset minimum)
      (matchedOutcome { config with shortHeaderKeepPacketBytes := keep' } payload offset
        minimum) := by
  have hle := UInt32.le_iff_toNat_le.mp h
  refine CutBack.some ?_
  dsimp only
  omega

/-- A short header is matched alike, and keeps more. -/
theorem shortHeaderOutcome_keepsAtLeast (h : keep ≤ keep') (expected : Option ConnectionId)
    (offset : ℕ) :
    KeepsAtLeast
      (shortHeaderOutcome expected { config with shortHeaderKeepPacketBytes := keep } payload
        offset)
      (shortHeaderOutcome expected { config with shortHeaderKeepPacketBytes := keep' } payload
        offset) := by
  unfold shortHeaderOutcome
  cases expected.filter (·.known) with
  | none => exact .ite (.refl _) (matchedOutcome_keepsAtLeast config payload h offset 1)
  | some dcid =>
    exact .ite (.refl _) (.ite (.refl _) (matchedOutcome_keepsAtLeast config payload h offset _))

/-- The long headers of a datagram are read alike, and what follows keeps more. -/
theorem datagramOutcome_keepsAtLeast (h : keep ≤ keep') (expected : Option ConnectionId) :
    KeepsAtLeast
      (datagramOutcome expected { config with shortHeaderKeepPacketBytes := keep } payload)
      (datagramOutcome expected { config with shortHeaderKeepPacketBytes := keep' } payload) :=
  .ite (.refl _) (.ite (.refl _) (.ite (.refl _)
    (shortHeaderOutcome_keepsAtLeast config payload h expected _)))

end QuicConstrictor

/-! ## The policy -/

namespace LiveCapturePolicy

/-- A longer proposal and a higher minimum saving both keep more. -/
theorem settle_mono {minSaved minSaved' : ℕ} (hsaved : minSaved ≤ minSaved')
    {proposed proposed' : Option ℕ} (h : CutBack proposed proposed') (base : ℕ) :
    settle base minSaved proposed ≤ settle base minSaved' proposed' := by
  cases proposed' with
  | none => exact settle_le base minSaved proposed
  | some keep' =>
    obtain ⟨keep, rfl, hle⟩ := h keep' rfl
    rw [settle_some, settle_some]
    split
    · split <;> omega
    · rw [if_neg (by omega)]

section KeepingMore

variable (config : PolicyConfig) {record continuation shortHeader minSaved : UInt32}
  (hrecord : config.tls.appDataKeepRecordBytes ≤ record)
  (hcontinuation : config.tls.appDataContinuationKeepBytes ≤ continuation)
  (hshortHeader : config.quic.shortHeaderKeepPacketBytes ≤ shortHeader)
  (hminSaved : config.general.minSavedBytesPerPacket ≤ minSaved)
include hrecord hcontinuation hshortHeader

/-- Keeping more leaves the policy in the same state, and proposes no further cut. -/
theorem evaluate_keeping (state : State) (packet : CapturedPacket) :
    let config' := config.keeping record continuation shortHeader minSaved
    (evaluate config state packet).1 = (evaluate config' state packet).1 ∧
      CutBack (proposal config state packet).keep (proposal config' state packet).keep := by
  intro config'
  rcases evaluate_cases config state packet with
    ⟨htls, heq⟩ | ⟨htls, hquic, heq⟩ | ⟨htls, hquic, heq⟩
  · have htls' : tlsGate config' packet = true := htls
    have hstep := TlsConstrictor.step_state config.tls config'.tls state.tlsConstrictor packet
    rw [heq, evaluate_of_tls htls', proposal_of_tls htls, proposal_of_tls htls', hstep]
    exact ⟨rfl, TlsConstrictor.answer_keepsAtLeast (by exact hrecord) (by exact hcontinuation)
      packet state.tlsConstrictor⟩
  · have htls' : tlsGate config' packet = false := htls
    have hquic' : quicGate config' packet = true := hquic
    have happ := applicable_of_quicGate hquic
    have happ' : QuicConstrictor.applicable packet.decoded config'.quic = true := happ
    rw [heq, evaluate_of_quic htls' hquic', proposal_of_quic htls hquic,
      proposal_of_quic htls' hquic', QuicConstrictor.step_answer happ,
      QuicConstrictor.step_answer happ']
    exact ⟨rfl, QuicConstrictor.datagramOutcome_keepsAtLeast config.quic packet.payload
      hshortHeader _⟩
  · have htls' : tlsGate config' packet = false := htls
    have hquic' : quicGate config' packet = false := hquic
    rw [heq, evaluate_of_neither htls' hquic', proposal_of_neither htls hquic,
      proposal_of_neither htls' hquic']
    exact ⟨rfl, .refl _⟩

include hminSaved in
/-- Keeping more loses no byte of a packet. -/
theorem outputLen_keeping (state : State) (packet : CapturedPacket) :
    (evaluate config state packet).2.outputLen
      ≤ (evaluate (config.keeping record continuation shortHeader minSaved) state
          packet).2.outputLen := by
  obtain ⟨-, hcut⟩ := @evaluate_keeping config _ _ _ minSaved hrecord hcontinuation hshortHeader
    state packet
  have hmoved : CutBack ((proposal config state packet).outputLen packet)
      ((proposal (config.keeping record continuation shortHeader minSaved) state
        packet).outputLen packet) := hcut.map _
  rw [UInt32.le_iff_toNat_le, (evaluate_settled config state packet).1,
    (evaluate_settled (config.keeping record continuation shortHeader minSaved) state packet).1]
  exact settle_mono (UInt32.le_iff_toNat_le.mp hminSaved) hmoved _

include hminSaved in
/-- **Keeping more never loses bytes.** Of two configurations that differ in how much they keep
only, the one that keeps more gives every packet of a trace at least the output length of the
other. -/
theorem keeping_more_keeps_more (trace : List CapturedPacket) :
    List.Forall₂ (fun d d' => d.outputLen ≤ d'.outputLen)
      (Transducer.outputs (evaluate config) {} trace)
      (Transducer.outputs (evaluate (config.keeping record continuation shortHeader minSaved)) {}
        trace) := by
  refine Transducer.outputs_simulation (evaluate config) Eq ?_ rfl
    (List.forall₂_eq_eq_eq ▸ rfl : List.Forall₂ Eq trace trace)
  rintro state _ packet _ rfl rfl
  exact ⟨(@evaluate_keeping config _ _ _ minSaved hrecord hcontinuation hshortHeader state
    packet).1, outputLen_keeping config hrecord hcontinuation hshortHeader hminSaved state packet⟩

end KeepingMore

/-- Seven bytes of an Application Data record instead of five: the packet of 69 bytes is cut by four
bytes, or by two. -/
theorem keeping_more_keeps_more_plain :
    let outputs := Transducer.outputs (evaluate exampleConfig) {} [plainPacket]
    let outputs' := Transducer.outputs (evaluate (exampleConfig.keeping 7 0 64 1)) {} [plainPacket]
    List.Forall₂ (fun d d' => d.outputLen ≤ d'.outputLen) outputs outputs' ∧
      outputs.map (·.outputLen) = [65] ∧ outputs'.map (·.outputLen) = [67] :=
  ⟨keeping_more_keeps_more exampleConfig (by decide) (by decide) (by decide) (by decide)
    [plainPacket], by decide +kernel, by decide +kernel⟩

end LiveCapturePolicy

end PcapConstrictor
