import PcapConstrictor.Policy.TlsCoherence

/-!
# Initial sequence numbers do not matter

Sequence numbers are only compared with each other and advanced, modulo `2 ^ 32`, so a run whose
sequence numbers are shifted by a constant in each direction is answered like the original
(`outputs_shift`). The two tables differ by the shift in the entries that are synchronized; the
others hold no sequence number.
-/

namespace PcapConstrictor

open ByteString

namespace TlsConstrictor

/-- The decode result of a packet with its sequence number shifted by the constant of its
direction. -/
def shiftSeq (shift : DirectionKey → UInt32) (decoded : PacketDecodeResult) : PacketDecodeResult :=
  { decoded with tcpSeq := decoded.tcpSeq + shift (makeDirectionKey decoded) }

/-- The entry of a direction with its sequence numbers shifted. -/
def DirectionState.shift (c : UInt32) (state : DirectionState) : DirectionState :=
  { state with
    expectedTcpSeq :=
      if state.synchronized then state.expectedTcpSeq + c else state.expectedTcpSeq }

/-- What a payload does to a direction with its sequence numbers shifted. -/
def SegmentOutcome.shift (c : UInt32) (o : SegmentOutcome) : SegmentOutcome :=
  { o with own := o.own.map (DirectionState.shift c) }

/-! ## One payload -/

section Fields

variable (c : UInt32) (state : DirectionState)

@[simp] theorem shift_confirmedTls : (state.shift c).confirmedTls = state.confirmedTls := rfl

@[simp] theorem shift_synchronized : (state.shift c).synchronized = state.synchronized := rfl

@[simp] theorem shift_hasActiveRecord :
    (state.shift c).hasActiveRecord = state.hasActiveRecord := rfl

@[simp] theorem shift_activeRecordRemainingBytes :
    (state.shift c).activeRecordRemainingBytes = state.activeRecordRemainingBytes := rfl

@[simp] theorem shift_activeRecordConstrictible :
    (state.shift c).activeRecordConstrictible = state.activeRecordConstrictible := rfl

/-- Where framing enters a payload does not depend on the shift. -/
@[simp] theorem shift_entry (n : ℕ) : (state.shift c).entry n = state.entry n := rfl

/-- Leaving a record commutes with the shift. -/
@[simp] theorem shift_clearActiveRecord :
    (state.shift c).clearActiveRecord = state.clearActiveRecord.shift c := rfl

end Fields

/-- Advancing is addition, so it commutes with the shift. -/
theorem advanceTcpSeq_shift (seq c : UInt32) (n : ℕ) :
    advanceTcpSeq (seq + c) n = advanceTcpSeq seq n + c := by
  rw [advanceTcpSeq, advanceTcpSeq, UInt32.add_assoc, UInt32.add_comm c, UInt32.add_assoc]

section Shift

variable (c : UInt32) (state : DirectionState)

/-- A gap stays a gap when both numbers are shifted. -/
theorem dropOnGap_shift (seq : UInt32) :
    (state.shift c).dropOnGap (seq + c) = (state.dropOnGap seq).shift c := by
  unfold DirectionState.dropOnGap
  cases hsync : state.synchronized with
  | false => simp [DirectionState.shift, hsync]
  | true =>
    by_cases heq : seq = state.expectedTcpSeq
    · simp [DirectionState.shift, hsync, heq]
    · have hne : seq + c ≠ state.expectedTcpSeq + c := fun h => heq ((UInt32.add_left_inj c).mp h)
      simp [DirectionState.shift, DirectionState.clearActiveRecord, hsync, heq, hne]

/-- The state in which framing starts is shifted. -/
theorem framingStart_shift : (state.shift c).framingStart = state.framingStart.shift c := by
  unfold DirectionState.framingStart
  cases hactive : state.hasActiveRecord <;>
    simp [DirectionState.shift, DirectionState.clearActiveRecord, hactive]

/-- An outcome that forgets the record is shifted. -/
theorem segmentReset_shift :
    segmentReset (state.shift c) = (segmentReset state).shift c := by
  cases hconfirmed : state.confirmedTls <;>
    simp [segmentReset, SegmentOutcome.shift, DirectionState.forgetFraming, DirectionState.shift,
      hconfirmed]

/-- An outcome that refuses the segment is shifted. -/
theorem segmentRefused_shift (confirmed : Bool) :
    segmentRefused confirmed (state.shift c) = (segmentRefused confirmed state).shift c := by
  cases confirmed <;> rfl

variable {state}

/-- The outcome in the middle of a record is shifted, in a synchronized state. -/
theorem segmentMiddle_shift (hsync : state.synchronized = true) (n : ℕ) (seq : UInt32) :
    segmentMiddle n (seq + c) (state.shift c) = (segmentMiddle n seq state).shift c := by
  simp [segmentMiddle, SegmentOutcome.shift, DirectionState.shift, hsync, advanceTcpSeq_shift]

/-- The outcome at the end of a record is shifted, in a synchronized state. -/
theorem segmentLast_shift (hsync : state.synchronized = true) (config : TlsOptions) (n : ℕ)
    (seq : UInt32) :
    segmentLast config n (seq + c) (state.shift c) = (segmentLast config n seq state).shift c := by
  simp [segmentLast, SegmentOutcome.shift, DirectionState.shift, DirectionState.clearActiveRecord,
    hsync, advanceTcpSeq_shift]

/-- The sequence number that a framed state had expected is overwritten. -/
theorem segmentFrames_setExpected (config : TlsOptions) (n : ℕ) (seq expected : UInt32)
    (f : Framing) :
    segmentFrames config n seq { state with expectedTcpSeq := expected } f
      = segmentFrames config n seq state f := by
  have hafter : DirectionState.afterFraming { state with expectedTcpSeq := expected } f n
      = { state.afterFraming f n with expectedTcpSeq := expected } := by
    unfold DirectionState.afterFraming
    cases f.overhang n <;> rfl
  unfold segmentFrames segmentFramed
  dsimp only
  rw [hafter]
  rfl

/-- The outcome of framing is shifted, in a state that is synchronized behind it. -/
theorem segmentFrames_shift {n : ℕ} {f : Framing}
    (hsync : (state.afterFraming f n).synchronized = true) (config : TlsOptions) (seq : UInt32) :
    segmentFrames config n (seq + c) (state.shift c) f
      = (segmentFrames config n seq state f).shift c := by
  rw [DirectionState.shift, segmentFrames_setExpected]
  simp only [segmentFrames, segmentFramed, SegmentOutcome.shift, DirectionState.shift, hsync,
    advanceTcpSeq_shift, Option.map_some, if_true]

/-- **The transition commutes with the shift.** -/
theorem segment_shift (h : Consistent state) {payload : Bytes} (hpayload : payload ≠ [])
    (config : TlsOptions) (seq : UInt32) :
    segment config payload (seq + c) (state.shift c)
      = (segment config payload seq state).shift c := by
  have hchecked := h.dropOnGap seq
  rw [segment_eq, segment_eq, dropOnGap_shift]
  simp only [shift_hasActiveRecord, shift_activeRecordRemainingBytes,
    shift_activeRecordConstrictible, shift_synchronized, shift_confirmedTls, shift_entry,
    shift_clearActiveRecord, framingStart_shift]
  generalize state.dropOnGap seq = checked at hchecked
  by_cases hmiddle : checked.hasActiveRecord = true ∧
      payload.length < checked.activeRecordRemainingBytes.toNat
  · rw [if_pos hmiddle, if_pos hmiddle, segmentMiddle_shift c (hchecked.active hmiddle.1).1]
  rw [if_neg hmiddle, if_neg hmiddle]
  by_cases hlast : checked.hasActiveRecord = true ∧
      payload.length = checked.activeRecordRemainingBytes.toNat
  · rw [if_pos hlast, if_pos hlast, segmentLast_shift c (hchecked.active hlast.1).1]
  rw [if_neg hlast, if_neg hlast]
  by_cases hreset : checked.hasActiveRecord = true ∧ checked.activeRecordConstrictible = true
  · rw [if_pos hreset, if_pos hreset, segmentReset_shift]
  rw [if_neg hreset, if_neg hreset]
  by_cases hrefused : (framing payload (checked.entry payload.length)).refused checked.synchronized
      state.confirmedTls = true
  · rw [if_pos hrefused, if_pos hrefused, segmentRefused_shift]
  rw [if_neg hrefused, if_neg hrefused]
  rw [Bool.not_eq_true] at hrefused
  exact segmentFrames_shift c (hchecked.afterFraming_synchronized hpayload hrefused) config seq

end Shift

/-! ## Runs -/

/-- `t` holds the entries of `s` with their sequence numbers shifted. -/
def Shifted (shift : DirectionKey → UInt32) (s t : Directions) : Prop :=
  ∀ key, t.lookup key = (s.lookup key).map (DirectionState.shift (shift key))

section Shifted

variable {shift : DirectionKey → UInt32} {s t : Directions}

/-- A direction without an entry starts from the default state, which no shift changes. -/
theorem Shifted.value (h : Shifted shift s t) (key : DirectionKey) :
    t.value key = (s.value key).shift (shift key) := by
  rw [Table.value, Table.value, h key]
  cases s.lookup key with
  | none => rfl
  | some state => rfl

/-- A reset removes the same entries on both sides. -/
theorem Shifted.resetOnSynRst (h : Shifted shift s t) (decoded : PacketDecodeResult) :
    Shifted shift (resetOnSynRst s decoded) (resetOnSynRst t decoded) := by
  unfold TlsConstrictor.resetOnSynRst
  split
  · intro key
    simp only [Table.lookup_erase, h key]
    split
    · rfl
    split
    · rfl
    · rfl
  · exact h

/-- Storing a shifted outcome gives a shifted entry. -/
theorem Shifted.storeOutcome (h : Shifted shift s t) (key reverseKey key' : DirectionKey)
    (o : SegmentOutcome) :
    storeOutcome t key reverseKey (o.shift (shift key)) key'
      = (storeOutcome s key reverseKey o key').map (DirectionState.shift (shift key')) := by
  have hconfirms : (o.shift (shift key)).confirmsReverse = o.confirmsReverse := rfl
  unfold TlsConstrictor.storeOutcome
  rw [hconfirms]
  by_cases hown : key' = key
  · rw [if_pos hown, if_pos hown, hown]
    rfl
  rw [if_neg hown, if_neg hown]
  by_cases hreverse : key' = reverseKey ∧ o.confirmsReverse = true
  · rw [if_pos hreverse, if_pos hreverse, h.value]
    rfl
  · rw [if_neg hreverse, if_neg hreverse, h key']

end Shifted

/-- One call of `Evaluate` on a packet and its decode result. -/
def stepDecoded (config : TlsOptions) (directions : Directions)
    (input : Bytes × PacketDecodeResult) : Directions × TlsConstrictResult :=
  evaluate directions input.1 input.2 config

/-- A step over a shifted packet, in the form in which the shift commutes with its parts. -/
theorem stepDecoded_of_tcp {packet : CapturedPacket} (htcp : packet.IsTcp)
    (shift : DirectionKey → UInt32) (config : TlsOptions) (directions : Directions) :
    stepDecoded config directions (packet.safeData, shiftSeq shift packet.decoded)
      = if packet.payload = [] then
          (resetOnSynRst directions packet.decoded,
            keepPacket packet.safeData .noApplicationData)
        else
          evaluatePayload (resetOnSynRst directions packet.decoded) packet.safeData
            (shiftSeq shift packet.decoded) config := by
  have hdec := htcp.transportDecoded
  have htcp' : (shiftSeq shift packet.decoded).transportProtocol = .tcp := htcp
  have hempty :
      packet.payload = [] ↔ (shiftSeq shift packet.decoded).transportPayloadLength = 0 := by
    rw [← List.length_eq_zero_iff, CapturedPacket.length_payload hdec]
    rfl
  have hbytes : HasBytes packet.safeData (shiftSeq shift packet.decoded).transportPayloadOffset
      (shiftSeq shift packet.decoded).transportPayloadLength := hdec.hasBytes_payload
  rw [stepDecoded, evaluate, if_neg (not_not.mpr htcp')]
  dsimp only
  rw [if_neg (not_not.mpr hbytes)]
  simp only [hempty]
  rfl

/-- **Step lemma.** A packet and the shifted packet are answered alike, and the tables stay
shifted. -/
theorem step_shift {shift : DirectionKey → UInt32} {s t : Directions} (hst : Shifted shift s t)
    (hs : AllCoherent s) (config : TlsOptions) (packet : CapturedPacket) :
    let out := step config s packet
    let out' := stepDecoded config t (packet.safeData, shiftSeq shift packet.decoded)
    Shifted shift out.1 out'.1 ∧ out.2 = out'.2 := by
  intro out out'
  by_cases htcp : packet.IsTcp
  · have hreset := hst.resetOnSynRst packet.decoded
    have hout' : out' = _ := stepDecoded_of_tcp htcp shift config t
    by_cases hpayload : packet.payload = []
    · have hout : out = _ := (step_of_tcp htcp config s).trans (if_pos hpayload)
      rw [hout, hout', if_pos hpayload]
      exact ⟨hreset, rfl⟩
    · rw [if_neg hpayload] at hout'
      have hspec := evaluatePayload_spec (resetOnSynRst t packet.decoded) packet.safeData
        (shiftSeq shift packet.decoded) config htcp.transportDecoded.hasBytes_payload
      -- the shifted packet meets the shifted state of its direction
      have hvalue : (resetOnSynRst t packet.decoded).value (directionOf packet)
          = (stateAtPayload s packet).shift (shift (directionOf packet)) := by
        rw [hreset.value, Table.value, lookup_resetOnSynRst s htcp, stateAtPayload]
      have houtcome : segment config packet.payload
            (packet.decoded.tcpSeq + shift (directionOf packet))
            ((resetOnSynRst t packet.decoded).value (directionOf packet))
          = (outcomeOf config s packet).shift (shift (directionOf packet)) := by
        rw [hvalue]
        exact segment_shift _ (Consistent.stateAtPayload hs packet) hpayload config _
      have hstep := step_of_payload htcp hpayload config s
      constructor
      · intro key
        rw [hout', (hspec key).1, (hstep key).1]
        exact (congrArg (storeOutcome _ _ _ · key) houtcome).trans (hreset.storeOutcome _ _ key _)
      · rw [hout', (hspec (directionOf packet)).2]
        have hanswer : out.2 = ((outcomeOf config s packet).shift
            (shift (directionOf packet))).result packet.safeData
              packet.decoded.transportPayloadOffset := (hstep (directionOf packet)).2
        rw [hanswer, ← houtcome]
        rfl
  · -- packets of other transports are not evaluated
    have hout : out = _ := step_of_not_tcp htcp config s
    have htcp' : (shiftSeq shift packet.decoded).transportProtocol ≠ .tcp := htcp
    have hout' : out' = _ := if_pos htcp'
    rw [hout, hout']
    exact ⟨hst, rfl⟩

/-- **Initial sequence numbers do not matter.** Shifting the sequence numbers of every packet by a
constant of its direction, modulo `2 ^ 32`, leaves all answers as they are. -/
theorem outputs_shift (config : TlsOptions) (shift : DirectionKey → UInt32)
    (packets : List CapturedPacket) :
    Transducer.outputs (stepDecoded config) ∅
        (packets.map fun packet => (packet.safeData, shiftSeq shift packet.decoded))
      = Transducer.outputs (stepDecoded config) ∅
        (packets.map fun packet => (packet.safeData, packet.decoded)) := by
  refine (Transducer.outputs_eq_of_simulation _ _ _
    (fun s t => AllCoherent s ∧ Shifted shift s t) ?_ ?_ packets).symm
  · rintro s t packet ⟨hs, hst⟩
    obtain ⟨hshifted, hout⟩ := step_shift hst hs config packet
    exact ⟨⟨allCoherent_step config s packet hs, hshifted⟩, hout⟩
  · exact ⟨fun key state h => by simp at h, fun key => rfl⟩

end TlsConstrictor

end PcapConstrictor
