import PcapConstrictor.Common.Transducer
import PcapConstrictor.Policy.TlsSegment

/-!
# Runs of the TLS constrictor

A run feeds captured packets to `Evaluate` as `LiveCapturePolicy` does. `step_entry` says what one
packet can do to the entry of a given direction: leave it, erase it, confirm it from the other
direction, or take it through `segment`. The invariants of the later modules are proved from it
by the invariant rule for transducers.
-/

namespace PcapConstrictor

open ByteString

namespace CapturedPacket

/-- The packet has the SYN or the RST flag. -/
def HasSynRst (packet : CapturedPacket) : Prop :=
  packet.decoded.tcpFlags &&&
    (TlsConstrictor.kTcpFlagSyn ||| TlsConstrictor.kTcpFlagRst) ≠ 0

instance (packet : CapturedPacket) : Decidable packet.HasSynRst :=
  inferInstanceAs (Decidable (_ ≠ _))

end CapturedPacket

namespace TlsConstrictor

/-- One call of `Evaluate`. -/
def step (config : TlsOptions) (directions : Directions) (packet : CapturedPacket) :
    Directions × TlsConstrictResult :=
  evaluate directions packet.safeData packet.decoded config

/-- The direction a packet belongs to. -/
def directionOf (packet : CapturedPacket) : DirectionKey := makeDirectionKey packet.decoded

/-- The direction opposite to a packet's. -/
def reverseOf (packet : CapturedPacket) : DirectionKey := makeReverseKey packet.decoded

/-- The packet belongs to the TCP connection of `key`, in either direction. -/
def OnConnection (key : DirectionKey) (packet : CapturedPacket) : Prop :=
  packet.IsTcp ∧ (key = directionOf packet ∨ key = reverseOf packet)

/-- The packet ends the incarnation of the connection of `key`. -/
def Resets (key : DirectionKey) (packet : CapturedPacket) : Prop :=
  OnConnection key packet ∧ packet.HasSynRst

/-- The packet carries payload in the direction `key`. -/
def Carries (key : DirectionKey) (packet : CapturedPacket) : Prop :=
  packet.IsTcp ∧ directionOf packet = key ∧ packet.payload ≠ []

instance (key : DirectionKey) (packet : CapturedPacket) : Decidable (OnConnection key packet) :=
  inferInstanceAs (Decidable (_ ∧ _))

instance (key : DirectionKey) (packet : CapturedPacket) : Decidable (Resets key packet) :=
  inferInstanceAs (Decidable (_ ∧ _))

instance (key : DirectionKey) (packet : CapturedPacket) : Decidable (Carries key packet) :=
  inferInstanceAs (Decidable (_ ∧ _))

/-- The entry of `key` after the SYN/RST check. -/
def entryAtPayload (directions : Directions) (key : DirectionKey) (packet : CapturedPacket) :
    Option DirectionState :=
  if Resets key packet then none else directions.lookup key

/-- The state in which a packet's payload meets its own direction. -/
def stateAtPayload (directions : Directions) (packet : CapturedPacket) : DirectionState :=
  (entryAtPayload directions (directionOf packet) packet).getD default

/-- That state after the check for a sequence gap. -/
def checkedState (directions : Directions) (packet : CapturedPacket) : DirectionState :=
  (stateAtPayload directions packet).dropOnGap packet.decoded.tcpSeq

/-- The framing of a packet's payload from the offset where a header is expected. -/
def framingOf (directions : Directions) (packet : CapturedPacket) : Framing :=
  framing packet.payload ((checkedState directions packet).entry packet.payload.length)

/-- What the payload of a packet does to its own direction. -/
def outcomeOf (config : TlsOptions) (directions : Directions) (packet : CapturedPacket) :
    SegmentOutcome :=
  segment config packet.payload packet.decoded.tcpSeq (stateAtPayload directions packet)

/-- **What the payload of a packet can do to its direction.** -/
theorem outcomeOf_cases (config : TlsOptions) (directions : Directions)
    (packet : CapturedPacket) :
    let state := checkedState directions packet
    let n := packet.payload.length
    let remaining := state.activeRecordRemainingBytes.toNat
    let confirmed := (stateAtPayload directions packet).confirmedTls
    let f := framingOf directions packet
    let out := outcomeOf config directions packet
    (state.hasActiveRecord = true ∧ n < remaining ∧
      out = segmentMiddle n packet.decoded.tcpSeq state) ∨
    (state.hasActiveRecord = true ∧ n = remaining ∧
      out = segmentLast config n packet.decoded.tcpSeq state) ∨
    (state.hasActiveRecord = true ∧ remaining < n ∧ state.activeRecordConstrictible = true ∧
      out = segmentReset state.clearActiveRecord) ∨
    ((state.hasActiveRecord = true → remaining < n ∧ state.activeRecordConstrictible = false) ∧
      (f.refused state.synchronized confirmed = true ∧
          out = segmentRefused confirmed state.framingStart ∨
        f.refused state.synchronized confirmed = false ∧
          out = segmentFrames config n packet.decoded.tcpSeq state.framingStart f)) :=
  segment_cases config packet.payload packet.decoded.tcpSeq (stateAtPayload directions packet)

/-- **Where an active record comes from.** Behind a payload, a direction tracks a record only when
the payload lies inside the one it tracked before, or when a record framed in the payload ends
behind it. -/
theorem outcomeOf_active {config : TlsOptions} {directions : Directions} {packet : CapturedPacket}
    {state : DirectionState} (hown : (outcomeOf config directions packet).own = some state)
    (hactive : state.hasActiveRecord = true) :
    let before := checkedState directions packet
    let n := packet.payload.length
    let remaining := before.activeRecordRemainingBytes.toNat
    let f := framingOf directions packet
    (before.hasActiveRecord = true ∧ n < remaining ∧
      (segmentMiddle n packet.decoded.tcpSeq before).own = some state) ∨
    ((before.hasActiveRecord = true → remaining < n ∧ before.activeRecordConstrictible = false) ∧
      f.refused before.synchronized (stateAtPayload directions packet).confirmedTls = false ∧
      (segmentFrames config n packet.decoded.tcpSeq before.framingStart f).own = some state) := by
  intro before n remaining f
  rcases outcomeOf_cases config directions packet with
    ⟨hwas, hlt, hout⟩ | ⟨-, -, hout⟩ | ⟨-, -, -, hout⟩ | ⟨hnot, ⟨-, hout⟩ | ⟨hrefused, hout⟩⟩ <;>
    rw [hout] at hown
  · exact Or.inl ⟨hwas, hlt, hown⟩
  · -- the record ends with the payload
    simp only [segmentLast, Option.some.injEq] at hown
    rw [← hown] at hactive
    cases hactive
  · -- the framing is forgotten
    simp only [segmentReset, DirectionState.forgetFraming] at hown
    split at hown
    · rw [← Option.some.inj hown] at hactive
      cases hactive
    · cases hown
  · -- nothing was accepted, so framing has not started
    simp only [segmentRefused] at hown
    split at hown
    · rw [← Option.some.inj hown, framingStart_inactive] at hactive
      cases hactive
    · cases hown
  · exact Or.inr ⟨hnot, hrefused, hown⟩

/-- The entry behind a reset is the one that the payload is looked at with. -/
theorem lookup_resetOnSynRst (directions : Directions) {packet : CapturedPacket}
    (htcp : packet.IsTcp) (key : DirectionKey) :
    (resetOnSynRst directions packet.decoded).lookup key
      = entryAtPayload directions key packet := by
  unfold resetOnSynRst entryAtPayload
  by_cases hflags : packet.HasSynRst
  · have hflags' : packet.decoded.tcpFlags &&& (kTcpFlagSyn ||| kTcpFlagRst) ≠ 0 := hflags
    simp only [hflags', ne_eq, not_false_eq_true, if_true, Table.lookup_erase]
    by_cases hd : key = makeDirectionKey packet.decoded <;>
      by_cases hr : key = makeReverseKey packet.decoded <;>
      simp [Resets, OnConnection, htcp, hflags, directionOf, reverseOf, hd, hr]
  · have hflags' : ¬ (packet.decoded.tcpFlags &&& (kTcpFlagSyn ||| kTcpFlagRst) ≠ 0) := hflags
    rw [if_neg hflags', if_neg fun h => hflags h.2]

/-- Any other packet changes nothing. -/
theorem step_of_not_tcp {packet : CapturedPacket} (htcp : ¬ packet.IsTcp) (config : TlsOptions)
    (directions : Directions) :
    step config directions packet = (directions, keepPacket packet.safeData .malformed) := by
  rw [step, evaluate]
  exact if_pos htcp

/-- A TCP packet resets its connection first, and then its payload is looked at. -/
theorem step_of_tcp {packet : CapturedPacket} (htcp : packet.IsTcp) (config : TlsOptions)
    (directions : Directions) :
    step config directions packet
      = if packet.payload = [] then
          (resetOnSynRst directions packet.decoded,
            keepPacket packet.safeData .noApplicationData)
        else
          evaluatePayload (resetOnSynRst directions packet.decoded) packet.safeData packet.decoded
            config := by
  have hdec := htcp.transportDecoded
  have hne : ¬ packet.decoded.transportProtocol ≠ .tcp := not_not.mpr htcp
  rw [step, evaluate, if_neg hne]
  have hempty : packet.payload = [] ↔ packet.decoded.transportPayloadLength = 0 := by
    rw [← List.length_eq_zero_iff, CapturedPacket.length_payload hdec]
  simp only [hempty]
  split
  · rfl
  · rw [if_neg (not_not.mpr hdec.hasBytes_payload)]

/-- A packet with payload, seen from the entry of any direction. -/
theorem step_of_payload {packet : CapturedPacket} (htcp : packet.IsTcp)
    (hpay : packet.payload ≠ []) (config : TlsOptions) (directions : Directions)
    (key : DirectionKey) :
    (step config directions packet).1.lookup key
        = storeOutcome (resetOnSynRst directions packet.decoded) (directionOf packet)
            (reverseOf packet) (outcomeOf config directions packet) key ∧
      (step config directions packet).2
        = (outcomeOf config directions packet).result packet.safeData
            packet.decoded.transportPayloadOffset := by
  have hvalue : (resetOnSynRst directions packet.decoded).value (directionOf packet)
      = stateAtPayload directions packet := by
    rw [Table.value, lookup_resetOnSynRst directions htcp, stateAtPayload]
  have hspec := evaluatePayload_spec (resetOnSynRst directions packet.decoded) packet.safeData
    packet.decoded config htcp.transportDecoded.hasBytes_payload key
  rw [← directionOf, hvalue] at hspec
  rw [step_of_tcp htcp, if_neg hpay]
  exact hspec

/-- The table evolves the same under all options. -/
theorem step_state (config config' : TlsOptions) (directions : Directions)
    (packet : CapturedPacket) :
    (step config directions packet).1 = (step config' directions packet).1 := by
  by_cases htcp : packet.IsTcp
  · by_cases hpay : packet.payload = []
    · rw [step_of_tcp htcp, if_pos hpay, step_of_tcp htcp, if_pos hpay]
    · refine Finmap.ext_lookup fun key => ?_
      obtain ⟨hown, hreverse⟩ := segment_state config config' packet.payload packet.decoded.tcpSeq
        (stateAtPayload directions packet)
      rw [(step_of_payload htcp hpay config directions key).1,
        (step_of_payload htcp hpay config' directions key).1, storeOutcome, storeOutcome,
        outcomeOf, outcomeOf, hown, hreverse]
  · rw [step_of_not_tcp htcp, step_of_not_tcp htcp]

/-- The answer for a packet with payload. -/
theorem step_result {packet : CapturedPacket} {key : DirectionKey} (h : Carries key packet)
    (config : TlsOptions) (directions : Directions) :
    (step config directions packet).2
      = (outcomeOf config directions packet).result packet.safeData
          packet.decoded.transportPayloadOffset :=
  (step_of_payload h.1 h.2.2 config directions key).2

/-- **What a packet can do to the entry of a direction.** -/
theorem step_entry (config : TlsOptions) (directions : Directions) (packet : CapturedPacket)
    (key : DirectionKey) :
    let entry := entryAtPayload directions key packet
    let entry' := (step config directions packet).1.lookup key
    (Carries key packet ∧ entry' = (outcomeOf config directions packet).own) ∨
    (¬ Carries key packet ∧ entry' = entry) ∨
    (¬ Carries key packet ∧ OnConnection key packet ∧ packet.payload ≠ [] ∧
      (outcomeOf config directions packet).confirmsReverse = true ∧
      entry' = some { entry.getD default with confirmedTls := true }) := by
  intro entry entry'
  by_cases htcp : packet.IsTcp
  · by_cases hpay : packet.payload = []
    · -- without payload only the SYN/RST check can change an entry
      refine Or.inr (Or.inl ⟨fun h => h.2.2 hpay, ?_⟩)
      simp only [entry', step_of_tcp htcp, if_pos hpay]
      exact lookup_resetOnSynRst directions htcp key
    · have hstep := (step_of_payload htcp hpay config directions key).1
      have hentry : (resetOnSynRst directions packet.decoded).lookup key = entry :=
        lookup_resetOnSynRst directions htcp key
      unfold storeOutcome at hstep
      split_ifs at hstep with hown hrev
      · exact Or.inl ⟨⟨htcp, hown.symm, hpay⟩, hstep⟩
      · refine Or.inr (Or.inr ⟨fun h => hown h.2.1.symm, ⟨htcp, Or.inr hrev.1⟩, hpay, hrev.2, ?_⟩)
        rw [Table.value, hentry] at hstep
        exact hstep
      · refine Or.inr (Or.inl ⟨fun h => hown h.2.1.symm, ?_⟩)
        rw [hentry] at hstep
        exact hstep
  · refine Or.inr (Or.inl ⟨fun h => htcp h.1, ?_⟩)
    simp only [entry', entry, step_of_not_tcp htcp, entryAtPayload]
    rw [if_neg fun h => htcp h.1.1]

/-- The entry that a packet's payload or confirmation meets was stored before, unless the packet
resets the connection. -/
theorem entryAtPayload_eq_some {directions : Directions} {key : DirectionKey}
    {packet : CapturedPacket} {state : DirectionState}
    (h : entryAtPayload directions key packet = some state) :
    ¬ Resets key packet ∧ directions.lookup key = some state := by
  unfold entryAtPayload at h
  split at h
  · cases h
  · next hresets => exact ⟨hresets, h⟩

/-- A state with a flag set that fresh entries lack is a stored one. -/
theorem entry_of_flag {directions : Directions} {key : DirectionKey} {packet : CapturedPacket}
    (flag : DirectionState → Bool) (hfresh : flag default = false)
    (h : flag ((entryAtPayload directions key packet).getD default) = true) :
    ∃ state, entryAtPayload directions key packet = some state ∧ flag state = true := by
  cases hentry : entryAtPayload directions key packet with
  | none =>
    rw [hentry, Option.getD_none, hfresh] at h
    cases h
  | some state =>
    rw [hentry, Option.getD_some] at h
    exact ⟨state, rfl, h⟩

/-- Only packets with payload are cut. -/
theorem carries_of_appDataPrefix {config : TlsOptions} {directions : Directions}
    {packet : CapturedPacket} (h : (step config directions packet).2.disposition = .appDataPrefix) :
    Carries (directionOf packet) packet := by
  by_cases htcp : packet.IsTcp
  · refine ⟨htcp, rfl, ?_⟩
    intro hpay
    rw [step_of_tcp htcp, if_pos hpay] at h
    cases h
  · rw [step_of_not_tcp htcp] at h
    cases h

/-- The output length of a packet with payload: all of it, or up to the cut. -/
theorem step_outputLen {packet : CapturedPacket} {key : DirectionKey} (h : Carries key packet)
    (config : TlsOptions) (directions : Directions) :
    (step config directions packet).2.outputLen.toNat
      = match (outcomeOf config directions packet).cut with
        | none => packet.safeData.length
        | some keep => packet.decoded.transportPayloadOffset + keep := by
  have hlt := packet.length_safeData_lt
  have hcut := segment_cut config packet.payload packet.decoded.tcpSeq
    (stateAtPayload directions packet)
  rw [← outcomeOf] at hcut
  rw [step_result h, SegmentOutcome.result]
  cases hkeep : (outcomeOf config directions packet).cut with
  | none => exact (UInt32.toNat_ofNat' ..).trans (Nat.mod_eq_of_lt hlt)
  | some keep =>
    rw [hkeep, CapturedPacket.length_payload h.1.transportDecoded] at hcut
    have hle := h.1.transportDecoded.payload_le_length
    exact (UInt32.toNat_ofNat' ..).trans (Nat.mod_eq_of_lt (by omega))

/-- A packet leaves the entries of other connections alone. -/
theorem lookup_step_of_not_onConnection (config : TlsOptions) (directions : Directions)
    {packet : CapturedPacket} {key : DirectionKey} (h : ¬ OnConnection key packet) :
    (step config directions packet).1.lookup key = directions.lookup key := by
  rcases step_entry config directions packet key with
    ⟨hcarries, -⟩ | ⟨-, hentry⟩ | ⟨-, hon, -⟩
  · exact absurd ⟨hcarries.1, Or.inl hcarries.2.1.symm⟩ h
  · rwa [entryAtPayload, if_neg fun hresets => h hresets.1] at hentry
  · exact absurd hon h

/-- What a packet does, and how it is answered, depends on the entry that meets its payload only. -/
theorem step_congr_entry (config : TlsOptions) {s t : Directions} {packet : CapturedPacket}
    (htcp : packet.IsTcp) (h : entryAtPayload s (directionOf packet) packet
      = entryAtPayload t (directionOf packet) packet) :
    (step config s packet).2 = (step config t packet).2 ∧
      ∀ key, entryAtPayload s key packet = entryAtPayload t key packet →
        (step config s packet).1.lookup key = (step config t packet).1.lookup key := by
  by_cases hpay : packet.payload = []
  · simp only [step_of_tcp htcp, if_pos hpay, lookup_resetOnSynRst _ htcp]
    exact ⟨trivial, fun _ hkey => hkey⟩
  · have hout : outcomeOf config s packet = outcomeOf config t packet := by
      rw [outcomeOf, outcomeOf, stateAtPayload, stateAtPayload, h]
    have hs := step_of_payload htcp hpay config s
    have ht := step_of_payload htcp hpay config t
    refine ⟨?_, ?_⟩
    · rw [(hs (directionOf packet)).2, (ht (directionOf packet)).2, hout]
    · intro key hkey
      rw [(hs key).1, (ht key).1, hout, storeOutcome, storeOutcome, Table.value, Table.value,
        lookup_resetOnSynRst _ htcp, lookup_resetOnSynRst _ htcp, hkey]

/-- What a packet does, and how it is answered, depends on the entry of its own direction only. -/
theorem step_congr (config : TlsOptions) {s t : Directions} {packet : CapturedPacket}
    (h : s.lookup (directionOf packet) = t.lookup (directionOf packet)) :
    (step config s packet).2 = (step config t packet).2 ∧
      ∀ key, s.lookup key = t.lookup key →
        (step config s packet).1.lookup key = (step config t packet).1.lookup key := by
  by_cases htcp : packet.IsTcp
  · have hentry : ∀ key, s.lookup key = t.lookup key →
        entryAtPayload s key packet = entryAtPayload t key packet := by
      intro key hkey
      unfold entryAtPayload
      rw [hkey]
    obtain ⟨hanswer, hlookup⟩ := step_congr_entry config htcp (hentry _ h)
    exact ⟨hanswer, fun key hkey => hlookup key (hentry key hkey)⟩
  · simp only [step_of_not_tcp htcp]
    exact ⟨trivial, fun _ hkey => hkey⟩

end TlsConstrictor

end PcapConstrictor
