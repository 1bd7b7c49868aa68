import Mathlib.Algebra.Order.BigOperators.Group.Finset
import Mathlib.Data.Sym.Sym2
import PcapConstrictor.Policy.TlsProvenance
import PcapConstrictor.Policy.TlsConfirmation

/-!
# The TLS table holds coherent entries of TLS connections

`Evaluate` inserts the entry of a packet's direction before it knows whether the payload is TLS, and
erases it again on the paths that find it is not. `coherent_run` shows that this never leaves an
entry behind: every stored entry is confirmed and coherent, and the connection of every stored entry
has had a Handshake record accepted, so the table has at most two entries for each such connection.
-/

namespace PcapConstrictor.TlsConstrictor

open ByteString

/-! ## Coherent entries -/

/-- The fields of an entry that track a record agree with each other. -/
structure Consistent (state : DirectionState) : Prop where
  active : state.hasActiveRecord = true →
    state.synchronized = true ∧ 1 ≤ state.activeRecordRemainingBytes.toNat ∧
      state.activeRecordRemainingBytes.toNat ≤ 65535 ∧
      0x14 ≤ state.activeRecordContentType ∧ state.activeRecordContentType ≤ 0x17
  inactive : state.hasActiveRecord = false →
    state.activeRecordContentType = 0 ∧ state.activeRecordRemainingBytes = 0 ∧
      state.activeRecordConstrictible = false
  unsynchronized : state.synchronized = false →
    state.expectedTcpSeq = 0 ∧ state.hasActiveRecord = false

/-- A stored entry is confirmed as TLS and its fields agree. -/
structure Coherent (state : DirectionState) : Prop extends Consistent state where
  confirmed : state.confirmedTls = true

/-- A direction that was never seen is consistent. -/
theorem Consistent.fresh : Consistent default :=
  ⟨nofun, fun _ => ⟨rfl, rfl, rfl⟩, fun _ => ⟨rfl, rfl⟩⟩

/-- An entry without an active record in a synchronized direction. -/
theorem Consistent.of_cleared (state : DirectionState) (h : state.synchronized = true)
    (expected : UInt32) :
    Consistent { state.clearActiveRecord with expectedTcpSeq := expected } where
  active := nofun
  inactive := fun _ => ⟨rfl, rfl, rfl⟩
  unsynchronized := fun hsync => absurd (h.symm.trans hsync) (by decide)

/-- Confirmation does not touch the tracked record. -/
theorem Consistent.confirm {state : DirectionState} (h : Consistent state) :
    Coherent { state with confirmedTls := true } := ⟨⟨h.1, h.2, h.3⟩, rfl⟩

/-- Dropping a record at a gap keeps a state consistent. -/
theorem Consistent.dropOnGap {state : DirectionState} (h : Consistent state) (tcpSeq : UInt32) :
    Consistent (state.dropOnGap tcpSeq) := by
  unfold DirectionState.dropOnGap
  split
  · exact ⟨nofun, fun _ => ⟨rfl, rfl, rfl⟩, fun _ => ⟨rfl, rfl⟩⟩
  · exact h

/-- Starting to frame keeps a state consistent. -/
theorem Consistent.framingStart {state : DirectionState} (h : Consistent state) :
    Consistent state.framingStart := by
  unfold DirectionState.framingStart
  split
  · next hactive => exact Consistent.of_cleared state (h.active hactive).1 state.expectedTcpSeq
  · exact h

/-- A payload is looked at in a consistent state. -/
theorem Consistent.stateAtPayload {directions : Directions}
    (h : ∀ key state, directions.lookup key = some state → Coherent state)
    (packet : CapturedPacket) : Consistent (stateAtPayload directions packet) := by
  unfold TlsConstrictor.stateAtPayload
  cases hentry : entryAtPayload directions (directionOf packet) packet with
  | none => exact .fresh
  | some state => exact (h _ _ (entryAtPayload_eq_some hentry).2).toConsistent

/-! ## One payload -/

/-- A record that runs past the end of the payload leaves between 1 and 65535 bytes to come: its
header lies inside the payload. -/
theorem missing_bounds {payload : Bytes} {offset : ℕ} {record : FramedRecord}
    (h : (framing payload offset).overhang payload.length = some record) :
    1 ≤ record.totalSize - (payload.length - record.offset) ∧
      record.totalSize - (payload.length - record.offset) ≤ 65535 ∧
      0x14 ≤ record.contentType ∧ record.contentType ≤ 0x17 := by
  obtain ⟨hmem, hlt⟩ := overhang_eq_some h
  obtain ⟨-, -, length, hread, htotal⟩ := framing_mem hmem
  have hlength := length.toNat_lt
  obtain ⟨hfits, -⟩ := readTlsRecordHeader_eq_some hread
  simp only [kTlsRecordHeaderSize] at hfits htotal
  exact ⟨by omega, by omega, contentType_of_header hread⟩

/-- A framing that starts inside the payload and is accepted by an unsynchronized direction holds a
record. -/
theorem records_ne_nil {payload : Bytes} {offset : ℕ} {confirmed : Bool}
    (h : offset < payload.length)
    (hrefused : (framing payload offset).refused false confirmed = false) :
    (framing payload offset).records ≠ [] := by
  cases hread : readTlsRecordHeader payload offset with
  | none =>
    rw [framing_of_none h hread] at hrefused
    cases hrefused
  | some header =>
    by_cases hlen : kTlsRecordHeaderSize + header.2.toNat > payload.length - offset
    · rw [framing_of_overhang h hread hlen]
      exact List.cons_ne_nil _ _
    · rw [framing_of_fits h hread hlen]
      exact List.cons_ne_nil _ _

/-- The state behind an accepted framing is synchronized. -/
theorem Consistent.afterFraming_synchronized {state : DirectionState} {payload : Bytes}
    {confirmed : Bool} (h : Consistent state) (hpayload : payload ≠ [])
    (hrefused : (framing payload (state.entry payload.length)).refused state.synchronized confirmed
      = false) :
    (state.framingStart.afterFraming (framing payload (state.entry payload.length))
      payload.length).synchronized = true := by
  rw [TlsConstrictor.afterFraming_synchronized, framingStart_synchronized]
  cases hsync : state.synchronized with
  | true => rfl
  | false =>
    -- an unsynchronized direction frames from the start of the payload
    have hentry : state.entry payload.length = 0 := by
      rw [DirectionState.entry, if_neg]
      rw [(h.unsynchronized hsync).2]
      exact Bool.false_ne_true
    rw [hsync, hentry] at hrefused
    have hne := records_ne_nil (List.length_pos_iff.mpr hpayload) hrefused
    rw [hentry]
    cases hrecords : (framing payload 0).records with
    | nil => exact absurd hrecords hne
    | cons record records => rfl

/-- Framing keeps the fields consistent. -/
theorem Consistent.afterFraming {state : DirectionState} {payload : Bytes} {offset : ℕ}
    (h : Consistent state) (hinactive : state.hasActiveRecord = false)
    (hsync : (state.afterFraming (framing payload offset) payload.length).synchronized = true)
    (expected : UInt32) :
    Consistent { state.afterFraming (framing payload offset) payload.length with
      expectedTcpSeq := expected } := by
  have hfields := h.inactive hinactive
  refine ⟨?_, ?_, fun hunsync => absurd (hsync.symm.trans hunsync) (by decide)⟩
  · intro hactive
    refine ⟨hsync, ?_⟩
    unfold DirectionState.afterFraming at hactive ⊢
    cases hover : (framing payload offset).overhang payload.length with
    | none =>
      rw [hover] at hactive
      exact absurd (hinactive.symm.trans hactive) (by decide)
    | some record =>
      obtain ⟨hpos, hle, htype⟩ := missing_bounds hover
      have htoNat := toNat_missing (overhang_eq_some hover).1
      dsimp only
      rw [htoNat]
      exact ⟨hpos, hle, htype⟩
  · intro hnone
    unfold DirectionState.afterFraming at hnone ⊢
    cases hover : (framing payload offset).overhang payload.length with
    | none => exact hfields
    | some record =>
      rw [hover] at hnone
      cases hnone

/-- **What a payload leaves behind is coherent.** -/
theorem outcomeOf_coherent {config : TlsOptions} {directions : Directions}
    {packet : CapturedPacket}
    (hinv : ∀ key state, directions.lookup key = some state → Coherent state)
    (hpayload : packet.payload ≠ []) {state : DirectionState}
    (hown : (outcomeOf config directions packet).own = some state) : Coherent state := by
  have hbefore := Consistent.stateAtPayload hinv packet
  have hchecked : Consistent (checkedState directions packet) := hbefore.dropOnGap _
  have hconfirmed : state.synchronized = true → state.confirmedTls = true := by
    refine outcomeOf_synchronized ?_ hown
    refine stateAtPayload_syncConfirmed ?_ packet
    exact fun key stored hstored _ => (hinv key stored hstored).confirmed
  rcases outcomeOf_cases config directions packet with
    ⟨hactive, hlt, hout⟩ | ⟨hactive, -, hout⟩ | ⟨-, -, -, hout⟩ |
    ⟨-, ⟨-, hout⟩ | ⟨hrefused, hout⟩⟩ <;> rw [hout] at hown
  · -- the record goes on
    obtain ⟨hsync, -, hle, htype⟩ := hchecked.active hactive
    rw [segmentMiddle, Option.some.injEq] at hown
    subst hown
    refine ⟨⟨fun _ => ⟨hsync, ?_, ?_, htype⟩, fun h => absurd (hactive.symm.trans h) (by decide),
      fun h => absurd (hsync.symm.trans h) (by decide)⟩, hconfirmed hsync⟩
    · rw [toNat_sub_ofNat hlt]
      omega
    · rw [toNat_sub_ofNat hlt]
      omega
  · -- the record ends with the payload
    obtain ⟨hsync, -⟩ := hchecked.active hactive
    simp only [segmentLast, Option.some.injEq] at hown
    subst hown
    exact ⟨.of_cleared _ hsync _, hconfirmed hsync⟩
  · -- the framing is forgotten
    simp only [segmentReset, DirectionState.forgetFraming] at hown
    split at hown
    · rw [← Option.some.inj hown]
      exact ⟨⟨fun h => absurd h Bool.false_ne_true, fun _ => ⟨rfl, rfl, rfl⟩, fun _ => ⟨rfl, rfl⟩⟩,
        rfl⟩
    · cases hown
  · -- nothing was accepted
    simp only [segmentRefused] at hown
    split at hown
    · next hconf =>
      rw [← Option.some.inj hown]
      refine ⟨hchecked.framingStart, ?_⟩
      rw [framingStart_confirmedTls, checkedState_confirmedTls]
      exact hconf
    · cases hown
  · -- the framing is accepted
    have hsync := hchecked.afterFraming_synchronized hpayload hrefused
    simp only [segmentFrames, segmentFramed, Option.some.injEq] at hown
    subst hown
    exact ⟨hchecked.framingStart.afterFraming (framingStart_inactive _) hsync _, hconfirmed hsync⟩

/-! ## Runs -/

/-- Every stored entry is coherent. -/
def AllCoherent (directions : Directions) : Prop :=
  ∀ key state, directions.lookup key = some state → Coherent state

/-- A step keeps every entry coherent. -/
theorem allCoherent_step (config : TlsOptions) (directions : Directions) (packet : CapturedPacket)
    (hinv : AllCoherent directions) : AllCoherent (step config directions packet).1 := by
  intro key state hlookup
  rcases step_entry config directions packet key with
    ⟨hcarries, hentry⟩ | ⟨-, hentry⟩ | ⟨-, -, -, -, hentry⟩ <;> rw [hlookup] at hentry
  · exact outcomeOf_coherent hinv hcarries.2.2 hentry.symm
  · exact hinv key state (entryAtPayload_eq_some hentry.symm).2
  · -- the reverse direction is confirmed
    rw [Option.some.inj hentry]
    refine Consistent.confirm ?_
    cases hstored : entryAtPayload directions key packet with
    | none => exact .fresh
    | some stored => exact (hinv key stored (entryAtPayload_eq_some hstored).2).toConsistent

/-- One call of `Evaluate`, with the options given to it. -/
def call (directions : Directions) (input : TlsOptions × CapturedPacket) :
    Directions × TlsConstrictResult :=
  step input.1 directions input.2

/-- The table of a run does not depend on the options of its calls. -/
theorem after_call (config : TlsOptions) (directions : Directions)
    (inputs : List (TlsOptions × CapturedPacket)) :
    Transducer.after call directions inputs
      = Transducer.after (step config) directions (inputs.map Prod.snd) := by
  induction inputs generalizing directions with
  | nil => rfl
  | cons input inputs ih =>
    rw [List.map_cons, Transducer.after_cons, Transducer.after_cons, ih, call,
      step_state input.1 config]

/-- Every entry of a reachable table is coherent. -/
theorem allCoherent_run (inputs : List (TlsOptions × CapturedPacket)) :
    AllCoherent (Transducer.after call ∅ inputs) :=
  Transducer.invariant call (fun _ => AllCoherent) (fun _ _ h => by simp at h)
    (fun _ t x h => allCoherent_step x.1 t x.2 h) inputs

/-- The TCP connection of a packet, as the two directions it has. -/
def connectionOf (packet : CapturedPacket) : Sym2 DirectionKey :=
  s(directionOf packet, reverseOf packet)

instance (directions : Directions) (packet : CapturedPacket) :
    Decidable (FramesHandshake directions packet) :=
  inferInstanceAs (Decidable (_ ∧ _))

/-- The connections on which the header of a Handshake record is accepted in a run. -/
def handshakeConnections (directions : Directions) :
    List (TlsOptions × CapturedPacket) → Finset (Sym2 DirectionKey)
  | [] => ∅
  | input :: inputs =>
    (if FramesHandshake directions input.2 then {connectionOf input.2} else ∅) ∪
      handshakeConnections (call directions input).1 inputs

/-- A packet that frames a handshake counts for its connection. -/
theorem mem_handshakeConnections {directions : Directions}
    {before after : List (TlsOptions × CapturedPacket)} {input : TlsOptions × CapturedPacket}
    (h : FramesHandshake (Transducer.after call directions before) input.2) :
    connectionOf input.2 ∈ handshakeConnections directions (before ++ input :: after) := by
  induction before generalizing directions with
  | nil =>
    have hframes : FramesHandshake directions input.2 := h
    rw [List.nil_append, handshakeConnections, if_pos hframes]
    exact Finset.mem_union_left _ (Finset.mem_singleton_self _)
  | cons first before ih => exact Finset.mem_union_right _ (ih h)

/-- The connection of a stored entry has had a Handshake accepted. -/
theorem handshake_of_stored (inputs : List (TlsOptions × CapturedPacket)) {key : DirectionKey}
    {state : DirectionState} (h : (Transducer.after call ∅ inputs).lookup key = some state) :
    ∃ connection ∈ handshakeConnections ∅ inputs, key ∈ connection := by
  have hconfirmed := (allCoherent_run inputs key state h).confirmed
  rw [after_call {}] at h
  obtain ⟨before, packet, after, hsplit, hon, hframes, -⟩ :=
    (confirmed_run {} (inputs.map Prod.snd)).2 key state h hconfirmed
  obtain ⟨before, rest, rfl, rfl, hrest⟩ := List.map_eq_append_iff.mp hsplit
  obtain ⟨input, after, rfl, rfl, rfl⟩ := List.map_eq_cons_iff.mp hrest
  rw [← after_call] at hframes
  exact ⟨connectionOf input.2, mem_handshakeConnections hframes, Sym2.mem_iff.mpr hon.2⟩

/-- **The TLS table holds coherent entries of TLS connections.** After every run, over any packets
and options, every entry is coherent and belongs to a connection on which a Handshake was accepted,
and there are at most two entries for each such connection. -/
theorem coherent_run (inputs : List (TlsOptions × CapturedPacket)) :
    let directions := Transducer.after call ∅ inputs
    let handshakes := handshakeConnections ∅ inputs
    (∀ key state, directions.lookup key = some state →
      Coherent state ∧ ∃ connection ∈ handshakes, key ∈ connection) ∧
    directions.keys.card ≤ 2 * handshakes.card := by
  intro directions handshakes
  refine ⟨fun key state h => ⟨allCoherent_run inputs key state h, handshake_of_stored inputs h⟩, ?_⟩
  have hsubset : directions.keys ⊆ handshakes.biUnion Sym2.toFinset := by
    intro key hkey
    obtain ⟨state, hstate⟩ := Finmap.mem_iff.mp (Finmap.mem_keys.mp hkey)
    obtain ⟨connection, hmem, hin⟩ := handshake_of_stored inputs hstate
    exact Finset.mem_biUnion.mpr ⟨connection, hmem, Sym2.mem_toFinset.mpr hin⟩
  calc directions.keys.card ≤ (handshakes.biUnion Sym2.toFinset).card :=
        Finset.card_le_card hsubset
    _ ≤ handshakes.card * 2 := by
        refine Finset.card_biUnion_le_card_mul _ _ _ fun connection _ => ?_
        rw [Sym2.card_toFinset]
        split <;> decide
    _ = 2 * handshakes.card := Nat.mul_comm _ _

end PcapConstrictor.TlsConstrictor
