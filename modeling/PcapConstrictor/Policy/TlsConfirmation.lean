import PcapConstrictor.Policy.TlsRun

/-!
# Confirmation as TLS

A direction is confirmed when a Handshake record was framed in it or in its reverse direction since
the last SYN or RST of the connection. `confirmed_run` keeps that along every run, and
`syncConfirmed_run` shows that only a confirmed direction is ever synchronized; a packet is only cut
in a synchronized direction, hence only in a confirmed one.
-/

namespace PcapConstrictor.TlsConstrictor

open ByteString

/-- The records that `Evaluate` frames in the payload of a packet. Nothing is framed while an
Application Data record goes on, nor when the first header is refused. -/
def framedRecords (directions : Directions) (packet : CapturedPacket) : List FramedRecord :=
  let state := checkedState directions packet
  let f := framingOf directions packet
  if state.hasActiveRecord && state.activeRecordConstrictible ||
      f.refused state.synchronized (stateAtPayload directions packet).confirmedTls then []
  else f.records

/-- An accepted framing is what is framed. -/
theorem framedRecords_of_framed {directions : Directions} {packet : CapturedPacket}
    (hactive : (checkedState directions packet).hasActiveRecord = true →
      (checkedState directions packet).activeRecordRemainingBytes.toNat
          < packet.payload.length ∧
        (checkedState directions packet).activeRecordConstrictible = false)
    (hrefused : (framingOf directions packet).refused
      (checkedState directions packet).synchronized
      (stateAtPayload directions packet).confirmedTls = false) :
    framedRecords directions packet = (framingOf directions packet).records := by
  unfold framedRecords
  dsimp only
  rw [hrefused, if_neg]
  simpa using fun h => (hactive h).2

/-- The records that count are among those framed. -/
theorem framedRecords_subset {directions : Directions} {packet : CapturedPacket}
    {framed : FramedRecord} (h : framed ∈ framedRecords directions packet) :
    framed ∈ (framingOf directions packet).records := by
  unfold framedRecords at h
  dsimp only at h
  split at h
  · cases h
  · exact h

/-- A Handshake record is framed in the payload of a TCP packet. -/
def FramesHandshake (directions : Directions) (packet : CapturedPacket) : Prop :=
  packet.IsTcp ∧ ∃ record ∈ framedRecords directions packet, record.contentType = kTlsHandshake

/-- `inputs` hold a Handshake of the connection of `key` that no later SYN or RST undoes. -/
def Confirmed (config : TlsOptions) (key : DirectionKey) (inputs : List CapturedPacket) : Prop :=
  ∃ before packet after, inputs = before ++ packet :: after ∧ OnConnection key packet ∧
    FramesHandshake (Transducer.after (step config) ∅ before) packet ∧
    ∀ later ∈ after, ¬ Resets key later

/-! ## One payload -/

/-- The flag tells whether a Handshake record was framed. -/
theorem hasHandshake_iff (f : Framing) :
    f.hasHandshake = true ↔ ∃ record ∈ f.records, record.contentType = kTlsHandshake := by
  simp [Framing.hasHandshake, FramedRecord.isHandshake]

/-- Framing confirms a direction when it finds a handshake. -/
theorem afterFraming_confirmedTls (state : DirectionState) (f : Framing) (n : ℕ) :
    (state.afterFraming f n).confirmedTls = (state.confirmedTls || f.hasHandshake) := by
  unfold DirectionState.afterFraming
  cases f.overhang n <;> rfl

/-- Framing synchronizes a direction when it finds a record. -/
theorem afterFraming_synchronized (state : DirectionState) (f : Framing) (n : ℕ) :
    (state.afterFraming f n).synchronized = (state.synchronized || !f.records.isEmpty) := by
  unfold DirectionState.afterFraming
  cases f.overhang n <;> rfl

/-- Checking for a gap does not change whether a direction is confirmed. -/
theorem checkedState_confirmedTls (directions : Directions) (packet : CapturedPacket) :
    (checkedState directions packet).confirmedTls
      = (stateAtPayload directions packet).confirmedTls := by
  unfold checkedState DirectionState.dropOnGap
  split <;> rfl

/-- Checking for a gap never synchronizes a direction. -/
theorem checkedState_synchronized {directions : Directions} {packet : CapturedPacket}
    (h : (checkedState directions packet).synchronized = true) :
    (stateAtPayload directions packet).synchronized = true := by
  unfold checkedState DirectionState.dropOnGap at h
  split at h
  · cases h
  · exact h

/-- Starting to frame does not change whether a direction is confirmed. -/
theorem framingStart_confirmedTls (state : DirectionState) :
    state.framingStart.confirmedTls = state.confirmedTls := by
  unfold DirectionState.framingStart
  split <;> rfl

theorem framingStart_synchronized (state : DirectionState) :
    state.framingStart.synchronized = state.synchronized := by
  unfold DirectionState.framingStart
  split <;> rfl

/-- Confirmation comes from the records framed. -/
theorem outcomeOf_confirms {config : TlsOptions} {directions : Directions}
    {packet : CapturedPacket} :
    ((outcomeOf config directions packet).confirmsReverse = true →
      ∃ record ∈ framedRecords directions packet, record.contentType = kTlsHandshake) ∧
    ∀ state, (outcomeOf config directions packet).own = some state → state.confirmedTls = true →
      (stateAtPayload directions packet).confirmedTls = true ∨
        ∃ record ∈ framedRecords directions packet, record.contentType = kTlsHandshake := by
  rcases outcomeOf_cases config directions packet with
    ⟨-, -, hout⟩ | ⟨-, -, hout⟩ | ⟨-, -, -, hout⟩ | ⟨hactive, ⟨-, hout⟩ | ⟨hrefused, hout⟩⟩ <;>
    rw [hout]
  · -- the first four outcomes keep the flag as it was
    refine ⟨fun h => absurd h Bool.false_ne_true, ?_⟩
    intro state hown hconfirmed
    left
    rw [segmentMiddle, Option.some.injEq] at hown
    rwa [← hown, checkedState_confirmedTls] at hconfirmed
  · refine ⟨fun h => absurd h Bool.false_ne_true, ?_⟩
    intro state hown hconfirmed
    left
    simp only [segmentLast, Option.some.injEq] at hown
    subst hown
    rwa [← checkedState_confirmedTls]
  · refine ⟨fun h => absurd h Bool.false_ne_true, ?_⟩
    intro state hown hconfirmed
    left
    simp only [segmentReset, DirectionState.forgetFraming] at hown
    split at hown
    · next h => rwa [← checkedState_confirmedTls]
    · cases hown
  · refine ⟨fun h => absurd h Bool.false_ne_true, ?_⟩
    intro state hown hconfirmed
    left
    simp only [segmentRefused] at hown
    split at hown
    · next h => exact h
    · cases hown
  · -- only a framing that is accepted confirms anything
    rw [framedRecords_of_framed hactive hrefused, ← hasHandshake_iff]
    refine ⟨id, ?_⟩
    intro state hown hconfirmed
    simp only [segmentFrames, segmentFramed, Option.some.injEq] at hown
    subst hown
    rwa [afterFraming_confirmedTls, framingStart_confirmedTls, checkedState_confirmedTls,
      Bool.or_eq_true] at hconfirmed

/-- A payload synchronizes a direction only if it was confirmed, or is by this payload. -/
theorem outcomeOf_synchronized {config : TlsOptions} {directions : Directions}
    {packet : CapturedPacket}
    (hbefore : (stateAtPayload directions packet).synchronized = true →
      (stateAtPayload directions packet).confirmedTls = true)
    {state : DirectionState} (hown : (outcomeOf config directions packet).own = some state)
    (hsync : state.synchronized = true) : state.confirmedTls = true := by
  have hchecked : (checkedState directions packet).synchronized = true →
      (checkedState directions packet).confirmedTls = true := by
    intro h
    rw [checkedState_confirmedTls]
    exact hbefore (checkedState_synchronized h)
  rcases outcomeOf_cases config directions packet with
    ⟨-, -, hout⟩ | ⟨-, -, hout⟩ | ⟨-, -, -, hout⟩ | ⟨-, ⟨-, hout⟩ | ⟨hrefused, hout⟩⟩ <;>
    rw [hout] at hown
  · rw [segmentMiddle, Option.some.injEq] at hown
    subst hown
    exact hchecked hsync
  · simp only [segmentLast, Option.some.injEq] at hown
    subst hown
    exact hchecked hsync
  · simp only [segmentReset, DirectionState.forgetFraming] at hown
    split at hown
    · rw [← Option.some.inj hown]
    · cases hown
  · simp only [segmentRefused] at hown
    split at hown
    · next h => rwa [← Option.some.inj hown, framingStart_confirmedTls, checkedState_confirmedTls]
    · cases hown
  · simp only [segmentFrames, segmentFramed, Option.some.injEq] at hown
    subst hown
    rw [afterFraming_synchronized, framingStart_synchronized, Bool.or_eq_true] at hsync
    rw [afterFraming_confirmedTls, framingStart_confirmedTls, Bool.or_eq_true]
    -- an unsynchronized direction accepts its first header only as a Handshake or when confirmed
    by_cases hwas : (checkedState directions packet).synchronized = true
    · exact Or.inl (hchecked hwas)
    · have hframed := hsync.resolve_left hwas
      revert hrefused hframed
      obtain ⟨records, valid⟩ := framingOf directions packet
      cases records with
      | nil => simp
      | cons record records =>
        rw [refused_cons, Bool.eq_false_iff.mpr hwas, checkedState_confirmedTls]
        simp only [Framing.hasHandshake, FramedRecord.isHandshake, List.any_cons]
        by_cases hh : record.contentType = kTlsHandshake
        · simp [hh]
        · simpa [hh] using Or.inl

/-- Only synchronized directions are cut. -/
theorem outcomeOf_cut {config : TlsOptions} {directions : Directions} {packet : CapturedPacket}
    (h : (outcomeOf config directions packet).disposition = .appDataPrefix) :
    ∃ state, (outcomeOf config directions packet).own = some state ∧
      state.synchronized = true := by
  rcases outcomeOf_cases config directions packet with
    ⟨-, -, hout⟩ | ⟨-, -, hout⟩ | ⟨-, -, -, hout⟩ | ⟨-, ⟨-, hout⟩ | ⟨-, hout⟩⟩ <;>
    rw [hout] at h ⊢
  · simp only [segmentMiddle] at h
    split at h <;> cases h
  · refine ⟨_, rfl, ?_⟩
    simp only [segmentLast] at h
    split at h
    · next hcuts => simp_all [DirectionState.clearActiveRecord]
    · split at h <;> cases h
  · cases h
  · cases h
  · refine ⟨_, rfl, ?_⟩
    simp only [segmentFrames, segmentFramed] at h
    split at h
    · cases h
    split at h
    · cases h
    split at h
    · next hcuts =>
      simp only [Bool.and_eq_true] at hcuts
      exact hcuts.1.1.2
    · split at h <;> cases h

/-! ## Runs -/

/-- A packet that does not reset the connection keeps an earlier Handshake valid. -/
theorem Confirmed.concat {config : TlsOptions} {key : DirectionKey} {inputs : List CapturedPacket}
    (h : Confirmed config key inputs) {packet : CapturedPacket} (hresets : ¬ Resets key packet) :
    Confirmed config key (inputs ++ [packet]) := by
  obtain ⟨before, first, after, rfl, hon, hframes, hafter⟩ := h
  refine ⟨before, first, after ++ [packet], by simp, hon, hframes, ?_⟩
  intro later hlater
  rcases List.mem_append.mp hlater with hlater | hlater
  · exact hafter later hlater
  · rwa [List.mem_singleton.mp hlater]

/-- The invariant of a run: every confirmed direction has seen a Handshake. -/
def AllConfirmed (config : TlsOptions) (inputs : List CapturedPacket) (directions : Directions) :
    Prop :=
  directions = Transducer.after (step config) ∅ inputs ∧
    ∀ key state, directions.lookup key = some state → state.confirmedTls = true →
      Confirmed config key inputs

/-- **Step lemma.** Every packet keeps the invariant. -/
theorem allConfirmed_step (config : TlsOptions) (inputs : List CapturedPacket)
    (directions : Directions) (packet : CapturedPacket)
    (hinv : AllConfirmed config inputs directions) :
    AllConfirmed config (inputs ++ [packet]) (step config directions packet).1 := by
  obtain ⟨hrun, hinv⟩ := hinv
  refine ⟨by rw [Transducer.after_concat, hrun], ?_⟩
  intro key state hlookup hconfirmed
  -- a Handshake framed in this packet, or an earlier one the packet does not undo
  have hnow : OnConnection key packet →
      (∃ record ∈ framedRecords directions packet, record.contentType = kTlsHandshake) →
      Confirmed config key (inputs ++ [packet]) := by
    intro hon hframed
    exact ⟨inputs, packet, [], rfl, hon, ⟨hon.1, hrun ▸ hframed⟩, by simp⟩
  have hold : ∀ old, entryAtPayload directions key packet = some old → old.confirmedTls = true →
      Confirmed config key (inputs ++ [packet]) := by
    intro old hentry hconfirmed
    obtain ⟨hresets, hstored⟩ := entryAtPayload_eq_some hentry
    exact (hinv key old hstored hconfirmed).concat hresets
  rcases step_entry config directions packet key with
    ⟨hcarries, hentry⟩ | ⟨hcarries, hentry⟩ | ⟨-, hon, -, hreverse, -⟩
  · have hon : OnConnection key packet := ⟨hcarries.1, Or.inl hcarries.2.1.symm⟩
    rw [hlookup] at hentry
    rcases outcomeOf_confirms.2 state hentry.symm hconfirmed with hbefore | hframed
    · obtain ⟨old, hstored, hbefore⟩ := entry_of_flag (·.confirmedTls) rfl hbefore
      exact hold old (hcarries.2.1 ▸ hstored) hbefore
    · exact hnow hon hframed
  · rw [hlookup] at hentry
    exact hold state hentry.symm hconfirmed
  · exact hnow hon (outcomeOf_confirms.1 hreverse)

/-- **Confirmation.** Along every run, a confirmed direction has seen a Handshake that no later SYN
or RST undoes. -/
theorem confirmed_run (config : TlsOptions) (inputs : List CapturedPacket) :
    AllConfirmed config inputs (Transducer.after (step config) ∅ inputs) :=
  Transducer.invariant (step config) (AllConfirmed config) ⟨rfl, fun _ _ h => by simp at h⟩
    (fun read t x h => allConfirmed_step config read t x h) inputs

/-- Only confirmed directions are synchronized. -/
def SyncConfirmed (directions : Directions) : Prop :=
  ∀ key state, directions.lookup key = some state → state.synchronized = true →
    state.confirmedTls = true

/-- The invariant, for the state in which a payload is looked at. -/
theorem stateAtPayload_syncConfirmed {directions : Directions} (hinv : SyncConfirmed directions)
    (packet : CapturedPacket) (h : (stateAtPayload directions packet).synchronized = true) :
    (stateAtPayload directions packet).confirmedTls = true := by
  obtain ⟨state, hstate, hsync⟩ := entry_of_flag (·.synchronized) rfl h
  rw [stateAtPayload, hstate, Option.getD_some]
  exact hinv _ _ (entryAtPayload_eq_some hstate).2 hsync

/-- A step keeps every synchronized direction confirmed. -/
theorem syncConfirmed_step (config : TlsOptions) (directions : Directions)
    (packet : CapturedPacket) (hinv : SyncConfirmed directions) :
    SyncConfirmed (step config directions packet).1 := by
  intro key state hlookup hsync
  rcases step_entry config directions packet key with
    ⟨-, hentry⟩ | ⟨-, hentry⟩ | ⟨-, -, -, -, hentry⟩ <;> rw [hlookup] at hentry
  · exact outcomeOf_synchronized (stateAtPayload_syncConfirmed hinv packet) hentry.symm hsync
  · exact hinv key state (entryAtPayload_eq_some hentry.symm).2 hsync
  · rw [Option.some.inj hentry]

/-- In every reachable table, the synchronized directions are confirmed. -/
theorem syncConfirmed_run (config : TlsOptions) (inputs : List CapturedPacket) :
    SyncConfirmed (Transducer.after (step config) ∅ inputs) :=
  Transducer.invariant (step config) (fun _ => SyncConfirmed) (fun _ _ h => by simp at h)
    (fun _ t x h => syncConfirmed_step config t x h) inputs

/-- A packet that is cut belongs to a connection with a Handshake, seen in this packet or an
earlier one, that no SYN or RST has undone since. -/
theorem confirmed_of_cut {config : TlsOptions} {inputs : List CapturedPacket}
    {packet : CapturedPacket}
    (h : (step config (Transducer.after (step config) ∅ inputs) packet).2.disposition
      = .appDataPrefix) :
    Confirmed config (directionOf packet) (inputs ++ [packet]) := by
  have hcarries := carries_of_appDataPrefix h
  rw [step_result hcarries] at h
  obtain ⟨state, hown, hsync⟩ := outcomeOf_cut h
  have hstored := (step_of_payload hcarries.1 hcarries.2.2 config
    (Transducer.after (step config) ∅ inputs) (directionOf packet)).1
  rw [storeOutcome, if_pos rfl, hown, ← Transducer.after_concat] at hstored
  exact (confirmed_run config (inputs ++ [packet])).2 _ _ hstored
    (syncConfirmed_run config (inputs ++ [packet]) _ _ hstored hsync)

end PcapConstrictor.TlsConstrictor
