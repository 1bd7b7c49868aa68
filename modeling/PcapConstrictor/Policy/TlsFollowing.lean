import PcapConstrictor.Policy.HandshakeFirst
import PcapConstrictor.Policy.LengthDecision
import PcapConstrictor.Policy.TlsAlignment
import PcapConstrictor.Policy.TlsSpecification

/-!
# What is kept of a TLS stream

Along a cleanly split feed the policy follows the records of the stream, so what it keeps of a
payload does not depend on the bytes in it: it depends on where the payload lies among the records.
`Keeps` says what is kept, in terms of positions of the stream alone, and `stream_followed` that the
policy keeps this and nothing else, with any other traffic in between, the opposite direction of the
connection included.
-/

namespace PcapConstrictor

namespace TlsConstrictor

open ByteString Layout

/-! ## What is kept -/

/-- **What is kept** of `n` payload bytes at `position` of the stream. -/
inductive Keeps (config : TlsOptions) (records : List TlsRecord) (position n : ℕ) : ℕ → Prop
  /-- Up to the first bytes of the last Application Data record that begins in the payload. -/
  | begun {record : TlsRecord} {start : ℕ} : AppDataAt records record start → position ≤ start →
      start < position + n →
      (∀ other start', AppDataAt records other start' → start' < position + n → start' ≤ start) →
      Keeps config records position n (start - position +
        min config.appDataKeepRecordBytes.toNat (min record.encode.length (position + n - start)))
  /-- The first bytes, where the payload is the end of an Application Data record. -/
  | ended {record : TlsRecord} {start : ℕ} : AppDataAt records record start → start < position →
      start + record.encode.length = position + n →
      Keeps config records position n (min config.appDataContinuationKeepBytes.toNat n)
  /-- Everything, if the payload lies inside an Application Data record or outside of any. -/
  | whole : (∀ record start, AppDataAt records record start → start < position + n →
        position < start + record.encode.length →
          start < position ∧ position + n < start + record.encode.length) →
      Keeps config records position n n

/-- Two Application Data records are the same, or one ends before the other starts. -/
theorem AppDataAt.compare {records : List TlsRecord} {a b : TlsRecord} {s t : ℕ}
    (ha : AppDataAt records a s) (hb : AppDataAt records b t) :
    (a = b ∧ s = t) ∨ s + a.encode.length ≤ t ∨ t + b.encode.length ≤ s :=
  ha.occupies.compare hb.occupies

section Keeps

variable {config : TlsOptions} {records : List TlsRecord} {position n : ℕ}

/-- Where an Application Data record begins in the payload, no other one ends with it. -/
theorem not_ended_of_begun {a b : TlsRecord} {s t : ℕ} (ha : AppDataAt records a s)
    (hle : position ≤ s) (hlt : s < position + n) (hb : AppDataAt records b t)
    (hbegan : t < position) : t + b.encode.length ≠ position + n := by
  intro hend
  rcases ha.compare hb with ⟨-, heq⟩ | hbefore | hbehind <;> omega

/-- One length is kept only. -/
theorem Keeps.unique {kept kept' : ℕ} (h : Keeps config records position n kept)
    (h' : Keeps config records position n kept') : kept = kept' := by
  cases h with
  | @begun record start ha hle hlt hlast =>
    have hpos := record.encode_pos
    cases h' with
    | @begun record' start' hb hle' hlt' hlast' =>
      have hstart : start = start' :=
        Nat.le_antisymm (hlast' _ _ ha hlt) (hlast _ _ hb hlt')
      subst hstart
      rcases ha.compare hb with ⟨rfl, -⟩ | hbefore | hbehind
      · rfl
      · omega
      · have hpos' := record'.encode_pos
        omega
    | ended hb hbegan hend => exact absurd hend (not_ended_of_begun ha hle hlt hb hbegan)
    | whole hwhole =>
      have hbefore := (hwhole _ _ ha hlt (by omega)).1
      omega
  | @ended record start ha hbegan hend =>
    cases h' with
    | begun hb hle' hlt' hlast' => exact absurd hend (not_ended_of_begun hb hle' hlt' ha hbegan)
    | ended hb hbegan' hend' => rfl
    | whole hwhole =>
      rcases Nat.eq_zero_or_pos n with rfl | hn
      · exact Nat.min_zero _
      · have hbehind := (hwhole _ _ ha (by omega) (by omega)).2
        omega
  | whole hwhole =>
    cases h' with
    | @begun record start hb hle hlt hlast =>
      have hpos := record.encode_pos
      have hbefore := (hwhole _ _ hb hlt (by omega)).1
      omega
    | @ended record start hb hbegan hend =>
      rcases Nat.eq_zero_or_pos n with rfl | hn
      · exact (Nat.min_zero _).symm
      · have hbehind := (hwhole _ _ hb (by omega) (by omega)).2
        omega
    | whole _ => rfl

/-- A record that a payload meets in progress is the only one that began before it and reaches into
it. -/
theorem keeps_of_progress {state : DirectionState} {record : TlsRecord} {start : ℕ}
    (h : InProgress records position state record start)
    (hn : n ≤ state.activeRecordRemainingBytes.toNat)
    (hother : record.contentType = kTlsApplicationData →
      n < state.activeRecordRemainingBytes.toNat) :
    Keeps config records position n n := by
  refine .whole fun other start' hother' hlt hreach => ?_
  have hremaining := h.remaining
  have hstarted := h.started
  rcases h.occupies.compare hother'.occupies with ⟨rfl, rfl⟩ | hbefore | hbehind
  · have hinside := hother hother'.contentType
    exact ⟨hstarted, by omega⟩
  · omega
  · omega

end Keeps

/-! ## What is answered -/

section Answers

variable {config : TlsOptions} {records : List TlsRecord} {key : DirectionKey}
  {before after : List CapturedPacket} {packet : CapturedPacket} {directions : Directions}

/-- Behind the entry of an aligned state, a payload is framed from the start or from the end of a
record that began before it. -/
theorem began_before_entry {position n : ℕ} {state : DirectionState} {record : TlsRecord}
    {start : ℕ} (haligned : Aligned records position state)
    (hnot : state.hasActiveRecord = true → state.activeRecordRemainingBytes.toNat < n ∧
      state.activeRecordConstrictible = false)
    (hrecord : AppDataAt records record start) (hlt : start < position + state.entry n) :
    start + record.encode.length ≤ position := by
  have hpos := record.encode_pos
  unfold DirectionState.entry at hlt
  rcases haligned with ⟨hidle, hboundary⟩ | ⟨hactive, active, start', hprogress⟩
  · rw [hidle, if_neg Bool.false_ne_true] at hlt
    exact hboundary.behind hrecord.occupies hlt
  · obtain ⟨hbehind, hcon⟩ := hnot hactive
    have hremaining := hprogress.remaining
    have hstarted := hprogress.started
    rw [if_pos hactive, Nat.min_eq_left hbehind.le, ← hremaining] at hlt
    rcases hprogress.occupies.compare hrecord.occupies with ⟨rfl, -⟩ | hbefore | hend
    · have hyes := hprogress.constrictible.mpr hrecord.contentType
      rw [hcon] at hyes
      cases hyes
    · omega
    · omega

/-- **A packet of a cleanly split feed is answered as its place in the stream says.** -/
theorem exists_keeps (hfeed : InOrderFeed records key (before ++ packet :: after))
    (hclean : CleanSplit records (before ++ packet :: after))
    (haligned : Aligned records (carriedBytes before) (checkedState directions packet))
    (hsync : before = [] ∨ (checkedState directions packet).synchronized = true) :
    ∃ kept, Keeps config records (carriedBytes before) packet.payload.length kept ∧
      (outcomeOf config directions packet).Answers packet.payload.length
        (cutDisposition kept packet.payload.length) kept := by
  have hwhole : cutDisposition packet.payload.length packet.payload.length = .noApplicationData :=
    if_neg (Nat.lt_irrefl _)
  rcases @outcomeOf_aligned config _ _ _ _ _ hfeed hclean _ haligned hsync with
    ⟨hactive, hsync, hlt, hout⟩ | ⟨hactive, hsync, heq, hout⟩ |
    ⟨hnot, hlt, hboundary, hvalid, hout⟩
  · -- inside the active record
    obtain ⟨record, start, hprogress⟩ := haligned.inProgress hactive
    refine ⟨_, keeps_of_progress hprogress hlt.le fun _ => hlt, ?_⟩
    rw [hwhole, hout]
    exact SegmentOutcome.answers_full (if_pos (Bool.or_eq_true_iff.mpr (Or.inr hsync))) rfl
  · -- the end of the active record
    obtain ⟨record, start, hprogress⟩ := haligned.inProgress hactive
    have hremaining := hprogress.remaining
    cases hcon : (checkedState directions packet).activeRecordConstrictible with
    | true =>
      refine ⟨_, .ended ⟨hprogress.occupies, hprogress.constrictible.mp hcon⟩ hprogress.started
        (by omega), ?_⟩
      rw [hout]
      simp [SegmentOutcome.Answers, segmentLast, cutDisposition, clampedKeepSize, hcon, hsync]
    | false =>
      have hother : record.contentType ≠ kTlsApplicationData := by
        intro htype
        rw [hprogress.constrictible.mpr htype] at hcon
        cases hcon
      refine ⟨_, keeps_of_progress hprogress heq.le fun htype => absurd htype hother, ?_⟩
      rw [hwhole, hout]
      refine SegmentOutcome.answers_full ?_ ?_ <;> simp [segmentLast, hcon, hsync]
  · -- framed from a record boundary on
    obtain ⟨head, hhead, -⟩ := framing_head hlt hvalid
    have hne : (framingOf directions packet).records ≠ [] :=
      List.ne_nil_of_mem (List.mem_of_mem_head? hhead)
    have hsynced : ((checkedState directions packet).framingStart.afterFraming
        (framingOf directions packet) packet.payload.length).synchronized = true := by
      simp [afterFraming_synchronized, hne]
    have hlast : LastFrom records (carriedBytes before) packet.payload.length _
        (framingOf directions packet).lastAppData :=
      lastFrom_framing hfeed.payloadAt _ hboundary hvalid
    cases happ : (framingOf directions packet).lastAppData with
    | none =>
      rw [happ] at hlast
      refine ⟨_, .whole fun record start hrecord hbegins hreach => ?_, ?_⟩
      · have hbefore : start < carriedBytes before
            + (checkedState directions packet).entry packet.payload.length := by
          by_contra hge
          exact absurd (hlast record start hrecord (Nat.not_lt.mp hge)) (Nat.not_le.mpr hbegins)
        have hends := began_before_entry haligned hnot hrecord hbefore
        omega
      · rw [hwhole, hout]
        exact segmentFrames_noAppData hsynced hvalid happ
    | some framed =>
      rw [happ] at hlast
      obtain ⟨record, hrecord, hsize, hlater⟩ := hlast
      have hinside := (framing_mem (lastAppData_mem happ).1).2.1
      -- what the stream keeps of the record is what the code keeps of its part in the payload
      have hkept : carriedBytes before + framed.offset - carriedBytes before +
          min config.appDataKeepRecordBytes.toNat (min record.encode.length
            (carriedBytes before + packet.payload.length - (carriedBytes before + framed.offset)))
          = keepInRecord config packet.payload.length framed := by
        rw [keepInRecord, clampedKeepSize, FramedRecord.present, hsize, Nat.add_sub_cancel_left,
          Nat.add_sub_add_left]
      refine ⟨_, .begun hrecord (Nat.le_add_right _ _) (Nat.add_lt_add_left hinside _) hlater, ?_⟩
      rw [hkept, hout]
      exact segmentFrames_appData hsynced hvalid happ

end Answers

/-! ## Runs -/

/-- The packets that carry the direction `key`. -/
def carried (key : DirectionKey) (inputs : List CapturedPacket) : List CapturedPacket :=
  inputs.filter (Carries key ·)

section Carried

variable {key : DirectionKey} {packet : CapturedPacket}

/-- What two stretches carry stands behind each other. -/
theorem carried_append (key : DirectionKey) (xs ys : List CapturedPacket) :
    carried key (xs ++ ys) = carried key xs ++ carried key ys := List.filter_append ..

/-- A packet of the direction is carried. -/
theorem carried_cons_of_carries (h : Carries key packet) (inputs : List CapturedPacket) :
    carried key (packet :: inputs) = packet :: carried key inputs :=
  List.filter_cons_of_pos (decide_eq_true h)

theorem carried_cons_of_not (h : ¬ Carries key packet) (inputs : List CapturedPacket) :
    carried key (packet :: inputs) = carried key inputs :=
  List.filter_cons_of_neg (by simpa using h)

end Carried

/-- The entry of a direction behind the packets `before` of its feed, where other packets may lie in
between. The opposite direction may confirm it before the feed starts. -/
def Followed (records : List TlsRecord) (before : List CapturedPacket)
    (entry : Option DirectionState) : Prop :=
  InStep records before entry ∨ before = [] ∧ entry = some { confirmedTls := true }

/-- A packet of the feed meets a followed direction aligned, and synchronized unless it is the first
one. -/
theorem Followed.meets {records : List TlsRecord} {key : DirectionKey}
    {before after : List CapturedPacket} {packet : CapturedPacket}
    (hfeed : InOrderFeed records key (before ++ packet :: after)) {directions : Directions}
    (h : Followed records before (directions.lookup key)) :
    Aligned records (carriedBytes before) (checkedState directions packet) ∧
      (before = [] ∨ (checkedState directions packet).synchronized = true) := by
  rcases h with hinStep | ⟨rfl, hentry⟩
  · exact hinStep.meets hfeed
  · have hreset : ¬ Resets key packet := fun hresets =>
      hfeed.noSynRst packet (List.mem_cons_self ..) hresets.2
    have hstate : checkedState directions packet = { confirmedTls := true } := by
      rw [checkedState, stateAtPayload, (hfeed.carries packet (List.mem_cons_self ..)).2.1,
        entryAtPayload, if_neg hreset, hentry]
      rfl
    rw [hstate]
    exact ⟨Or.inl ⟨rfl, Boundary.zero⟩, Or.inl rfl⟩

/-- A confirmation does not change the framing. -/
theorem Aligned.confirm {records : List TlsRecord} {position : ℕ} {state : DirectionState}
    (h : Aligned records position state) :
    Aligned records position { state with confirmedTls := true } := by
  rcases h with hidle | ⟨hactive, record, start, hprogress⟩
  · exact Or.inl hidle
  · exact Or.inr ⟨hactive, record, start, hprogress.occupies, hprogress.started,
      hprogress.unfinished, hprogress.remaining, hprogress.constrictible⟩

/-- A packet that does not carry the direction, nor resets its connection, leaves it followed. -/
theorem Followed.other {config : TlsOptions} {records : List TlsRecord} {key : DirectionKey}
    {before : List CapturedPacket} {packet : CapturedPacket} {directions : Directions}
    (h : Followed records before (directions.lookup key)) (hcarries : ¬ Carries key packet)
    (hreset : ¬ Resets key packet) :
    Followed records before ((step config directions packet).1.lookup key) := by
  have hentry : entryAtPayload directions key packet = directions.lookup key := if_neg hreset
  rcases step_entry config directions packet key with
    ⟨hown, -⟩ | ⟨-, heq⟩ | ⟨-, -, -, -, heq⟩
  · exact absurd hown hcarries
  · rwa [heq, hentry]
  · -- the opposite direction confirms this one
    rw [heq, hentry]
    rcases h with hinStep | ⟨rfl, hconfirmed⟩
    · cases hlookup : directions.lookup key with
      | none =>
        rw [hlookup] at hinStep
        exact Or.inr ⟨hinStep, rfl⟩
      | some state =>
        rw [hlookup] at hinStep
        obtain ⟨hsync, haligned, hlast⟩ := hinStep
        exact Or.inl ⟨hsync, haligned.confirm, hlast⟩
    · rw [hconfirmed]
      exact Or.inr ⟨rfl, rfl⟩

/-- **Run lemma.** A direction that nothing is stored about is followed through any run in which its
packets feed a cleanly split stream and its connection is not reset. -/
theorem followed_run {config : TlsOptions} {records : List TlsRecord} {key : DirectionKey}
    {directions : Directions} {inputs : List CapturedPacket}
    (hfresh : directions.lookup key = none) (hresets : ∀ p ∈ inputs, ¬ Resets key p)
    (hfeed : InOrderFeed records key (carried key inputs))
    (hclean : CleanSplit records (carried key inputs)) (before after : List CapturedPacket)
    (hinputs : inputs = before ++ after) :
    Followed records (carried key before)
      ((Transducer.after (step config) directions before).lookup key) := by
  induction before using List.reverseRecOn generalizing after with
  | nil =>
    rw [Transducer.after_nil, hfresh]
    exact Or.inl rfl
  | append_singleton before packet ih =>
    have hsplit : inputs = before ++ packet :: after := by simpa using hinputs
    have hbefore := ih (packet :: after) hsplit
    -- no packet resets the direction, so it can only be followed further
    have hreset : ¬ Resets key packet := hresets packet (by simp [hsplit])
    rw [Transducer.after_concat, carried_append]
    by_cases hcarries : Carries key packet
    · rw [hsplit, carried_append, carried_cons_of_carries hcarries] at hfeed hclean
      obtain ⟨haligned, hsync⟩ := hbefore.meets hfeed
      have hstored := (step_of_payload hcarries.1 hcarries.2.2 config
        (Transducer.after (step config) directions before) (directionOf packet)).1
      rw [storeOutcome, if_pos rfl, hcarries.2.1] at hstored
      rw [hstored, carried_cons_of_carries hcarries]
      exact Or.inl (inStep_step hfeed hclean haligned hsync)
    · rw [carried_cons_of_not hcarries]
      have hother : Followed records (carried key before) ((step config
          (Transducer.after (step config) directions before) packet).1.lookup key) :=
        hbefore.other hcarries hreset
      simpa [carried] using hother

end TlsConstrictor

namespace LiveCapturePolicy

open TlsConstrictor

/-- Keeping `kept` payload bytes of `packet` saves enough. -/
def Worthwhile (config : PolicyConfig) (packet : CapturedPacket) (kept : ℕ) : Prop :=
  kept < packet.payload.length ∧
    packet.decoded.transportPayloadOffset + kept + max 1 config.general.minSavedBytesPerPacket.toNat
      ≤ (baseOutputLen config packet).toNat

instance (config : PolicyConfig) (packet : CapturedPacket) (kept : ℕ) :
    Decidable (Worthwhile config packet kept) := inferInstanceAs (Decidable (_ ∧ _))

/-- A candidate is taken exactly if it saves enough. -/
theorem applyMinimumSavingsThreshold_eq (base candidate minSaved : UInt32) :
    applyMinimumSavingsThreshold base (min base candidate) minSaved
      = if candidate.toNat + max 1 minSaved.toNat ≤ base.toNat then candidate else base := by
  have hmin := toNat_min32 base candidate
  unfold applyMinimumSavingsThreshold
  by_cases hlt : candidate.toNat < base.toNat
  · have hcandidate : min base candidate = candidate := by
      apply UInt32.toNat_inj.mp
      omega
    have hsaved : base - candidate < minSaved
        ↔ base.toNat - candidate.toNat < minSaved.toNat := by
      rw [UInt32.lt_iff_toNat_lt, UInt32.toNat_sub_of_le _ _ (UInt32.le_iff_toNat_le.mpr hlt.le)]
    rw [hcandidate, if_neg (mt UInt32.le_iff_toNat_le.mp (Nat.not_le.mpr hlt))]
    by_cases hfew : base - candidate < minSaved
    · have hfew' := hsaved.mp hfew
      rw [if_pos hfew, if_neg (by omega)]
    · have henough := mt hsaved.mpr hfew
      rw [if_neg hfew, if_pos (by omega)]
  · have hbase : min base candidate ≥ base := by
      rw [ge_iff_le, UInt32.le_iff_toNat_le]
      omega
    rw [if_pos hbase, if_neg (by omega)]

/-- A cut that TLS proposes is made exactly if it saves enough. -/
theorem applyTls_appDataPrefix {config : PolicyConfig} {base : UInt32} {reason : DecisionReason}
    {result : TlsConstrictResult} (h : result.disposition = .appDataPrefix) :
    applyTls config base reason result
      = if result.outputLen.toNat + max 1 config.general.minSavedBytesPerPacket.toNat ≤ base.toNat
        then (result.outputLen, .tlsApplicationDataConstricted) else (base, reason) := by
  unfold applyTls
  rw [h]
  dsimp only
  rw [applyMinimumSavingsThreshold_eq]
  split
  · next hsaved =>
    rw [if_pos (UInt32.lt_iff_toNat_lt.mpr (by omega))]
  · rw [if_neg (UInt32.lt_irrefl base)]

/-- **The policy follows a TLS stream.** In any state that holds nothing about a direction, as
behind a SYN, let any traffic arrive in which the packets of this direction carry a stream of TLS
records in order, cleanly split, and the connection is not reset. Then what is kept of a payload is
what its place in the stream says, whatever lies between the packets, and no packet of the direction
falls back. -/
theorem stream_followed {config : PolicyConfig} {records : List TlsRecord} {key : DirectionKey}
    {state : State} {inputs before after : List CapturedPacket} {packet : CapturedPacket}
    (hfresh : state.tlsConstrictor.lookup key = none) (hresets : ∀ p ∈ inputs, ¬ Resets key p)
    (hgate : ∀ p ∈ inputs, Carries key p → tlsGate config p = true)
    (hfeed : InOrderFeed records key (carried key inputs))
    (hclean : CleanSplit records (carried key inputs))
    (hsplit : inputs = before ++ packet :: after) (hcarries : Carries key packet) :
    let d := (evaluate config (Transducer.after (evaluate config) state before) packet).2
    let position := carriedBytes (carried key before)
    ∃ kept, Keeps config.tls records position packet.payload.length kept ∧
      (∀ kept', Keeps config.tls records position packet.payload.length kept' → kept' = kept) ∧
      d.outputLen.toNat = (if Worthwhile config packet kept then
        packet.decoded.transportPayloadOffset + kept else (baseOutputLen config packet).toNat) ∧
      d.reason = (if Worthwhile config packet kept then .tlsApplicationDataConstricted
        else .tlsCandidate) := by
  intro d position
  -- the packets of the direction are among those that the TLS constrictor sees
  have hseen : ∀ packets : List CapturedPacket, (∀ p ∈ packets, p ∈ inputs) →
      carried key (packets.filter (tlsGate config)) = carried key packets := by
    intro packets hsub
    rw [carried, List.filter_filter]
    refine List.filter_congr fun p hp => ?_
    by_cases h : Carries key p
    · simp [h, hgate p (hsub p hp) h]
    · simp [h]
  have hpacket : tlsGate config packet = true := hgate packet (by simp [hsplit]) hcarries
  have hfilter : inputs.filter (tlsGate config)
      = before.filter (tlsGate config) ++ packet :: after.filter (tlsGate config) := by
    rw [hsplit, List.filter_append, List.filter_cons_of_pos hpacket]
  have hall := hseen inputs fun _ hp => hp
  have hbefore := hseen before fun p hp => by simp [hsplit, hp]
  rw [← hall] at hfeed hclean
  have hfollowed := @followed_run config.tls records key state.tlsConstrictor
    (inputs.filter (tlsGate config)) hfresh (fun p hp => hresets p (List.mem_filter.mp hp).1)
    hfeed hclean _ _ hfilter
  rw [hbefore, ← tls_run] at hfollowed
  rw [hfilter, carried_append, carried_cons_of_carries hcarries, hbefore] at hfeed hclean
  obtain ⟨haligned, hsync⟩ := hfollowed.meets hfeed
  obtain ⟨kept, hkeeps, hdisposition, hcut⟩ :=
    @exists_keeps config.tls _ _ _ _ _ _ hfeed hclean haligned hsync
  refine ⟨kept, hkeeps, fun kept' hkept' => hkept'.unique hkeeps, ?_⟩
  -- the answer of the constrictor, as the policy applies it
  have hreason : initialReason config packet = .tlsCandidate := by
    simp only [tlsGate, Bool.and_eq_true, beq_iff_eq] at hpacket
    exact hpacket.1.2
  have hresult := step_result hcarries config.tls
    (Transducer.after (evaluate config) state before).tlsConstrictor
  have hlength := step_outputLen hcarries config.tls
    (Transducer.after (evaluate config) state before).tlsConstrictor
  simp only [d, evaluate_of_tls hpacket, decision, hreason]
  rw [hcut] at hlength
  by_cases hlt : kept < packet.payload.length
  · rw [if_pos hlt] at hlength
    dsimp only at hlength
    rw [cutDisposition, if_pos hlt] at hdisposition
    rw [applyTls_appDataPrefix ((congrArg _ hresult).trans hdisposition)]
    have hworth : Worthwhile config packet kept ↔ _ := and_iff_right hlt
    rw [← hlength] at hworth
    by_cases hsaved : Worthwhile config packet kept
    · rw [if_pos hsaved, if_pos hsaved, if_pos (hworth.mp hsaved)]
      exact ⟨hlength, rfl⟩
    · rw [if_neg hsaved, if_neg hsaved, if_neg (mt hworth.mpr hsaved)]
      exact ⟨rfl, rfl⟩
  · rw [cutDisposition, if_neg hlt] at hdisposition
    have hnot : ¬ Worthwhile config packet kept := fun hworth => hlt hworth.1
    have hkeep : (step config.tls (Transducer.after (evaluate config) state before).tlsConstrictor
        packet).2.disposition = .noApplicationData := by
      rw [hresult]
      exact hdisposition
    rw [if_neg hnot, if_neg hnot, applyTls, hkeep]
    exact ⟨rfl, rfl⟩

/-! ## An example stream -/

/-- A stream of a Handshake and an Application Data record, in two segments. -/
def twoSegments : List CapturedPacket :=
  [examplePacket 0 [0x16, 3, 3, 0, 1, 0, 0x17, 3, 3, 0, 4, 1, 2], examplePacket 13 [3, 4]]

/-- The ends of the example connection, seen from the client. -/
def clientEnds : Endpoints where
  srcIp := exampleEnds.dstIp
  dstIp := exampleEnds.srcIp
  srcPort := exampleEnds.dstPort
  dstPort := exampleEnds.srcPort

/-- An answer of the client in between. -/
def clientRecord : CapturedPacket := .ofFrame (clientEnds.tcpFrame 7 0x10 [0x16, 3, 3, 0, 1, 0])

/-- The records of the example start at its beginning and behind the Handshake. -/
theorem occupies_twoSegments {record : TlsRecord} {start : ℕ}
    (h : Layout.Occupies TlsRecord.encode [handshakeRecord, appDataRecord] record start) :
    record = handshakeRecord ∧ start = 0 ∨ record = appDataRecord ∧ start = 6 := by
  obtain ⟨before, after, hsplit, rfl⟩ := h
  match before, hsplit with
  | [], hsplit => exact Or.inl ⟨(List.cons.inj hsplit).1.symm, rfl⟩
  | [first], hsplit =>
    obtain ⟨rfl, hrest⟩ := List.cons.inj hsplit
    exact Or.inr ⟨(List.cons.inj hrest).1.symm, rfl⟩
  | first :: second :: rest, hsplit => simp at hsplit

theorem twoSegmentsFeed :
    InOrderFeed [handshakeRecord, appDataRecord] exampleKey twoSegments where
  handshakeFirst := ⟨_, _, rfl, rfl⟩
  carries := by decide +kernel
  noSynRst := by decide +kernel
  consecutive := by decide +kernel
  payloads := by decide +kernel

/-- The splits of the two segments. -/
theorem carriedBytes_twoSegments {before after : List CapturedPacket}
    (h : twoSegments = before ++ after) :
    carriedBytes before = 0 ∨ carriedBytes before = 13 ∨ carriedBytes before = 15 := by
  have hbefore : before = twoSegments.take before.length := by
    rw [h, List.take_left]
  have hlength : before.length ≤ 2 := by
    have hsum := congrArg List.length h
    rw [List.length_append] at hsum
    exact Nat.le_of_add_right_le hsum.ge
  rw [hbefore]
  match before.length, hlength with
  | 0, _ => exact Or.inl rfl
  | 1, _ => exact Or.inr (Or.inl (by decide +kernel))
  | 2, _ => exact Or.inr (Or.inr (by decide +kernel))

/-- They split it in none of the ways that stop the constrictor. -/
theorem twoSegmentsClean : CleanSplit [handshakeRecord, appDataRecord] twoSegments where
  headersWhole := by
    intro before after hsplit record start hrecord hstart
    have hcarried := carriedBytes_twoSegments hsplit
    have hstarts := occupies_twoSegments hrecord
    rw [kTlsRecordHeaderSize]
    omega
  appDataEnds := by
    intro before packet after hsplit record start hrecord htype hbegan hreach
    have hcarried := carriedBytes_twoSegments hsplit
    have hcarried' := @carriedBytes_twoSegments (before ++ [packet]) after (by simpa using hsplit)
    rw [carriedBytes_concat] at hcarried'
    rcases occupies_twoSegments hrecord with ⟨rfl, rfl⟩ | ⟨rfl, rfl⟩
    · exact absurd htype (by decide)
    · have hlength : appDataRecord.encode.length = 9 := rfl
      omega

/-- Both segments are cut where the stream says. -/
theorem stream_followed_twoSegments :
    let state := Transducer.after (evaluate exampleConfig) {}
      [examplePacket 0 [0x16, 3, 3, 0, 1, 0, 0x17, 3, 3, 0, 4, 1, 2], clientRecord]
    (evaluate exampleConfig state (examplePacket 13 [3, 4])).2.outputLen.toNat = 54 := by
  intro state
  have hcarried : carried exampleKey [examplePacket 0 [0x16, 3, 3, 0, 1, 0, 0x17, 3, 3, 0, 4, 1, 2],
      clientRecord, examplePacket 13 [3, 4]] = twoSegments := by decide +kernel
  obtain ⟨kept, -, hunique, hlength, -⟩ := @stream_followed exampleConfig
    [handshakeRecord, appDataRecord] exampleKey {}
    [examplePacket 0 [0x16, 3, 3, 0, 1, 0, 0x17, 3, 3, 0, 4, 1, 2], clientRecord,
      examplePacket 13 [3, 4]]
    [examplePacket 0 [0x16, 3, 3, 0, 1, 0, 0x17, 3, 3, 0, 4, 1, 2], clientRecord] []
    (examplePacket 13 [3, 4]) rfl (by decide +kernel) (by decide +kernel)
    (by rw [hcarried]; exact twoSegmentsFeed) (by rw [hcarried]; exact twoSegmentsClean) rfl
    (by decide +kernel)
  -- the segment ends the Application Data record, of which nothing more is kept
  have happ : AppDataAt [handshakeRecord, appDataRecord] appDataRecord 6 :=
    ⟨⟨[handshakeRecord], [], rfl, rfl⟩, rfl⟩
  have hended := hunique _ (.ended happ (by decide +kernel) (by decide +kernel))
  rw [← hended] at hlength
  exact hlength.trans (by decide +kernel)

end LiveCapturePolicy

end PcapConstrictor
