import PcapConstrictor.Decode.Frames
import PcapConstrictor.Policy.PolicyRun
import PcapConstrictor.Policy.TlsCoherence

/-!
# Recovery from packet loss

A capture may lose packets of a connection. What the TLS constrictor has missed is forgotten as soon
as a payload starts with a record header while no record is in progress: from there on it decides as
if nothing had been lost (`loss_recovered`). The only trace a loss leaves in the table is the flag
`has_seen_application_data`, which the code keeps but decides nothing by.
-/

namespace PcapConstrictor

open ByteString

namespace TlsConstrictor

/-! ## What the constrictor reads of a state -/

/-- A state without the flag that decides nothing. -/
def DirectionState.observed (state : DirectionState) : DirectionState :=
  { state with hasSeenApplicationData := false }

/-- An outcome without the flag that decides nothing. -/
def SegmentOutcome.observed (o : SegmentOutcome) : SegmentOutcome :=
  { o with own := o.own.map DirectionState.observed }

/-- Dropping a record at a gap does not depend on what is hidden. -/
theorem observed_dropOnGap (state : DirectionState) (tcpSeq : UInt32) :
    state.observed.dropOnGap tcpSeq = (state.dropOnGap tcpSeq).observed := by
  have hcondition : (state.observed.synchronized && tcpSeq != state.observed.expectedTcpSeq)
      = (state.synchronized && tcpSeq != state.expectedTcpSeq) := rfl
  unfold DirectionState.dropOnGap
  rw [hcondition]
  split <;> rfl

/-- Going on in a record does not depend on what is hidden. -/
theorem observed_continueActiveRecord (config : TlsOptions) (payload : Bytes)
    (state : DirectionState) :
    continueActiveRecord config payload state.observed
      = { continueActiveRecord config payload state with
          state := (continueActiveRecord config payload state).state.observed } := by
  by_cases hactive : state.hasActiveRecord = true
  · have hactive' : state.observed.hasActiveRecord = true := hactive
    rcases Nat.lt_trichotomy payload.length state.activeRecordRemainingBytes.toNat with
      hlt | heq | hgt
    · rw [continueActiveRecord_middle config hactive hlt,
        continueActiveRecord_middle config hactive' hlt]
      rfl
    · rw [continueActiveRecord_last config hactive heq,
        continueActiveRecord_last config hactive' heq]
      rfl
    · rw [continueActiveRecord_behind config hactive hgt,
        continueActiveRecord_behind config hactive' hgt]
      rfl
  · have hidle : ¬ state.observed.hasActiveRecord = true := hactive
    rw [continueActiveRecord, if_neg hidle, continueActiveRecord, if_neg hactive]

/-- The state behind a segment does not depend on what is hidden. -/
theorem observed_afterFraming (state : DirectionState) (f : Framing) (n : ℕ) :
    (state.observed.afterFraming f n).observed = (state.afterFraming f n).observed := by
  unfold DirectionState.afterFraming
  cases f.overhang n <;> rfl

/-- What framing comes to depends on the state behind it only. -/
theorem observed_segmentFramed (config : TlsOptions) {n : ℕ} {tcpSeq : UInt32} (c : Continuation)
    {f : Framing} {a b : DirectionState}
    (h : ({ a.afterFraming f n with expectedTcpSeq := advanceTcpSeq tcpSeq n } :
        DirectionState).observed
      = ({ b.afterFraming f n with expectedTcpSeq := advanceTcpSeq tcpSeq n } :
        DirectionState).observed) :
    (segmentFramed config n tcpSeq { c with state := a } f).observed
      = (segmentFramed config n tcpSeq { c with state := b } f).observed := by
  have hsync : (a.afterFraming f n).synchronized = (b.afterFraming f n).synchronized := by
    have heq := congrArg DirectionState.synchronized h
    exact heq
  rw [SegmentOutcome.observed, SegmentOutcome.observed, SegmentOutcome.mk.injEq]
  refine ⟨congrArg some h, rfl, ?_, ?_⟩ <;>
    · dsimp only [segmentFramed, Continuation.candidate]
      rw [hsync]
      rfl

/-- **The flag decides nothing.** -/
theorem observed_segment (config : TlsOptions) (payload : Bytes) (tcpSeq : UInt32)
    (state : DirectionState) :
    (segment config payload tcpSeq state.observed).observed
      = (segment config payload tcpSeq state).observed := by
  unfold segment
  rw [observed_dropOnGap, observed_continueActiveRecord]
  generalize continueActiveRecord config payload (state.dropOnGap tcpSeq) = c
  dsimp only
  have hconfirmed : state.observed.confirmedTls = state.confirmedTls := rfl
  have hsync : c.state.observed.synchronized = c.state.synchronized := rfl
  rw [hconfirmed, hsync]
  split
  · simp only [segmentReset, DirectionState.forgetFraming, SegmentOutcome.observed]
    have hforget : c.state.observed.confirmedTls = c.state.confirmedTls := rfl
    rw [hforget]
    split <;> rfl
  split
  · simp only [segmentRefused, SegmentOutcome.observed]
    split <;> rfl
  · exact observed_segmentFramed config c (congrArg (fun state : DirectionState =>
      { state with expectedTcpSeq := advanceTcpSeq tcpSeq payload.length })
      (observed_afterFraming c.state (framing payload c.payloadOffset) payload.length))

/-! ## Tables that look alike -/

/-- The entries of `key` in two tables differ at most in the flag that decides nothing. -/
def AgreeAt (s t : Directions) (key : DirectionKey) : Prop :=
  (s.lookup key).map DirectionState.observed = (t.lookup key).map DirectionState.observed

/-- Tables that agree on a direction agree on its entry. -/
theorem AgreeAt.entryAtPayload {s t : Directions} {key : DirectionKey} (h : AgreeAt s t key)
    (packet : CapturedPacket) :
    (entryAtPayload s key packet).map DirectionState.observed
      = (entryAtPayload t key packet).map DirectionState.observed := by
  unfold TlsConstrictor.entryAtPayload
  split
  · rfl
  · exact h

/-- Entries that look alike give states that look alike, the default included. -/
theorem getD_observed {a b : Option DirectionState}
    (h : a.map DirectionState.observed = b.map DirectionState.observed) :
    (a.getD default).observed = (b.getD default).observed := by
  cases a <;> cases b <;> simp_all

/-- Tables that agree on a packet's direction give it outcomes that look alike. -/
theorem outcomeOf_observed {s t : Directions} {packet : CapturedPacket}
    (h : AgreeAt s t (directionOf packet)) (config : TlsOptions) :
    (outcomeOf config s packet).observed = (outcomeOf config t packet).observed := by
  unfold outcomeOf
  have hstate : (stateAtPayload s packet).observed = (stateAtPayload t packet).observed :=
    getD_observed (h.entryAtPayload packet)
  rw [← observed_segment, hstate, observed_segment]

/-- Equal outcomes, but for the flag, give equal answers and entries that look alike. -/
theorem storeOutcome_observed {o o' : SegmentOutcome} (ho : o.observed = o'.observed)
    (s t : Directions) (data : Bytes) (key reverseKey : DirectionKey) :
    (∀ payloadOffset, o.result data payloadOffset = o'.result data payloadOffset) ∧
    ∀ key', (s.lookup key').map DirectionState.observed
        = (t.lookup key').map DirectionState.observed →
      (storeOutcome s key reverseKey o key').map DirectionState.observed
        = (storeOutcome t key reverseKey o' key').map DirectionState.observed := by
  simp only [SegmentOutcome.observed, SegmentOutcome.mk.injEq] at ho
  obtain ⟨hown, hconfirms, hdisposition, hcut⟩ := ho
  refine ⟨fun payloadOffset => ?_, fun key' hkey => ?_⟩
  · rw [SegmentOutcome.result, SegmentOutcome.result, hdisposition, hcut]
  · have hvalue := getD_observed hkey
    unfold storeOutcome
    rw [hconfirms]
    split
    · exact hown
    split
    · exact congrArg (fun state : DirectionState => some { state with confirmedTls := true }) hvalue
    · exact hkey

/-- **Tables that look alike are indistinguishable.** -/
theorem step_agreeAt (config : TlsOptions) {s t : Directions} {packet : CapturedPacket}
    (h : packet.IsTcp → packet.payload ≠ [] → AgreeAt s t (directionOf packet)) :
    (step config s packet).2 = (step config t packet).2 ∧
      ∀ key, AgreeAt s t key →
        AgreeAt (step config s packet).1 (step config t packet).1 key := by
  by_cases htcp : packet.IsTcp
  · by_cases hpay : packet.payload = []
    · simp only [step_of_tcp htcp, if_pos hpay, AgreeAt, lookup_resetOnSynRst _ htcp]
      exact ⟨trivial, fun _ hkey => AgreeAt.entryAtPayload hkey packet⟩
    · have hout := outcomeOf_observed (h htcp hpay) config
      have hs := step_of_payload htcp hpay config s
      have ht := step_of_payload htcp hpay config t
      obtain ⟨hresult, hstore⟩ := storeOutcome_observed hout (resetOnSynRst s packet.decoded)
        (resetOnSynRst t packet.decoded) packet.safeData (directionOf packet) (reverseOf packet)
      refine ⟨?_, fun key hkey => ?_⟩
      · rw [(hs (directionOf packet)).2, (ht (directionOf packet)).2]
        exact hresult _
      · unfold AgreeAt
        rw [(hs key).1, (ht key).1]
        refine hstore key ?_
        rw [lookup_resetOnSynRst _ htcp, lookup_resetOnSynRst _ htcp]
        exact AgreeAt.entryAtPayload hkey packet
  · simp only [step_of_not_tcp htcp]
    exact ⟨trivial, fun _ hkey => hkey⟩

/-! ## What a confirmed connection keeps -/

/-- The opposite direction. -/
def DirectionKey.reverse (key : DirectionKey) : DirectionKey where
  srcIp := key.dstIp
  dstIp := key.srcIp
  addressLength := key.addressLength
  srcPort := key.dstPort
  dstPort := key.srcPort

/-- A packet of a direction has the opposite one as its reverse. -/
theorem Carries.reverseOf_eq {key : DirectionKey} {packet : CapturedPacket}
    (h : Carries key packet) : reverseOf packet = key.reverse := by
  rw [← h.2.1]
  rfl

/-- A reset ends both directions. -/
theorem resets_reverse {key : DirectionKey} {packet : CapturedPacket} :
    Resets key.reverse packet ↔ Resets key packet := by
  have hswap : ∀ other : DirectionKey, key.reverse = other ↔ key = other.reverse :=
    fun other => ⟨by rintro rfl; rfl, by rintro rfl; rfl⟩
  have hdir : (directionOf packet).reverse = reverseOf packet := rfl
  have hrev : (reverseOf packet).reverse = directionOf packet := rfl
  unfold Resets OnConnection
  rw [hswap, hswap, hdir, hrev, or_comm]

/-- A direction that is confirmed when a payload arrives stays in the table. -/
theorem own_isSome_of_confirmed (config : TlsOptions) {directions : Directions}
    {packet : CapturedPacket} (h : (stateAtPayload directions packet).confirmedTls = true) :
    (outcomeOf config directions packet).own.isSome := by
  have hchecked := (checkedState_confirmedTls directions packet).trans h
  rcases outcomeOf_cases config directions packet with
    ⟨-, -, hout⟩ | ⟨-, -, hout⟩ | ⟨-, -, -, hout⟩ | ⟨-, ⟨-, hout⟩ | ⟨-, hout⟩⟩ <;> rw [hout]
  · rfl
  · rfl
  · have hcleared : (checkedState directions packet).clearActiveRecord.confirmedTls = true :=
      hchecked
    rw [segmentReset, DirectionState.forgetFraming, if_pos hcleared]
    rfl
  · rw [segmentRefused, if_pos h]
    rfl
  · rfl

/-- A stored entry stays in the table unless its connection is reset. -/
theorem stored_step {config : TlsOptions} {directions : Directions} {packet : CapturedPacket}
    {key : DirectionKey} (hcoherent : AllCoherent directions) (hreset : ¬ Resets key packet)
    (h : (directions.lookup key).isSome) :
    ((step config directions packet).1.lookup key).isSome := by
  have hentry : entryAtPayload directions key packet = directions.lookup key := if_neg hreset
  obtain ⟨state, hstate⟩ := Option.isSome_iff_exists.mp h
  rcases step_entry config directions packet key with
    ⟨hcarries, heq⟩ | ⟨-, heq⟩ | ⟨-, -, -, -, heq⟩
  · rw [heq]
    refine own_isSome_of_confirmed config ?_
    rw [stateAtPayload, hcarries.2.1, hentry, hstate]
    exact (hcoherent key state hstate).confirmed
  · rwa [heq, hentry]
  · rw [heq]
    rfl

/-- A payload leaves every entry but its own alone, once the opposite direction is confirmed. -/
theorem lookup_step_of_carries {config : TlsOptions} {directions : Directions}
    {packet : CapturedPacket} {key : DirectionKey} (hcoherent : AllCoherent directions)
    (hreset : ¬ Resets key packet) (hcarries : Carries key packet)
    (hreverse : (directions.lookup key.reverse).isSome) {key' : DirectionKey} (hne : key' ≠ key) :
    (step config directions packet).1.lookup key' = directions.lookup key' := by
  have hflags : ¬ packet.HasSynRst := fun hflags =>
    hreset ⟨⟨hcarries.1, Or.inl hcarries.2.1.symm⟩, hflags⟩
  have hentry : entryAtPayload directions key' packet = directions.lookup key' :=
    if_neg fun hresets => hflags hresets.2
  rcases step_entry config directions packet key' with
    ⟨hcarries', -⟩ | ⟨-, heq⟩ | ⟨-, hon, -, -, heq⟩
  · exact absurd (hcarries'.2.1.symm.trans hcarries.2.1) hne
  · rw [heq, hentry]
  · -- only the opposite direction can be confirmed, which it is
    rcases hon.2 with hdir | hrev
    · exact absurd (hdir.trans hcarries.2.1) hne
    · rw [hcarries.reverseOf_eq] at hrev
      obtain ⟨state, hstate⟩ := Option.isSome_iff_exists.mp hreverse
      have hconfirmed := (hcoherent _ state hstate).confirmed
      rw [heq, hentry, hrev, hstate, Option.getD_some, ← hconfirmed]

/-! ## Losing packets of a direction -/

/-- `seen` is what is left of the packets `sent` when some of those that carry the direction `key`
are lost. -/
inductive Loses (key : DirectionKey) : List CapturedPacket → List CapturedPacket → Prop
  | nil : Loses key [] []
  | kept (packet : CapturedPacket) {sent seen : List CapturedPacket} (h : Loses key sent seen) :
    Loses key (packet :: sent) (packet :: seen)
  | lost {packet : CapturedPacket} (hcarries : Carries key packet)
    {sent seen : List CapturedPacket} (h : Loses key sent seen) : Loses key (packet :: sent) seen

/-- Two tables that have diverged in the entry of `key` only. The connection is confirmed in
both. -/
structure Diverged (key : DirectionKey) (s t : Directions) : Prop where
  coherent : AllCoherent s
  coherent' : AllCoherent t
  own : (s.lookup key).isSome
  own' : (t.lookup key).isSome
  reverse : (s.lookup key.reverse).isSome
  reverse' : (t.lookup key.reverse).isSome
  others : ∀ key' ≠ key, AgreeAt s t key'

/-- A packet that is not lost keeps the divergence where it is. -/
theorem Diverged.kept {config : TlsOptions} {key : DirectionKey} {s t : Directions}
    (h : Diverged key s t) {packet : CapturedPacket} (hreset : ¬ Resets key packet) :
    Diverged key (step config s packet).1 (step config t packet).1 := by
  have hreset' : ¬ Resets key.reverse packet := fun hresets => hreset (resets_reverse.mp hresets)
  refine ⟨allCoherent_step config s packet h.coherent, allCoherent_step config t packet h.coherent',
    stored_step h.coherent hreset h.own, stored_step h.coherent' hreset h.own',
    stored_step h.coherent hreset' h.reverse, stored_step h.coherent' hreset' h.reverse',
    fun key' hne => ?_⟩
  by_cases hcarries : Carries key packet
  · unfold AgreeAt
    rw [lookup_step_of_carries h.coherent hreset hcarries h.reverse hne,
      lookup_step_of_carries h.coherent' hreset hcarries h.reverse' hne]
    exact h.others key' hne
  · have hagree : packet.IsTcp → packet.payload ≠ [] → AgreeAt s t (directionOf packet) :=
      fun htcp hpay => h.others _ fun hdir => hcarries ⟨htcp, hdir, hpay⟩
    exact (step_agreeAt config hagree).2 key' (h.others key' hne)

/-- A packet that is lost moves one table only. -/
theorem Diverged.lost {config : TlsOptions} {key : DirectionKey} {s t : Directions}
    (h : Diverged key s t) {packet : CapturedPacket} (hreset : ¬ Resets key packet)
    (hcarries : Carries key packet) : Diverged key (step config s packet).1 t := by
  have hreset' : ¬ Resets key.reverse packet := fun hresets => hreset (resets_reverse.mp hresets)
  refine ⟨allCoherent_step config s packet h.coherent, h.coherent',
    stored_step h.coherent hreset h.own, h.own',
    stored_step h.coherent hreset' h.reverse, h.reverse', fun key' hne => ?_⟩
  unfold AgreeAt
  rw [lookup_step_of_carries h.coherent hreset hcarries h.reverse hne]
  exact h.others key' hne

/-- **Run lemma.** Losses of one direction make the tables diverge in its entry only. -/
theorem diverged_run (config : TlsOptions) {key : DirectionKey} {sent seen : List CapturedPacket}
    (hloses : Loses key sent seen) (hreset : ∀ packet ∈ sent, ¬ Resets key packet)
    {s t : Directions} (h : Diverged key s t) :
    Diverged key (Transducer.after (step config) s sent)
      (Transducer.after (step config) t seen) := by
  induction hloses generalizing s t with
  | nil => exact h
  | kept packet _ ih =>
    rw [List.forall_mem_cons] at hreset
    exact ih hreset.2 (h.kept hreset.1)
  | lost hcarries _ ih =>
    rw [List.forall_mem_cons] at hreset
    exact ih hreset.2 (h.lost hreset.1 hcarries)

/-! ## Recovery -/

/-- Framing at least one record brings any two confirmed directions without a record in progress
into the same state, but for the flag. -/
theorem observed_afterFraming_idle {a b : DirectionState} (ha : Coherent a) (hb : Coherent b)
    (hidle : a.hasActiveRecord = false) (hidle' : b.hasActiveRecord = false) {f : Framing}
    (hrecords : f.records ≠ []) (n : ℕ) (expected : UInt32) :
    ({ a.afterFraming f n with expectedTcpSeq := expected } : DirectionState).observed
      = ({ b.afterFraming f n with expectedTcpSeq := expected } : DirectionState).observed := by
  obtain ⟨htype, hremaining, hconstrictible⟩ := ha.inactive hidle
  obtain ⟨htype', hremaining', hconstrictible'⟩ := hb.inactive hidle'
  have hnonempty : f.records.isEmpty = false := by simpa using hrecords
  unfold DirectionState.afterFraming
  cases f.overhang n <;>
    simp [DirectionState.observed, ha.confirmed, hb.confirmed, hidle, hidle', htype, hremaining,
      hconstrictible, htype', hremaining', hconstrictible', hnonempty]

/-- A payload that starts with a record header is framed from its start when no record is in
progress. -/
theorem outcomeOf_of_header (config : TlsOptions) {directions : Directions}
    {packet : CapturedPacket} (hpay : packet.payload ≠ [])
    (hconfirmed : (stateAtPayload directions packet).confirmedTls = true)
    (hidle : (checkedState directions packet).hasActiveRecord = false)
    (hheader : (readTlsRecordHeader packet.payload 0).isSome) :
    (framing packet.payload 0).records ≠ [] ∧
      outcomeOf config directions packet
        = segmentFrames config packet.payload.length packet.decoded.tcpSeq
            (checkedState directions packet) (framing packet.payload 0) := by
  obtain ⟨⟨contentType, length⟩, hread⟩ := Option.isSome_iff_exists.mp hheader
  have hrecords : (framing packet.payload 0).records ≠ [] := by
    have hpos := List.length_pos_iff.mpr hpay
    by_cases hlen : kTlsRecordHeaderSize + length.toNat > packet.payload.length - 0
    · rw [framing_of_overhang hpos hread hlen]
      exact List.cons_ne_nil _ _
    · rw [framing_of_fits hpos hread hlen]
      exact List.cons_ne_nil _ _
  have hframing : framingOf directions packet = framing packet.payload 0 := by
    rw [framingOf, DirectionState.entry, hidle, if_neg Bool.false_ne_true]
  have hstart : (checkedState directions packet).framingStart = checkedState directions packet := by
    rw [DirectionState.framingStart, hidle, if_neg Bool.false_ne_true]
  refine ⟨hrecords, ?_⟩
  have hcases := outcomeOf_cases config directions packet
  dsimp only at hcases
  rw [hidle, hframing, hstart, hconfirmed] at hcases
  rcases hcases with ⟨hactive, -⟩ | ⟨hactive, -⟩ | ⟨hactive, -⟩ | ⟨-, ⟨hrefused, -⟩ | ⟨-, hout⟩⟩
  · cases hactive
  · cases hactive
  · cases hactive
  · -- a confirmed direction accepts any record header
    rw [Framing.refused] at hrefused
    cases hhead : (framing packet.payload 0).records.head? with
    | none => exact absurd (List.head?_eq_none_iff.mp hhead) hrecords
    | some record =>
      rw [hhead] at hrefused
      simp at hrefused
  · exact hout

/-- **A record boundary that both tables see ends the divergence.** -/
theorem Diverged.recovers {key : DirectionKey} {s t : Directions} (h : Diverged key s t)
    (config : TlsOptions) {packet : CapturedPacket} (hcarries : Carries key packet)
    (hflags : ¬ packet.HasSynRst) (hidle : (checkedState s packet).hasActiveRecord = false)
    (hidle' : (checkedState t packet).hasActiveRecord = false)
    (hheader : (readTlsRecordHeader packet.payload 0).isSome) :
    (step config s packet).2 = (step config t packet).2 ∧
      ∀ key', AgreeAt (step config s packet).1 (step config t packet).1 key' := by
  have hreset : ¬ Resets key packet := fun hresets => hflags hresets.2
  -- in both tables the payload meets a stored, hence coherent, entry
  have hmeets : ∀ directions : Directions, AllCoherent directions →
      (directions.lookup key).isSome → Coherent (checkedState directions packet) := by
    intro directions hcoherent hsome
    obtain ⟨state, hstate⟩ := Option.isSome_iff_exists.mp hsome
    have hcoherentState := hcoherent key state hstate
    have hat : stateAtPayload directions packet = state := by
      rw [stateAtPayload, hcarries.2.1, entryAtPayload, if_neg hreset, hstate, Option.getD_some]
    rw [checkedState, hat]
    refine ⟨hcoherentState.dropOnGap _, ?_⟩
    rw [← hat, ← checkedState, checkedState_confirmedTls, hat]
    exact hcoherentState.confirmed
  have hs := hmeets s h.coherent h.own
  have ht := hmeets t h.coherent' h.own'
  obtain ⟨hrecords, hout⟩ := outcomeOf_of_header config hcarries.2.2
    ((checkedState_confirmedTls s packet).symm.trans hs.confirmed) hidle hheader
  obtain ⟨-, hout'⟩ := outcomeOf_of_header config hcarries.2.2
    ((checkedState_confirmedTls t packet).symm.trans ht.confirmed) hidle' hheader
  have hsame : (outcomeOf config s packet).observed = (outcomeOf config t packet).observed := by
    rw [hout, hout']
    exact observed_segmentFramed config
      { state := default, payloadOffset := 0, candidatePayloadSize := packet.payload.length }
      (observed_afterFraming_idle hs ht hidle hidle' hrecords _ _)
  obtain ⟨hresult, -⟩ := storeOutcome_observed hsame s t packet.safeData key key
  refine ⟨?_, fun key' => ?_⟩
  · rw [step_result hcarries, step_result hcarries]
    exact hresult _
  · by_cases hkey : key' = key
    · subst hkey
      have hown := congrArg SegmentOutcome.own hsame
      unfold AgreeAt
      rw [(step_of_payload hcarries.1 hcarries.2.2 config s key').1,
        (step_of_payload hcarries.1 hcarries.2.2 config t key').1, storeOutcome, storeOutcome,
        hcarries.2.1, if_pos rfl, if_pos rfl]
      exact hown
    · exact (h.kept hreset).others key' hkey

/-- What the gate lets through of a lossy trace is a lossy trace. -/
theorem Loses.filter {key : DirectionKey} {sent seen : List CapturedPacket}
    (h : Loses key sent seen) (gate : CapturedPacket → Bool) :
    Loses key (sent.filter gate) (seen.filter gate) := by
  induction h with
  | nil => exact .nil
  | kept packet _ ih =>
    rw [List.filter_cons, List.filter_cons]
    split
    · exact .kept packet ih
    · exact ih
  | lost hcarries _ ih =>
    rw [List.filter_cons]
    split
    · exact .lost hcarries ih
    · exact ih

end TlsConstrictor

namespace LiveCapturePolicy

open TlsConstrictor

/-- Two states that differ at most in flags that decide nothing. -/
structure LooksLike (s t : State) : Prop where
  tls : ∀ key, AgreeAt s.tlsConstrictor t.tlsConstrictor key
  quic : s.quicConstrictor = t.quicConstrictor

/-- States that look alike decide alike, and stay so. -/
theorem LooksLike.step {config : PolicyConfig} {s t : State} (h : LooksLike s t)
    (packet : CapturedPacket) :
    LooksLike (evaluate config s packet).1 (evaluate config t packet).1 ∧
      (evaluate config s packet).2 = (evaluate config t packet).2 := by
  cases htls : tlsGate config packet with
  | true =>
    obtain ⟨hanswer, hagree⟩ := step_agreeAt config.tls fun _ _ =>
      h.tls (directionOf packet)
    rw [evaluate_of_tls htls, evaluate_of_tls htls, hanswer]
    exact ⟨⟨fun key => hagree key (h.tls key), h.quic⟩, rfl⟩
  | false =>
    cases hquic : quicGate config packet with
    | true =>
      rw [evaluate_of_quic htls hquic, evaluate_of_quic htls hquic, h.quic]
      exact ⟨⟨h.tls, rfl⟩, rfl⟩
    | false =>
      rw [evaluate_of_neither htls hquic, evaluate_of_neither htls hquic]
      exact ⟨h, rfl⟩

/-- States that look alike give the same outputs ever after. -/
theorem outputs_of_looksLike {config : PolicyConfig} {s t : State} (h : LooksLike s t)
    (inputs : List CapturedPacket) :
    Transducer.outputs (evaluate config) s inputs
      = Transducer.outputs (evaluate config) t inputs := by
  have hsame : Transducer.outputs (evaluate config) s (inputs.map id)
      = Transducer.outputs (evaluate config) t (inputs.map id) :=
    Transducer.outputs_eq_of_simulation _ id id LooksLike (fun _ _ packet hst => hst.step packet) h
      inputs
  rwa [List.map_id] at hsame

/-- Lost TCP packets do not reach the QUIC constrictor. -/
theorem filter_quicGate_of_loses {config : PolicyConfig} {key : DirectionKey}
    {sent seen : List CapturedPacket} (h : Loses key sent seen) :
    sent.filter (quicGate config) = seen.filter (quicGate config) := by
  induction h with
  | nil => rfl
  | kept packet _ ih => rw [List.filter_cons, List.filter_cons, ih]
  | @lost packet hcarries _ _ _ ih =>
    have hgate : quicGate config packet = false := by
      by_contra hquic
      have hudp := isUdp_of_quicGate (Bool.not_eq_false _ ▸ hquic)
      exact absurd (hcarries.1.symm.trans hudp) (by decide)
    rw [List.filter_cons, hgate, if_neg Bool.false_ne_true, ih]

/-- **Losses are recovered from.** Both directions of a TLS connection are confirmed behind
`before`; then some packets that carry one of them are lost. The first payload of that direction
that starts with a record header while neither run is inside a record is decided, like everything
behind it, as if nothing had been lost. -/
theorem loss_recovered {config : PolicyConfig} {key : DirectionKey}
    {before sent seen after : List CapturedPacket} {packet : CapturedPacket}
    (hconfirmed : ((Transducer.after (evaluate config) {} before).tlsConstrictor.lookup key).isSome)
    (hconfirmed' :
      ((Transducer.after (evaluate config) {} before).tlsConstrictor.lookup key.reverse).isSome)
    (hloses : Loses key sent seen) (hresets : ∀ p ∈ sent, ¬ Resets key p)
    (hgate : tlsGate config packet = true) (hcarries : Carries key packet)
    (hflags : ¬ packet.HasSynRst)
    (hidle : (checkedState (Transducer.after (evaluate config) {} (before ++ sent)).tlsConstrictor
      packet).hasActiveRecord = false)
    (hidle' : (checkedState (Transducer.after (evaluate config) {} (before ++ seen)).tlsConstrictor
      packet).hasActiveRecord = false)
    (hheader : (readTlsRecordHeader packet.payload 0).isSome) :
    let sentState := Transducer.after (evaluate config) {} (before ++ sent)
    let seenState := Transducer.after (evaluate config) {} (before ++ seen)
    Transducer.outputs (evaluate config) sentState (packet :: after)
      = Transducer.outputs (evaluate config) seenState (packet :: after) := by
  intro sentState seenState
  rw [tls_run] at hconfirmed hconfirmed'
  set directions := Transducer.after (TlsConstrictor.step config.tls) ∅
    (before.filter (tlsGate config)) with hdirections
  have hcoherent : AllCoherent directions := by
    have hall := allCoherent_run ((before.filter (tlsGate config)).map fun p => (config.tls, p))
    rw [after_call config.tls, List.map_map] at hall
    simpa [Function.comp_def] using hall
  -- behind the confirmation both runs start from one table
  have hstart : Diverged key directions directions :=
    ⟨hcoherent, hcoherent, hconfirmed, hconfirmed, hconfirmed', hconfirmed', fun _ _ => rfl⟩
  have htls : ∀ inputs, (Transducer.after (evaluate config) {} (before ++ inputs)).tlsConstrictor
      = Transducer.after (TlsConstrictor.step config.tls) directions
          (inputs.filter (tlsGate config)) := by
    intro inputs
    rw [tls_run, List.filter_append, Transducer.after_append]
  -- the lost packets are TCP, so the QUIC constrictors have seen the same
  have hquic : (Transducer.after (evaluate config) {} (before ++ sent)).quicConstrictor
      = (Transducer.after (evaluate config) {} (before ++ seen)).quicConstrictor := by
    rw [quic_run, quic_run, List.filter_append, List.filter_append,
      filter_quicGate_of_loses hloses]
  have hdiverged := diverged_run config.tls (hloses.filter (tlsGate config))
    (fun p hp => hresets p (List.mem_filter.mp hp).1) hstart
  rw [← htls, ← htls] at hdiverged
  -- the packet starts with a record header in both, so from it on the tables look alike
  obtain ⟨hanswer, hagree⟩ := hdiverged.recovers config.tls hcarries hflags hidle hidle'
    hheader
  rw [Transducer.outputs_cons, Transducer.outputs_cons, evaluate_of_tls hgate,
    evaluate_of_tls hgate, hanswer]
  have hrest : ∀ s t : State, LooksLike s t → Transducer.outputs (evaluate config) s after
      = Transducer.outputs (evaluate config) t after := fun s t h => outputs_of_looksLike h after
  exact congrArg (List.cons _) (hrest _ _ ⟨hagree, hquic⟩)

/-- An Application Data record that the capture of the example connection loses, in two segments. -/
def lostSegments : List CapturedPacket :=
  [examplePacket 15 [0x17, 3, 3, 0, 6, 1, 2, 3, 4], examplePacket 24 [5, 6]]

/-- The segment behind it. -/
def nextRecord : CapturedPacket := examplePacket 26 [0x17, 3, 3, 0, 4, 1, 2, 3, 4]

/-- Two lost segments in front of a record make no difference to it. -/
theorem loss_recovered_segments :
    Transducer.outputs (evaluate {}) (Transducer.after (evaluate {}) {}
        ([plainPacket] ++ lostSegments)) [nextRecord]
      = Transducer.outputs (evaluate {}) (Transducer.after (evaluate {}) {} ([plainPacket] ++ []))
          [nextRecord] := by
  have hcarries : ∀ p ∈ lostSegments, Carries (directionOf plainPacket) p := by decide +kernel
  simp only [lostSegments, List.forall_mem_cons] at hcarries
  exact loss_recovered (by decide +kernel) (by decide +kernel)
    (.lost hcarries.1 (.lost hcarries.2.1 .nil)) (by decide +kernel) (by decide +kernel)
    (by decide +kernel) (by decide +kernel) (by decide +kernel) (by decide +kernel)
    (by decide +kernel)

end LiveCapturePolicy

end PcapConstrictor
