import PcapConstrictor.Policy.TlsRun

/-!
# The tracked record is real

When a direction tracks an active record, five fields of its state describe a TLS record of which a
part is still to come. `active_record_provenance` shows that they describe a record that was really
seen: its header stands in the payload of an earlier packet of the direction, the packets since then
follow each other without a gap and without a SYN or RST, and the remaining length is what the
header announced less what those packets carried.
-/

namespace PcapConstrictor.TlsConstrictor

open ByteString

/-- Every framed record has a header at its offset, which lies between the entry offset and the end
of the payload. -/
theorem framing_mem {payload : Bytes} {offset : ℕ} {record : FramedRecord}
    (h : record ∈ (framing payload offset).records) :
    offset ≤ record.offset ∧ record.offset < payload.length ∧
      ∃ length : UInt16,
        readTlsRecordHeader payload record.offset = some (record.contentType, length) ∧
          record.totalSize = kTlsRecordHeaderSize + length.toNat := by
  fun_induction framing payload offset with
  | case1 offset hoff hread => cases h
  | case2 offset hoff contentType length hread totalSize head hlen =>
    rw [List.mem_singleton] at h
    subst h
    exact ⟨le_rfl, hoff, length, hread, rfl⟩
  | case3 offset hoff contentType length hread totalSize head hlen rest ih =>
    rcases List.mem_cons.mp h with rfl | h
    · exact ⟨le_rfl, hoff, length, hread, rfl⟩
    · obtain ⟨hge, hrest⟩ := ih h
      exact ⟨by omega, hrest⟩
  | case4 offset hoff => cases h

/-- A record that overhangs a payload of `n` bytes is framed and runs past the end. -/
theorem overhang_eq_some {f : Framing} {n : ℕ} {record : FramedRecord}
    (h : f.overhang n = some record) :
    record ∈ f.records ∧ n - record.offset < record.totalSize := by
  unfold Framing.overhang at h
  rw [Option.filter_eq_some_iff] at h
  exact ⟨List.mem_of_getLast? h.1, by simpa using h.2⟩

/-- The part of a framed record that is still to come fits the 32-bit counter, since a record is at
most 65540 bytes long. -/
theorem toNat_missing {payload : Bytes} {offset : ℕ} {record : FramedRecord}
    (h : record ∈ (framing payload offset).records) :
    (UInt32.ofNat (record.totalSize - (payload.length - record.offset))).toNat
      = record.totalSize - (payload.length - record.offset) := by
  obtain ⟨-, -, length, -, htotal⟩ := framing_mem h
  have hlength := length.toNat_lt
  have hsmall : record.totalSize - (payload.length - record.offset) < 2 ^ 32 := by
    simp only [kTlsRecordHeaderSize] at htotal
    omega
  rw [UInt32.toNat_ofNat', Nat.mod_eq_of_lt hsmall]

/-- The sequence number behind a packet's payload. -/
def endSeq (packet : CapturedPacket) : UInt32 :=
  advanceTcpSeq packet.decoded.tcpSeq packet.payload.length

/-- `next` starts where `packet` ends. -/
def Follows (packet next : CapturedPacket) : Prop := next.decoded.tcpSeq = endSeq packet

instance (packet next : CapturedPacket) : Decidable (Follows packet next) :=
  inferInstanceAs (Decidable (_ = _))

/-- `first :: rest` are the payload-carrying packets of the direction `key` from `first` to the end
of `inputs`: they follow each other, and no packet behind `first` resets the connection. -/
def Block (key : DirectionKey) (inputs : List CapturedPacket) (first : CapturedPacket)
    (rest : List CapturedPacket) : Prop :=
  ∃ before after, inputs = before ++ first :: after ∧ Carries key first ∧
    rest = after.filter (Carries key ·) ∧ (∀ packet ∈ after, ¬ Resets key packet) ∧
    List.IsChain Follows (first :: rest)

/-- The payload bytes of a list of packets. -/
def carriedBytes (packets : List CapturedPacket) : ℕ :=
  (packets.map fun packet => packet.payload.length).sum

/-- The active record of `state` starts at `offset` in the payload of `first`, and the packets
`rest` carry what follows it. -/
structure TracksFrom (first : CapturedPacket) (rest : List CapturedPacket) (offset : ℕ)
    (length : UInt16) (state : DirectionState) : Prop where
  header : readTlsRecordHeader first.payload offset = some (state.activeRecordContentType, length)
  remaining : state.activeRecordRemainingBytes.toNat +
    ((first.payload.length - offset) + carriedBytes rest) = kTlsRecordHeaderSize + length.toNat
  incomplete : 1 ≤ state.activeRecordRemainingBytes.toNat
  constrictible : state.activeRecordConstrictible = true ↔
    state.activeRecordContentType = kTlsApplicationData
  expected : state.expectedTcpSeq = endSeq ((first :: rest).getLast (List.cons_ne_nil _ _))
  synchronized : state.synchronized = true

/-- The record a direction tracks was seen in the inputs. -/
def Provenance (inputs : List CapturedPacket) (key : DirectionKey) (state : DirectionState) :
    Prop :=
  ∃ first rest offset length, Block key inputs first rest ∧
    TracksFrom first rest offset length state

/-! ## One packet -/

/-- A packet of another kind leaves the block as it is. -/
theorem Block.skip {key : DirectionKey} {inputs : List CapturedPacket} {first : CapturedPacket}
    {rest : List CapturedPacket} (h : Block key inputs first rest) {packet : CapturedPacket}
    (hcarries : ¬ Carries key packet) (hresets : ¬ Resets key packet) :
    Block key (inputs ++ [packet]) first rest := by
  obtain ⟨before, after, rfl, hfirst, rfl, hafter, hchain⟩ := h
  refine ⟨before, after ++ [packet], by simp, hfirst, by simp [hcarries], ?_, hchain⟩
  intro p hp
  rcases List.mem_append.mp hp with hp | hp
  · exact hafter p hp
  · rw [List.mem_singleton.mp hp]
    exact hresets

/-- A packet that follows the last one extends the block. -/
theorem Block.extend {key : DirectionKey} {inputs : List CapturedPacket} {first : CapturedPacket}
    {rest : List CapturedPacket} (h : Block key inputs first rest) {packet : CapturedPacket}
    (hcarries : Carries key packet) (hresets : ¬ Resets key packet)
    (hfollows : Follows ((first :: rest).getLast (List.cons_ne_nil _ _)) packet) :
    Block key (inputs ++ [packet]) first (rest ++ [packet]) := by
  obtain ⟨before, after, rfl, hfirst, rfl, hafter, hchain⟩ := h
  refine ⟨before, after ++ [packet], by simp, hfirst, by simp [hcarries], ?_, ?_⟩
  · intro p hp
    rcases List.mem_append.mp hp with hp | hp
    · exact hafter p hp
    · rw [List.mem_singleton.mp hp]
      exact hresets
  · rw [← List.cons_append]
    refine List.isChain_append.mpr ⟨hchain, by simp, ?_⟩
    intro x hx y hy
    rw [List.getLast?_eq_some_getLast (List.cons_ne_nil _ _), Option.mem_some_iff] at hx
    rw [List.head?_cons, Option.mem_some_iff] at hy
    rw [← hx, ← hy]
    exact hfollows

/-- The last packet adds its payload. -/
theorem carriedBytes_concat (packets : List CapturedPacket) (packet : CapturedPacket) :
    carriedBytes (packets ++ [packet]) = carriedBytes packets + packet.payload.length := by
  simp [carriedBytes]

/-- A direction that tracks a record is not dropped by a gap check it passes: an active record after
the check was there before, and the packet continues it. -/
theorem dropOnGap_active {state : DirectionState} {tcpSeq : UInt32}
    (hsync : state.hasActiveRecord = true → state.synchronized = true)
    (h : (state.dropOnGap tcpSeq).hasActiveRecord = true) :
    state.dropOnGap tcpSeq = state ∧ state.hasActiveRecord = true ∧
      tcpSeq = state.expectedTcpSeq := by
  have hsame := dropOnGap_of_active h
  rw [hsame] at h
  refine ⟨hsame, h, ?_⟩
  by_contra hne
  have hdrop : (state.dropOnGap tcpSeq).hasActiveRecord = false := by
    simp [DirectionState.dropOnGap, hsync h, hne, DirectionState.clearActiveRecord]
  rw [hsame, h] at hdrop
  cases hdrop

/-- Subtracting a payload length from a larger 32-bit count loses nothing. -/
theorem toNat_sub_ofNat {count : UInt32} {n : ℕ} (h : n < count.toNat) :
    (count - UInt32.ofNat n).toNat = count.toNat - n := by
  have hbound := count.toNat_lt
  have hlen : (UInt32.ofNat n).toNat = n := by
    rw [UInt32.toNat_ofNat']
    exact Nat.mod_eq_of_lt (by omega)
  rw [UInt32.toNat_sub_of_le, hlen]
  rw [UInt32.le_iff_toNat_le, hlen]
  omega

/-- A middle continuation keeps the provenance. -/
theorem TracksFrom.middle {first : CapturedPacket} {rest : List CapturedPacket} {offset : ℕ}
    {length : UInt16} {state : DirectionState} (h : TracksFrom first rest offset length state)
    {packet : CapturedPacket}
    (hlt : packet.payload.length < state.activeRecordRemainingBytes.toNat) :
    TracksFrom first (rest ++ [packet]) offset length
      { state with
        activeRecordRemainingBytes :=
          state.activeRecordRemainingBytes - UInt32.ofNat packet.payload.length
        expectedTcpSeq := endSeq packet } := by
  have hsub := toNat_sub_ofNat hlt
  have hremaining := h.remaining
  refine ⟨h.header, ?_, ?_, h.constrictible, by simp, h.synchronized⟩
  · simp only [hsub, carriedBytes_concat]
    omega
  · simp only [hsub]
    omega

/-- A record that overhangs a framed payload starts a new provenance. -/
theorem TracksFrom.framed {packet : CapturedPacket} {config : TlsOptions} {offset : ℕ}
    {start state : DirectionState} (hstart : start.hasActiveRecord = false)
    (hown : (segmentFrames config packet.payload.length packet.decoded.tcpSeq start
      (framing packet.payload offset)).own = some state)
    (hactive : state.hasActiveRecord = true) :
    ∃ o length, TracksFrom packet [] o length state := by
  simp only [segmentFrames, segmentFramed, Option.some.injEq] at hown
  subst hown
  cases hover : (framing packet.payload offset).overhang packet.payload.length with
  | none => simp [DirectionState.afterFraming, hover, hstart] at hactive
  | some record =>
    obtain ⟨hmem, hpast⟩ := overhang_eq_some hover
    obtain ⟨-, hoff, length, hread, htotal⟩ := framing_mem hmem
    have hremaining := toNat_missing hmem
    have hne : (framing packet.payload offset).records ≠ [] := List.ne_nil_of_mem hmem
    refine ⟨record.offset, length, ?_⟩
    simp only [DirectionState.afterFraming, hover]
    refine ⟨hread, ?_, ?_, ?_, rfl, by simp [hne]⟩
    · simp only [hremaining, carriedBytes, List.map_nil, List.sum_nil]
      omega
    · simp only [hremaining]
      omega
    · simp [FramedRecord.isAppData]

/-- The invariant of a run: every tracked record has a provenance. -/
def AllTracked (inputs : List CapturedPacket) (directions : Directions) : Prop :=
  ∀ key state, directions.lookup key = some state → state.hasActiveRecord = true →
    Provenance inputs key state

/-- When the gap check leaves an active record, that record was tracked and the packet follows the
last one of its block. -/
theorem tracked_at_payload {inputs : List CapturedPacket} {directions : Directions}
    (hinv : AllTracked inputs directions) {packet : CapturedPacket}
    (hactive : (checkedState directions packet).hasActiveRecord = true) :
    checkedState directions packet = stateAtPayload directions packet ∧
      ¬ Resets (directionOf packet) packet ∧
      ∃ first rest offset length, Block (directionOf packet) inputs first rest ∧
        TracksFrom first rest offset length (stateAtPayload directions packet) ∧
        Follows ((first :: rest).getLast (List.cons_ne_nil _ _)) packet := by
  have htracked : ∀ h : (stateAtPayload directions packet).hasActiveRecord = true,
      ¬ Resets (directionOf packet) packet ∧
        Provenance inputs (directionOf packet) (stateAtPayload directions packet) := by
    intro h
    obtain ⟨state, hstate, -⟩ := entry_of_flag (·.hasActiveRecord) rfl h
    have heq : stateAtPayload directions packet = state := by
      rw [stateAtPayload, hstate, Option.getD_some]
    obtain ⟨hresets, hlookup⟩ := entryAtPayload_eq_some hstate
    rw [heq] at h ⊢
    exact ⟨hresets, hinv _ _ hlookup h⟩
  obtain ⟨hdrop, hactive', hseq⟩ := dropOnGap_active
    (fun h => by
      obtain ⟨-, _, _, _, _, -, htracks⟩ := htracked h
      exact htracks.synchronized) hactive
  obtain ⟨hresets, first, rest, offset, length, hblock, htracks⟩ := htracked hactive'
  refine ⟨hdrop, hresets, first, rest, offset, length, hblock, htracks, ?_⟩
  rw [Follows, hseq, htracks.expected]

/-- **Step lemma.** Every packet keeps the invariant. -/
theorem allTracked_step (config : TlsOptions) (inputs : List CapturedPacket)
    (directions : Directions) (packet : CapturedPacket) (hinv : AllTracked inputs directions) :
    AllTracked (inputs ++ [packet]) (step config directions packet).1 := by
  intro key state hlookup hactive
  -- a packet that leaves the entry alone, or only confirms it, leaves the block alone
  have hskip : ∀ old, ¬ Carries key packet → entryAtPayload directions key packet = some old →
      old.hasActiveRecord = true → Provenance (inputs ++ [packet]) key old := by
    intro old hcarries hentry hold
    obtain ⟨hresets, hstored⟩ := entryAtPayload_eq_some hentry
    obtain ⟨first, rest, offset, length, hblock, htracks⟩ := hinv key old hstored hold
    exact ⟨first, rest, offset, length, hblock.skip hcarries hresets, htracks⟩
  rcases step_entry config directions packet key with
    ⟨hcarries, hentry⟩ | ⟨hcarries, hentry⟩ | ⟨hcarries, -, -, -, hentry⟩
  · rw [hlookup] at hentry
    obtain ⟨-, rfl, -⟩ := id hcarries
    rcases outcomeOf_active hentry.symm hactive with ⟨hwas, hlt, hown⟩ | ⟨-, -, hown⟩
    · -- a middle continuation extends the block of the tracked record
      obtain ⟨hdrop, hresets, first, rest, offset, length, hblock, htracks, hfollows⟩ :=
        tracked_at_payload hinv hwas
      rw [hdrop] at hlt hown
      rw [segmentMiddle, Option.some.injEq] at hown
      subst hown
      exact ⟨first, rest ++ [packet], offset, length, hblock.extend hcarries hresets hfollows,
        htracks.middle hlt⟩
    · -- a record framed in the packet starts a new block
      obtain ⟨o, length, htracks⟩ := TracksFrom.framed (framingStart_inactive _) hown hactive
      exact ⟨packet, [], o, length,
        ⟨inputs, [], rfl, hcarries, rfl, by simp, List.isChain_singleton _⟩, htracks⟩
  · rw [hlookup] at hentry
    exact hskip state hcarries hentry.symm hactive
  · rw [hlookup, Option.some.injEq] at hentry
    subst hentry
    obtain ⟨old, hold, hactive⟩ := entry_of_flag (·.hasActiveRecord) rfl hactive
    rw [hold, Option.getD_some]
    obtain ⟨first, rest, offset, length, hblock, htracks⟩ := hskip old hcarries hold hactive
    exact ⟨first, rest, offset, length, hblock, htracks.header, htracks.remaining,
      htracks.incomplete, htracks.constrictible, htracks.expected, htracks.synchronized⟩

/-- In every reachable table, the active records are those of the packets that led to it. -/
theorem allTracked (config : TlsOptions) (inputs : List CapturedPacket) :
    AllTracked inputs (Transducer.after (step config) ∅ inputs) :=
  Transducer.invariant (step config) AllTracked (fun _ _ h => by simp at h)
    (fun read t x h => allTracked_step config read t x h) inputs

/-! ## Final continuations -/

/-- `packet` is cut as a final continuation: it is answered with a cut, and the record its direction
tracks does not end inside its payload. -/
def FinalContinuationCut (config : TlsOptions) (directions : Directions)
    (packet : CapturedPacket) : Prop :=
  packet.IsTcp ∧ (step config directions packet).2.disposition = .appDataPrefix ∧
    (checkedState directions packet).hasActiveRecord = true ∧
    packet.payload.length ≤ (checkedState directions packet).activeRecordRemainingBytes.toNat

/-- A final continuation ends the tracked record, which is an Application Data record. -/
theorem FinalContinuationCut.ends_record {config : TlsOptions} {directions : Directions}
    {packet : CapturedPacket} (h : FinalContinuationCut config directions packet) :
    packet.payload.length = (checkedState directions packet).activeRecordRemainingBytes.toNat ∧
      (checkedState directions packet).activeRecordConstrictible = true := by
  obtain ⟨-, hcut, hactive, hle⟩ := h
  have hresult := step_result (carries_of_appDataPrefix hcut) config directions
  rw [hresult] at hcut
  rcases outcomeOf_cases config directions packet with
    ⟨-, -, hout⟩ | ⟨-, heq, hout⟩ | ⟨-, hgt, -⟩ | ⟨hgt, -⟩
  · rw [hout] at hcut
    simp only [SegmentOutcome.result, segmentMiddle] at hcut
    split at hcut <;> cases hcut
  · refine ⟨heq, ?_⟩
    rw [hout] at hcut
    simp only [SegmentOutcome.result, segmentLast] at hcut
    split at hcut
    · next hcuts => simp_all
    · split at hcut <;> cases hcut
  · omega
  · exact absurd (hgt hactive).1 (by omega)

/-- **Provenance of the tracked record.** Along every run, an active record is one whose header
stands in an earlier payload of the direction, followed by a gapless block of payloads that carry
all but the remaining bytes; and a packet cut as a final continuation carries exactly the end of
such a record, which is an Application Data record. -/
theorem active_record_provenance (config : TlsOptions) (inputs : List CapturedPacket) :
    (∀ key state, (Transducer.after (step config) ∅ inputs).lookup key = some state →
      state.hasActiveRecord = true →
      ∃ first rest offset length, Block key inputs first rest ∧
        TracksFrom first rest offset length state) ∧
    ∀ packet, FinalContinuationCut config (Transducer.after (step config) ∅ inputs) packet →
      ∃ first rest offset length,
        Block (directionOf packet) (inputs ++ [packet]) first (rest ++ [packet]) ∧
        readTlsRecordHeader first.payload offset = some (kTlsApplicationData, length) ∧
        (first.payload.length - offset) + carriedBytes (rest ++ [packet])
          = kTlsRecordHeaderSize + length.toNat := by
  refine ⟨allTracked config inputs, ?_⟩
  intro packet hfinal
  -- the packet ends the record that its direction tracks at this point
  obtain ⟨hend, hconstrictible⟩ := hfinal.ends_record
  obtain ⟨hdrop, hresets, first, rest, offset, length, hblock, htracks, hfollows⟩ :=
    tracked_at_payload (allTracked config inputs) hfinal.2.2.1
  rw [hdrop] at hend hconstrictible
  refine ⟨first, rest, offset, length,
    hblock.extend (carries_of_appDataPrefix hfinal.2.1) hresets hfollows, ?_, ?_⟩
  · rw [htracks.header, htracks.constrictible.mp hconstrictible]
  · rw [carriedBytes_concat, hend, ← htracks.remaining]
    omega

end PcapConstrictor.TlsConstrictor
