import PcapConstrictor.Policy.TlsStream

/-!
# Feeds that keep the framing true

What is said of the bytes cut from an in-order stream asks that payloads are framed from true record
boundaries (`FramedFromBoundary`), which speaks of the states of a run. Here is a condition on the
split of the stream alone that grants it, `CleanSplit`: every header lies in one payload, and a
payload that ends an Application Data record begun earlier carries nothing behind it. In such a feed
the constrictor never loses the framing, so its state is that of the stream read so far
(`inStep_run`).
-/

namespace PcapConstrictor.TlsConstrictor

open ByteString Layout

/-- The payloads of `inputs` split the stream where the framing survives. -/
structure CleanSplit (records : List TlsRecord) (inputs : List CapturedPacket) : Prop where
  /-- No payload starts inside the header of a record. -/
  headersWhole : ∀ before after, inputs = before ++ after → ∀ record start,
    Occupies TlsRecord.encode records record start → start < carriedBytes before →
      start + kTlsRecordHeaderSize ≤ carriedBytes before
  /-- No payload goes on behind an Application Data record that began before it. -/
  appDataEnds : ∀ before packet after, inputs = before ++ packet :: after → ∀ record start,
    Occupies TlsRecord.encode records record start → record.contentType = kTlsApplicationData →
      start < carriedBytes before → carriedBytes before < start + record.encode.length →
        carriedBytes before + packet.payload.length ≤ start + record.encode.length

/-- The record `record` of the stream, read up to `position`, is the active record of `state`. -/
structure InProgress (records : List TlsRecord) (position : ℕ) (state : DirectionState)
    (record : TlsRecord) (start : ℕ) : Prop where
  occupies : Occupies TlsRecord.encode records record start
  started : start < position
  unfinished : position < start + record.encode.length
  remaining : start + record.encode.length = position + state.activeRecordRemainingBytes.toNat
  constrictible : state.activeRecordConstrictible = true ↔
    record.contentType = kTlsApplicationData

/-- The framing of `state` is that of the stream read up to `position`. -/
def Aligned (records : List TlsRecord) (position : ℕ) (state : DirectionState) : Prop :=
  (state.hasActiveRecord = false ∧ Boundary TlsRecord.encode records position) ∨
    (state.hasActiveRecord = true ∧ ∃ record start, InProgress records position state record start)

/-- An aligned state with an active record tracks a record of the stream. -/
theorem Aligned.inProgress {records : List TlsRecord} {position : ℕ} {state : DirectionState}
    (h : Aligned records position state) (hactive : state.hasActiveRecord = true) :
    ∃ record start, InProgress records position state record start := by
  rcases h with ⟨hidle, -⟩ | ⟨-, hprogress⟩
  · rw [hidle] at hactive
    cases hactive
  · exact hprogress

/-! ## Framing a true payload -/

section Framing

variable {records : List TlsRecord} {position : ℕ} {payload : Bytes}
  (hpayload : PayloadAt records position payload)
include hpayload

/-- A header is found at every record boundary, unless the payload ends inside it. -/
theorem framing_valid
    (hwhole : ∀ record start, Occupies TlsRecord.encode records record start →
      start < position + payload.length →
        start + kTlsRecordHeaderSize ≤ position + payload.length)
    (offset : ℕ) (hboundary : Boundary TlsRecord.encode records (position + offset)) :
    (framing payload offset).valid = true := by
  fun_induction framing payload offset with
  | case1 offset hoff hread =>
    -- the record that starts here has its header in the payload
    obtain ⟨front, back, hstream, rfl⟩ := hpayload
    have hlt : front.length + offset < (stream records).length := by
      rw [hstream, List.length_append, List.length_append]
      omega
    obtain ⟨record, hrecord⟩ := hboundary.occupies hlt
    have hheader := hwhole record _ hrecord (by omega)
    obtain ⟨front', back', hsplit, hfront⟩ := hrecord.split
    have hsame := readTlsRecordHeader_inside front back (show offset + _ ≤ payload.length by omega)
    rw [hread, ← hstream, show stream records = _ from hsplit, ← hfront, List.append_assoc,
      record.readTlsRecordHeader_encode] at hsame
    cases hsame
  | case2 offset hoff contentType length hread totalSize head hlen => rfl
  | case3 offset hoff contentType length hread totalSize head hlen rest ih =>
    obtain ⟨record, hrecord, -, hsize⟩ := header_at_boundary hpayload hboundary hread
    have hnext := hrecord.boundary_end
    rw [hsize, Nat.add_assoc] at hnext
    exact ih hnext
  | case4 offset hoff => rfl

/-- Without an overhang the payload ends at a record boundary. -/
theorem boundary_of_framing {offset : ℕ} (hle : offset ≤ payload.length)
    (hboundary : Boundary TlsRecord.encode records (position + offset))
    (hvalid : (framing payload offset).valid = true)
    (hover : (framing payload offset).overhang payload.length = none) :
    Boundary TlsRecord.encode records (position + payload.length) := by
  fun_induction framing payload offset with
  | case1 offset hoff hread => cases hvalid
  | case2 offset hoff contentType length hread totalSize head hlen =>
    simp [Framing.overhang, head, Option.filter, hlen] at hover
  | case3 offset hoff contentType length hread totalSize head hlen rest ih =>
    obtain ⟨record, hrecord, -, hsize⟩ := header_at_boundary hpayload hboundary hread
    have hnext := hrecord.boundary_end
    rw [hsize, Nat.add_assoc] at hnext
    rw [overhang_cons _ (Nat.not_lt.mp hlen)] at hover
    exact ih (by omega) hnext hvalid hover
  | case4 offset hoff =>
    have hend : offset = payload.length := by omega
    rwa [← hend]

/-- Behind a valid framing from a true boundary the state is aligned. -/
theorem aligned_afterFraming {state : DirectionState} (hidle : state.hasActiveRecord = false)
    {offset : ℕ} (hle : offset ≤ payload.length)
    (hboundary : Boundary TlsRecord.encode records (position + offset))
    (hvalid : (framing payload offset).valid = true) (seq : UInt32) :
    Aligned records (position + payload.length)
      { state.afterFraming (framing payload offset) payload.length with
        expectedTcpSeq := seq } := by
  cases hover : (framing payload offset).overhang payload.length with
  | none =>
    refine Or.inl ⟨?_, boundary_of_framing hpayload hle hboundary hvalid hover⟩
    simp [DirectionState.afterFraming, hover, hidle]
  | some framed =>
    obtain ⟨hmem, hpast⟩ := overhang_eq_some hover
    have hoff := (framing_mem hmem).2.1
    obtain ⟨record, hrecord, htype, hsize⟩ := framing_true hpayload offset hboundary framed hmem
    refine Or.inr ⟨by simp [DirectionState.afterFraming, hover], record, _, hrecord, ?_, ?_, ?_, ?_⟩
    · omega
    · omega
    · simp only [DirectionState.afterFraming, hover, toNat_missing hmem]
      omega
    · simp [DirectionState.afterFraming, hover, FramedRecord.isAppData, htype]

end Framing

/-- Where framing starts behind an aligned state, a record of the stream starts. -/
theorem Aligned.boundary_entry {records : List TlsRecord} {position n : ℕ} {state : DirectionState}
    (h : Aligned records position state) (hlt : state.entry n < n) :
    Boundary TlsRecord.encode records (position + state.entry n) := by
  unfold DirectionState.entry at hlt ⊢
  rcases h with ⟨hidle, hboundary⟩ | ⟨hactive, record, start, hprogress⟩
  · simpa [hidle] using hboundary
  · rw [if_pos hactive] at hlt ⊢
    have hmin : min state.activeRecordRemainingBytes.toNat n
        = state.activeRecordRemainingBytes.toNat := by omega
    rw [hmin, ← hprogress.remaining]
    exact hprogress.occupies.boundary_end

/-! ## Runs -/

/-- The entry of a direction behind the packets `before` of its feed. -/
def InStep (records : List TlsRecord) (before : List CapturedPacket) :
    Option DirectionState → Prop
  | none => before = []
  | some state => state.synchronized = true ∧ Aligned records (carriedBytes before) state ∧
      ∃ last ∈ before.getLast?, state.expectedTcpSeq = endSeq last

/-- A feed whose packets carry the direction of an entry in step meets it aligned, and synchronized
unless it is the first packet. -/
theorem InStep.meets {records : List TlsRecord} {key : DirectionKey}
    {before after : List CapturedPacket} {packet : CapturedPacket}
    (hfeed : InOrderFeed records key (before ++ packet :: after)) {directions : Directions}
    (h : InStep records before (directions.lookup key)) :
    Aligned records (carriedBytes before) (checkedState directions packet) ∧
      (before = [] ∨ (checkedState directions packet).synchronized = true) := by
  have hmem : packet ∈ before ++ packet :: after := by simp
  have hentry : entryAtPayload directions (directionOf packet) packet = directions.lookup key := by
    rw [entryAtPayload, if_neg fun hresets => hfeed.noSynRst packet hmem hresets.2,
      (hfeed.carries packet hmem).2.1]
  unfold checkedState stateAtPayload
  rw [hentry]
  cases hlookup : directions.lookup key with
  | none =>
    rw [hlookup] at h
    obtain rfl : before = [] := h
    exact ⟨Or.inl ⟨rfl, Boundary.zero⟩, Or.inl rfl⟩
  | some state =>
    rw [hlookup] at h
    obtain ⟨hsync, haligned, last, hlast, hexpected⟩ := h
    have hfollows : packet.decoded.tcpSeq = endSeq last :=
      (List.isChain_append.mp hfeed.consecutive).2.2 last hlast packet rfl
    have hsame : state.dropOnGap packet.decoded.tcpSeq = state := by
      simp [DirectionState.dropOnGap, hexpected, hfollows]
    rw [Option.getD_some, hsame]
    exact ⟨haligned, Or.inr hsync⟩

/-- A valid framing starts with the record at its entry offset. -/
theorem framing_head {payload : Bytes} {offset : ℕ} (hlt : offset < payload.length)
    (hvalid : (framing payload offset).valid = true) :
    ∃ head, (framing payload offset).records.head? = some head ∧ head.offset = offset := by
  cases hread : readTlsRecordHeader payload offset with
  | none =>
    rw [framing_of_none hlt hread] at hvalid
    cases hvalid
  | some header =>
    by_cases hlen : kTlsRecordHeaderSize + header.2.toNat > payload.length - offset
    · rw [framing_of_overhang hlt hread hlen]
      exact ⟨_, rfl, rfl⟩
    · rw [framing_of_fits hlt hread hlen]
      exact ⟨_, rfl, rfl⟩

/-- The first payload of a feed starts with a Handshake, which is not refused. -/
theorem refused_first {records : List TlsRecord} {payload : Bytes} (hne : payload ≠ [])
    (hpayload : PayloadAt records 0 payload)
    (hfirst : ∃ first rest, records = first :: rest ∧ first.contentType = kTlsHandshake)
    (hvalid : (framing payload 0).valid = true) (synchronized confirmed : Bool) :
    (framing payload 0).refused synchronized confirmed = false := by
  obtain ⟨first, rest, rfl, htype⟩ := hfirst
  obtain ⟨head, hhead, hoffset⟩ := framing_head (List.length_pos_iff.mpr hne) hvalid
  obtain ⟨record, hrecord, hrecordType, -⟩ := framing_true hpayload 0 Boundary.zero head
    (List.mem_of_mem_head? hhead)
  rw [hoffset] at hrecord
  have hsame : record = first := by
    have hpos := record.length_encode
    have hpos' := first.length_encode
    simp only [kTlsRecordHeaderSize] at hpos hpos'
    rcases hrecord.compare ⟨[], rest, rfl, rfl⟩ with ⟨heq, -⟩ | hle | hle
    · exact heq
    · simp only [layout_nil, List.length_nil] at hle
      omega
    · simp only [layout_nil, List.length_nil] at hle
      omega
  subst hsame
  simp [Framing.refused, hhead, FramedRecord.isHandshake, ← hrecordType, htype]

/-- The payload of a packet of a cleanly split feed is framed without an invalid position, from a
record boundary on. -/
theorem CleanSplit.framed {records : List TlsRecord} {key : DirectionKey}
    {before after : List CapturedPacket} {packet : CapturedPacket}
    (hclean : CleanSplit records (before ++ packet :: after))
    (hfeed : InOrderFeed records key (before ++ packet :: after)) {state : DirectionState}
    (haligned : Aligned records (carriedBytes before) state)
    (hlt : state.entry packet.payload.length < packet.payload.length) :
    Boundary TlsRecord.encode records
        (carriedBytes before + state.entry packet.payload.length) ∧
      (framing packet.payload (state.entry packet.payload.length)).valid = true := by
  have hboundary := haligned.boundary_entry hlt
  refine ⟨hboundary, framing_valid hfeed.payloadAt ?_ _ hboundary⟩
  intro record start hrecord hstart
  have hwhole := hclean.headersWhole (before ++ [packet]) after (by simp) record start hrecord
  rw [carriedBytes_concat] at hwhole
  exact hwhole hstart

/-- **What a packet of a cleanly split feed does** to a direction that it meets aligned: it lies
inside the active record, ends with it, or is framed from the record boundary at its entry. -/
theorem outcomeOf_aligned {config : TlsOptions} {records : List TlsRecord} {key : DirectionKey}
    {before after : List CapturedPacket} {packet : CapturedPacket}
    (hfeed : InOrderFeed records key (before ++ packet :: after))
    (hclean : CleanSplit records (before ++ packet :: after)) {directions : Directions}
    (haligned : Aligned records (carriedBytes before) (checkedState directions packet))
    (hsync : before = [] ∨ (checkedState directions packet).synchronized = true) :
    let state := checkedState directions packet
    let n := packet.payload.length
    let out := outcomeOf config directions packet
    (state.hasActiveRecord = true ∧ state.synchronized = true ∧
      n < state.activeRecordRemainingBytes.toNat ∧
      out = segmentMiddle n packet.decoded.tcpSeq state) ∨
    (state.hasActiveRecord = true ∧ state.synchronized = true ∧
      n = state.activeRecordRemainingBytes.toNat ∧
      out = segmentLast config n packet.decoded.tcpSeq state) ∨
    ((state.hasActiveRecord = true → state.activeRecordRemainingBytes.toNat < n ∧
        state.activeRecordConstrictible = false) ∧ state.entry n < n ∧
      Boundary TlsRecord.encode records (carriedBytes before + state.entry n) ∧
      (framingOf directions packet).valid = true ∧
      out = segmentFrames config n packet.decoded.tcpSeq state.framingStart
        (framingOf directions packet)) := by
  intro state n out
  have hne := (hfeed.carries packet (by simp)).2.2
  -- a record can only be in progress behind a first packet
  have hnotFirst : state.hasActiveRecord = true → before ≠ [] := by
    rintro hactive rfl
    obtain ⟨record, start, hprogress⟩ := haligned.inProgress hactive
    exact absurd hprogress.started (Nat.not_lt_zero _)
  rcases outcomeOf_cases config directions packet with
    ⟨hactive, hlt, hout⟩ | ⟨hactive, heq, hout⟩ | ⟨hactive, hlt, hcon, hout⟩ | ⟨hnot, hframes⟩
  · exact Or.inl ⟨hactive, hsync.resolve_left (hnotFirst hactive), hlt, hout⟩
  · exact Or.inr (Or.inl ⟨hactive, hsync.resolve_left (hnotFirst hactive), heq, hout⟩)
  · -- a payload that goes on behind an Application Data record is excluded
    obtain ⟨record, start, hprogress⟩ := haligned.inProgress hactive
    have hends := hclean.appDataEnds before packet after rfl record start hprogress.occupies
      (hprogress.constrictible.mp hcon) hprogress.started hprogress.unfinished
    have hremaining := hprogress.remaining
    omega
  · have hlt : state.entry n < n := by
      unfold DirectionState.entry
      split
      · next hactive => exact Nat.lt_of_le_of_lt (Nat.min_le_left _ _) (hnot hactive).1
      · exact List.length_pos_iff.mpr hne
    obtain ⟨hboundary, hvalid⟩ := hclean.framed hfeed haligned hlt
    have hrefused : (framingOf directions packet).refused state.synchronized
        (stateAtPayload directions packet).confirmedTls = false := by
      rcases hsync with rfl | hsync
      · have hidle : state.hasActiveRecord = false := by
          simpa using fun hactive => hnotFirst hactive rfl
        have hentry : state.entry n = 0 := by
          simp [DirectionState.entry, hidle]
        rw [hentry] at hvalid
        rw [framingOf, hentry]
        exact refused_first hne hfeed.payloadAt hfeed.handshakeFirst hvalid _ _
      · simp [state, Framing.refused, hsync]
    have hout := (hframes.resolve_left fun h => by simp [state, hrefused] at h).2
    exact Or.inr (Or.inr ⟨hnot, hlt, hboundary, hvalid, hout⟩)

/-- **Step lemma.** A packet of a cleanly split feed that meets the entry of its direction aligned
leaves it in step. -/
theorem inStep_step {config : TlsOptions} {records : List TlsRecord} {key : DirectionKey}
    {before after : List CapturedPacket} {packet : CapturedPacket}
    (hfeed : InOrderFeed records key (before ++ packet :: after))
    (hclean : CleanSplit records (before ++ packet :: after)) {directions : Directions}
    (haligned : Aligned records (carriedBytes before) (checkedState directions packet))
    (hsync : before = [] ∨ (checkedState directions packet).synchronized = true) :
    InStep records (before ++ [packet]) (outcomeOf config directions packet).own := by
  have hlast : ∃ last ∈ (before ++ [packet]).getLast?, endSeq packet = endSeq last :=
    ⟨packet, by simp, rfl⟩
  rcases @outcomeOf_aligned config _ _ _ _ _ hfeed hclean _ haligned hsync with
    ⟨hactive, hsync, hlt, hout⟩ | ⟨hactive, hsync, heq, hout⟩ |
    ⟨-, hlt, hboundary, hvalid, hout⟩
  · -- the payload lies inside the active record
    obtain ⟨record, start, hprogress⟩ := haligned.inProgress hactive
    have hremaining := hprogress.remaining
    have hstarted := hprogress.started
    rw [hout, segmentMiddle]
    refine ⟨hsync, ?_, hlast⟩
    rw [carriedBytes_concat]
    refine Or.inr ⟨hactive, record, start, hprogress.occupies, by omega, by omega, ?_,
      hprogress.constrictible⟩
    rw [toNat_sub_ofNat hlt]
    omega
  · -- the active record ends with the payload
    obtain ⟨record, start, hprogress⟩ := haligned.inProgress hactive
    rw [hout, segmentLast]
    refine ⟨hsync, Or.inl ⟨rfl, ?_⟩, hlast⟩
    rw [carriedBytes_concat, heq, ← hprogress.remaining]
    exact hprogress.occupies.boundary_end
  · -- the payload is framed from a record boundary on
    obtain ⟨head, hhead, -⟩ := framing_head hlt hvalid
    rw [hout, segmentFrames, segmentFramed]
    refine ⟨?_, ?_, hlast⟩
    · have hne : (framingOf directions packet).records ≠ [] :=
        List.ne_nil_of_mem (List.mem_of_mem_head? hhead)
      simp [afterFraming_synchronized, hne]
    · rw [carriedBytes_concat]
      exact aligned_afterFraming hfeed.payloadAt (framingStart_inactive _) hlt.le hboundary hvalid _

/-- **Run lemma.** Along a cleanly split feed the state of its direction is that of the stream. -/
theorem inStep_run {config : TlsOptions} {records : List TlsRecord} {key : DirectionKey}
    {inputs : List CapturedPacket} (hfeed : InOrderFeed records key inputs)
    (hclean : CleanSplit records inputs) (before after : List CapturedPacket)
    (hinputs : inputs = before ++ after) :
    InStep records before ((Transducer.after (step config) ∅ before).lookup key) := by
  induction before using List.reverseRecOn generalizing after with
  | nil =>
    rw [Transducer.after_nil]
    rfl
  | append_singleton before packet ih =>
    have hsplit : inputs = before ++ packet :: after := by simpa using hinputs
    subst hsplit
    have hcarries := hfeed.carries packet (by simp)
    have hstored := (step_of_payload hcarries.1 hcarries.2.2 config
      (Transducer.after (step config) ∅ before) (directionOf packet)).1
    rw [storeOutcome, if_pos rfl, hcarries.2.1, ← Transducer.after_concat] at hstored
    rw [hstored]
    obtain ⟨haligned, hsync⟩ := (ih (packet :: after) rfl).meets hfeed
    exact inStep_step hfeed hclean haligned hsync

/-- **A clean split keeps the framing true.** -/
theorem framedFromBoundary_of_cleanSplit {config : TlsOptions} {records : List TlsRecord}
    {key : DirectionKey} {inputs : List CapturedPacket} (hfeed : InOrderFeed records key inputs)
    (hclean : CleanSplit records inputs) (before : List CapturedPacket) (packet : CapturedPacket)
    (after : List CapturedPacket) (hsplit : inputs = before ++ packet :: after) :
    FramedFromBoundary config records before packet := by
  subst hsplit
  rintro - ⟨framed, hmem, -⟩
  obtain ⟨hge, hlt, -⟩ := framing_mem (framedRecords_subset hmem)
  have hinStep : InStep records before ((Transducer.after (step config) ∅ before).lookup key) :=
    inStep_run hfeed hclean before (packet :: after) rfl
  exact (hinStep.meets hfeed).1.boundary_entry (by omega)

end PcapConstrictor.TlsConstrictor
