import PcapConstrictor.Decode.Frames
import PcapConstrictor.Policy.TlsCoherence

/-!
# What the TLS constrictor decides

`Decides` states, without the flags and the loop of `Evaluate`, what is decided for a payload: in
terms of the record that its direction tracks and of the records that follow each other in it.
`evaluate_specified` shows that `Evaluate` gives this answer and no other, in every table that a run
can reach.
-/

namespace PcapConstrictor.TlsConstrictor

open ByteString

/-! ## The specification -/

/-- A valid header of `record` stands at its offset. -/
structure HeaderAt (payload : Bytes) (record : FramedRecord) : Prop where
  inside : record.offset + 5 ≤ payload.length
  contentType : byteAt payload record.offset = record.contentType
  tls : 0x14 ≤ record.contentType ∧ record.contentType ≤ 0x17
  majorVersion : byteAt payload (record.offset + 1) = 3
  totalSize : record.totalSize = 5 + (readBe16 payload (record.offset + 3)).toNat

/-- The records that follow each other in `payload` from `offset` on. A framing is not valid when it
meets, before the payload ends, a position without a valid header. -/
inductive Framed (payload : Bytes) : ℕ → Framing → Prop
  | done {offset : ℕ} : payload.length ≤ offset → Framed payload offset ⟨[], true⟩
  | invalid {offset : ℕ} : offset < payload.length →
      (∀ record, record.offset = offset → ¬ HeaderAt payload record) →
      Framed payload offset ⟨[], false⟩
  | record {record : FramedRecord} {rest : Framing} : HeaderAt payload record →
      Framed payload (record.offset + record.totalSize) rest →
      Framed payload record.offset ⟨record :: rest.records, rest.valid⟩

/-- A record of which a direction still expects bytes. -/
structure TrackedRecord where
  contentType : UInt8
  remaining : ℕ
deriving DecidableEq, Repr

/-- What is known about a direction when a payload arrives. -/
structure Known where
  confirmed : Bool := false
  synchronized : Bool := false
  tracked : Option TrackedRecord := none
deriving DecidableEq, Repr

/-- What a stored entry says about its direction. -/
def DirectionState.known (state : DirectionState) : Known where
  confirmed := state.confirmedTls
  synchronized := state.synchronized
  tracked :=
    if state.hasActiveRecord then
      some ⟨state.activeRecordContentType, state.activeRecordRemainingBytes.toNat⟩
    else none

/-- What is known when the payload of a packet arrives: a SYN or RST discards everything, a gap in
the sequence numbers the synchronization and the tracked record. -/
def knownAt (directions : Directions) (packet : CapturedPacket) : Known :=
  if packet.HasSynRst then {}
  else
    match directions.lookup (directionOf packet) with
    | none => {}
    | some state =>
      if state.synchronized = true ∧ packet.decoded.tcpSeq ≠ state.expectedTcpSeq then
        { confirmed := state.confirmedTls }
      else state.known

/-- The position in a payload of `n` bytes at which a record header is expected: its start, or the
end of a tracked record that holds no Application Data. -/
inductive Known.Entry (known : Known) (n : ℕ) : ℕ → Prop
  | start : known.tracked = none → known.Entry n 0
  | behind {record : TrackedRecord} : known.tracked = some record → record.contentType ≠ 0x17 →
      record.remaining ≤ n → known.Entry n record.remaining

/-- `f` frames the payload from the entry position. -/
def Known.Frames (known : Known) (payload : Bytes) (f : Framing) : Prop :=
  ∃ offset, known.Entry payload.length offset ∧ Framed payload offset f

/-- A direction that is not synchronized refuses a payload without a first record and, as long as it
is not confirmed, one whose first record is no Handshake. -/
def Known.Refuses (known : Known) (f : Framing) : Prop :=
  known.synchronized = false ∧
    match f.records.head? with
    | none => f.valid = false
    | some record => known.confirmed = false ∧ record.contentType ≠ 0x16

/-- The disposition of a packet of which `kept` out of `n` payload bytes are kept. -/
def cutDisposition (kept n : ℕ) : TlsConstrictDisposition :=
  if kept < n then .appDataPrefix else .noApplicationData

/-- **What is decided for a payload**: the disposition and how many of its bytes are kept. -/
inductive Decides (config : TlsOptions) (known : Known) (payload : Bytes) :
    TlsConstrictDisposition → ℕ → Prop
  /-- The payload lies strictly inside the tracked record. -/
  | inside {record : TrackedRecord} : known.tracked = some record →
      payload.length < record.remaining →
      Decides config known payload .noApplicationData payload.length
  /-- The payload runs past the end of a tracked Application Data record. -/
  | past {record : TrackedRecord} : known.tracked = some record → record.contentType = 0x17 →
      record.remaining < payload.length →
      Decides config known payload .noApplicationData payload.length
  /-- The payload ends with a tracked Application Data record. -/
  | last {record : TrackedRecord} : known.tracked = some record → record.contentType = 0x17 →
      record.remaining = payload.length →
      Decides config known payload
        (cutDisposition (min config.appDataContinuationKeepBytes.toNat payload.length)
          payload.length)
        (min config.appDataContinuationKeepBytes.toNat payload.length)
  | refused {f : Framing} : known.Frames payload f → known.Refuses f →
      Decides config known payload .noRecord payload.length
  /-- The framing meets a position without a valid header. -/
  | malformed {f : Framing} : known.Frames payload f → ¬ known.Refuses f → f.valid = false →
      Decides config known payload .malformed payload.length
  | noAppData {f : Framing} : known.Frames payload f → ¬ known.Refuses f → f.valid = true →
      f.lastAppData = none → Decides config known payload .noApplicationData payload.length
  /-- The cut falls into the last Application Data record. -/
  | appData {f : Framing} {record : FramedRecord} {kept : ℕ} : known.Frames payload f →
      ¬ known.Refuses f → f.valid = true → f.lastAppData = some record →
      kept = record.offset +
        min config.appDataKeepRecordBytes.toNat (record.present payload.length) →
      Decides config known payload (cutDisposition kept payload.length) kept

/-! ## The framing -/

/-- The header that `Evaluate` reads. -/
theorem headerAt_iff {payload : Bytes} {record : FramedRecord} :
    HeaderAt payload record ↔ ∃ length : UInt16,
      readTlsRecordHeader payload record.offset = some (record.contentType, length) ∧
        record.totalSize = kTlsRecordHeaderSize + length.toNat := by
  constructor
  · intro h
    have hinside : HasBytes payload record.offset kTlsRecordHeaderSize := hasBytes_iff.mpr h.inside
    refine ⟨readBe16 payload (record.offset + 3), ?_, h.totalSize⟩
    rw [readTlsRecordHeader, if_neg (not_not.mpr hinside), if_neg, h.contentType]
    rw [h.contentType, (isTlsContentType_iff _).mpr h.tls, h.majorVersion]
    decide
  · rintro ⟨length, hread, htotal⟩
    obtain ⟨hinside, htype, hversion, hlength⟩ := readTlsRecordHeader_eq_some hread
    exact ⟨hinside, htype, contentType_of_header hread, hversion,
      by rw [htotal, hlength, kTlsRecordHeaderSize]⟩

/-- The framing that the loop computes is the one of the specification. -/
theorem framed_framing (payload : Bytes) (offset : ℕ) :
    Framed payload offset (framing payload offset) := by
  fun_induction framing payload offset with
  | case1 offset hoff hread =>
    refine .invalid hoff ?_
    rintro record rfl hheader
    obtain ⟨length, hsome, -⟩ := headerAt_iff.mp hheader
    rw [hread] at hsome
    cases hsome
  | case2 offset hoff contentType length hread totalSize record hlen =>
    refine @Framed.record _ record ⟨[], true⟩ (headerAt_iff.mpr ⟨length, hread, rfl⟩) (.done ?_)
    change payload.length ≤ offset + totalSize
    omega
  | case3 offset hoff contentType length hread totalSize record hlen rest ih =>
    exact @Framed.record _ record _ (headerAt_iff.mpr ⟨length, hread, rfl⟩) ih
  | case4 offset hoff => exact .done (Nat.not_lt.mp hoff)

/-- The specification allows one framing only. -/
theorem Framed.eq_framing {payload : Bytes} {offset : ℕ} {f : Framing}
    (h : Framed payload offset f) : f = framing payload offset := by
  induction h with
  | done hle => rw [framing_of_le hle]
  | @invalid offset hlt hnone =>
    cases hread : readTlsRecordHeader payload offset with
    | none => rw [framing_of_none hlt hread]
    | some header =>
      exact absurd (headerAt_iff.mpr ⟨header.2, hread, rfl⟩) (hnone
        ⟨offset, header.1, kTlsRecordHeaderSize + header.2.toNat⟩ rfl)
  | @record record rest hheader hrest ih =>
    obtain ⟨length, hread, htotal⟩ := headerAt_iff.mp hheader
    have hlt : record.offset < payload.length := by
      have hinside := hheader.inside
      omega
    have hrecord : record = ⟨record.offset, record.contentType,
        kTlsRecordHeaderSize + length.toNat⟩ := by
      rw [← htotal]
    by_cases hlen : kTlsRecordHeaderSize + length.toNat > payload.length - record.offset
    · rw [ih, framing_of_le (by omega), framing_of_overhang hlt hread hlen, ← hrecord]
    · rw [framing_of_fits hlt hread hlen, ← hrecord, ih, htotal]

/-! ## What is known -/

/-- What the specification needs of an entry: it is consistent, and a tracked record may be cut
exactly when it holds Application Data. -/
structure Sound (state : DirectionState) : Prop extends Consistent state where
  constrictible : state.hasActiveRecord = true →
    (state.activeRecordConstrictible = true ↔ state.activeRecordContentType = kTlsApplicationData)

/-- In every table that a run can reach, the payload meets a sound state. -/
theorem checkedState_sound (inputs : List (TlsOptions × CapturedPacket))
    (packet : CapturedPacket) : Sound (checkedState (Transducer.after call ∅ inputs) packet) where
  toConsistent := (Consistent.stateAtPayload (allCoherent_run inputs) packet).dropOnGap _
  constrictible := by
    intro hactive
    rw [after_call {}] at hactive ⊢
    obtain ⟨hdrop, -, first, rest, offset, length, -, htracks, -⟩ :=
      tracked_at_payload (allTracked {} (inputs.map Prod.snd)) hactive
    rw [hdrop]
    exact htracks.constrictible

/-- The state that a payload meets holds what is known about its direction. -/
theorem known_checkedState {packet : CapturedPacket} (htcp : packet.IsTcp)
    (directions : Directions) :
    (checkedState directions packet).known = knownAt directions packet := by
  have hresets : Resets (directionOf packet) packet ↔ packet.HasSynRst :=
    ⟨fun h => h.2, fun h => ⟨⟨htcp, Or.inl rfl⟩, h⟩⟩
  unfold checkedState stateAtPayload entryAtPayload knownAt
  simp only [hresets]
  by_cases hflags : packet.HasSynRst
  · rw [if_pos hflags, if_pos hflags]
    rfl
  · rw [if_neg hflags, if_neg hflags]
    cases directions.lookup (directionOf packet) with
    | none => rfl
    | some state =>
      by_cases hgap : state.synchronized = true ∧ packet.decoded.tcpSeq ≠ state.expectedTcpSeq
      · have hdrop : (state.synchronized && packet.decoded.tcpSeq != state.expectedTcpSeq)
            = true := by
          simpa using hgap
        simp only [Option.getD_some, DirectionState.dropOnGap, if_pos hdrop, if_pos hgap]
        rfl
      · have hdrop : ¬ (state.synchronized && packet.decoded.tcpSeq != state.expectedTcpSeq)
            = true := by
          simpa using hgap
        simp only [Option.getD_some, DirectionState.dropOnGap, if_neg hdrop, if_neg hgap]

section Tracked

variable {state : DirectionState}

/-- No record is tracked when none is active. -/
theorem tracked_eq_none_iff : state.known.tracked = none ↔ state.hasActiveRecord = false := by
  unfold DirectionState.known
  cases state.hasActiveRecord <;> simp

theorem tracked_eq_some {record : TrackedRecord} (h : state.known.tracked = some record) :
    state.hasActiveRecord = true ∧ record.contentType = state.activeRecordContentType ∧
      record.remaining = state.activeRecordRemainingBytes.toNat := by
  unfold DirectionState.known at h
  cases hactive : state.hasActiveRecord with
  | false => simp [hactive] at h
  | true =>
    simp only [hactive, if_true, Option.some.injEq] at h
    rw [← h]
    exact ⟨rfl, rfl, rfl⟩

/-- The entry position of the code is the one of the specification. -/
theorem Known.Entry.eq_entry {n offset : ℕ} (h : state.known.Entry n offset) :
    offset = state.entry n := by
  cases h with
  | start hnone =>
    rw [DirectionState.entry, tracked_eq_none_iff.mp hnone]
    exact (if_neg Bool.false_ne_true).symm
  | behind hsome _ hle =>
    obtain ⟨hactive, -, hremaining⟩ := tracked_eq_some hsome
    rw [DirectionState.entry, if_pos hactive, ← hremaining, Nat.min_eq_left hle]

/-- The specification refuses a framing when the code does. -/
theorem refuses_iff {f : Framing} :
    state.known.Refuses f ↔ f.refused state.synchronized state.confirmedTls = true := by
  change state.synchronized = false ∧ (match f.records.head? with
    | none => f.valid = false
    | some record => state.confirmedTls = false ∧ record.contentType ≠ 0x16) ↔ _
  unfold Framing.refused
  cases f.records.head? with
  | none => simp
  | some record =>
    simp [FramedRecord.isHandshake, kTlsHandshake, and_comm]

end Tracked

/-! ## What is decided -/

/-- An outcome answers a packet of `n` payload bytes as decided. -/
def SegmentOutcome.Answers (o : SegmentOutcome) (n : ℕ) (disposition : TlsConstrictDisposition)
    (kept : ℕ) : Prop :=
  o.disposition = disposition ∧ o.cut = if kept < n then some kept else none

/-- A packet of which all payload bytes are kept is not cut. -/
theorem SegmentOutcome.answers_full {o : SegmentOutcome} {n : ℕ}
    {disposition : TlsConstrictDisposition} (h : o.disposition = disposition)
    (hcut : o.cut = none) :
    o.Answers n disposition n :=
  ⟨h, hcut.trans (if_neg (Nat.lt_irrefl n)).symm⟩

section SegmentFrames

variable {config : TlsOptions} {n : ℕ} {tcpSeq : UInt32} {state : DirectionState} {f : Framing}
  (hsync : (state.afterFraming f n).synchronized = true)

/-- A payload with a broken record is kept, as malformed. -/
theorem segmentFrames_invalid (hvalid : f.valid = false) :
    (segmentFrames config n tcpSeq state f).Answers n .malformed n := by
  refine SegmentOutcome.answers_full ?_ ?_ <;> simp [segmentFrames, segmentFramed, hvalid]

include hsync

/-- A payload without Application Data is kept. -/
theorem segmentFrames_noAppData (hvalid : f.valid = true) (hlast : f.lastAppData = none) :
    (segmentFrames config n tcpSeq state f).Answers n .noApplicationData n := by
  refine SegmentOutcome.answers_full ?_ ?_ <;>
    simp [segmentFrames, segmentFramed, hvalid, hlast, hsync]

/-- A payload is cut in its last Application Data record, if that drops anything. -/
theorem segmentFrames_appData {record : FramedRecord} (hvalid : f.valid = true)
    (hlast : f.lastAppData = some record) :
    (segmentFrames config n tcpSeq state f).Answers n
      (cutDisposition (keepInRecord config n record) n) (keepInRecord config n record) := by
  constructor <;>
    simp [segmentFrames, segmentFramed, Continuation.candidate, cutDisposition, hvalid, hlast,
      hsync]

end SegmentFrames

/-- The outcome of framing a payload as `f`. -/
def outcomeOfFraming (config : TlsOptions) (directions : Directions) (packet : CapturedPacket)
    (f : Framing) : SegmentOutcome :=
  let state := checkedState directions packet
  if f.refused state.synchronized state.confirmedTls then
    segmentRefused state.confirmedTls state.framingStart
  else
    segmentFrames config packet.payload.length packet.decoded.tcpSeq state.framingStart f

section Decides

variable {config : TlsOptions} {directions : Directions} {packet : CapturedPacket}
  (hsound : Sound (checkedState directions packet))
include hsound

/-- A framed payload is answered as the framing says, also when it only holds the end of a tracked
record. -/
theorem answers_of_frames {f : Framing} {disposition : TlsConstrictDisposition} {kept : ℕ}
    (hframes : (checkedState directions packet).known.Frames packet.payload f)
    (hanswers : (outcomeOfFraming config directions packet f).Answers packet.payload.length
      disposition kept) :
    (outcomeOf config directions packet).Answers packet.payload.length disposition kept := by
  obtain ⟨offset, hentry, hframed⟩ := hframes
  have hf : f = framingOf directions packet := by
    rw [hframed.eq_framing, hentry.eq_entry, framingOf]
  -- a tracked Application Data record has no entry position
  have hcon : (checkedState directions packet).hasActiveRecord = true →
      (checkedState directions packet).activeRecordConstrictible = false ∧
        (checkedState directions packet).activeRecordRemainingBytes.toNat
          ≤ packet.payload.length := by
    intro hactive
    cases hentry with
    | start hnone =>
      rw [tracked_eq_none_iff, hactive] at hnone
      cases hnone
    | behind hsome htype hle =>
      obtain ⟨-, htracked, hremaining⟩ := tracked_eq_some hsome
      rw [htracked] at htype
      exact ⟨by simpa using mt (hsound.constrictible hactive).mp htype, hremaining ▸ hle⟩
  subst hf
  unfold outcomeOfFraming at hanswers
  dsimp only at hanswers
  rcases outcomeOf_cases config directions packet with
    ⟨hactive, hlt, hout⟩ | ⟨hactive, heq, hout⟩ | ⟨hactive, -, hyes, hout⟩ |
    ⟨-, ⟨hrefused, hout⟩ | ⟨hrefused, hout⟩⟩
  · exact absurd (hcon hactive).2 (Nat.not_le.mpr hlt)
  · -- the tracked record ends with the payload, and nothing is framed
    have hsync := (hsound.active hactive).1
    have hnil : framingOf directions packet = ⟨[], true⟩ := by
      rw [framingOf, DirectionState.entry, if_pos hactive, ← heq, Nat.min_self,
        framing_of_le le_rfl]
    have hstart : ((checkedState directions packet).framingStart.afterFraming ⟨[], true⟩
        packet.payload.length).synchronized = true := by
      rw [DirectionState.afterFraming_nil, framingStart_synchronized, hsync]
    simp only [hnil, hsync, refused_of_synchronized, Bool.false_eq_true, if_false] at hanswers
    obtain ⟨hdisposition, hcut⟩ := segmentFrames_noAppData hstart rfl rfl
    rw [if_neg (Nat.lt_irrefl _)] at hcut
    rw [SegmentOutcome.Answers, hdisposition, hcut] at hanswers
    rw [hout]
    simpa [SegmentOutcome.Answers, segmentLast, (hcon hactive).1, hsync] using hanswers
  · exact absurd ((hcon hactive).1.symm.trans hyes) Bool.false_ne_true
  · rw [checkedState_confirmedTls, if_pos hrefused] at hanswers
    rw [hout]
    exact hanswers
  · rw [checkedState_confirmedTls, if_neg (by rw [hrefused]; exact Bool.false_ne_true)] at hanswers
    rw [hout]
    exact hanswers

/-- A framing that is not refused is accepted, and behind it the direction is synchronized. -/
theorem accepted_of_frames (hpayload : packet.payload ≠ []) {f : Framing}
    (hframes : (checkedState directions packet).known.Frames packet.payload f)
    (hrefuses : ¬ (checkedState directions packet).known.Refuses f) :
    outcomeOfFraming config directions packet f
        = segmentFrames config packet.payload.length packet.decoded.tcpSeq
          (checkedState directions packet).framingStart f ∧
      ((checkedState directions packet).framingStart.afterFraming f
        packet.payload.length).synchronized = true := by
  obtain ⟨offset, hentry, hframed⟩ := hframes
  rw [refuses_iff] at hrefuses
  refine ⟨if_neg hrefuses, ?_⟩
  rw [hframed.eq_framing, hentry.eq_entry, ← framingOf] at hrefuses ⊢
  rw [checkedState_confirmedTls, Bool.not_eq_true] at hrefuses
  exact hsound.afterFraming_synchronized hpayload hrefuses

/-- **`Evaluate` answers as decided.** -/
theorem Decides.answers (hpayload : packet.payload ≠ []) {disposition : TlsConstrictDisposition}
    {kept : ℕ} (h : Decides config (checkedState directions packet).known packet.payload disposition
      kept) :
    (outcomeOf config directions packet).Answers packet.payload.length disposition kept := by
  cases h with
  | inside hsome hlt =>
    obtain ⟨hactive, -, hremaining⟩ := tracked_eq_some hsome
    rw [hremaining] at hlt
    have hout : outcomeOf config directions packet = segmentMiddle _ _ _ :=
      (segment_eq _ _ _ _).trans (if_pos ⟨hactive, hlt⟩)
    rw [hout]
    refine SegmentOutcome.answers_full (if_pos ?_) rfl
    exact Bool.or_eq_true_iff.mpr (Or.inr (hsound.active hactive).1)
  | past hsome htype hlt =>
    obtain ⟨hactive, htracked, hremaining⟩ := tracked_eq_some hsome
    rw [hremaining] at hlt
    -- the flag of the table stands for the type of the tracked record
    have hcon := (hsound.constrictible hactive).mpr (htracked.symm.trans htype)
    have hout : outcomeOf config directions packet = segmentReset _ :=
      (segment_eq _ _ _ _).trans <| (if_neg fun h => Nat.lt_asymm h.2 hlt).trans <|
        (if_neg fun h => Nat.ne_of_gt hlt h.2).trans (if_pos ⟨hactive, hcon⟩)
    rw [hout]
    exact SegmentOutcome.answers_full rfl rfl
  | last hsome htype heq =>
    obtain ⟨hactive, htracked, hremaining⟩ := tracked_eq_some hsome
    rw [hremaining] at heq
    have hcon := (hsound.constrictible hactive).mpr (htracked.symm.trans htype)
    have hout : outcomeOf config directions packet
        = segmentLast config packet.payload.length packet.decoded.tcpSeq
          (checkedState directions packet) :=
      (segment_eq _ _ _ _).trans <| (if_neg fun h => Nat.ne_of_lt h.2 heq.symm).trans
        (if_pos ⟨hactive, heq.symm⟩)
    rw [hout]
    simp [SegmentOutcome.Answers, segmentLast, cutDisposition, clampedKeepSize, hcon,
      (hsound.active hactive).1]
  | refused hframes hrefuses =>
    refine answers_of_frames hsound hframes ?_
    rw [outcomeOfFraming, if_pos (refuses_iff.mp hrefuses)]
    exact SegmentOutcome.answers_full rfl rfl
  | malformed hframes hrefuses hvalid =>
    obtain ⟨hout, -⟩ := accepted_of_frames hsound hpayload hframes hrefuses
    refine answers_of_frames hsound hframes ?_
    rw [hout]
    exact segmentFrames_invalid hvalid
  | noAppData hframes hrefuses hvalid hlast =>
    obtain ⟨hout, hsync⟩ := accepted_of_frames hsound hpayload hframes hrefuses
    refine answers_of_frames hsound hframes ?_
    rw [hout]
    exact segmentFrames_noAppData hsync hvalid hlast
  | appData hframes hrefuses hvalid hlast hkept =>
    obtain ⟨hout, hsync⟩ := accepted_of_frames hsound hpayload hframes hrefuses
    refine answers_of_frames hsound hframes ?_
    rw [hout, hkept]
    exact segmentFrames_appData hsync hvalid hlast

end Decides

/-- No more than the payload is kept. -/
theorem Decides.kept_le {config : TlsOptions} {known : Known} {payload : Bytes}
    {disposition : TlsConstrictDisposition} {kept : ℕ}
    (h : Decides config known payload disposition kept) : kept ≤ payload.length := by
  cases h with
  | inside _ _ => exact le_rfl
  | past _ _ _ => exact le_rfl
  | last _ _ _ => exact Nat.min_le_right _ _
  | refused _ _ => exact le_rfl
  | malformed _ _ _ => exact le_rfl
  | noAppData _ _ _ _ => exact le_rfl
  | @appData f record _ hframes _ _ hlast hkept =>
    obtain ⟨offset, -, hframed⟩ := hframes
    have hmem := (lastAppData_mem hlast).1
    rw [hframed.eq_framing] at hmem
    obtain ⟨-, hlt, -⟩ := framing_mem hmem
    simp only [FramedRecord.present] at hkept
    omega

/-- Something is decided for every payload. -/
theorem exists_decides (config : TlsOptions) (known : Known) (payload : Bytes) :
    ∃ disposition kept, Decides config known payload disposition kept := by
  -- from an entry position on, the framing decides
  have hframing : ∀ offset, known.Entry payload.length offset →
      ∃ disposition kept, Decides config known payload disposition kept := by
    intro offset hentry
    have hframes : known.Frames payload (framing payload offset) :=
      ⟨offset, hentry, framed_framing payload offset⟩
    by_cases hrefuses : known.Refuses (framing payload offset)
    · exact ⟨_, _, .refused hframes hrefuses⟩
    cases hvalid : (framing payload offset).valid with
    | false => exact ⟨_, _, .malformed hframes hrefuses hvalid⟩
    | true =>
      cases hlast : (framing payload offset).lastAppData with
      | none => exact ⟨_, _, .noAppData hframes hrefuses hvalid hlast⟩
      | some record => exact ⟨_, _, .appData hframes hrefuses hvalid hlast rfl⟩
  cases htracked : known.tracked with
  | none => exact hframing 0 (.start htracked)
  | some record =>
    by_cases htype : record.contentType = 0x17
    · rcases Nat.lt_trichotomy payload.length record.remaining with hlt | heq | hgt
      · exact ⟨_, _, .inside htracked hlt⟩
      · exact ⟨_, _, .last htracked htype heq.symm⟩
      · exact ⟨_, _, .past htracked htype hgt⟩
    · rcases Nat.lt_or_ge payload.length record.remaining with hlt | hge
      · exact ⟨_, _, .inside htracked hlt⟩
      · exact hframing _ (.behind htracked htype hge)

/-- A SYN or RST discards what is stored about both directions. -/
theorem step_of_synRst {packet : CapturedPacket} (htcp : packet.IsTcp) (h : packet.HasSynRst)
    (config : TlsOptions) (directions : Directions) :
    step config directions packet
      = step config ((directions.erase (directionOf packet)).erase (reverseOf packet)) packet := by
  have hreset : ∀ d : Directions, resetOnSynRst d packet.decoded
      = (d.erase (directionOf packet)).erase (reverseOf packet) := fun d => if_pos h
  have htwice : resetOnSynRst directions packet.decoded
      = resetOnSynRst ((directions.erase (directionOf packet)).erase (reverseOf packet))
        packet.decoded := by
    rw [hreset, hreset]
    refine Finmap.ext_lookup fun key => ?_
    simp only [Table.lookup_erase]
    split_ifs <;> rfl
  rw [step_of_tcp htcp, step_of_tcp htcp, htwice]

/-- **`Evaluate` equals its specification.** In every table that a run over any packets and options
can reach, a TCP packet with payload gets the only answer that the specification allows: it is sent
in full, or up to the last payload byte kept; and a SYN or RST discards both directions first. -/
theorem evaluate_specified (inputs : List (TlsOptions × CapturedPacket)) (config : TlsOptions)
    {packet : CapturedPacket} (htcp : packet.IsTcp) (hpayload : packet.payload ≠ []) :
    let directions := Transducer.after call ∅ inputs
    let result := (step config directions packet).2
    (∃ kept, Decides config (knownAt directions packet) packet.payload result.disposition kept ∧
      result.outputLen.toNat = (if kept < packet.payload.length then
        packet.decoded.transportPayloadOffset + kept else packet.safeData.length) ∧
      ∀ disposition' kept', Decides config (knownAt directions packet) packet.payload disposition'
        kept' → disposition' = result.disposition ∧ kept' = kept) ∧
    (packet.HasSynRst → step config directions packet
      = step config ((directions.erase (directionOf packet)).erase (reverseOf packet)) packet) := by
  intro directions result
  refine ⟨?_, fun h => step_of_synRst htcp h config directions⟩
  have hcarries : Carries (directionOf packet) packet := ⟨htcp, rfl, hpayload⟩
  have hsound := checkedState_sound inputs packet
  have hresult : result.disposition = (outcomeOf config directions packet).disposition :=
    congrArg TlsConstrictResult.disposition (step_result hcarries config directions)
  rw [← known_checkedState htcp directions, hresult]
  obtain ⟨disposition, kept, hdecides⟩ := exists_decides config
    (checkedState directions packet).known packet.payload
  -- some decision exists, and every decision is the one that is made
  obtain ⟨rfl, hcut⟩ := hdecides.answers hsound hpayload
  refine ⟨kept, hdecides, ?_, ?_⟩
  · rw [step_outputLen hcarries, hcut]
    by_cases hlt : kept < packet.payload.length
    · rw [if_pos hlt, if_pos hlt]
    · rw [if_neg hlt, if_neg hlt]
  · intro disposition' kept' hdecides'
    obtain ⟨rfl, hcut'⟩ := hdecides'.answers hsound hpayload
    refine ⟨rfl, ?_⟩
    have hle := hdecides.kept_le
    have hle' := hdecides'.kept_le
    rw [hcut] at hcut'
    split at hcut' <;> split at hcut'
    · exact (Option.some.inj hcut').symm
    · cases hcut'
    · cases hcut'
    · omega

/-- The example packet is cut by the specification. -/
theorem evaluate_specified_plain :
    ∃ kept, Decides exampleOptions {} plainPacket.payload .appDataPrefix kept := by
  have hknown : knownAt ∅ plainPacket = {} := by decide +kernel
  have hcut : (step exampleOptions ∅ plainPacket).2.disposition = .appDataPrefix := by
    decide +kernel
  obtain ⟨kept, hdecides, -⟩ := (@evaluate_specified [] exampleOptions plainPacket
    (by decide +kernel) (by decide +kernel)).1
  rw [Transducer.after_nil, hknown, hcut] at hdecides
  exact ⟨kept, hdecides⟩

end PcapConstrictor.TlsConstrictor
