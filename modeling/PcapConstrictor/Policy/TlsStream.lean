import PcapConstrictor.Common.Layout
import PcapConstrictor.Decode.Frames
import PcapConstrictor.Policy.TlsConfirmation
import PcapConstrictor.Policy.TlsProvenance

/-!
# What is cut from an in-order TLS stream

A list of TLS records is sent as one byte stream, split anyhow into the payloads of consecutive
packets of one direction. As long as the constrictor frames payloads from true record boundaries,
the records it frames are the records sent (`framing_true`), the Application Data record it
tracks is the one in progress (`trackedAppData_step`), the last Application Data record it frames is
the last one that starts in the payload (`lastFrom_framing`), and what it cuts is the end of that
record together with the records that start behind it in the same packet
(`cut_in_application_data`).

The constrictor does not always frame from true boundaries: after it has lost the framing it
resynchronizes at the start of a payload, wherever in a record that payload starts, and takes bytes
there for a header if they look like one.
-/

namespace PcapConstrictor.TlsConstrictor

open ByteString Layout

/-- A well-formed TLS record. -/
structure TlsRecord where
  contentType : UInt8
  minorVersion : UInt8
  body : Bytes
  isTls : isTlsContentType contentType = true
  length_lt : body.length < 2 ^ 16

namespace TlsRecord

/-- The bytes of a record on the wire. -/
def encode (record : TlsRecord) : Bytes :=
  [record.contentType, 0x03, record.minorVersion] ++
    (encodeBe16 (UInt16.ofNat record.body.length) ++ record.body)

theorem length_encode (record : TlsRecord) :
    record.encode.length = kTlsRecordHeaderSize + record.body.length := by
  simp only [encode, List.length_append, length_encodeBe16, List.length_cons, List.length_nil,
    kTlsRecordHeaderSize]
  omega

/-- Every record has a header. -/
theorem encode_pos (record : TlsRecord) : 5 ≤ record.encode.length := by
  rw [record.length_encode, kTlsRecordHeaderSize]
  exact Nat.le_add_right _ _

/-- The header of a record is read back where the record starts. -/
theorem readTlsRecordHeader_encode (record : TlsRecord) (front back : Bytes) :
    readTlsRecordHeader (front ++ (record.encode ++ back)) front.length
      = some (record.contentType, UInt16.ofNat record.body.length) := by
  have hbytes : HasBytes (front ++ (record.encode ++ back)) front.length kTlsRecordHeaderSize := by
    rw [hasBytes_iff, List.length_append, List.length_append, length_encode]
    omega
  have htype : byteAt (front ++ (record.encode ++ back)) front.length = record.contentType := by
    rw [byteAt_append_length]
    rfl
  have hmajor : byteAt (front ++ (record.encode ++ back)) (front.length + 1) = 0x03 := by
    rw [byteAt_append_right]
    rfl
  have hlength : readBe16 (front ++ (record.encode ++ back)) (front.length + 3)
      = UInt16.ofNat record.body.length := by
    have happ : front ++ (record.encode ++ back)
        = (front ++ [record.contentType, 0x03, record.minorVersion]) ++
            (encodeBe16 (UInt16.ofNat record.body.length) ++ (record.body ++ back)) := by
      simp [encode]
    have hlen : front.length + 3
        = (front ++ [record.contentType, 0x03, record.minorVersion]).length := by simp
    rw [happ, hlen, readBe16_encodeBe16]
  rw [readTlsRecordHeader, if_neg (not_not.mpr hbytes), htype, hmajor, hlength, record.isTls]
  rfl

end TlsRecord

/-- The byte stream of a list of records. -/
abbrev stream (records : List TlsRecord) : Bytes := layout TlsRecord.encode records

/-- `n` payload bytes from position `position` of the stream. -/
def PayloadAt (records : List TlsRecord) (position : ℕ) (payload : Bytes) : Prop :=
  ∃ front back, stream records = front ++ (payload ++ back) ∧ front.length = position

/-- Where a payload holds the bytes of a header, the stream reads the same header. -/
theorem readTlsRecordHeader_inside (front back : Bytes) {payload : Bytes} {offset : ℕ}
    (hbytes : offset + kTlsRecordHeaderSize ≤ payload.length) :
    readTlsRecordHeader (front ++ (payload ++ back)) (front.length + offset)
      = readTlsRecordHeader payload offset := by
  have hle := hbytes
  simp only [kTlsRecordHeaderSize] at hle
  have hbyte : ∀ i < 5, byteAt (front ++ (payload ++ back)) (front.length + offset + i)
      = byteAt payload (offset + i) := by
    intro i hi
    rw [Nat.add_assoc, byteAt_append_right, byteAt_append_left (by omega)]
  have hword : readBe16 (front ++ (payload ++ back)) (front.length + offset + 3)
      = readBe16 payload (offset + 3) := by
    rw [readBe16, readBe16, hbyte 3 (by decide), Nat.add_assoc _ 3 1, hbyte (3 + 1) (by decide),
      Nat.add_assoc offset 3 1]
  have hzero := hbyte 0 (by decide)
  rw [Nat.add_zero, Nat.add_zero] at hzero
  have hstream : HasBytes (front ++ (payload ++ back)) (front.length + offset)
      kTlsRecordHeaderSize := by
    rw [hasBytes_iff, List.length_append, List.length_append]
    omega
  unfold readTlsRecordHeader
  rw [if_neg (not_not.mpr hstream), if_neg (not_not.mpr (hasBytes_iff.mpr hbytes)), hzero,
    hbyte 1 (by decide), hword]

/-- A header read inside a payload is read at the same place of the stream. -/
theorem readTlsRecordHeader_append (front back : Bytes) {payload : Bytes} {offset : ℕ}
    {header : UInt8 × UInt16} (hread : readTlsRecordHeader payload offset = some header) :
    readTlsRecordHeader (front ++ (payload ++ back)) (front.length + offset) = some header :=
  (readTlsRecordHeader_inside front back (readTlsRecordHeader_eq_some hread).1).trans hread

/-- A header read at a record boundary is the header of the record there. -/
theorem header_at_boundary {records : List TlsRecord} {position offset : ℕ} {payload : Bytes}
    (hpayload : PayloadAt records position payload)
    (hboundary : Boundary TlsRecord.encode records (position + offset))
    {contentType : UInt8} {length : UInt16}
    (hread : readTlsRecordHeader payload offset = some (contentType, length)) :
    ∃ record, Occupies TlsRecord.encode records record (position + offset) ∧
      record.contentType = contentType ∧
      record.encode.length = kTlsRecordHeaderSize + length.toNat := by
  obtain ⟨front, back, hstream, rfl⟩ := hpayload
  have hlt : front.length + offset < (stream records).length := by
    have hoff := (readTlsRecordHeader_eq_some hread).1
    simp only [kTlsRecordHeaderSize] at hoff
    rw [hstream, List.length_append, List.length_append]
    omega
  obtain ⟨record, hrecord⟩ := hboundary.occupies hlt
  obtain ⟨front', back', hstream', hfront'⟩ := hrecord.split
  have hsame := readTlsRecordHeader_append front back hread
  rw [← hstream, show stream records = _ from hstream', ← hfront', List.append_assoc,
    record.readTlsRecordHeader_encode,
    Option.some.injEq, Prod.mk.injEq] at hsame
  refine ⟨record, hrecord, hsame.1, ?_⟩
  rw [record.length_encode, ← hsame.2, UInt16.toNat_ofNat', Nat.mod_eq_of_lt record.length_lt]

/-- **Framing from a true boundary finds the records sent.** -/
theorem framing_true {records : List TlsRecord} {position : ℕ} {payload : Bytes}
    (hpayload : PayloadAt records position payload) (offset : ℕ)
    (hboundary : Boundary TlsRecord.encode records (position + offset)) :
    ∀ framed ∈ (framing payload offset).records, ∃ record,
      Occupies TlsRecord.encode records record (position + framed.offset) ∧
        record.contentType = framed.contentType ∧ record.encode.length = framed.totalSize := by
  fun_induction framing payload offset with
  | case1 offset hoff hread =>
    intro framed hframed
    exact absurd hframed List.not_mem_nil
  | case2 offset hoff contentType length hread totalSize head hlen =>
    intro framed hframed
    rw [List.mem_singleton.mp hframed]
    exact header_at_boundary hpayload hboundary hread
  | case3 offset hoff contentType length hread totalSize head hlen rest ih =>
    obtain ⟨record, hrecord, htype, hsize⟩ := header_at_boundary hpayload hboundary hread
    intro framed hframed
    rcases List.mem_cons.mp hframed with rfl | hframed
    · exact ⟨record, hrecord, htype, hsize⟩
    · have hnext := hrecord.boundary_end
      rw [hsize, Nat.add_assoc] at hnext
      exact ih hnext framed hframed
  | case4 offset hoff =>
    intro framed hframed
    exact absurd hframed List.not_mem_nil

/-- Only a framing without an invalid position leaves an overhang. -/
theorem valid_of_overhang {payload : Bytes} {offset : ℕ} {framed : FramedRecord}
    (h : (framing payload offset).overhang payload.length = some framed) :
    (framing payload offset).valid = true := by
  fun_induction framing payload offset with
  | case1 offset hoff hread => cases h
  | case2 offset hoff contentType length hread totalSize head hlen => rfl
  | case3 offset hoff contentType length hread totalSize head hlen rest ih =>
    rw [overhang_cons _ (Nat.not_lt.mp hlen)] at h
    exact ih h
  | case4 offset hoff => rfl

/-- The Application Data record `record` starts at `start`. -/
structure AppDataAt (records : List TlsRecord) (record : TlsRecord) (start : ℕ) : Prop where
  occupies : Occupies TlsRecord.encode records record start
  contentType : record.contentType = kTlsApplicationData

/-! ## The last record that begins -/

section LastFrom

variable {records : List TlsRecord} {position n : ℕ}

/-- `last` is the last Application Data record of the stream that begins in the `n` payload bytes at
`position`, sought from `offset` on. -/
def LastFrom (records : List TlsRecord) (position n offset : ℕ) : Option FramedRecord → Prop
  | none => ∀ record start, AppDataAt records record start → position + offset ≤ start →
      position + n ≤ start
  | some last => ∃ record, AppDataAt records record (position + last.offset) ∧
      record.encode.length = last.totalSize ∧
      ∀ other start, AppDataAt records other start → start < position + n →
        start ≤ position + last.offset

/-- Another record in front. -/
theorem LastFrom.cons {head : FramedRecord} {record : TlsRecord} {last : Option FramedRecord}
    (hrecord : Occupies TlsRecord.encode records record (position + head.offset))
    (htype : record.contentType = head.contentType)
    (hsize : record.encode.length = head.totalSize)
    (h : LastFrom records position n (head.offset + head.totalSize) last) :
    LastFrom records position n head.offset
      (last.or (if head.isAppData then some head else none)) := by
  cases last with
  | some last => exact h
  | none =>
    rw [Option.none_or]
    split
    · next happ =>
      have happ : head.contentType = kTlsApplicationData := beq_iff_eq.mp happ
      refine ⟨record, ⟨hrecord, htype.trans happ⟩, hsize, fun other start hother hlt => ?_⟩
      rcases hrecord.compare hother.occupies with ⟨-, heq⟩ | hbefore | hbehind
      · omega
      · have hend := h other start hother (by omega)
        omega
      · omega
    · next happ =>
      intro other start hother hle
      rcases hrecord.compare hother.occupies with ⟨rfl, -⟩ | hbefore | hbehind
      · exact absurd (beq_iff_eq.mpr (htype.symm.trans hother.contentType)) happ
      · exact h other start hother (by omega)
      · have hpos := other.encode_pos
        omega

/-- The framing of a payload finds the last Application Data record that begins in it. -/
theorem lastFrom_framing {payload : Bytes} (hpayload : PayloadAt records position payload)
    (offset : ℕ) (hboundary : Boundary TlsRecord.encode records (position + offset))
    (hvalid : (framing payload offset).valid = true) :
    LastFrom records position payload.length offset (framing payload offset).lastAppData := by
  fun_induction framing payload offset with
  | case1 offset hoff hread => cases hvalid
  | case2 offset hoff contentType length hread totalSize head hlen =>
    obtain ⟨record, hrecord, htype, hsize⟩ := header_at_boundary hpayload hboundary hread
    have hnone : LastFrom records position payload.length (offset + totalSize) none := by
      intro other start _ hle
      omega
    rw [lastAppData_cons head ⟨[], true⟩]
    exact LastFrom.cons hrecord htype hsize hnone
  | case3 offset hoff contentType length hread totalSize head hlen rest ih =>
    obtain ⟨record, hrecord, htype, hsize⟩ := header_at_boundary hpayload hboundary hread
    have hnext := hrecord.boundary_end
    rw [hsize, Nat.add_assoc] at hnext
    rw [lastAppData_cons head rest]
    exact LastFrom.cons hrecord htype hsize (ih hnext hvalid)
  | case4 offset hoff =>
    intro record start _ hle
    omega

end LastFrom

/-! ## Feeds -/

/-- The packets `inputs` carry the byte stream of `records` in order, as one direction of a
connection without SYN or RST. -/
structure InOrderFeed (records : List TlsRecord) (key : DirectionKey)
    (inputs : List CapturedPacket) : Prop where
  handshakeFirst : ∃ first rest, records = first :: rest ∧ first.contentType = kTlsHandshake
  carries : ∀ packet ∈ inputs, Carries key packet
  noSynRst : ∀ packet ∈ inputs, ¬ packet.HasSynRst
  consecutive : List.IsChain Follows inputs
  payloads : layout CapturedPacket.payload inputs = stream records

/-- When a packet behind `before` is framed to the end of its payload with an Application Data
record among its records, the framing starts at a true record boundary. -/
def FramedFromBoundary (config : TlsOptions) (records : List TlsRecord)
    (before : List CapturedPacket) (packet : CapturedPacket) : Prop :=
  let directions := Transducer.after (step config) ∅ before
  (framingOf directions packet).valid = true →
    (∃ framed ∈ framedRecords directions packet, framed.contentType = kTlsApplicationData) →
    Boundary TlsRecord.encode records
      (carriedBytes before + (checkedState directions packet).entry packet.payload.length)

/-- The payload byte at `offset` of a packet with `n` payload bytes, behind `position` stream bytes,
belongs to an Application Data record, or to a record that starts in the packet behind the last
Application Data record that starts in it. -/
def InApplicationData (records : List TlsRecord) (position n offset : ℕ) : Prop :=
  ∃ record start, Occupies TlsRecord.encode records record start ∧ start ≤ position + offset ∧
    position + offset < start + record.encode.length ∧
    (record.contentType = kTlsApplicationData ∨
      ∃ last start', AppDataAt records last start' ∧ position ≤ start' ∧ start' < start ∧
        ∀ other start'', AppDataAt records other start'' → start'' < position + n →
          start'' ≤ start')

/-- A tracked Application Data record is the record in progress at `position`. -/
def TracksAppData (records : List TlsRecord) (position : ℕ) (state : DirectionState) : Prop :=
  state.hasActiveRecord = true → state.activeRecordConstrictible = true →
    ∃ record start, Occupies TlsRecord.encode records record start ∧
      record.contentType = kTlsApplicationData ∧ start < position ∧
      start + record.encode.length = position + state.activeRecordRemainingBytes.toNat

/-- The payloads of a feed are as long as what it has carried. -/
theorem length_layout_payload (inputs : List CapturedPacket) :
    (layout CapturedPacket.payload inputs).length = carriedBytes inputs := by
  simp [layout, carriedBytes, List.length_flatMap]

/-- A packet's payload stands behind what was carried before it. -/
theorem InOrderFeed.payloadAt {records : List TlsRecord} {key : DirectionKey}
    {before after : List CapturedPacket} {packet : CapturedPacket}
    (h : InOrderFeed records key (before ++ packet :: after)) :
    PayloadAt records (carriedBytes before) packet.payload := by
  refine ⟨layout CapturedPacket.payload before, layout CapturedPacket.payload after, ?_,
    length_layout_payload before⟩
  rw [← h.payloads, layout_append, layout_cons]

/-! ## The tracked record -/

/-- **Step lemma.** A packet of the feed keeps the tracked Application Data record true. -/
theorem trackedAppData_step {config : TlsOptions} {records : List TlsRecord}
    {before : List CapturedPacket} {packet : CapturedPacket}
    (hpayload : PayloadAt records (carriedBytes before) packet.payload)
    (hframed : FramedFromBoundary config records before packet)
    (hinv : TracksAppData records (carriedBytes before)
      (stateAtPayload (Transducer.after (step config) ∅ before) packet))
    {state : DirectionState}
    (hown : (outcomeOf config (Transducer.after (step config) ∅ before) packet).own = some state) :
    TracksAppData records (carriedBytes (before ++ [packet])) state := by
  intro hactive hconstrictible
  rw [carriedBytes_concat]
  generalize hd : Transducer.after (step config) ∅ before = directions at hinv hown
  rcases outcomeOf_active hown hactive with ⟨hwas, hlt, hown⟩ | ⟨hnot, hrefused, hown⟩
  · -- the tracked record goes on
    have hsame : checkedState directions packet = stateAtPayload directions packet :=
      dropOnGap_of_active hwas
    rw [hsame] at hwas hlt hown
    rw [segmentMiddle, Option.some.injEq] at hown
    subst hown
    obtain ⟨record, start, hrecord, htype, hstart, hend⟩ := hinv hwas hconstrictible
    refine ⟨record, start, hrecord, htype, by omega, ?_⟩
    rw [toNat_sub_ofNat hlt]
    omega
  · simp only [segmentFrames, segmentFramed, Option.some.injEq] at hown
    subst hown
    cases hover : (framingOf directions packet).overhang packet.payload.length with
    | none =>
      simp [DirectionState.afterFraming, hover, framingStart_inactive] at hactive
    | some framed =>
      simp only [DirectionState.afterFraming, hover] at hconstrictible ⊢
      obtain ⟨hmem, hpast⟩ := overhang_eq_some hover
      have hoff := (framing_mem hmem).2.1
      have htype : framed.contentType = kTlsApplicationData := by
        simpa [FramedRecord.isAppData] using hconstrictible
      subst hd
      -- the record is framed from a true boundary, so it is the record sent there
      have hboundary := hframed (valid_of_overhang hover)
        ⟨framed, framedRecords_of_framed hnot hrefused ▸ hmem, htype⟩
      obtain ⟨record, hrecord, hrecordType, hsize⟩ := framing_true hpayload _ hboundary framed hmem
      refine ⟨record, _, hrecord, hrecordType.trans htype, by omega, ?_⟩
      rw [toNat_missing hmem, hsize]
      omega

/-- The state a packet meets tracks what the stored entry of its direction tracks. -/
theorem trackedAppData_at_payload {records : List TlsRecord} {position : ℕ} {key : DirectionKey}
    {directions : Directions} {packet : CapturedPacket} (hcarries : Carries key packet)
    (hinv : ∀ state, directions.lookup key = some state → TracksAppData records position state) :
    TracksAppData records position (stateAtPayload directions packet) := by
  intro hactive
  obtain ⟨old, hold, -⟩ := entry_of_flag (·.hasActiveRecord) rfl hactive
  have hlookup := (entryAtPayload_eq_some hold).2
  rw [hcarries.2.1] at hlookup
  have heq : stateAtPayload directions packet = old := by
    rw [stateAtPayload, hold, Option.getD_some]
  rw [heq] at hactive ⊢
  exact hinv old hlookup hactive

/-- Along a feed that is framed from true boundaries only, the tracked Application Data record is
the one in progress. -/
theorem trackedAppData_run {config : TlsOptions} {records : List TlsRecord} {key : DirectionKey}
    {inputs : List CapturedPacket} (hfeed : InOrderFeed records key inputs)
    (hframed : ∀ before packet after, inputs = before ++ packet :: after →
      FramedFromBoundary config records before packet)
    (before after : List CapturedPacket) (hinputs : inputs = before ++ after) :
    ∀ state, (Transducer.after (step config) ∅ before).lookup key = some state →
      TracksAppData records (carriedBytes before) state := by
  induction before using List.reverseRecOn generalizing after with
  | nil => exact fun state hlookup => by simp at hlookup
  | append_singleton before packet ih =>
    intro state hlookup
    have hsplit : inputs = before ++ packet :: after := by simpa using hinputs
    have hmem : packet ∈ inputs := by rw [hsplit]; simp
    have hcarries := hfeed.carries packet hmem
    have hbefore := trackedAppData_at_payload hcarries (ih (packet :: after) hsplit)
    have hstored := (step_of_payload hcarries.1 hcarries.2.2 config
      (Transducer.after (step config) ∅ before) (directionOf packet)).1
    rw [storeOutcome, if_pos rfl, hcarries.2.1, ← Transducer.after_concat, hlookup] at hstored
    exact trackedAppData_step (hsplit ▸ hfeed).payloadAt (hframed before packet after hsplit)
      hbefore hstored.symm

/-- A byte behind the start of the last Application Data record that starts in a payload belongs to
it or to a later record. -/
theorem inApplicationData_of_le {records : List TlsRecord} {position n offset start : ℕ}
    {last : TlsRecord} (happ : AppDataAt records last start) (hposition : position ≤ start)
    (hlast : ∀ other start', AppDataAt records other start' → start' < position + n →
      start' ≤ start)
    (hle : start ≤ position + offset) (hlt : position + offset < (stream records).length) :
    InApplicationData records position n offset := by
  obtain ⟨record, start', hrecord, hle', hlt'⟩ := exists_occupies hlt
  refine ⟨record, start', hrecord, hle', hlt', ?_⟩
  rcases happ.occupies.compare hrecord with ⟨rfl, -⟩ | hbefore | hafter
  · exact Or.inl happ.contentType
  · have hpos := last.encode_pos
    exact Or.inr ⟨last, start, happ, hposition, by omega, hlast⟩
  · omega

/-- **What is cut.** -/
theorem cut_in_application_data {config : TlsOptions} {records : List TlsRecord}
    {before : List CapturedPacket} {packet : CapturedPacket}
    (hpayload : PayloadAt records (carriedBytes before) packet.payload)
    (hframed : FramedFromBoundary config records before packet)
    (hinv : TracksAppData records (carriedBytes before)
      (stateAtPayload (Transducer.after (step config) ∅ before) packet))
    {keep : ℕ} (hcut : (outcomeOf config (Transducer.after (step config) ∅ before) packet).cut
      = some keep) {offset : ℕ} (hkeep : keep ≤ offset) (hoffset : offset < packet.payload.length) :
    InApplicationData records (carriedBytes before) packet.payload.length offset := by
  have hlt : carriedBytes before + offset < (stream records).length := by
    obtain ⟨front, back, hstream, hfront⟩ := hpayload
    rw [hstream, List.length_append, List.length_append]
    omega
  generalize hd : Transducer.after (step config) ∅ before = directions at hinv hcut
  rcases outcomeOf_cases config directions packet with
    ⟨hwas, -, hout⟩ | ⟨hwas, heq, hout⟩ | ⟨-, -, -, hout⟩ | ⟨hnot, ⟨-, hout⟩ | ⟨hrefused, hout⟩⟩ <;>
    rw [hout] at hcut
  · cases hcut
  · -- the payload is the end of the tracked record
    have hsame : checkedState directions packet = stateAtPayload directions packet :=
      dropOnGap_of_active hwas
    rw [hsame] at hwas heq hcut
    simp only [segmentLast] at hcut
    split at hcut
    · next hcuts =>
      simp only [Bool.and_eq_true] at hcuts
      obtain ⟨record, start, hrecord, htype, hstart, hend⟩ := hinv hwas hcuts.1.1
      exact ⟨record, start, hrecord, by omega, by omega, Or.inl htype⟩
    · cases hcut
  · cases hcut
  · cases hcut
  · -- the cut falls behind the start of the last framed Application Data record
    obtain ⟨hvalid, framed, hlast, hkeepEq⟩ := segmentFrames_cut hcut
    obtain ⟨hmem, htype⟩ := lastAppData_mem hlast
    rw [keepInRecord] at hkeepEq
    subst hd
    have hboundary := hframed hvalid
      ⟨framed, framedRecords_of_framed hnot hrefused ▸ hmem, htype⟩
    -- the framing finds the last of those that start in the packet
    have hfound := lastFrom_framing hpayload _ hboundary hvalid
    change LastFrom _ _ _ _ (framingOf _ packet).lastAppData at hfound
    rw [hlast] at hfound
    obtain ⟨record, hrecord, -, hlater⟩ := hfound
    exact inApplicationData_of_le hrecord (Nat.le_add_right _ _) hlater (by omega) hlt

/-- `P` holds of the stream position of a packet, the length of its payload and an offset in it
whenever the payload byte there lies at or behind the output length of the packet. -/
def DroppedBytes (config : TlsOptions) (inputs : List CapturedPacket) (P : ℕ → ℕ → ℕ → Prop) :
    Prop :=
  ∀ before packet after, inputs = before ++ packet :: after → ∀ offset < packet.payload.length,
    (step config (Transducer.after (step config) ∅ before) packet).2.outputLen.toNat
        ≤ packet.decoded.transportPayloadOffset + offset →
      P (carriedBytes before) packet.payload.length offset

/-- **Only Application Data is cut, and what follows it in the packet.** In a feed that is framed
from true record boundaries, every dropped payload byte belongs to an Application Data record, or to
a record that starts in the same packet behind the last Application Data record that starts in
it. -/
theorem dropped_in_application_data {config : TlsOptions} {records : List TlsRecord}
    {key : DirectionKey} {inputs : List CapturedPacket} (hfeed : InOrderFeed records key inputs)
    (hframed : ∀ before packet after, inputs = before ++ packet :: after →
      FramedFromBoundary config records before packet) :
    DroppedBytes config inputs (InApplicationData records) := by
  intro before packet after hsplit offset hoffset hdropped
  have hcarries := hfeed.carries packet (by rw [hsplit]; simp)
  have hle := hcarries.1.transportDecoded.payload_le_length
  have hlength := CapturedPacket.length_payload hcarries.1.transportDecoded
  rw [step_outputLen hcarries] at hdropped
  cases hcut : (outcomeOf config (Transducer.after (step config) ∅ before) packet).cut with
  | none =>
    simp only [hcut] at hdropped
    omega
  | some keep =>
    have hkeep : packet.decoded.transportPayloadOffset + keep
        ≤ packet.decoded.transportPayloadOffset + offset := by
      simpa only [hcut] using hdropped
    exact cut_in_application_data (hsplit ▸ hfeed).payloadAt (hframed before packet after hsplit)
      (trackedAppData_at_payload hcarries
        (trackedAppData_run hfeed hframed before (packet :: after) hsplit))
      hcut (Nat.le_of_add_le_add_left hkeep) hoffset

/-! ## Example feeds -/

/-- The direction of the example packets. -/
def exampleKey : DirectionKey := directionOf (examplePacket 0 [])

def handshakeRecord : TlsRecord := ⟨kTlsHandshake, 3, [0], rfl, by decide⟩

def appDataRecord : TlsRecord := ⟨kTlsApplicationData, 3, [1, 2, 3, 4], rfl, by decide⟩

/-- A Handshake whose body looks like an Application Data record behind its first byte. -/
def disguisedRecord : TlsRecord :=
  ⟨kTlsHandshake, 3, [0, 0x17, 3, 3, 0, 3, 1, 2, 3], rfl, by decide⟩

def alertRecord : TlsRecord := ⟨kTlsAlert, 3, [1, 0], rfl, by decide⟩

/-- The example packet carries a whole stream. -/
theorem plainFeed : InOrderFeed [handshakeRecord, appDataRecord] exampleKey [plainPacket] where
  handshakeFirst := ⟨_, _, rfl, rfl⟩
  carries := by decide +kernel
  noSynRst := by decide +kernel
  consecutive := by decide +kernel
  payloads := by decide +kernel

/-- What is dropped of the example packet lies in its Application Data record. -/
theorem dropped_in_application_data_plain :
    DroppedBytes exampleOptions [plainPacket]
      (InApplicationData [handshakeRecord, appDataRecord]) := by
  refine dropped_in_application_data plainFeed ?_
  intro before packet after hsplit
  cases before with
  | nil =>
    obtain ⟨rfl, -⟩ := List.cons.inj hsplit
    have hentry : (checkedState ∅ plainPacket).entry plainPacket.payload.length = 0 := by
      decide +kernel
    intro _ _
    rw [Transducer.after_nil, hentry]
    exact Boundary.zero
  | cons first before => simp at hsplit

/-- The second packet ends the Application Data record and starts the next record, which makes the
constrictor forget its framing; the third starts inside that record. -/
def resyncInputs : List CapturedPacket :=
  [examplePacket 0 [0x16, 3, 3, 0, 1, 0, 0x17, 3, 3, 0, 4, 1, 2],
    examplePacket 13 [3, 4, 0x16, 3, 3, 0, 9, 0],
    examplePacket 21 [0x17, 3, 3, 0, 3, 1, 2, 3]]

def resyncRecords : List TlsRecord := [handshakeRecord, appDataRecord, disguisedRecord]

theorem resyncFeed : InOrderFeed resyncRecords exampleKey resyncInputs where
  handshakeFirst := ⟨_, _, rfl, rfl⟩
  carries := by decide +kernel
  noSynRst := by decide +kernel
  consecutive := by decide +kernel
  payloads := by decide +kernel

/-- One packet with a Handshake, an Application Data record and an Alert. -/
def trailingInputs : List CapturedPacket :=
  [examplePacket 0
    [0x16, 3, 3, 0, 1, 0, 0x17, 3, 3, 0, 4, 1, 2, 3, 4, 0x15, 3, 3, 0, 2, 1, 0]]

def trailingRecords : List TlsRecord := [handshakeRecord, appDataRecord, alertRecord]

theorem trailingFeed : InOrderFeed trailingRecords exampleKey trailingInputs where
  handshakeFirst := ⟨_, _, rfl, rfl⟩
  carries := by decide +kernel
  noSynRst := by decide +kernel
  consecutive := by decide +kernel
  payloads := by decide +kernel

/-- The payload byte at `offset` of a packet behind `position` stream bytes belongs to an
Application Data record. -/
def OnlyApplicationData (records : List TlsRecord) (position _n offset : ℕ) : Prop :=
  ∃ record start, Occupies TlsRecord.encode records record start ∧ start ≤ position + offset ∧
    position + offset < start + record.encode.length ∧
    record.contentType = kTlsApplicationData

/-- A byte of another record is outside every Application Data record. -/
theorem not_onlyApplicationData {records : List TlsRecord} (record : TlsRecord) (start : ℕ)
    {position n offset : ℕ} (hrecord : Occupies TlsRecord.encode records record start)
    (hstart : start ≤ position + offset) (hend : position + offset < start + record.encode.length)
    (htype : record.contentType ≠ kTlsApplicationData) :
    ¬ OnlyApplicationData records position n offset := by
  rintro ⟨other, start', hother, hstart', hend', hotherType⟩
  rcases hrecord.compare hother with ⟨rfl, -⟩ | hle | hle
  · exact htype hotherType
  · omega
  · omega

/-- Not only Application Data is dropped: a payload that starts inside a Handshake is taken for an
Application Data record, and an Alert behind an Application Data record is cut with it. -/
theorem dropped_outside_application_data :
    (InOrderFeed resyncRecords exampleKey resyncInputs ∧
      ¬ DroppedBytes exampleOptions resyncInputs (OnlyApplicationData resyncRecords)) ∧
    InOrderFeed trailingRecords exampleKey trailingInputs ∧
      ¬ DroppedBytes exampleOptions trailingInputs (OnlyApplicationData trailingRecords) := by
  refine ⟨⟨resyncFeed, ?_⟩, trailingFeed, ?_⟩
  · intro h
    refine not_onlyApplicationData disguisedRecord 15
      ⟨[handshakeRecord, appDataRecord], [], rfl, by decide⟩ ?_ ?_ (by decide)
      (h (resyncInputs.take 2) (examplePacket 21 [0x17, 3, 3, 0, 3, 1, 2, 3]) [] rfl 7
        (by decide +kernel) (by decide +kernel)) <;> decide +kernel
  · intro h
    refine not_onlyApplicationData alertRecord 15
      ⟨[handshakeRecord, appDataRecord], [], rfl, by decide⟩ ?_ ?_ (by decide)
      (h [] _ [] rfl 20 (by decide +kernel) (by decide +kernel)) <;> decide +kernel

end PcapConstrictor.TlsConstrictor
