import PcapConstrictor.Capture.Replay
import PcapConstrictor.Offline.Streaming

/-!
# What a capture file says

Byte order, time precision and the reserved fields of a capture are matters of encoding. Two files
that say the same have the same canonical form, the one the writer produces, and the feed does the
same with them (`encoding_irrelevant`). A pass without constrictors writes the canonical form, so it
can go in front of any other pass (`normalise_first`).
-/

namespace PcapConstrictor

open ByteString PcapReader

namespace PcapFile

/-- The fraction of a record, read as microseconds, is less than a second. -/
def Record.InRange (record : Record) : Prop := record.tsFraction.toNat < 1000000

/-- The time of a record in whole microseconds. -/
def Record.micros (precision : PcapTimePrecision) (record : Record) : ℕ :=
  record.tsSec.toNat * 1000000 + record.tsFraction.toNat / precision.perMicrosecond

/-- The record at another time. -/
def Record.withTime (record : Record) (tsSec tsFraction : UInt32) : Record :=
  { record with tsSec, tsFraction }

/-- The record with its time in seconds and microseconds. A fraction of a second or more carries. -/
def Record.canonical (precision : PcapTimePrecision) (record : Record) : Record :=
  record.withTime (UInt32.ofNat (record.micros precision / 1000000))
    (UInt32.ofNat (record.micros precision % 1000000))

@[simp] theorem Record.withTime_bytes (record : Record) (tsSec tsFraction : UInt32) :
    (record.withTime tsSec tsFraction).bytes = record.bytes := rfl

@[simp] theorem Record.withTime_tsFraction (record : Record) (tsSec tsFraction : UInt32) :
    (record.withTime tsSec tsFraction).tsFraction = tsFraction := rfl

@[simp] theorem Record.withTime_capturedLength (record : Record) (tsSec tsFraction : UInt32) :
    (record.withTime tsSec tsFraction).capturedLength = record.capturedLength := rfl

@[simp] theorem Record.canonical_bytes (precision : PcapTimePrecision) (record : Record) :
    (record.canonical precision).bytes = record.bytes := record.withTime_bytes _ _

@[simp] theorem Record.canonical_capturedLength (precision : PcapTimePrecision)
    (record : Record) : (record.canonical precision).capturedLength = record.capturedLength :=
  record.withTime_capturedLength _ _

/-- The fraction of a canonical record is less than a second. -/
theorem Record.canonical_inRange (precision : PcapTimePrecision) (record : Record) :
    (record.canonical precision).InRange := by
  have hlt : record.micros precision % 1000000 < 1000000 := Nat.mod_lt _ (by decide)
  rw [InRange, canonical, withTime_tsFraction, UInt32.toNat_ofNat', Nat.mod_eq_of_lt (by omega)]
  exact hlt

/-- The record with the first `n` bytes of its data. -/
def Record.cutAt (record : Record) (n : ℕ) : Record :=
  { record with
    bytes := record.bytes.take n
    length_le := (List.length_take_le' n record.bytes).trans record.length_le }

/-- A record is not cut behind its end. -/
theorem Record.cutAt_of_le {record : Record} {n : ℕ} (h : record.bytes.length ≤ n) :
    record.cutAt n = record := by
  simp only [cutAt, List.take_of_length_le h]

/-- The header the writer produces for the same snapshot length. -/
def Header.canonical (header : Header) : Header where
  endianness := .little
  timePrecision := .microsecond
  reserved1 := 0
  reserved2 := 0
  snaplen := header.snaplen
  snaplen_ne_zero := header.snaplen_ne_zero

/-- The packet the feed makes of a record. -/
def Record.packet (clock : SystemClock) (precision : PcapTimePrecision) (record : Record) :
    CapturedPacket :=
  OfflinePacketFeed.capturedPacket clock precision (record.delivered 0 0)

/-- A record at another time gives a packet at another time. -/
theorem Record.packet_withTime (clock : SystemClock) (precision precision' : PcapTimePrecision)
    (record : Record) (tsSec tsFraction : UInt32) :
    let packet := record.packet clock precision
    let packet' := (record.withTime tsSec tsFraction).packet clock precision'
    packet.packet = packet'.packet ∧ packet.linkType = packet'.linkType := ⟨rfl, rfl⟩

/-- Index and offset of a delivered record do not reach the packet. -/
theorem map_delivered (clock : SystemClock) (precision : PcapTimePrecision)
    (records : List Record) (index offset : ℕ) :
    (delivered index offset records).map (OfflinePacketFeed.capturedPacket clock precision)
      = records.map (Record.packet clock precision) := by
  induction records generalizing index offset with
  | nil => rfl
  | cons record records ih =>
    rw [delivered, List.map_cons, List.map_cons, ih]
    rfl

end PcapFile

open PcapFile

/-- The canonical form of a file. -/
def PcapFile.canonical (file : PcapFile) : PcapFile where
  header := file.header.canonical
  records := file.records.map (·.canonical file.header.timePrecision)

namespace PcapFile

/-- Both files are of the same size. -/
theorem length_canonical (file : PcapFile) : file.canonical.encode.length = file.encode.length := by
  have hrecords : ∀ (endianness endianness' : PcapEndianness) (records : List Record),
      ((records.map (·.canonical file.header.timePrecision)).flatMap
        (·.encode endianness)).length = (records.flatMap (·.encode endianness')).length := by
    intro endianness endianness' records
    induction records with
    | nil => rfl
    | cons record records ih =>
      simp only [List.map_cons, List.flatMap_cons, List.length_append, ih, Record.length_encode,
        Record.canonical_bytes]
  rw [encode, encode, List.length_append, List.length_append, Header.length_encode,
    Header.length_encode, canonical, hrecords _ file.header.endianness]

/-- Every record of a canonical file is canonical. -/
theorem canonical_inRange (file : PcapFile) :
    ∀ record ∈ file.canonical.records, record.InRange := by
  intro record hmem
  obtain ⟨original, -, rfl⟩ := List.mem_map.mp hmem
  exact original.canonical_inRange file.header.timePrecision

/-- An accepted file and its packets. -/
theorem accepted_encode {file : PcapFile} (hsize : file.encode.length < UInt64.size) :
    Accepted file.encode file.header.fields :=
  accepted_iff.mpr ⟨hsize, file.header, @holds_of_eq _ [] _ _ rfl, rfl⟩

/-- The feed reads an encoded file as its records' packets, to the end. -/
theorem packetsOf_encode (clock : SystemClock) {file : PcapFile}
    (hsize : file.encode.length < UInt64.size) :
    OfflinePacketFeed.packetsOf clock file.encode file.header.fields
        = file.records.map (Record.packet clock file.header.timePrecision) ∧
      (opened file.encode file.header.fields).readAll.2.hasError = false := by
  obtain ⟨hok, hread⟩ := readAll_openFile_encode hsize {}
  rw [openFile_of_accepted (accepted_encode hsize)] at hok hread
  refine ⟨?_, hok⟩
  rw [OfflinePacketFeed.packetsOf, OfflinePacketFeed.recordsOf, hread]
  exact map_delivered ..

end PcapFile

/-! ## Packets that are written alike -/

/-- Two packets that differ at most in what the writer does not keep of their time. -/
structure CapturedPacket.WrittenAlike (clock : SystemClock) (p q : CapturedPacket) : Prop where
  packet : p.packet = q.packet
  linkType : p.linkType = q.linkType
  tsSec : PcapWriter.tsSec clock p = PcapWriter.tsSec clock q
  tsUsec : PcapWriter.tsUsec clock p = PcapWriter.tsUsec clock q

/-- The loop body treats them alike. -/
theorem Recording.consumed_alike (config : PolicyConfig) (writer : PcapWriter)
    {clock : SystemClock} {p q : CapturedPacket} (h : p.WrittenAlike clock q) (s : Recording) :
    consumed config writer clock s p = consumed config writer clock s q := by
  obtain ⟨hpacket, hlink, hsec, husec⟩ := h
  obtain ⟨packet, timestamp, linkType⟩ := p
  obtain ⟨packet', timestamp', linkType'⟩ := q
  dsimp only at hpacket hlink
  subst hpacket hlink
  -- neither the policy nor the counters look at the time
  have hpolicy : LiveCapturePolicy.evaluate config s.policy ⟨packet, timestamp, linkType⟩
      = LiveCapturePolicy.evaluate config s.policy ⟨packet, timestamp', linkType⟩ := rfl
  have hrecord : ∀ inclLen, PcapWriter.record clock ⟨packet, timestamp, linkType⟩ inclLen
      = PcapWriter.record clock ⟨packet, timestamp', linkType⟩ inclLen := by
    intro inclLen
    rw [PcapWriter.record, PcapWriter.record, PcapWriter.recordHeader, PcapWriter.recordHeader,
      hsec, husec]
    rfl
  rw [consumed, consumed, hpolicy, hrecord]
  rfl

/-- A record and its canonical form are written alike: the seconds are narrowed to 32 bits in both
cases. -/
theorem PcapFile.Record.writtenAlike (clock : SystemClock) (precision : PcapTimePrecision)
    (record : Record) :
    (record.packet clock precision).WrittenAlike clock
      ((record.canonical precision).packet clock .microsecond) := by
  have hmicros : clock.microseconds (record.packet clock precision).timestamp
      = (record.micros precision : ℕ) :=
    microseconds_timestamp clock (record.delivered 0 0) precision
  have hmicros' := microseconds_timestamp clock ((record.canonical precision).delivered 0 0)
    .microsecond
  rw [PcapTimePrecision.perMicrosecond, Nat.div_one] at hmicros'
  obtain ⟨hsec, hus⟩ := tsSec_tsUsec_of_natCast (record.packet clock precision) hmicros
  obtain ⟨hsec', hus'⟩ := tsSec_tsUsec_of_microseconds
    ((record.canonical precision).packet clock .microsecond) hmicros'
    (record.canonical_inRange precision)
  have hfraction : (record.canonical precision).tsFraction.toNat
      = (PcapWriter.tsUsec clock (record.packet clock precision)).toNat := by
    rw [hus, canonical, withTime_tsFraction]
  obtain ⟨hpacket, hlink⟩ := record.packet_withTime clock precision .microsecond
    (UInt32.ofNat (record.micros precision / 1000000))
    (UInt32.ofNat (record.micros precision % 1000000))
  exact ⟨hpacket, hlink, hsec.trans hsec'.symm,
    UInt32.toNat_inj.mp (hfraction.symm.trans hus'.symm)⟩

namespace OfflinePacketFeed

/-- **The feed sees the canonical form only.** -/
theorem run_canonical (clock : SystemClock) (config : PolicyConfig) {file : PcapFile}
    (hsize : file.encode.length < UInt64.size) :
    run clock config (.readable file.encode) true
      = run clock config (.readable file.canonical.encode) true := by
  have hsize' : file.canonical.encode.length < UInt64.size := file.length_canonical ▸ hsize
  obtain ⟨hpackets, hok⟩ := packetsOf_encode clock hsize
  obtain ⟨hpackets', hok'⟩ := packetsOf_encode clock hsize'
  have hconsumed : ∀ (writer : PcapWriter) (s : Recording) (records : List PcapFile.Record),
      Recording.consumeAll config writer clock s
          (records.map (Record.packet clock file.header.timePrecision))
        = Recording.consumeAll config writer clock s
            ((records.map (·.canonical file.header.timePrecision)).map
              (Record.packet clock .microsecond)) := by
    intro writer s records
    induction records generalizing s with
    | nil => rfl
    | cons record records ih =>
      have hfirst := Recording.consumed_alike config writer
        (record.writtenAlike clock file.header.timePrecision) s
      have hrest := ih (Recording.consumed config writer clock s
        (record.packet clock file.header.timePrecision))
      rw [hfirst] at hrest
      simp only [Recording.consumeAll, List.map_cons, List.foldl_cons, hfirst] at hrest ⊢
      exact hrest
  rw [run_of_accepted clock config (accepted_encode hsize),
    run_of_accepted clock config (accepted_encode hsize'), hpackets, hpackets']
  simp only [feedResult, hok, hok', Bool.false_eq_true, if_false]
  rw [hconsumed _ _ file.records]
  rfl

/-- **Only what a file says matters.** Files with the same canonical form give the same output and
the same counters. -/
theorem encoding_irrelevant (clock : SystemClock) (config : PolicyConfig) {file file' : PcapFile}
    (hsize : file.encode.length < UInt64.size) (hsize' : file'.encode.length < UInt64.size)
    (hsame : file.canonical = file'.canonical) :
    run clock config (.readable file.encode) true
      = run clock config (.readable file'.encode) true := by
  rw [run_canonical clock config hsize, run_canonical clock config hsize', hsame]

/-! ## The bytes that are saved -/

/-- The output behind the global header: 16 bytes for each packet, and what is kept of it. -/
theorem length_records (config : PolicyConfig) (clock : SystemClock)
    (policy : LiveCapturePolicy.State) (packets : List CapturedPacket) :
    (Recording.records config clock policy packets).flatten.length
      = kClassicPcapPacketHeaderSize * packets.length
        + Recording.keptBytes config policy packets := by
  rw [← sum_inclLen_records config clock, List.length_flatten]
  have hrecorded := Recording.recorded_records config clock policy packets
  generalize Recording.records config clock policy packets = written at hrecorded ⊢
  induction hrecorded with
  | nil => rfl
  | cons h _ ih =>
    simp only [List.map_cons, List.sum_cons, List.length_cons, ih, h.length,
      kClassicPcapPacketHeaderSize]
    ring

/-- The input behind the global header, counted in the same way. -/
theorem sum_recordSize (records : List PcapPacketRecord) :
    (records.map recordSize).sum
      = kClassicPcapPacketHeaderSize * records.length
        + (records.map (·.capturedLength.toNat)).sum := by
  induction records with
  | nil => rfl
  | cons record records ih =>
    simp only [List.map_cons, List.sum_cons, List.length_cons, ih, recordSize]
    ring

/-- The output of an accepted file is never longer than the file. -/
theorem length_run_le (clock : SystemClock) (config : PolicyConfig) {bytes output : Bytes}
    {header : ClassicPcapGlobalHeader} (h : Accepted bytes header)
    (hrun : (run clock config (.readable bytes) true).2 = some output) :
    output.length ≤ bytes.length := by
  have hle := length_output_le clock config h
  rw [recordBytes_writtenOf] at hle
  rw [output_of_accepted clock config h] at hrun
  obtain rfl := Option.some.inj hrun
  by_cases hnil : recordsOf bytes header = []
  · rw [if_pos hnil, packetsOf, hnil]
    exact Nat.zero_le _
  · rw [if_neg hnil]
    exact hle

/-- A run that succeeds on more than a header saves what its output is shorter. -/
theorem length_add_bytesSaved (clock : SystemClock) (config : PolicyConfig) {bytes output : Bytes}
    {header : ClassicPcapGlobalHeader} (h : Accepted bytes header)
    (hrun : (run clock config (.readable bytes) true).2 = some output)
    (hok : (run clock config (.readable bytes) true).1.ok = true)
    (hheader : kClassicPcapGlobalHeaderSize < bytes.length) :
    output.length + (run clock config (.readable bytes) true).1.stats.bytesSaved.toNat
      = bytes.length := by
  obtain ⟨-, -, hinput, hkept, hsaved⟩ := stats_of_accepted clock config h
  have herror := hok
  rw [run_of_accepted clock config h, ok_feedResult h] at herror
  have hsize := (delivered_readAll (reading_opened h)).size_eq herror
  have hne : recordsOf bytes header ≠ [] := fun hnil =>
    absurd (length_eq_of_recordsOf_nil h herror hnil) (Nat.ne_of_gt hheader)
  have hle := Recording.keptBytes_le config {} (packetsOf clock bytes header)
  have hcaptured := capturedBytes_packetsOf clock header.timePrecision (recordsOf bytes header)
  rw [← packetsOf] at hcaptured
  rw [sum_recordSize, List.length_drop, ← recordsOf] at hsize
  rw [output_of_accepted clock config h] at hrun
  obtain rfl := Option.some.inj hrun
  rw [if_neg hne, List.length_append, length_records, hsaved hok,
    UInt64.toNat_sub_of_le _ _ (UInt64.le_iff_toNat_le.mpr (by omega)), hinput, hkept,
    PcapWriter.length_globalHeader, packetsOf, List.length_map]
  simp only [kClassicPcapGlobalHeaderSize] at hheader hsize
  rw [packetsOf] at hle hcaptured
  omega

/-- **The bytes saved are those by which the file shrinks.** The output of an accepted file is never
longer than the file; and if the run succeeds and the file holds more than a header, then the
counter `bytes_saved` is the difference. -/
theorem saved_is_shrinkage (clock : SystemClock) (config : PolicyConfig) {bytes : Bytes}
    {header : ClassicPcapGlobalHeader} (h : Accepted bytes header) :
    ∃ result output, run clock config (.readable bytes) true = (result, some output) ∧
      output.length ≤ bytes.length ∧
      (result.ok = true → kClassicPcapGlobalHeaderSize < bytes.length →
        output.length + result.stats.bytesSaved.toNat = bytes.length) := by
  have houtput := output_of_accepted clock config h
  exact ⟨_, _, Prod.ext rfl houtput, length_run_le clock config h houtput,
    length_add_bytesSaved clock config h houtput⟩

/-- Six bytes of 181 are saved. -/
theorem saved_is_shrinkage_twoRecordFile :
    ∃ result output, run .windows exampleConfig (.readable twoRecordFile.encode) true
        = (result, some output) ∧
      result.stats.bytesSaved = 6 ∧
      output.length + result.stats.bytesSaved.toNat = twoRecordFile.encode.length ∧
      twoRecordFile.encode.length = 181 := by
  have hsize : twoRecordFile.encode.length < UInt64.size := by decide +kernel
  obtain ⟨result, output, hrun, -, hsaved⟩ :=
    saved_is_shrinkage .windows exampleConfig (accepted_encode hsize)
  have hresult : (run .windows exampleConfig (.readable twoRecordFile.encode) true).1.ok = true ∧
      (run .windows exampleConfig (.readable twoRecordFile.encode) true).1.stats.bytesSaved
        = 6 := by
    decide +kernel
  rw [hrun] at hresult
  exact ⟨result, output, hrun, hresult.2, hsaved hresult.1 (by decide +kernel), by decide +kernel⟩

/-! ## A pass that changes nothing else -/

section Record

variable (clock : SystemClock) {record : PcapFile.Record} (h : record.InRange)

/-- The packet of a record is captured as far as the record goes. -/
theorem capturedLen_packet (precision : PcapTimePrecision) :
    (record.packet clock precision).capturedLen = record.capturedLength := rfl

include h

/-- The packet of a canonical record is stored as it is. -/
theorem storable_packet {snaplen : UInt32} (hle : record.capturedLength ≤ snaplen) :
    (record.packet clock .microsecond).Storable clock snaplen := by
  refine ⟨record.toNat_capturedLength.symm, ?_, hle,
    ⟨record.tsSec, record.tsFraction.toNat, ?_, ?_⟩, rfl⟩
  · rw [UInt32.le_iff_toNat_le, capturedLen_packet, record.toNat_capturedLength]
    exact record.length_le
  · exact h
  · have htime : (record.packet clock .microsecond).timestamp
        = clock.ofMicroseconds (record.tsSec.toNat * 1000000 + record.tsFraction.toNat) := rfl
    rw [htime]
    push_cast
    rfl

/-- The writer stores the beginning of it in the bytes of the record cut there. -/
theorem record_packet {inclLen : UInt32} (hle : inclLen ≤ record.capturedLength) :
    PcapWriter.record clock (record.packet clock .microsecond) inclLen
      = (record.cutAt inclLen.toNat).encode .little := by
  have hmicros := microseconds_timestamp clock (record.delivered 0 0) .microsecond
  rw [PcapTimePrecision.perMicrosecond, Nat.div_one] at hmicros
  rw [UInt32.le_iff_toNat_le, record.toNat_capturedLength] at hle
  obtain ⟨hsec, hus⟩ :=
    tsSec_tsUsec_of_microseconds (record.packet clock .microsecond) hmicros h
  have hfraction : PcapWriter.tsUsec clock (record.packet clock .microsecond) = record.tsFraction :=
    UInt32.toNat_inj.mp hus
  have horiginal : PcapWriter.origLen (record.packet clock .microsecond) inclLen
      = record.originalLength := by
    refine max32_eq_left ?_
    rw [UInt32.le_iff_toNat_le]
    exact hle.trans record.length_le
  have hsec' : PcapWriter.tsSec clock (record.packet clock .microsecond) = record.tsSec := hsec
  have hlength : (record.cutAt inclLen.toNat).capturedLength = inclLen := by
    rw [← UInt32.toNat_inj, Record.toNat_capturedLength]
    exact List.length_take_of_le hle
  simp only [PcapWriter.record, PcapWriter.recordHeader, hsec', hfraction, horiginal, Record.encode,
    hlength, encodeU32, List.append_assoc]
  rfl

end Record

/-- A record makes a file longer than its header. -/
theorem headerSize_lt_length {file : PcapFile} (hne : file.records ≠ []) :
    kClassicPcapGlobalHeaderSize < file.encode.length := by
  obtain ⟨record, records, hrecords⟩ := List.exists_cons_of_ne_nil hne
  rw [PcapFile.encode, hrecords, List.flatMap_cons, List.length_append, List.length_append,
    Header.length_encode, Record.length_encode]
  simp only [kClassicPcapGlobalHeaderSize]
  omega

/-- **A pass without constrictors can go first.** If the limits allow all records, then it writes
the canonical form of the file, saves nothing, and any pass over its output does what it does over
the file itself. -/
theorem normalise_first (clock : SystemClock) (config : PolicyConfig) {file : PcapFile}
    (hsize : file.encode.length < UInt64.size) (hne : file.records ≠ [])
    (hlimits : ∀ record ∈ file.records, record.capturedLength ≤ Recording.snaplenOf config) :
    ∃ result output,
      run clock config.withoutConstrictors (.readable file.encode) true = (result, some output) ∧
      result.ok = true ∧ output = file.canonical.encode ∧ result.stats.bytesSaved = 0 ∧
      ∀ config', run clock config' (.readable output) true
        = run clock config' (.readable file.encode) true := by
  have hsize' : file.canonical.encode.length < UInt64.size := file.length_canonical ▸ hsize
  have haccepted := accepted_encode hsize'
  obtain ⟨result, output, hrun⟩ : ∃ result output,
      run clock config.withoutConstrictors (.readable file.canonical.encode) true
        = (result, some output) :=
    ⟨_, _, Prod.ext rfl (output_of_accepted clock config.withoutConstrictors haccepted)⟩
  obtain ⟨hpackets, hread⟩ := packetsOf_encode clock hsize'
  have hok : result.ok = true := by
    have hresult := congrArg (fun r => r.1.ok) hrun
    rw [run_of_accepted clock config.withoutConstrictors (accepted_encode hsize')] at hresult
    exact hresult ▸ (ok_feedResult (accepted_encode hsize') _).mpr hread
  have hcanonical := file.canonical_inRange
  have hpacketsNe : packetsOf clock file.canonical.encode file.canonical.header.fields ≠ [] := by
    rw [hpackets, canonical]
    simpa using hne
  -- every packet is written in full
  have hstorable : ∀ p ∈ packetsOf clock file.canonical.encode file.canonical.header.fields,
      p.Storable clock (Recording.snaplenOf config) := by
    rw [hpackets]
    intro p hp
    obtain ⟨record, hrecord, rfl⟩ := List.mem_map.mp hp
    obtain ⟨original, horiginal, rfl⟩ := List.mem_map.mp hrecord
    refine storable_packet clock (hcanonical _ hrecord) ?_
    rw [Record.canonical_capturedLength]
    exact hlimits original horiginal
  have houtput : output = file.canonical.encode := by
    have hfile := output_of_accepted clock config.withoutConstrictors (accepted_encode hsize')
    rw [hrun, Recording.records_withoutConstrictors hstorable,
      if_neg fun hnil => hpacketsNe (by rw [packetsOf, hnil]; rfl), hpackets] at hfile
    obtain rfl := Option.some.inj hfile
    refine congrArg₂ (· ++ ·) rfl ?_
    rw [PcapWriter.recordBytes, PcapWriter.inFull, List.flatMap_map, List.flatMap_map]
    refine List.flatMap_congr fun record hrecord => ?_
    have hwhole : record.cutAt record.capturedLength.toNat = record :=
      Record.cutAt_of_le record.toNat_capturedLength.ge
    exact (record_packet clock (hcanonical record hrecord) (UInt32.le_refl _)).trans
      (congrArg (Record.encode .little) hwhole)
  refine ⟨result, output, ?_, hok, houtput, ?_, fun config' => ?_⟩
  · rw [run_canonical clock _ hsize, hrun]
  · have hlength := length_add_bytesSaved clock config.withoutConstrictors haccepted
      (congrArg Prod.snd hrun) (hrun ▸ hok) (by
        rw [file.length_canonical]
        exact headerSize_lt_length hne)
    rw [hrun, houtput] at hlength
    exact UInt64.toNat_inj.mp (by simpa using hlength)
  · rw [houtput, run_canonical clock config' hsize]

theorem fullSnaplen_ne_zero : (65535 : UInt32) ≠ 0 := by decide

theorem twoBytes_le_three : ([0xAB, 0xCD] : Bytes).length ≤ (3 : UInt32).toNat := by decide

/-- A big-endian file with nanoseconds that says what `twoBytePacket` says. -/
def twoBytePacketBig : PcapFile where
  header :=
    { endianness := .big, timePrecision := .nanosecond, reserved1 := 5, reserved2 := 6
      snaplen := 65535, snaplen_ne_zero := fullSnaplen_ne_zero }
  records :=
    [{ tsSec := 7, tsFraction := 8999, originalLength := 3, bytes := [0xAB, 0xCD]
       length_le := twoBytes_le_three }]

/-- The big-endian file and the little-endian one. -/
theorem encoding_irrelevant_twoBytePacket :
    run .windows {} (.readable twoBytePacketBig.encode) true
      = run .windows {} (.readable twoBytePacket.encode) true :=
  encoding_irrelevant .windows {} (by decide) length_twoBytePacket rfl

/-- A pass without constrictors rewrites the big-endian file little-endian. -/
theorem normalise_first_twoBytePacketBig :
    ∃ result output,
      run .windows ({} : PolicyConfig).withoutConstrictors (.readable twoBytePacketBig.encode) true
        = (result, some output) ∧
      result.ok = true ∧ output = twoBytePacketBig.canonical.encode ∧ result.stats.bytesSaved = 0 ∧
      ∀ config', run .windows config' (.readable output) true
        = run .windows config' (.readable twoBytePacketBig.encode) true := by
  refine normalise_first .windows {} (by decide) (List.cons_ne_nil _ _) ?_
  intro record hmem
  obtain rfl := List.mem_singleton.mp hmem
  exact (by decide : (2 : UInt32) ≤ 65535)

end OfflinePacketFeed

end PcapConstrictor
