import PcapConstrictor.Offline.OfflinePacketFeed

/-!
# Records in, records out

The offline pipeline maps the records of a file one to one, also when it ends in an error
(`run_maps_records`). A time stamp survives because a clock tick divides a microsecond.
-/

namespace PcapConstrictor

open ByteString PcapReader

/-! ## Time stamps -/

namespace SystemClock

theorem nsPerTick_pos (clock : SystemClock) : 0 < clock.nsPerTick :=
  Nat.pos_of_dvd_of_pos clock.nsPerTick_dvd (by decide)

/-- A clock at least as fine as microseconds keeps them. -/
theorem microseconds_ofMicroseconds (clock : SystemClock) (us : ℤ) :
    clock.microseconds (clock.ofMicroseconds us) = us := by
  have hdvd : ((1000 / clock.nsPerTick : ℕ) : ℤ) * clock.nsPerTick = 1000 := by
    exact_mod_cast Nat.div_mul_cancel clock.nsPerTick_dvd
  rw [microseconds, ofMicroseconds, mul_assoc, hdvd]
  exact Int.mul_tdiv_cancel us (by decide)

/-- Rounding to ticks and then to microseconds is rounding to microseconds. -/
theorem microseconds_ofNanoseconds (clock : SystemClock) (ns : ℕ) :
    clock.microseconds (clock.ofNanoseconds ns) = (ns / 1000 : ℕ) := by
  obtain ⟨k, hk⟩ := clock.nsPerTick_dvd
  have hticks : (ns : ℤ).tdiv clock.nsPerTick = (ns / clock.nsPerTick : ℕ) := rfl
  rw [microseconds, ofNanoseconds, hticks]
  have hmicros : (((ns / clock.nsPerTick : ℕ) : ℤ) * clock.nsPerTick).tdiv 1000
      = (ns / clock.nsPerTick * clock.nsPerTick / 1000 : ℕ) := by
    rw [← Nat.cast_mul]
    rfl
  rw [hmicros]
  congr 1
  rw [hk, Nat.mul_comm clock.nsPerTick k, Nat.mul_div_mul_right _ _ clock.nsPerTick_pos,
    Nat.div_div_eq_div_mul, Nat.mul_comm]

end SystemClock

/-- The number of units of the fraction field in a microsecond. -/
def PcapTimePrecision.perMicrosecond : PcapTimePrecision → ℕ
  | .microsecond => 1
  | .nanosecond => 1000

/-- The time of a record in microseconds, if its fraction is less than a second. -/
theorem microseconds_timestamp (clock : SystemClock) (record : PcapPacketRecord)
    (precision : PcapTimePrecision) :
    clock.microseconds (record.timestamp clock precision)
      = (record.tsSec.toNat * 1000000
          + record.tsFraction.toNat / precision.perMicrosecond : ℕ) := by
  cases precision with
  | microsecond =>
    rw [PcapPacketRecord.timestamp, SystemClock.microseconds_ofMicroseconds,
      PcapTimePrecision.perMicrosecond, Nat.div_one]
    push_cast
    rfl
  | nanosecond =>
    have hns : (record.tsSec.toNat * 1000000000 + record.tsFraction.toNat : ℤ)
        = (record.tsSec.toNat * 1000000000 + record.tsFraction.toNat : ℕ) := by
      push_cast
      rfl
    rw [PcapPacketRecord.timestamp, hns, SystemClock.microseconds_ofNanoseconds,
      PcapTimePrecision.perMicrosecond]
    congr 1
    omega

/-- A number that is not negative is narrowed modulo `2 ^ 32`. -/
theorem ofInt_natCast (n : ℕ) : UInt32.ofInt (n : ℤ) = UInt32.ofNat n := by
  have hmod : (n : ℤ) % 2 ^ 32 = (n % 2 ^ 32 : ℕ) := rfl
  rw [UInt32.ofInt, hmod, Int.toNat_natCast]
  exact UInt32.ofNat_mod_size

/-- A number of microseconds that is not negative is written as its seconds and the rest, each
modulo `2 ^ 32`. -/
theorem tsSec_tsUsec_of_natCast {clock : SystemClock} (packet : CapturedPacket) {micros : ℕ}
    (h : clock.microseconds packet.timestamp = (micros : ℕ)) :
    PcapWriter.tsSec clock packet = UInt32.ofNat (micros / 1000000) ∧
      PcapWriter.tsUsec clock packet = UInt32.ofNat (micros % 1000000) := by
  have hseconds : ((micros : ℕ) : ℤ).tdiv 1000000 = (micros / 1000000 : ℕ) := rfl
  have hrest : ((micros : ℕ) : ℤ) - (micros / 1000000 : ℕ) * 1000000 = (micros % 1000000 : ℕ) := by
    omega
  rw [PcapWriter.tsSec, PcapWriter.tsUsec, h, hseconds, hrest]
  exact ⟨ofInt_natCast _, ofInt_natCast _⟩

/-- A time whose seconds fit is written as it is. -/
theorem tsSec_tsUsec_of_microseconds {clock : SystemClock} (packet : CapturedPacket) {sec : UInt32}
    {usec : ℕ} (h : clock.microseconds packet.timestamp = (sec.toNat * 1000000 + usec : ℕ))
    (husec : usec < 1000000) :
    PcapWriter.tsSec clock packet = sec ∧ (PcapWriter.tsUsec clock packet).toNat = usec := by
  obtain ⟨hsec, hus⟩ := tsSec_tsUsec_of_natCast packet h
  have hdiv : (sec.toNat * 1000000 + usec) / 1000000 = sec.toNat := by omega
  have hmod : (sec.toNat * 1000000 + usec) % 1000000 = usec := by omega
  rw [hsec, hus, hdiv, hmod, UInt32.ofNat_toNat, UInt32.toNat_ofNat']
  exact ⟨rfl, Nat.mod_eq_of_lt (by omega)⟩

/-! ## Records -/

namespace OfflinePacketFeed

/-- `bytes` is the output record of the input record `record`: the same original length, a prefix of
the data within the limits, and the same time if the fraction of the input is in range. -/
structure Mapped (config : PolicyConfig) (precision : PcapTimePrecision)
    (record : PcapPacketRecord) (bytes : Bytes) : Prop where
  origLen : readLe32 bytes 12 = record.originalLength
  inclLen_le : readLe32 bytes 8 ≤ record.capturedLength ∧
    readLe32 bytes 8 ≤ config.capture.defaultSnaplen ∧
    readLe32 bytes 8 ≤ config.capture.maxCaptureLen
  length : bytes.length = kClassicPcapPacketHeaderSize + (readLe32 bytes 8).toNat
  data : bytes.drop kClassicPcapPacketHeaderSize = record.bytes.take (readLe32 bytes 8).toNat
  timestamp : record.tsFraction.toNat < 1000000 * precision.perMicrosecond →
    readLe32 bytes 0 = record.tsSec ∧
      (readLe32 bytes 4).toNat = record.tsFraction.toNat / precision.perMicrosecond

/-- The record of a packet maps the input record the packet was made from. -/
theorem mapped_of_recorded {config : PolicyConfig} {clock : SystemClock}
    {precision : PcapTimePrecision} {record : PcapPacketRecord} {bytes : Bytes}
    (h : Recording.Recorded config clock (capturedPacket clock precision record) bytes) :
    Mapped config precision record bytes := by
  refine ⟨h.origLen, h.inclLen_le, h.length, h.data, ?_⟩
  intro hfraction
  have hmicros := microseconds_timestamp clock record precision
  obtain ⟨hsec, husec⟩ :=
    tsSec_tsUsec_of_microseconds (capturedPacket clock precision record) hmicros
    (Nat.div_lt_of_lt_mul (by rwa [Nat.mul_comm] at hfraction))
  rw [h.tsSec, h.tsUsec]
  exact ⟨hsec, husec⟩

/-- **Each record written maps its input record**, whatever state the policy is in. -/
theorem mapped_records (config : PolicyConfig) (clock : SystemClock)
    (precision : PcapTimePrecision) (policy : LiveCapturePolicy.State)
    (records : List PcapPacketRecord) :
    List.Forall₂ (Mapped config precision) records
      (Recording.records config clock policy
        (records.map (capturedPacket clock precision))) := by
  have hrecorded := Recording.recorded_records config clock policy
    (records.map (capturedPacket clock precision))
  rw [List.forall₂_map_left_iff] at hrecorded
  exact hrecorded.imp fun _ _ => mapped_of_recorded

/-- The lengths in the records written are the decided ones. -/
theorem sum_inclLen_records (config : PolicyConfig) (clock : SystemClock)
    (policy : LiveCapturePolicy.State) (packets : List CapturedPacket) :
    ((Recording.records config clock policy packets).map fun bytes => (readLe32 bytes 8).toNat).sum
      = Recording.keptBytes config policy packets := by
  induction packets generalizing policy with
  | nil => rfl
  | cons packet packets ih =>
    have hrest := ih (LiveCapturePolicy.evaluate config policy packet).1
    unfold Recording.records Recording.keptBytes Recording.decisions at hrest ⊢
    simp only [Transducer.outputs_cons, List.zipWith_cons_cons, List.map_cons, List.sum_cons, hrest,
      (PcapWriter.record_fields clock packet _).2.2.1]

/-- The packets of a file have its captured bytes. -/
theorem capturedBytes_packetsOf (clock : SystemClock) (precision : PcapTimePrecision)
    (records : List PcapPacketRecord) :
    Recording.capturedBytes (records.map (capturedPacket clock precision))
      = (records.map (·.capturedLength.toNat)).sum := by
  rw [Recording.capturedBytes, List.map_map]
  rfl

/-- Neither the number of records nor the number of their bytes reaches the range of a counter. -/
theorem sum_captured_lt {bytes : Bytes} {header : ClassicPcapGlobalHeader}
    (h : Accepted bytes header) :
    (recordsOf bytes header).length < 2 ^ 64 ∧
      ((recordsOf bytes header).map (·.capturedLength.toNat)).sum < 2 ^ 64 := by
  have hsize : bytes.length < 2 ^ 64 := h.2.1
  have hle := (delivered_readAll (reading_opened h)).size_le
  rw [List.length_drop] at hle
  have hsplit : ∀ records : List PcapPacketRecord, (records.map recordSize).sum
      = kClassicPcapPacketHeaderSize * records.length
        + (records.map (·.capturedLength.toNat)).sum := by
    intro records
    induction records with
    | nil => rfl
    | cons record records ih =>
      simp only [List.map_cons, List.sum_cons, List.length_cons, ih, recordSize]
      ring
  rw [hsplit] at hle
  simp only [kClassicPcapPacketHeaderSize] at hle
  unfold recordsOf
  omega

/-- The end of `Run` computes the bytes saved and leaves the other counters alone. -/
theorem feedResult_stats (reader : PcapReader) (s : Recording) :
    let result := feedResult reader s none
    result.stats.packetsTotal = s.stats.packetsTotal ∧
      result.stats.packetsWritten = s.stats.packetsWritten ∧
      result.stats.bytesInput = s.stats.bytesInput ∧
      result.stats.bytesOutput = s.stats.bytesOutput ∧
      (reader.hasError = false →
        result.stats.bytesSaved = s.stats.bytesInput - s.stats.bytesOutput) := by
  unfold feedResult
  cases reader.hasError with
  | true => exact ⟨rfl, rfl, rfl, rfl, nofun⟩
  | false => exact ⟨rfl, rfl, rfl, rfl, fun _ => rfl⟩

/-- A run over an accepted file succeeds when the reader reaches its end. -/
theorem ok_feedResult {bytes : Bytes} {header : ClassicPcapGlobalHeader}
    (h : Accepted bytes header) (s : Recording) :
    (feedResult (opened bytes header).readAll.2 s none).ok = true ↔
      (opened bytes header).readAll.2.hasError = false := by
  have hmessage := (delivered_readAll (reading_opened h)).message
  unfold feedResult OfflinePacketFeedResult.ok
  cases herror : (opened bytes header).readAll.2.hasError with
  | true => simpa using hmessage herror
  | false => simp

/-- The output of a run over an accepted file: the global header comes with the first record. -/
theorem output_of_accepted (clock : SystemClock) (config : PolicyConfig) {bytes : Bytes}
    {header : ClassicPcapGlobalHeader} (h : Accepted bytes header) :
    (run clock config (.readable bytes) true).2
      = some ((if recordsOf bytes header = [] then [] else (writerOf header).globalHeader)
          ++ (Recording.records config clock {} (packetsOf clock bytes header)).flatten) := by
  rw [run_of_accepted clock config h]
  dsimp only
  by_cases hnil : recordsOf bytes header = []
  · rw [if_pos hnil, packetsOf, hnil]
    rfl
  · rw [if_neg hnil, Recording.written_consumeAll _ _ _ _ (by rwa [packetsOf, ne_eq,
      List.map_eq_nil_iff])]
    rfl

/-- The counters of a run over an accepted file. -/
theorem stats_of_accepted (clock : SystemClock) (config : PolicyConfig) {bytes : Bytes}
    {header : ClassicPcapGlobalHeader} (h : Accepted bytes header) :
    let records := recordsOf bytes header
    let result := (run clock config (.readable bytes) true).1
    result.stats.packetsTotal.toNat = records.length ∧
      result.stats.packetsWritten.toNat = records.length ∧
      result.stats.bytesInput.toNat = (records.map (·.capturedLength.toNat)).sum ∧
      result.stats.bytesOutput.toNat
        = Recording.keptBytes config {} (packetsOf clock bytes header) ∧
      (result.ok = true →
        result.stats.bytesSaved = result.stats.bytesInput - result.stats.bytesOutput) := by
  intro records result
  have hresult : result = feedResult (opened bytes header).readAll.2
      (Recording.consumeAll config (writerOf header) clock {} (packetsOf clock bytes header))
      none :=
    congrArg Prod.fst (run_of_accepted clock config h)
  rw [hresult, ok_feedResult h]
  obtain ⟨htotal, hwritten, hinput, houtput, hsaved⟩ := feedResult_stats
    (opened bytes header).readAll.2
    (Recording.consumeAll config (writerOf header) clock {} (packetsOf clock bytes header))
  obtain ⟨htotal', hwritten', hinput', houtput'⟩ := Recording.stats_consumeAll config
    (writerOf header) clock {} (packetsOf clock bytes header)
  have hcaptured := capturedBytes_packetsOf clock header.timePrecision records
  have hkept := Recording.keptBytes_le config {} (packetsOf clock bytes header)
  -- a file has fewer than 2 ^ 64 bytes, so no counter wraps
  obtain ⟨hcount, hsum⟩ := sum_captured_lt h
  have hlength : (packetsOf clock bytes header).length = records.length := List.length_map _
  rw [packetsOf, hcaptured] at hkept
  refine ⟨?_, ?_, ?_, ?_, ?_⟩
  · rw [htotal, htotal', hlength, UInt64.zero_add, UInt64.toNat_ofNat']
    exact Nat.mod_eq_of_lt hcount
  · rw [hwritten, hwritten', hlength, UInt64.zero_add, UInt64.toNat_ofNat']
    exact Nat.mod_eq_of_lt hcount
  · rw [hinput, hinput', packetsOf, hcaptured, UInt64.zero_add, UInt64.toNat_ofNat']
    exact Nat.mod_eq_of_lt hsum
  · rw [houtput, houtput', UInt64.zero_add, UInt64.toNat_ofNat']
    exact Nat.mod_eq_of_lt (Nat.lt_of_le_of_lt hkept hsum)
  · intro hok
    rw [hsaved hok, hinput, houtput]

/-- **The offline pipeline maps records one to one**, also when it ends in an error. -/
theorem run_maps_records (clock : SystemClock) (config : PolicyConfig) {input : InputFile}
    {reader : PcapReader} (hopen : PcapReader.openFile {} input = (reader, true)) :
    let records := reader.readAll.1
    let result := (run clock config input true).1
    ∃ written,
      (run clock config input true).2
        = some ((if records = [] then []
            else PcapWriter.globalHeader
              { snaplen := reader.globalHeader.snaplen, linkType := .ethernet })
          ++ written.flatten) ∧
      List.Forall₂ (Mapped config reader.globalHeader.timePrecision) records written ∧
      result.stats.packetsTotal.toNat = records.length ∧
      result.stats.packetsWritten.toNat = records.length ∧
      result.stats.bytesInput.toNat = (records.map (·.capturedLength.toNat)).sum ∧
      result.stats.bytesOutput.toNat
        = (written.map fun bytes => (readLe32 bytes 8).toNat).sum ∧
      result.stats.bytesOutput.toNat ≤ result.stats.bytesInput.toNat ∧
      (result.ok = true → result.stats.bytesSaved.toNat
        = result.stats.bytesInput.toNat - result.stats.bytesOutput.toNat) := by
  rcases openFile_cases {} input with ⟨bytes, header, rfl, hacc, heq⟩ | ⟨hfalse, -⟩
  · obtain ⟨rfl, -⟩ := Prod.mk.inj (hopen.symm.trans heq)
    intro records result
    obtain ⟨htotal, hwritten, hinput, houtput, hsaved⟩ := stats_of_accepted clock config hacc
    -- the kept bytes do not exceed the captured ones, so the difference does not wrap
    have hle : result.stats.bytesOutput.toNat ≤ result.stats.bytesInput.toNat := by
      rw [hinput, houtput, ← capturedBytes_packetsOf clock header.timePrecision]
      exact Recording.keptBytes_le ..
    refine ⟨Recording.records config clock {} (packetsOf clock bytes header),
      output_of_accepted clock config hacc,
      mapped_records config clock _ {} _, htotal, hwritten, hinput, ?_, hle, ?_⟩
    · rw [sum_inclLen_records]
      exact houtput
    · intro hok
      rw [hsaved hok]
      exact UInt64.toNat_sub_of_le _ _ (UInt64.le_iff_toNat_le.mpr hle)
  · rw [hopen] at hfalse
    cases hfalse

/-- A big-endian file with nanoseconds: one complete record and a truncated one. -/
def truncatedCapture : InputFile :=
  .readable ([0xA1, 0xB2, 0x3C, 0x4D, 0, 2, 0, 4, 0, 0, 0, 0, 0, 0, 0, 0, 0, 0, 0xFF, 0xFF, 0, 0, 0,
    1] ++ [0, 0, 0, 7, 0, 0, 0x07, 0xD0, 0, 0, 0, 2, 0, 0, 0, 3, 0xAB, 0xCD] ++ [0, 0, 0, 8])

/-- The complete record is mapped, although the file ends in a read error. -/
theorem run_maps_records_truncated :
    let reader := (PcapReader.openFile {} truncatedCapture).1
    let result := (run .windows {} truncatedCapture true).1
    ∃ written,
      (run .windows {} truncatedCapture true).2
        = some ((if reader.readAll.1 = [] then []
            else PcapWriter.globalHeader
              { snaplen := reader.globalHeader.snaplen, linkType := .ethernet })
          ++ written.flatten) ∧
      List.Forall₂ (Mapped {} reader.globalHeader.timePrecision) reader.readAll.1 written ∧
      result.stats.packetsTotal.toNat = reader.readAll.1.length := by
  have hopen : PcapReader.openFile {} truncatedCapture
      = ((PcapReader.openFile {} truncatedCapture).1, true) := Prod.ext rfl (by decide)
  obtain ⟨written, houtput, hmapped, htotal, -⟩ := run_maps_records .windows {} hopen
  exact ⟨written, houtput, hmapped, htotal⟩

end OfflinePacketFeed

end PcapConstrictor
