import PcapConstrictor.Offline.PcapGrammar
import PcapConstrictor.Offline.RecordMapping

/-!
# Reading back what was written

The reader accepts what the writer produces and delivers the packets it wrote (`readAll_records`),
provided the global header is there. The offline feed leaves the header to the first record, so it
leaves a readable file except for an input without records (`leaves_readable_iff`).
-/

namespace PcapConstrictor

open ByteString PcapReader

namespace PcapWriter

/-- The record `record` is the packet `packet` as written with the length `inclLen`. -/
structure ReadsBack (clock : SystemClock) (packet : CapturedPacket) (inclLen : UInt32)
    (record : PcapPacketRecord) : Prop where
  tsSec : record.tsSec = tsSec clock packet
  tsFraction : record.tsFraction = tsUsec clock packet
  capturedLength : record.capturedLength = inclLen
  originalLength : record.originalLength = origLen packet inclLen
  bytes : record.bytes = packet.data.take inclLen.toNat

/-- A packet and the length it is written with. -/
abbrev Written := CapturedPacket × UInt32

/-- The file behind the global header. -/
def recordBytes (clock : SystemClock) (written : List Written) : Bytes :=
  written.flatMap fun w => PcapWriter.record clock w.1 w.2

section Record

variable (clock : SystemClock) {packet : CapturedPacket} {inclLen : UInt32}
  (h : inclLen ≤ packet.packet.safeCapturedLen)
include h

/-- The stored bytes are as many as the record says. -/
theorem length_take_inclLen : (packet.data.take inclLen.toNat).length = inclLen.toNat := by
  have hle := UInt32.le_iff_toNat_le.mp h
  rw [PacketView.toNat_safeCapturedLen] at hle
  exact List.length_take.trans (Nat.min_eq_left (hle.trans (Nat.min_le_right _ _)))

omit h in
/-- A record never stores more than it says was on the wire. -/
theorem le_origLen (packet : CapturedPacket) (inclLen : UInt32) :
    inclLen.toNat ≤ (origLen packet inclLen).toNat := by
  rw [origLen, toNat_max32]
  exact Nat.le_max_right _ _

/-- The written record as a record of the grammar. -/
def grammarRecord : PcapFile.Record where
  tsSec := tsSec clock packet
  tsFraction := tsUsec clock packet
  originalLength := origLen packet inclLen
  bytes := packet.data.take inclLen.toNat
  length_le := (length_take_inclLen h).trans_le (le_origLen packet inclLen)

/-- The record has the length that was passed to the writer. -/
theorem capturedLength_grammarRecord : (grammarRecord clock h).capturedLength = inclLen := by
  change UInt32.ofNat (packet.data.take inclLen.toNat).length = inclLen
  rw [length_take_inclLen h, UInt32.ofNat_toNat]

/-- The bytes written are the encoding of that record. -/
theorem encode_grammarRecord :
    (grammarRecord clock h).encode .little = PcapWriter.record clock packet inclLen := by
  rw [PcapFile.Record.encode, capturedLength_grammarRecord]
  simp only [PcapWriter.record, recordHeader, List.append_assoc]
  rfl

/-- Delivering the record gives back what was written. -/
theorem readsBack_grammarRecord (index offset : ℕ) :
    ReadsBack clock packet inclLen ((grammarRecord clock h).delivered index offset) :=
  ⟨rfl, rfl, capturedLength_grammarRecord clock h, rfl, rfl⟩

end Record

/-- What is written behind the global header is a list of records of the grammar. -/
theorem exists_records {clock : SystemClock} {written : List Written}
    (haccepted : ∀ w ∈ written, w.2 ≤ w.1.packet.safeCapturedLen) :
    ∃ records : List PcapFile.Record,
      recordBytes clock written = records.flatMap (·.encode .little) ∧
      ∀ index offset, List.Forall₂ (fun w record => ReadsBack clock w.1 w.2 record) written
        (PcapFile.delivered index offset records) := by
  induction written with
  | nil => exact ⟨[], rfl, fun _ _ => List.Forall₂.nil⟩
  | cons w written ih =>
    rw [List.forall_mem_cons] at haccepted
    obtain ⟨hw, hwritten⟩ := haccepted
    obtain ⟨records, hrecords, hread⟩ := ih hwritten
    refine ⟨grammarRecord clock hw :: records, ?_, fun index offset =>
      List.Forall₂.cons (readsBack_grammarRecord clock hw _ _) (hread _ _)⟩
    rw [List.flatMap_cons, encode_grammarRecord, ← hrecords]
    rfl

/-- **The reader delivers what was written**, and nothing else, without an error. -/
theorem readAll_records {clock : SystemClock} {written : List Written}
    (haccepted : ∀ w ∈ written, w.2 ≤ w.1.packet.safeCapturedLen) {reader : PcapReader}
    (h : Reading reader (recordBytes clock written))
    (hlittle : reader.globalHeader.endianness = .little) :
    reader.readAll.2.hasError = false ∧
      List.Forall₂ (fun w record => ReadsBack clock w.1 w.2 record) written reader.readAll.1 := by
  obtain ⟨records, hrecords, hread⟩ := exists_records haccepted
  rw [hrecords, ← hlittle] at h
  have hstands : reader.StandsAt reader.nextPacketIndex.toNat reader.nextInputOffset.toNat :=
    ⟨UInt64.ofNat_toNat.symm, UInt64.ofNat_toNat.symm⟩
  obtain ⟨hok, hall⟩ := readAll_of_records h hstands
  exact ⟨hok, hall ▸ hread _ _⟩

theorem length_globalHeader_eq (writer : PcapWriter) :
    writer.globalHeader.length = kClassicPcapGlobalHeaderSize := rfl

/-- The header the reader sees in a file of the writer. -/
def headerOf (writer : PcapWriter) : ClassicPcapGlobalHeader :=
  readGlobalHeader writer.globalHeader .little .microsecond

/-- **The reader accepts what the writer starts a file with.** -/
theorem accepted_globalHeader {writer : PcapWriter} (hsnaplen : writer.snaplen ≠ 0)
    (hlink : writer.linkType = .ethernet) {rest : Bytes}
    (hsize : (writer.globalHeader ++ rest).length < UInt64.size) :
    Accepted (writer.globalHeader ++ rest) writer.headerOf := by
  obtain ⟨-, hmajor, hminor, hsnaplen', hlink'⟩ := globalHeader_fields writer []
  rw [List.append_nil] at hmajor hminor hsnaplen' hlink'
  refine ⟨?_, hsize, ?_, .little, .microsecond, rfl, ?_⟩
  · rw [List.length_append, length_globalHeader]
    exact Nat.le_add_right _ _
  · unfold checkGlobalHeader headerOf readGlobalHeader
    simp only [readU16, readU32, hmajor, hminor, hsnaplen', hlink', hlink]
    rw [if_neg (by simp), if_neg hsnaplen, if_neg (by decide)]
  · rw [List.take_left' (length_globalHeader_eq writer)]
    rfl

/-- **A file of the writer reads back**: its header and its packets, in order. -/
theorem readAll_written (writer : PcapWriter) (hsnaplen : writer.snaplen ≠ 0)
    (hlink : writer.linkType = .ethernet) {clock : SystemClock} {written : List Written}
    (haccepted : ∀ w ∈ written, w.2 ≤ w.1.packet.safeCapturedLen)
    (hsize : (writer.globalHeader ++ recordBytes clock written).length < UInt64.size)
    (reader : PcapReader) :
    let bytes := writer.globalHeader ++ recordBytes clock written
    let opened := opened bytes writer.headerOf
    reader.openFile (.readable bytes) = (opened, true) ∧ opened.readAll.2.hasError = false ∧
      List.Forall₂ (fun w record => ReadsBack clock w.1 w.2 record) written opened.readAll.1 := by
  intro bytes opened
  have hacc := accepted_globalHeader hsnaplen hlink hsize
  have hreading := reading_opened hacc
  rw [List.drop_left' (length_globalHeader_eq writer)] at hreading
  exact ⟨openFile_of_accepted hacc reader, readAll_records haccepted hreading rfl⟩

end PcapWriter

namespace OfflinePacketFeed

/-- The packets of an accepted file with the lengths they are written with. -/
def writtenOf (clock : SystemClock) (config : PolicyConfig) (bytes : Bytes)
    (header : ClassicPcapGlobalHeader) : List PcapWriter.Written :=
  let packets := packetsOf clock bytes header
  packets.zip ((Recording.decisions config {} packets).map (·.outputLen))

/-- The output behind the header, as the writer's own record bytes. -/
theorem recordBytes_writtenOf (clock : SystemClock) (config : PolicyConfig) (bytes : Bytes)
    (header : ClassicPcapGlobalHeader) :
    PcapWriter.recordBytes clock (writtenOf clock config bytes header)
      = (Recording.records config clock {} (packetsOf clock bytes header)).flatten := by
  rw [PcapWriter.recordBytes, writtenOf, Recording.records, List.flatMap_def, List.zip_eq_zipWith,
    List.zipWith_map_right, List.map_zipWith]

/-- The writer accepts every decided length. -/
theorem writtenOf_accepted (clock : SystemClock) (config : PolicyConfig) (bytes : Bytes)
    (header : ClassicPcapGlobalHeader) :
    ∀ w ∈ writtenOf clock config bytes header, w.2 ≤ w.1.packet.safeCapturedLen := by
  have haccepted : ∀ (policy : LiveCapturePolicy.State) (packets : List CapturedPacket),
      ∀ w ∈ packets.zip ((Recording.decisions config policy packets).map (·.outputLen)),
        w.2 ≤ w.1.packet.safeCapturedLen := by
    intro policy packets
    induction packets generalizing policy with
    | nil => exact nofun
    | cons packet packets ih =>
      rw [Recording.decisions, Transducer.outputs_cons, List.map_cons, List.zip_cons_cons,
        List.forall_mem_cons]
      exact ⟨UInt32.le_trans (LiveCapturePolicy.outputLen_le_base config policy packet)
        (LiveCapturePolicy.baseOutputLen_le config packet).1, ih _⟩
  exact haccepted {} _

/-- Mapped records are not longer than their originals. -/
theorem length_flatten_le {config : PolicyConfig} {precision : PcapTimePrecision}
    {records : List PcapPacketRecord} {written : List Bytes}
    (h : List.Forall₂ (Mapped config precision) records written) :
    written.flatten.length ≤ (records.map recordSize).sum := by
  induction h with
  | nil => exact Nat.le_refl _
  | cons hmapped _ ih =>
    rw [List.flatten_cons, List.length_append, List.map_cons, List.sum_cons, hmapped.length]
    have hincl := UInt32.le_iff_toNat_le.mp hmapped.inclLen_le.1
    exact Nat.add_le_add (Nat.add_le_add_left hincl _) ih

/-- The output is not longer than the input. -/
theorem length_output_le (clock : SystemClock) (config : PolicyConfig) {bytes : Bytes}
    {header : ClassicPcapGlobalHeader} (h : Accepted bytes header) :
    ((writerOf header).globalHeader
      ++ PcapWriter.recordBytes clock (writtenOf clock config bytes header)).length
        ≤ bytes.length := by
  have hdelivered := delivered_readAll (reading_opened h)
  have hrecords := length_flatten_le (mapped_records config clock header.timePrecision {}
    (recordsOf bytes header))
  have hsize := hdelivered.size_le
  have hheader := h.1
  rw [List.length_drop] at hsize
  rw [List.length_append, recordBytes_writtenOf, PcapWriter.length_globalHeader_eq]
  exact (Nat.add_le_add_left (hrecords.trans hsize) _).trans_eq (Nat.add_sub_cancel' hheader)

/-- The input is a global header and nothing else. -/
def BareHeader (input : InputFile) : Prop :=
  ∃ bytes header, input = .readable bytes ∧ Accepted bytes header ∧
    bytes.length = kClassicPcapGlobalHeaderSize

/-- If the run succeeds, then the reader accepts its output and reads it to the end without an
error, finding as many records as in the input. -/
def LeavesReadable (clock : SystemClock) (config : PolicyConfig) (input : InputFile) : Prop :=
  (run clock config input true).1.ok = true →
    ∃ output reader, (run clock config input true).2 = some output ∧
      PcapReader.openFile {} (.readable output) = (reader, true) ∧
      reader.readAll.2.hasError = false ∧
      reader.readAll.1.length = (PcapReader.openFile {} input).1.readAll.1.length

/-- An accepted file read to its end holds no records only if it is a bare header. -/
theorem length_eq_of_recordsOf_nil {bytes : Bytes} {header : ClassicPcapGlobalHeader}
    (h : Accepted bytes header) (hok : (opened bytes header).readAll.2.hasError = false)
    (hnil : recordsOf bytes header = []) : bytes.length = kClassicPcapGlobalHeaderSize := by
  have hsize := (delivered_readAll (reading_opened h)).size_eq hok
  have hheader := h.1
  rw [← recordsOf, hnil, List.map_nil, List.sum_nil, List.length_drop] at hsize
  omega

/-- With a record in the input, the output is a complete file. -/
theorem leavesReadable_of_records (clock : SystemClock) (config : PolicyConfig) {bytes : Bytes}
    {header : ClassicPcapGlobalHeader} (h : Accepted bytes header)
    (hne : recordsOf bytes header ≠ []) : LeavesReadable clock config (.readable bytes) := by
  intro _
  obtain ⟨hopen, hok, hread⟩ := PcapWriter.readAll_written (writerOf header)
    (header_of_accepted h).1 rfl (writtenOf_accepted clock config bytes header)
    (Nat.lt_of_le_of_lt (length_output_le clock config h) h.2.1) {}
  refine ⟨_, _, ?_, hopen, hok, ?_⟩
  · rw [output_of_accepted clock config h, if_neg hne, recordBytes_writtenOf]
  · rw [← hread.length_eq, openFile_of_accepted h, writtenOf, List.length_zip, List.length_map,
      Recording.decisions, Transducer.length_outputs, Nat.min_self, packetsOf, List.length_map]
    rfl

/-- From a bare header, the run leaves an empty file. -/
theorem not_leavesReadable_of_bareHeader (clock : SystemClock) (config : PolicyConfig)
    {input : InputFile} (h : BareHeader input) : ¬ LeavesReadable clock config input := by
  obtain ⟨bytes, header, rfl, hacc, hlen⟩ := h
  have hreading := reading_opened hacc
  have hdrop : bytes.drop kClassicPcapGlobalHeaderSize = [] := by
    rw [← hlen]
    exact List.drop_length
  rw [hdrop] at hreading
  have hread := readAll_of_none (readNext_of_nil hreading)
  intro hleaves
  obtain ⟨output, reader, hout, hopen, -⟩ := hleaves (by
    rw [run_of_accepted clock config hacc, ok_feedResult hacc, hread]
    exact hreading.hasError)
  have hnil : recordsOf bytes header = [] := congrArg Prod.fst hread
  rw [output_of_accepted clock config hacc, if_pos hnil, packetsOf, hnil] at hout
  obtain rfl := Option.some.inj hout
  cases hopen

/-- **The offline feed leaves a readable file**, except for an input without records: then it
succeeds and leaves an empty file. -/
theorem leaves_readable_iff (clock : SystemClock) (config : PolicyConfig) (input : InputFile) :
    LeavesReadable clock config input ↔ ¬ BareHeader input := by
  constructor
  · intro hleaves hbare
    exact not_leavesReadable_of_bareHeader clock config hbare hleaves
  intro hbare
  by_cases hacc : ∃ bytes header, input = .readable bytes ∧ Accepted bytes header
  · obtain ⟨bytes, header, rfl, hacc⟩ := hacc
    by_cases hnil : recordsOf bytes header = []
    · -- without a record, success means that nothing follows the header
      intro hok
      rw [run_of_accepted clock config hacc, ok_feedResult hacc] at hok
      exact absurd ⟨bytes, header, rfl, hacc, length_eq_of_recordsOf_nil hacc hok hnil⟩ hbare
    · exact leavesReadable_of_records clock config hacc hnil
  · intro hok
    have herror := (run_of_not_accepted clock config hacc true).1
    rw [OfflinePacketFeedResult.ok, beq_iff_eq] at hok
    exact absurd hok herror

/-- The header of a capture without packets. -/
def emptyCapture : InputFile :=
  .readable
    [0xD4, 0xC3, 0xB2, 0xA1, 2, 0, 4, 0, 0, 0, 0, 0, 0, 0, 0, 0, 0xFF, 0xFF, 0, 0, 1, 0, 0, 0]

/-- A capture without packets leaves a file without a header. -/
theorem emptyCapture_not_readable : ¬ LeavesReadable .windows {} emptyCapture :=
  not_leavesReadable_of_bareHeader .windows {}
    ⟨_, _, rfl, ⟨by decide, by decide, by decide, .little, .microsecond, rfl, rfl⟩, rfl⟩

end OfflinePacketFeed

end PcapConstrictor
