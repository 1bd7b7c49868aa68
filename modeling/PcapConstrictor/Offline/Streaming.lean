import PcapConstrictor.Decode.Frames
import PcapConstrictor.Offline.RecordMapping
import PcapConstrictor.Offline.Truncation

/-!
# Feeding a growing capture

The feed decides record by record and never looks ahead. So what it writes for the beginning of a
capture is the beginning of what it writes for the whole (`run_grows`), also where the beginning
ends within a record or the whole goes on with something that is none.
-/

namespace PcapConstrictor

open ByteString

namespace PcapReader

/-- More bytes behind a field do not change it. -/
theorem readU32_mono {unread unread' : Bytes} (hle : unread <+: unread') {offset : ℕ}
    (h : offset + 4 ≤ unread.length) (endianness : PcapEndianness) :
    readU32 unread offset endianness = readU32 unread' offset endianness := by
  rw [List.prefix_iff_eq_take.mp hle]
  exact readU32_take h endianness

theorem capturedLengthAt_mono {endianness : PcapEndianness} {unread unread' : Bytes}
    (h : RecordAt endianness unread) (hle : unread <+: unread') :
    capturedLengthAt endianness unread' = capturedLengthAt endianness unread :=
  (readU32_mono hle (h.header.trans' (by decide)) endianness).symm

/-- A record stays one when more bytes follow. -/
theorem RecordAt.mono {endianness : PcapEndianness} {unread unread' : Bytes}
    (h : RecordAt endianness unread) (hle : unread <+: unread') : RecordAt endianness unread' := by
  have hcaptured := capturedLengthAt_mono h hle
  refine ⟨h.header.trans hle.length_le, ?_, ?_⟩
  · rw [hcaptured, ← readU32_mono hle (h.header.trans' (by decide)) endianness]
    exact h.lengths
  · rw [hcaptured]
    exact h.payload.trans hle.length_le

/-- Two readers at the same place of files of the same kind. -/
structure SamePlace (reader reader' : PcapReader) : Prop where
  globalHeader : reader.globalHeader = reader'.globalHeader
  nextPacketIndex : reader.nextPacketIndex = reader'.nextPacketIndex
  nextInputOffset : reader.nextInputOffset = reader'.nextInputOffset

section Record

variable {reader reader' : PcapReader} {unread unread' : Bytes} (hplace : SamePlace reader reader')
  (h : RecordAt reader.globalHeader.endianness unread) (hle : unread <+: unread')
include hplace h hle

/-- More bytes behind a record do not change it. -/
theorem recordAt_mono : reader.recordAt unread = reader'.recordAt unread' := by
  have hread : ∀ offset, offset + 4 ≤ 16 → readU32 unread offset reader.globalHeader.endianness
      = readU32 unread' offset reader.globalHeader.endianness :=
    fun offset hoffset => readU32_mono hle (hoffset.trans h.header) _
  have hbytes : subspan unread kClassicPcapPacketHeaderSize
      (capturedLengthAt reader.globalHeader.endianness unread).toNat
        = subspan unread' kClassicPcapPacketHeaderSize
            (capturedLengthAt reader.globalHeader.endianness unread).toNat := by
    have hpayload := h.payload
    obtain ⟨rest, rfl⟩ := hle
    rw [subspan, subspan, List.drop_append_of_le_length h.header, List.take_append_of_le_length]
    rw [List.length_drop]
    omega
  unfold recordAt
  rw [← hplace.globalHeader, ← hplace.nextPacketIndex, ← hplace.nextInputOffset,
    capturedLengthAt_mono h hle, hread 0 (by decide), hread 4 (by decide),
    hread 12 (by decide)]
  exact (PcapPacketRecord.mk.injEq ..).mpr ⟨rfl, rfl, rfl, rfl, rfl, rfl, rfl, hbytes⟩

/-- Both readers go on behind the record. -/
theorem samePlace_advance : SamePlace (reader.advance unread) (reader'.advance unread') := by
  have hcaptured := capturedLengthAt_mono h hle
  refine ⟨hplace.globalHeader, ?_, ?_⟩
  · rw [advance, advance, ← hplace.nextPacketIndex]
  · simp only [advance]
    rw [← hplace.globalHeader, ← hplace.nextInputOffset, hcaptured]

end Record

/-- **Reading on only adds records.** -/
theorem readAll_mono {reader : PcapReader} {unread : Bytes} (h : Reading reader unread)
    {reader' : PcapReader} {unread' : Bytes} (h' : Reading reader' unread')
    (hplace : SamePlace reader reader') (hle : unread <+: unread') :
    reader.readAll.1 <+: reader'.readAll.1 := by
  revert reader' unread'
  refine readAll_induction (motive := fun reader unread records _ =>
    ∀ {reader' : PcapReader} {unread' : Bytes}, Reading reader' unread' →
      SamePlace reader reader' → unread <+: unread' → records <+: reader'.readAll.1) ?_ ?_ ?_ h
  · intro reader _ reader' unread' _ _ _
    exact List.nil_prefix
  · intro reader unread last _ _ _ _ _ reader' unread' _ _ _
    exact List.nil_prefix
  · intro reader unread records last _ hrecord ih reader' unread' h' hplace hle
    have hrecord' : RecordAt reader'.globalHeader.endianness unread' :=
      hplace.globalHeader ▸ hrecord.mono hle
    have hcaptured := capturedLengthAt_mono hrecord hle
    rw [readAll_of_some (readNext_of_recordAt h' hrecord'),
      recordAt_mono hplace hrecord hle]
    refine (List.cons_prefix_cons).mpr ⟨rfl, ih (reading_advance h' hrecord')
      (samePlace_advance hplace hrecord hle) ?_⟩
    rw [← hplace.globalHeader, hcaptured]
    exact hle.drop _

/-- What goes on behind an accepted file is accepted, with the same header. -/
theorem Accepted.mono {bytes bytes' : Bytes} {header : ClassicPcapGlobalHeader}
    (h : Accepted bytes header) (hle : bytes <+: bytes') (hsize : bytes'.length < UInt64.size) :
    Accepted bytes' header := by
  obtain ⟨hlength, -, hcheck, endianness, timePrecision, hmagic, rfl⟩ := h
  have htake : ∀ n ≤ bytes.length, bytes'.take n = bytes.take n := by
    obtain ⟨rest, rfl⟩ := hle
    exact fun n hn => List.take_append_of_le_length hn
  refine ⟨hlength.trans hle.length_le, hsize, hcheck, endianness, timePrecision, ?_, ?_⟩
  · rwa [htake 4 (hlength.trans' (by decide))]
  · rw [htake _ hlength]

end PcapReader

/-- A record of a frame that was captured in full. -/
def PcapFile.Record.ofFrame (frame : Bytes) : PcapFile.Record where
  tsSec := 0
  tsFraction := 0
  originalLength := UInt32.ofNat frame.length
  bytes := frame.take (UInt32.ofNat frame.length).toNat
  length_le := List.length_take_le _ _

namespace OfflinePacketFeed

open PcapReader

/-- A longer file has the same packets, and then more. -/
theorem packetsOf_mono (clock : SystemClock) {bytes bytes' : Bytes}
    {header : ClassicPcapGlobalHeader} (h : Accepted bytes header) (hle : bytes <+: bytes')
    (hsize : bytes'.length < UInt64.size) :
    packetsOf clock bytes header <+: packetsOf clock bytes' header :=
  (readAll_mono (reading_opened h) (reading_opened (h.mono hle hsize)) ⟨rfl, rfl, rfl⟩
    (hle.drop _)).map _

/-- The output for the first packets is the beginning of the output for all. -/
theorem output_mono (config : PolicyConfig) (writer : PcapWriter) (clock : SystemClock)
    {packets packets' : List CapturedPacket} (hle : packets <+: packets') :
    (Recording.consumeAll config writer clock {} packets).written.output
      <+: (Recording.consumeAll config writer clock {} packets').written.output := by
  obtain ⟨rest, rfl⟩ := hle
  by_cases hnil : packets = []
  · subst hnil
    exact List.nil_prefix
  · rw [Recording.written_consumeAll _ _ _ _ hnil,
      Recording.written_consumeAll _ _ _ _ (List.append_ne_nil_of_left_ne_nil hnil rest),
      Recording.records_append, List.flatten_append, ← List.append_assoc]
    exact List.prefix_append ..

/-- **Feeding the beginning of a capture writes the beginning of the output**: when a file that is
accepted grows, the output for it only grows. -/
theorem run_grows (clock : SystemClock) (config : PolicyConfig) {bytes bytes' : Bytes}
    {header : ClassicPcapGlobalHeader} (h : Accepted bytes header) (hle : bytes <+: bytes')
    (hsize : bytes'.length < UInt64.size) :
    ∃ output output', (run clock config (.readable bytes) true).2 = some output ∧
      (run clock config (.readable bytes') true).2 = some output' ∧ output <+: output' := by
  rw [run_of_accepted clock config h, run_of_accepted clock config (h.mono hle hsize)]
  exact ⟨_, _, rfl, rfl, output_mono config _ clock (packetsOf_mono clock h hle hsize)⟩

/-- A packet with a Handshake record, and one with an Application Data record of six bytes. -/
def twoRecordFile : PcapFile where
  header := twoBytePacket.header
  records :=
    [.ofFrame (exampleEnds.tcpFrame 0 0x10 [0x16, 3, 3, 0, 1, 0]),
      .ofFrame (exampleEnds.tcpFrame 6 0x10 [0x17, 3, 3, 0, 6, 1, 2, 3, 4, 5, 6])]

/-- The beginning breaks off in the header of the second record. -/
theorem run_grows_twoRecordFile :
    ∃ output output',
      (run .windows exampleConfig (.readable (twoRecordFile.encode.take 110)) true).2
        = some output ∧
      (run .windows exampleConfig (.readable twoRecordFile.encode) true).2 = some output' ∧
      output <+: output' ∧ output.length = 100 ∧ output'.length = 175 := by
  obtain ⟨output, output', hrun, hrun', hle⟩ := @run_grows .windows exampleConfig
    (twoRecordFile.encode.take 110) twoRecordFile.encode twoRecordFile.header.fields
    ⟨by decide +kernel, by decide +kernel, by decide, .little, .microsecond, by decide +kernel,
      by decide +kernel⟩ (List.take_prefix 110 _) (by decide +kernel)
  have hlength : (run .windows exampleConfig
      (.readable (twoRecordFile.encode.take 110)) true).2.map List.length = some 100 := by
    decide +kernel
  have hlength' : (run .windows exampleConfig
      (.readable twoRecordFile.encode) true).2.map List.length = some 175 := by
    decide +kernel
  rw [hrun] at hlength
  rw [hrun'] at hlength'
  exact ⟨output, output', hrun, hrun', hle, Option.some.inj hlength, Option.some.inj hlength'⟩

end OfflinePacketFeed

end PcapConstrictor
