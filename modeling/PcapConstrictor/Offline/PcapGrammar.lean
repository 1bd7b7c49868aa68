import PcapConstrictor.Common.Encoding
import PcapConstrictor.Offline.PcapStream

/-!
# The grammar of classic PCAP files

`PcapFile` is a file as the format describes it: a global header and records, in one of two byte
orders and one of two time precisions. The reader accepts exactly the encodings of such files, and
what it delivers is determined by the records and their positions (`delivers_iff`).
-/

namespace PcapConstrictor

open ByteString

/-! ## Integers in the byte order of a file -/

/-- A 16-bit field. -/
def encodeU16 : PcapEndianness → UInt16 → Bytes
  | .little => encodeLe16
  | .big => encodeBe16

/-- A 32-bit field. -/
def encodeU32 : PcapEndianness → UInt32 → Bytes
  | .little => encodeLe32
  | .big => encodeBe32

@[simp] theorem length_encodeU16 (endianness : PcapEndianness) (value : UInt16) :
    (encodeU16 endianness value).length = 2 := by
  cases endianness <;> rfl

@[simp] theorem length_encodeU32 (endianness : PcapEndianness) (value : UInt32) :
    (encodeU32 endianness value).length = 4 := by
  cases endianness <;> rfl

/-- An encoded 16-bit field stands where reading in that byte order gives it. -/
theorem holds_encodeU16 {bytes : Bytes} {offset : ℕ} {endianness : PcapEndianness}
    {value : UInt16} :
    Holds bytes offset (encodeU16 endianness value)
      ↔ offset + 2 ≤ bytes.length ∧ readU16 bytes offset endianness = value := by
  cases endianness with
  | little => exact holds_encodeLe16
  | big => exact holds_encodeBe16

theorem holds_encodeU32 {bytes : Bytes} {offset : ℕ} {endianness : PcapEndianness}
    {value : UInt32} :
    Holds bytes offset (encodeU32 endianness value)
      ↔ offset + 4 ≤ bytes.length ∧ readU32 bytes offset endianness = value := by
  cases endianness with
  | little => exact holds_encodeLe32
  | big => exact holds_encodeBe32

/-! ## Files -/

/-- The content of a file. `std::filesystem::file_size` reports its size as a `std::uintmax_t`. -/
structure FileContent where
  bytes : Bytes
  size_lt : bytes.length < UInt64.size

namespace PcapFile

/-- A supported global header: version 2.4, a snapshot length and the link type of Ethernet. -/
structure Header where
  endianness : PcapEndianness
  timePrecision : PcapTimePrecision
  reserved1 : UInt32
  reserved2 : UInt32
  snaplen : UInt32
  snaplen_ne_zero : snaplen ≠ 0

/-- The magic number for each time precision. -/
def magic : PcapTimePrecision → UInt32
  | .microsecond => 0xA1B2C3D4
  | .nanosecond => 0xA1B23C4D

def Header.encode (header : Header) : Bytes :=
  encodeU32 header.endianness (magic header.timePrecision) ++
    (encodeU16 header.endianness 2 ++ (encodeU16 header.endianness 4 ++
      (encodeU32 header.endianness header.reserved1 ++
        (encodeU32 header.endianness header.reserved2 ++
          (encodeU32 header.endianness header.snaplen ++ encodeU32 header.endianness 1)))))

/-- A packet record. Its captured length is the number of its data bytes. -/
structure Record where
  tsSec : UInt32
  tsFraction : UInt32
  originalLength : UInt32
  bytes : Bytes
  length_le : bytes.length ≤ originalLength.toNat

def Record.capturedLength (record : Record) : UInt32 := UInt32.ofNat record.bytes.length

def Record.encode (endianness : PcapEndianness) (record : Record) : Bytes :=
  encodeU32 endianness record.tsSec ++ (encodeU32 endianness record.tsFraction ++
    (encodeU32 endianness record.capturedLength ++
      (encodeU32 endianness record.originalLength ++ record.bytes)))

/-- The record as the reader delivers it, with its number and its position in the file. -/
def Record.delivered (record : Record) (index offset : ℕ) : PcapPacketRecord where
  packetIndex := UInt64.ofNat index
  headerOffset := UInt64.ofNat offset
  dataOffset := UInt64.ofNat (offset + 16)
  tsSec := record.tsSec
  tsFraction := record.tsFraction
  capturedLength := record.capturedLength
  originalLength := record.originalLength
  bytes := record.bytes

/-- Records one behind the other, the first with number `index` and its header at `offset`. -/
def delivered (index offset : ℕ) : List Record → List PcapPacketRecord
  | [] => []
  | record :: records =>
    record.delivered index offset
      :: delivered (index + 1) (offset + 16 + record.bytes.length) records

end PcapFile

/-- A classic PCAP file. -/
structure PcapFile where
  header : PcapFile.Header
  records : List PcapFile.Record

def PcapFile.encode (file : PcapFile) : Bytes :=
  file.header.encode ++ file.records.flatMap (·.encode file.header.endianness)

namespace PcapFile

@[simp] theorem Header.length_encode (header : Header) : header.encode.length = 24 := by
  simp [Header.encode]

/-- The captured length does not wrap, by the bound in the structure. -/
theorem Record.toNat_capturedLength (record : Record) :
    record.capturedLength.toNat = record.bytes.length := by
  have hlength := record.length_le
  have hlt := record.originalLength.toNat_lt
  rw [capturedLength, UInt32.toNat_ofNat']
  exact Nat.mod_eq_of_lt (by omega)

/-- A record is its header of 16 bytes and the captured bytes. -/
@[simp] theorem Record.length_encode (endianness : PcapEndianness) (record : Record) :
    (record.encode endianness).length = 16 + record.bytes.length := by
  simp only [Record.encode, List.length_append, length_encodeU32]
  omega

/-! ## The global header -/

/-- The fields of the header as the reader keeps them. -/
def Header.fields (header : Header) : ClassicPcapGlobalHeader where
  magicBytes := encodeU32 header.endianness (magic header.timePrecision)
  endianness := header.endianness
  timePrecision := header.timePrecision
  versionMajor := 2
  versionMinor := 4
  reserved1 := header.reserved1
  reserved2 := header.reserved2
  snaplen := header.snaplen
  linkType := kEthernetLinkType

end PcapFile

namespace PcapReader

open PcapFile

/-- The reader knows the two magic numbers, in both byte orders, and no others. -/
theorem detectMagic_eq_some {magicBytes : Bytes} {endianness : PcapEndianness}
    {timePrecision : PcapTimePrecision} :
    detectMagic magicBytes = some (endianness, timePrecision)
      ↔ magicBytes = encodeU32 endianness (magic timePrecision) := by
  constructor
  · intro h
    unfold detectMagic at h
    split at h
    · next hmagic => cases h; exact hmagic
    split at h
    · next hmagic => cases h; exact hmagic
    split at h
    · next hmagic => cases h; exact hmagic
    split at h
    · next hmagic => cases h; exact hmagic
    · cases h
  · rintro rfl
    cases endianness <;> cases timePrecision <;> rfl

/-- The headers that the reader accepts. -/
theorem checkGlobalHeader_eq_none {header : ClassicPcapGlobalHeader} :
    checkGlobalHeader header = none ↔ header.versionMajor = 2 ∧ header.versionMinor = 4 ∧
      header.snaplen ≠ 0 ∧ header.linkType = kEthernetLinkType := by
  unfold checkGlobalHeader
  split_ifs with hversion hsnaplen hlink
  · simp only [false_iff]
    exact fun h => hversion.elim (· h.1) (· h.2.1)
  · simp only [false_iff]
    exact fun h => h.2.2.1 hsnaplen
  · simp only [false_iff]
    exact fun h => hlink h.2.2.2
  · rw [not_or, not_not, not_not] at hversion
    exact ⟨fun _ => ⟨hversion.1, hversion.2, hsnaplen, not_not.mp hlink⟩, fun _ => rfl⟩

/-- A read within the bytes that are kept is unchanged by a cut. -/
theorem readU16_take {bytes : Bytes} {n offset : ℕ} (h : offset + 2 ≤ n)
    (endianness : PcapEndianness) :
    readU16 (bytes.take n) offset endianness = readU16 bytes offset endianness := by
  cases endianness <;>
    simp only [readU16, readLe16, readBe16, byteAt_take (show offset < n by omega),
      byteAt_take (show offset + 1 < n by omega)]

/-- A file starts with a supported header when its fields are read back. -/
theorem holds_header {bytes : Bytes} {header : Header} :
    Holds bytes 0 header.encode ↔ 24 ≤ bytes.length ∧
      readGlobalHeader (bytes.take 24) header.endianness header.timePrecision = header.fields := by
  have hmagic : Holds bytes 0 (encodeU32 header.endianness (magic header.timePrecision)) ↔
      4 ≤ bytes.length ∧
        bytes.take 4 = encodeU32 header.endianness (magic header.timePrecision) := by
    rw [holds_iff_subspan, length_encodeU32, subspan_zero]
  simp only [Header.encode, holds_append, hmagic, holds_encodeU16, holds_encodeU32,
    length_encodeU16, length_encodeU32, Nat.zero_add, Nat.reduceAdd, readGlobalHeader,
    Header.fields, ClassicPcapGlobalHeader.mk.injEq, List.take_take,
    readU16_take (show 4 + 2 ≤ 24 by decide), readU16_take (show 6 + 2 ≤ 24 by decide),
    readU32_take (show 8 + 4 ≤ 24 by decide), readU32_take (show 12 + 4 ≤ 24 by decide),
    readU32_take (show 16 + 4 ≤ 24 by decide), readU32_take (show 20 + 4 ≤ 24 by decide)]
  constructor
  · rintro ⟨⟨-, hmagic⟩, ⟨-, hmajor⟩, ⟨-, hminor⟩, ⟨-, hfirst⟩, ⟨-, hsecond⟩, ⟨-, hsnaplen⟩,
      hlen, hlink⟩
    exact ⟨hlen, hmagic, trivial, trivial, hmajor, hminor, hfirst, hsecond, hsnaplen, hlink⟩
  · rintro ⟨hlen, hmagic, -, -, hmajor, hminor, hfirst, hsecond, hsnaplen, hlink⟩
    exact ⟨⟨by omega, hmagic⟩, ⟨by omega, hmajor⟩, ⟨by omega, hminor⟩, ⟨by omega, hfirst⟩,
      ⟨by omega, hsecond⟩, ⟨by omega, hsnaplen⟩, hlen, hlink⟩

/-- **`Open` accepts the files that start with a supported header.** -/
theorem accepted_iff {bytes : Bytes} {fields : ClassicPcapGlobalHeader} :
    Accepted bytes fields ↔ bytes.length < UInt64.size ∧
      ∃ header : Header, Holds bytes 0 header.encode ∧ fields = header.fields := by
  constructor
  · rintro ⟨hlen, hsize, hcheck, endianness, timePrecision, hmagic, rfl⟩
    obtain ⟨hmajor, hminor, hsnaplen, hlink⟩ := checkGlobalHeader_eq_none.mp hcheck
    rw [detectMagic_eq_some] at hmagic
    set fields := readGlobalHeader (bytes.take kClassicPcapGlobalHeaderSize) endianness
      timePrecision with hread
    let header : Header :=
      ⟨endianness, timePrecision, fields.reserved1, fields.reserved2, fields.snaplen, hsnaplen⟩
    have hfields : fields = header.fields := by
      refine ClassicPcapGlobalHeader.mk.injEq .. |>.mpr
        ⟨?_, rfl, rfl, hmajor, hminor, rfl, rfl, rfl, hlink⟩
      rw [List.take_take]
      exact hmagic
    exact ⟨hsize, header, holds_header.mpr ⟨hlen, hfields⟩, hfields⟩
  · rintro ⟨hsize, header, hholds, rfl⟩
    obtain ⟨hlen, hfields⟩ := holds_header.mp hholds
    refine ⟨hlen, hsize, checkGlobalHeader_eq_none.mpr ⟨rfl, rfl, header.snaplen_ne_zero, rfl⟩,
      header.endianness, header.timePrecision, ?_, hfields.symm⟩
    have hmagic := congrArg ClassicPcapGlobalHeader.magicBytes hfields
    rw [detectMagic_eq_some]
    simpa [readGlobalHeader, Header.fields, List.take_take] using hmagic

/-! ## Records -/

/-- The unread bytes start with a record when its fields are read back. -/
theorem holds_record {unread : Bytes} {endianness : PcapEndianness} {record : Record} :
    Holds unread 0 (record.encode endianness) ↔
      16 + record.bytes.length ≤ unread.length ∧ readU32 unread 0 endianness = record.tsSec ∧
        readU32 unread 4 endianness = record.tsFraction ∧
        readU32 unread 8 endianness = record.capturedLength ∧
        readU32 unread 12 endianness = record.originalLength ∧
        subspan unread 16 record.bytes.length = record.bytes := by
  have hdata : Holds unread 16 record.bytes ↔ 16 + record.bytes.length ≤ unread.length ∧
      subspan unread 16 record.bytes.length = record.bytes := holds_iff_subspan
  simp only [Record.encode, holds_append, holds_encodeU32, length_encodeU32, Nat.zero_add,
    Nat.reduceAdd, hdata]
  constructor
  · rintro ⟨⟨-, hsec⟩, ⟨-, hfraction⟩, ⟨-, hcaptured⟩, ⟨-, horiginal⟩, hlen, hbytes⟩
    exact ⟨hlen, hsec, hfraction, hcaptured, horiginal, hbytes⟩
  · rintro ⟨hlen, hsec, hfraction, hcaptured, horiginal, hbytes⟩
    exact ⟨⟨by omega, hsec⟩, ⟨by omega, hfraction⟩, ⟨by omega, hcaptured⟩, ⟨by omega, horiginal⟩,
      hlen, hbytes⟩

/-- **The reader sees a record where one stands.** -/
theorem recordAt_iff {unread : Bytes} {endianness : PcapEndianness} :
    RecordAt endianness unread
      ↔ ∃ record : Record, Holds unread 0 (record.encode endianness) := by
  constructor
  · rintro ⟨hheader, hlengths, hpayload⟩
    have hlength : (subspan unread 16 (capturedLengthAt endianness unread).toNat).length
        = (capturedLengthAt endianness unread).toNat := length_subspan hpayload
    let record : Record :=
      { tsSec := readU32 unread 0 endianness
        tsFraction := readU32 unread 4 endianness
        originalLength := readU32 unread 12 endianness
        bytes := subspan unread 16 (capturedLengthAt endianness unread).toNat
        length_le := hlength.trans_le (UInt32.le_iff_toNat_le.mp hlengths) }
    have hcaptured : record.capturedLength = capturedLengthAt endianness unread := by
      rw [Record.capturedLength, hlength, UInt32.ofNat_toNat]
    refine ⟨record, holds_record.mpr ⟨?_, rfl, rfl, hcaptured.symm, rfl, ?_⟩⟩
    · exact (congrArg (16 + ·) hlength).trans_le hpayload
    · exact congrArg (subspan unread 16) hlength
  · rintro ⟨record, hholds⟩
    obtain ⟨hlen, -, -, hcaptured, horiginal, -⟩ := holds_record.mp hholds
    have hlength := record.toNat_capturedLength
    refine ⟨Nat.le_trans (Nat.le_add_right _ _) hlen, ?_, ?_⟩
    · rw [capturedLengthAt, hcaptured, horiginal, UInt32.le_iff_toNat_le, hlength]
      exact record.length_le
    · rw [capturedLengthAt, hcaptured, hlength]
      exact hlen

/-- The reader stands in front of the record with the number `index` and its header at `offset`. -/
structure StandsAt (reader : PcapReader) (index offset : ℕ) : Prop where
  index : reader.nextPacketIndex = UInt64.ofNat index
  offset : reader.nextInputOffset = UInt64.ofNat offset

section Record

variable {reader : PcapReader} {unread : Bytes} {record : Record} {index offset : ℕ}
  (hholds : Holds unread 0 (record.encode reader.globalHeader.endianness))
  (hstands : reader.StandsAt index offset)
include hholds

/-- The length field of an encoded record is the record's length. -/
theorem toNat_capturedLengthAt :
    (capturedLengthAt reader.globalHeader.endianness unread).toNat = record.bytes.length := by
  rw [capturedLengthAt, (holds_record.mp hholds).2.2.2.1, record.toNat_capturedLength]

include hstands

/-- The reader delivers the record that stands there. -/
theorem recordAt_eq : reader.recordAt unread = record.delivered index offset := by
  have hlength := toNat_capturedLengthAt hholds
  obtain ⟨-, hsec, hfraction, hcaptured, horiginal, hbytes⟩ := holds_record.mp hholds
  unfold recordAt Record.delivered
  rw [hlength, hsec, hfraction, horiginal, hstands.index, hstands.offset, UInt64.ofNat_add]
  exact (PcapPacketRecord.mk.injEq ..).mpr ⟨rfl, rfl, rfl, rfl, rfl, hcaptured, rfl, hbytes⟩

/-- Behind a record the reader stands in front of the next one. -/
theorem standsAt_advance :
    (reader.advance unread).StandsAt (index + 1) (offset + 16 + record.bytes.length) := by
  refine ⟨?_, ?_⟩
  · rw [advance, UInt64.ofNat_add, ← hstands.index]
    rfl
  · have hcaptured : (capturedLengthAt reader.globalHeader.endianness unread).toUInt64
        = UInt64.ofNat record.bytes.length := by
      rw [← toNat_capturedLengthAt hholds]
      exact UInt64.toNat_inj.mp (by simp)
    simp only [advance]
    rw [hcaptured, hstands.offset, UInt64.ofNat_add, UInt64.ofNat_add]
    rfl

end Record

/-- **Records are delivered one by one.** Behind them the reader goes on with the rest. -/
theorem readAll_of_append {records : List Record} {tail : Bytes} {reader : PcapReader}
    {index offset : ℕ}
    (h : Reading reader (records.flatMap (·.encode reader.globalHeader.endianness) ++ tail))
    (hstands : reader.StandsAt index offset) :
    ∃ behind : PcapReader, Reading behind tail ∧ behind.globalHeader = reader.globalHeader ∧
      behind.StandsAt (index + records.length)
        (offset + (records.flatMap (·.encode reader.globalHeader.endianness)).length) ∧
      reader.readAll = (delivered index offset records ++ behind.readAll.1, behind.readAll.2) := by
  induction records generalizing reader index offset with
  | nil => exact ⟨reader, h, rfl, hstands, rfl⟩
  | cons record records ih =>
    rw [List.flatMap_cons, List.append_assoc] at h
    set rest := records.flatMap (·.encode reader.globalHeader.endianness) ++ tail with hrest
    have hholds : Holds (record.encode reader.globalHeader.endianness ++ rest) 0
        (record.encode reader.globalHeader.endianness) := @holds_of_eq _ [] _ _ rfl
    -- the first record is complete, so the reader delivers it and stands in front of the rest
    have hrecord := recordAt_iff.mpr ⟨record, hholds⟩
    have hadvance := reading_advance h hrecord
    have hlength : (record.encode reader.globalHeader.endianness).length
        = kClassicPcapPacketHeaderSize + record.bytes.length := record.length_encode _
    rw [toNat_capturedLengthAt hholds, List.drop_left' hlength] at hadvance
    obtain ⟨behind, hbehind, hheader, hat, hall⟩ := ih hadvance (standsAt_advance hholds hstands)
    refine ⟨behind, hbehind, hheader, ?_, ?_⟩
    · rw [List.length_cons, List.flatMap_cons, List.length_append, record.length_encode]
      have hindex : index + (records.length + 1) = index + 1 + records.length := by omega
      rw [hindex, ← Nat.add_assoc offset, ← Nat.add_assoc offset]
      exact hat
    · rw [readAll_of_some (readNext_of_recordAt h hrecord), recordAt_eq hholds hstands, hall]
      rfl

/-- **Complete files are read to the end.** The reader delivers the records it stands before. -/
theorem readAll_of_records {records : List Record} {reader : PcapReader} {index offset : ℕ}
    (h : Reading reader (records.flatMap (·.encode reader.globalHeader.endianness)))
    (hstands : reader.StandsAt index offset) :
    reader.readAll.2.hasError = false ∧ reader.readAll.1 = delivered index offset records := by
  rw [← List.append_nil (records.flatMap _)] at h
  obtain ⟨behind, hbehind, -, -, hall⟩ := readAll_of_append h hstands
  rw [readAll_of_none (readNext_of_nil hbehind), List.append_nil] at hall
  rw [hall]
  exact ⟨hbehind.hasError, rfl⟩

/-- **What is read to the end is a list of records.** -/
theorem records_of_readAll {reader : PcapReader} {unread : Bytes} (h : Reading reader unread)
    (hok : reader.readAll.2.hasError = false) :
    ∃ records : List Record,
      unread = records.flatMap (·.encode reader.globalHeader.endianness) := by
  revert hok
  refine readAll_induction (motive := fun reader unread _ last => last.hasError = false →
    ∃ records : List Record,
      unread = records.flatMap (·.encode reader.globalHeader.endianness)) ?_ ?_ ?_ h
  · intro reader _ _
    exact ⟨[], rfl⟩
  · intro reader unread last _ _ _ herror _ hok
    rw [herror] at hok
    cases hok
  · intro reader unread _ last _ hrecord ih hok
    obtain ⟨record, hholds⟩ := recordAt_iff.mp hrecord
    obtain ⟨records, hrecords⟩ := ih hok
    have hsplit := eq_append_iff_holds.mpr hholds
    refine ⟨record :: records, ?_⟩
    rw [toNat_capturedLengthAt hholds] at hrecords
    rw [List.flatMap_cons, hsplit, record.length_encode]
    exact congrArg _ hrecords

/-- Every call of `ReadNext` delivers one record, until one delivers none. -/
theorem exists_readNext_eq_none (reader : PcapReader) :
    ∃ calls ≤ reader.unreadBytes.length,
      ((fun reader : PcapReader => reader.readNext.1)^[calls] reader).readNext.2 = none := by
  induction hn : reader.unreadBytes.length using Nat.strong_induction_on generalizing reader with
  | _ n ih =>
    cases hnext : reader.readNext with
    | mk reader' result =>
      cases result with
      | none => exact ⟨0, Nat.zero_le _, congrArg Prod.snd hnext⟩
      | some record =>
        have hlt := length_unreadBytes_readNext hnext
        simp only [kClassicPcapPacketHeaderSize] at hlt
        obtain ⟨calls, hle, hnone⟩ := ih _ (by omega) reader' rfl
        refine ⟨calls + 1, by omega, ?_⟩
        rw [Function.iterate_succ_apply, hnext]
        exact hnone

/-- Of a file that starts like one of the grammar, the reader delivers the records and goes on with
what is behind them. -/
theorem readAll_openFile_append {header : Header} {records : List Record} {tail : Bytes}
    (hsize : (header.encode ++ (records.flatMap (·.encode header.endianness) ++ tail)).length
      < UInt64.size) (reader : PcapReader) :
    let result := reader.openFile
      (.readable (header.encode ++ (records.flatMap (·.encode header.endianness) ++ tail)))
    ∃ behind : PcapReader, result.2 = true ∧ Reading behind tail ∧
      behind.globalHeader = header.fields ∧
      behind.StandsAt records.length
        (24 + (records.flatMap (·.encode header.endianness)).length) ∧
      result.1.readAll = (delivered 0 24 records ++ behind.readAll.1, behind.readAll.2) := by
  intro result
  set unread := records.flatMap (·.encode header.endianness) ++ tail with hunread
  have hacc : Accepted (header.encode ++ unread) header.fields :=
    accepted_iff.mpr ⟨hsize, header, @holds_of_eq _ [] _ _ rfl, rfl⟩
  have hopened : result = (opened (header.encode ++ unread) header.fields, true) :=
    openFile_of_accepted hacc reader
  have hdrop : (header.encode ++ unread).drop kClassicPcapGlobalHeaderSize = unread :=
    List.drop_left' header.length_encode
  have hreading := reading_opened hacc
  rw [hdrop, hunread] at hreading
  obtain ⟨behind, hbehind, hglobal, hat, hall⟩ :=
    @readAll_of_append records tail _ 0 24 hreading ⟨rfl, rfl⟩
  rw [Nat.zero_add] at hat
  refine ⟨behind, congrArg Prod.snd hopened, hbehind, hglobal, hat, ?_⟩
  rw [hopened]
  exact hall

/-- Reading a file of the grammar delivers its records. -/
theorem readAll_openFile_encode {pcap : PcapFile} (hsize : pcap.encode.length < UInt64.size)
    (reader : PcapReader) :
    (reader.openFile (.readable pcap.encode)).1.readAll.2.hasError = false ∧
      (reader.openFile (.readable pcap.encode)).1.readAll.1 = delivered 0 24 pcap.records := by
  rw [PcapFile.encode, ← List.append_nil (pcap.records.flatMap _)] at hsize ⊢
  obtain ⟨behind, -, hbehind, -, -, hall⟩ := readAll_openFile_append hsize reader
  rw [hall, readAll_of_none (readNext_of_nil hbehind), List.append_nil]
  exact ⟨hbehind.hasError, rfl⟩

/-- A file that is read without an error is a file of the grammar. -/
theorem exists_pcap_of_ok {reader : PcapReader} {bytes : Bytes}
    (hok : (reader.openFile (.readable bytes)).1.readAll.2.hasError = false) :
    ∃ pcap : PcapFile, bytes = pcap.encode := by
  rcases openFile_cases reader (.readable bytes) with
    ⟨_, fields, hinput, hacc, heq⟩ | ⟨-, hrefused⟩
  · obtain rfl := InputFile.readable.inj hinput
    obtain ⟨-, header, hholds, rfl⟩ := accepted_iff.mp hacc
    rw [heq] at hok
    obtain ⟨records, hrecords⟩ := records_of_readAll (reading_opened hacc) hok
    have hsplit := eq_append_iff_holds.mpr hholds
    rw [header.length_encode] at hsplit
    exact ⟨⟨header, records⟩, hsplit.trans (congrArg _ hrecords)⟩
  · rw [readAll_of_none (readNext_of_refused hrefused)] at hok
    exact absurd (hok.symm.trans hrefused.hasError) nofun

/-- Behind an opening no more bytes are unread than the file has. -/
theorem length_unreadBytes_openFile (reader : PcapReader) (bytes : Bytes) :
    (reader.openFile (.readable bytes)).1.unreadBytes.length ≤ bytes.length := by
  rcases openFile_cases reader (.readable bytes) with
    ⟨_, fields, hinput, hacc, heq⟩ | ⟨-, hrefused⟩
  · obtain rfl := InputFile.readable.inj hinput
    rw [heq]
    exact (List.length_drop ..).trans_le (Nat.sub_le ..)
  · rw [unreadBytes, hrefused.stream]
    exact Nat.zero_le _

/-- **The reader accepts exactly the grammar**, whatever its state, and reading comes to an end. -/
theorem delivers_iff (reader : PcapReader) (file : FileContent)
    (records : List PcapPacketRecord) :
    let opened := (reader.openFile (.readable file.bytes)).1
    (opened.readAll.2.hasError = false ∧ opened.readAll.1 = records ↔
      ∃ pcap : PcapFile, file.bytes = pcap.encode ∧ records = delivered 0 24 pcap.records) ∧
    ∃ calls ≤ file.bytes.length,
      ((fun reader : PcapReader => reader.readNext.1)^[calls] opened).readNext.2 = none := by
  intro opened
  obtain ⟨bytes, hsize⟩ := file
  have hcomplete : ∀ pcap : PcapFile, bytes = pcap.encode →
      opened.readAll.2.hasError = false ∧ opened.readAll.1 = delivered 0 24 pcap.records := by
    rintro pcap rfl
    exact readAll_openFile_encode hsize reader
  refine ⟨⟨?_, ?_⟩, ?_⟩
  · rintro ⟨hok, rfl⟩
    obtain ⟨pcap, hpcap⟩ := exists_pcap_of_ok hok
    exact ⟨pcap, hpcap, (hcomplete pcap hpcap).2⟩
  · rintro ⟨pcap, hpcap, rfl⟩
    exact hcomplete pcap hpcap
  · obtain ⟨calls, hle, hnone⟩ := exists_readNext_eq_none opened
    exact ⟨calls, hle.trans (length_unreadBytes_openFile reader bytes), hnone⟩

end PcapReader

end PcapConstrictor
