import PcapConstrictor.Common.Layout
import PcapConstrictor.Offline.PcapGrammar

/-!
# Truncated captures

A file that breaks off is read up to its last complete record. The error then says what is there of
the next one: a part of its header (`StoppedInHeader`), or its header and a part of its data
(`StoppedInData`).
-/

namespace PcapConstrictor

open ByteString Layout

/-- The file offset behind the record. -/
def PcapPacketRecord.endOffset (record : PcapPacketRecord) : ℕ :=
  record.dataOffset.toNat + record.capturedLength.toNat

namespace PcapFile

/-! ## Positions of delivered records -/

/-- The number of bytes of consecutive records. -/
def size (records : List Record) : ℕ := (records.map fun record => 16 + record.bytes.length).sum

@[simp] theorem size_nil : size [] = 0 := rfl

@[simp] theorem size_cons (record : Record) (records : List Record) :
    size (record :: records) = 16 + record.bytes.length + size records := List.sum_cons

/-- The size does not depend on the byte order. -/
theorem length_records (endianness : PcapEndianness) (records : List Record) :
    (records.flatMap (·.encode endianness)).length = size records := by
  rw [List.length_flatMap, size]
  simp only [Record.length_encode]

/-- A delivered record ends where the next one starts. -/
theorem endOffset_delivered {record : Record} {index offset : ℕ}
    (hlt : offset + 16 < UInt64.size) :
    (record.delivered index offset).endOffset = offset + 16 + record.bytes.length := by
  rw [PcapPacketRecord.endOffset, Record.delivered, record.toNat_capturedLength,
    UInt64.toNat_ofNat', Nat.mod_eq_of_lt hlt]

/-- Delivery goes on at the offset and the index behind the first part. -/
theorem delivered_append (whole rest : List Record) (index offset : ℕ) :
    delivered index offset (whole ++ rest)
      = delivered index offset whole ++
          delivered (index + whole.length) (offset + size whole) rest := by
  induction whole generalizing index offset with
  | nil => rfl
  | cons record whole ih =>
    have hindex : index + 1 + whole.length = index + (whole.length + 1) := by omega
    have hoffset : offset + 16 + record.bytes.length + size whole
        = offset + (16 + record.bytes.length + size whole) := by omega
    rw [List.cons_append, delivered, delivered, ih, hindex, hoffset]
    rfl

@[simp] theorem length_delivered (index offset : ℕ) (records : List Record) :
    (delivered index offset records).length = records.length := by
  induction records generalizing index offset with
  | nil => rfl
  | cons record records ih => rw [delivered, List.length_cons, List.length_cons, ih]

/-- Every delivered record ends behind the start of the first one and within them all. -/
theorem endOffset_of_mem_delivered {records : List Record} {index offset : ℕ}
    (hlt : offset + size records < UInt64.size) {record : PcapPacketRecord}
    (hmem : record ∈ delivered index offset records) :
    offset < record.endOffset ∧ record.endOffset ≤ offset + size records := by
  induction records generalizing index offset with
  | nil => exact absurd hmem List.not_mem_nil
  | cons head records ih =>
    rw [size_cons] at hlt ⊢
    rcases List.mem_cons.mp hmem with rfl | hmem
    · rw [endOffset_delivered (by omega)]
      omega
    · have htail := ih (by omega) hmem
      omega

/-- The last delivered record ends where they all end. -/
theorem endOffset_getLast_delivered {records : List Record} {index offset : ℕ}
    (hlt : offset + size records < UInt64.size) :
    ((delivered index offset records).getLast?.map (·.endOffset)).getD offset
      = offset + size records := by
  induction records generalizing index offset with
  | nil => rfl
  | cons record records ih =>
    rw [size_cons] at hlt ⊢
    have htail := @ih (index + 1) (offset + 16 + record.bytes.length) (by omega)
    have hhead := @endOffset_delivered record index _ (show offset + 16 < UInt64.size by omega)
    rw [delivered, List.getLast?_cons, Option.map_some, Option.getD_some]
    cases hlast : (delivered (index + 1) (offset + 16 + record.bytes.length) records).getLast? with
    | none =>
      rw [hlast, Option.map_none, Option.getD_none] at htail
      rw [Option.getD_none, hhead]
      omega
    | some last =>
      rw [hlast, Option.map_some, Option.getD_some] at htail
      rw [Option.getD_some, htail]
      omega

/-- A position inside the record behind `whole` has exactly the records of `whole` before it. -/
theorem filter_delivered {whole rest : List Record} {index offset position : ℕ}
    (hlt : offset + size (whole ++ rest) < UInt64.size) (hle : offset + size whole ≤ position)
    (hnext : ∀ next rest', rest = next :: rest' →
      position < offset + size whole + (16 + next.bytes.length)) :
    (delivered index offset (whole ++ rest)).filter (·.endOffset ≤ position)
      = delivered index offset whole := by
  have hsize : size (whole ++ rest) = size whole + size rest := by
    rw [size, List.map_append, List.sum_append]
    rfl
  rw [delivered_append, List.filter_append]
  -- the complete records end in front of the cut
  have hbefore : (delivered index offset whole).filter (·.endOffset ≤ position)
      = delivered index offset whole := by
    rw [List.filter_eq_self]
    intro record hmem
    have hend := (endOffset_of_mem_delivered (by omega) hmem).2
    exact decide_eq_true (by omega)
  -- the next record ends behind it, and so do all others
  have hbehind : (delivered (index + whole.length) (offset + size whole) rest).filter
      (·.endOffset ≤ position) = [] := by
    rw [List.filter_eq_nil_iff]
    intro record hmem
    rw [decide_eq_true_iff, Nat.not_le]
    cases rest with
    | nil => exact absurd hmem List.not_mem_nil
    | cons next rest =>
      have hposition := hnext next rest rfl
      rw [size_cons] at hsize
      rcases List.mem_cons.mp hmem with rfl | hmem
      · rw [endOffset_delivered (by omega)]
        omega
      · have hstart := (endOffset_of_mem_delivered (by omega) hmem).1
        omega
  rw [hbefore, hbehind, List.append_nil]

end PcapFile

namespace PcapReader

open PcapFile

/-! ## The incomplete record -/

/-- The error of a reader whose file ends `count` bytes into the packet header at `offset`. -/
def StoppedInHeader (reader : PcapReader) (offset count : ℕ) : Prop :=
  ∃ info : PcapIncompleteTailInfo, reader.incompleteTailInfo = some info ∧
    info.kind = .packetHeader ∧ info.fileOffset.toNat = offset ∧ info.trailingBytes.toNat = count

/-- The error of a reader whose file ends `available` bytes into the `expected` bytes of packet data
at `offset`. -/
def StoppedInData (reader : PcapReader) (offset expected available : ℕ) : Prop :=
  ∃ info : PcapIncompleteTailInfo, reader.incompleteTailInfo = some info ∧
    info.kind = .packetData ∧ info.fileOffset.toNat = offset ∧
    info.expectedCapturedLength.toNat = expected ∧
    info.availablePayloadBytes.toNat = available ∧
    info.missingPayloadBytes.toNat = expected - available

/-- An error is final. -/
theorem readNext_of_hasError {reader : PcapReader} (h : reader.hasError = true) :
    reader.readNext = (reader, none) := by
  unfold readNext
  rw [h]
  cases reader.stream <;> rfl

/-- What the reader makes of the beginning of a record. -/
theorem readNext_of_prefix {reader : PcapReader} {tail : Bytes} {record : Record}
    (h : Reading reader tail) (hne : tail ≠ [])
    (hinitial : tail <+: record.encode reader.globalHeader.endianness)
    (hlt : tail.length < (record.encode reader.globalHeader.endianness).length) :
    reader.readNext.2 = none ∧ reader.readNext.1.hasError = true ∧
      (tail.length < 16 →
        StoppedInHeader reader.readNext.1 reader.nextInputOffset.toNat tail.length) ∧
      (16 ≤ tail.length →
        StoppedInData reader.readNext.1 (reader.nextInputOffset.toNat + 16) record.bytes.length
          (tail.length - 16)) := by
  have hsize := reader.fileSize.toNat_lt
  have hoffset := h.offset
  have hlength : ∀ n ≤ tail.length, (UInt64.ofNat n).toNat = n := by
    intro n hn
    rw [UInt64.toNat_ofNat', Nat.mod_eq_of_lt (by omega)]
  rcases readNext_of_ne_nil h hne with ⟨hshort, hnone, herror, -, hinfo⟩ | ⟨hheader, heq⟩
  · -- the cut is inside the record header
    refine ⟨hnone, herror, fun _ => ⟨_, hinfo, rfl, rfl, hlength _ (Nat.le_refl _)⟩, ?_⟩
    intro hlong
    exact absurd hshort (Nat.not_lt.mpr hlong)
  · -- the header of the record is complete, so its fields are read back
    have hfields := @holds_of_eq _ [] (record.encode reader.globalHeader.endianness) [] rfl
    rw [List.nil_append, List.append_nil, List.length_nil] at hfields
    obtain ⟨-, -, -, hcaptured, horiginal, -⟩ := holds_record.mp hfields
    have htake := List.prefix_iff_eq_take.mp hinitial
    have hlong : 16 ≤ tail.length := hheader
    rw [← readU32_take (show 8 + 4 ≤ tail.length by omega), ← htake] at hcaptured
    rw [← readU32_take (show 12 + 4 ≤ tail.length by omega), ← htake] at horiginal
    rw [record.length_encode] at hlt
    rcases readPayload_cases h hheader with ⟨hrecord, -⟩ | ⟨-, hnone, herror, -, hinfo⟩
    · have hpayload := hrecord.payload
      rw [capturedLengthAt, hcaptured, record.toNat_capturedLength] at hpayload
      exact absurd hlt (Nat.not_lt.mpr hpayload)
    · rw [capturedLengthAt, hcaptured, horiginal] at hinfo
      have hle : record.capturedLength ≤ record.originalLength := by
        rw [UInt32.le_iff_toNat_le, record.toNat_capturedLength]
        exact record.length_le
      rw [heq]
      refine ⟨hnone, herror, fun hshort => absurd hheader (Nat.not_le.mpr hshort), fun _ => ?_⟩
      refine ⟨_, hinfo hle, rfl, toNat_offset_add h hheader, ?_, hlength _ (Nat.sub_le ..), ?_⟩
      · rw [UInt32.toNat_toUInt64, record.toNat_capturedLength]
      · have havailable := hlength _ (Nat.sub_le tail.length kClassicPcapPacketHeaderSize)
        have hcapturedLength : record.capturedLength.toUInt64.toNat = record.bytes.length := by
          rw [UInt32.toNat_toUInt64, record.toNat_capturedLength]
        rw [UInt64.toNat_sub_of_le _ _ (UInt64.le_iff_toNat_le.mpr ?_), havailable,
          hcapturedLength]
        · rfl
        · rw [havailable, hcapturedLength]
          simp only [kClassicPcapPacketHeaderSize]
          omega

/-- **Reading the beginning of a file**: the complete records, and what is left of the next one. -/
theorem readAll_cut {pcap : PcapFile} (hsize : pcap.encode.length < UInt64.size)
    (reader : PcapReader) {t : ℕ} (hheader : 24 ≤ t) (hle : t ≤ pcap.encode.length) :
    let result := reader.openFile (.readable (pcap.encode.take t))
    let last := result.1.readAll.2
    result.2 = true ∧
    ∃ whole rest count, pcap.records = whole ++ rest ∧ t = 24 + size whole + count ∧
      result.1.readAll.1 = delivered 0 24 whole ∧ (last.hasError = false ↔ count = 0) ∧
      (rest = [] ∧ count = 0 ∨ ∃ next rest', rest = next :: rest' ∧
        count < 16 + next.bytes.length ∧
        (0 < count → count < 16 → StoppedInHeader last (24 + size whole) count) ∧
        (16 ≤ count →
          StoppedInData last (24 + size whole + 16) next.bytes.length (count - 16))) := by
  intro result last
  obtain ⟨whole, rest, tail, hrecords, hcut, hrest⟩ :=
    @exists_cut _ _ (·.encode pcap.header.endianness) pcap.records (t - 24)
  -- the bytes that are there
  have htake : pcap.encode.take t
      = pcap.header.encode ++ (whole.flatMap (·.encode pcap.header.endianness) ++ tail) := by
    rw [PcapFile.encode, List.take_append, pcap.header.length_encode,
      List.take_of_length_le (by rw [pcap.header.length_encode]; exact hheader)]
    exact congrArg _ hcut
  have hlength : t = 24 + size whole + tail.length := by
    have htotal := congrArg List.length htake
    rw [List.length_take, Nat.min_eq_left hle, List.length_append, List.length_append,
      pcap.header.length_encode] at htotal
    rw [htotal, length_records, Nat.add_assoc]
  -- the header is complete, so the file is opened and the whole records are delivered
  have hsize' : (pcap.header.encode ++ (whole.flatMap (·.encode pcap.header.endianness)
      ++ tail)).length < UInt64.size := by
    rw [← htake]
    exact (List.length_take_le ..).trans_lt (hle.trans_lt hsize)
  obtain ⟨behind, hopened, hbehind, hglobal, hat, hall⟩ := readAll_openFile_append hsize' reader
  rw [← htake] at hopened hall
  have hendianness : behind.globalHeader.endianness = pcap.header.endianness :=
    congrArg ClassicPcapGlobalHeader.endianness hglobal
  have hoffset : behind.nextInputOffset.toNat = 24 + size whole := by
    have hposition := hat.offset
    rw [length_records] at hposition
    rw [hposition, UInt64.toNat_ofNat', Nat.mod_eq_of_lt]
    exact Nat.lt_of_le_of_lt (by omega) (hle.trans_lt hsize)
  obtain ⟨hdelivered, hlast⟩ : result.1.readAll.1 = delivered 0 24 whole ++ behind.readAll.1 ∧
      last = behind.readAll.2 := Prod.ext_iff.mp hall
  refine ⟨hopened, whole, rest, tail.length, hrecords, hlength, ?_⟩
  by_cases hnil : tail = []
  · subst hnil
    have hdone := readAll_of_none (readNext_of_nil hbehind)
    rw [hlast, hdelivered, hdone, List.append_nil]
    refine ⟨rfl, iff_of_true hbehind.hasError rfl, ?_⟩
    rcases hrest with ⟨rfl, -⟩ | ⟨next, rest', rfl, hlt, -⟩
    · exact Or.inl ⟨rfl, rfl⟩
    · rw [next.length_encode] at hlt
      refine Or.inr ⟨next, rest', rfl, hlt, fun hpos => absurd hpos (Nat.lt_irrefl 0), ?_⟩
      intro hlong
      exact absurd hlong (by decide)
  · rcases hrest with ⟨-, rfl⟩ | ⟨next, rest', rfl, hlt, hinitial⟩
    · exact absurd rfl hnil
    · rw [← hendianness] at hlt hinitial
      obtain ⟨hnone, herror, hshort, hlong⟩ := readNext_of_prefix hbehind hnil hinitial hlt
      have hstopped := readAll_of_none (Prod.ext rfl hnone : behind.readNext = (_, none))
      rw [next.length_encode] at hlt
      rw [hoffset] at hshort hlong
      rw [hlast, hdelivered, hstopped, List.append_nil]
      refine ⟨rfl, iff_of_false (fun hok => Bool.false_ne_true (hok.symm.trans herror)) ?_,
        Or.inr ⟨next, rest', rfl, hlt, fun _ => hshort, hlong⟩⟩
      exact fun hzero => hnil (List.length_eq_zero_iff.mp hzero)

/-- A file that is shorter than a global header is not opened. -/
theorem openFile_short (reader : PcapReader) {bytes : Bytes} (hlt : bytes.length < 24) :
    (reader.openFile (.readable bytes)).2 = false := by
  rcases openFile_cases reader (.readable bytes) with
    ⟨_, fields, hinput, hacc, -⟩ | ⟨hfalse, -⟩
  · obtain rfl := InputFile.readable.inj hinput
    exact absurd hacc.1 (Nat.not_le.mpr hlt)
  · exact hfalse

/-- **Truncated captures are diagnosed exactly.** For every length `t` of the beginning of a file
that is read to the end without an error, the records within the first `t` bytes are delivered
unchanged, and the error tells what stands between the end `b` of the last of them and `t`. -/
theorem readAll_take (reader reader' : PcapReader) (file : FileContent) (t : ℕ)
    (ht : t ≤ file.bytes.length)
    (hok : (reader.openFile (.readable file.bytes)).1.readAll.2.hasError = false) :
    let records := (reader.openFile (.readable file.bytes)).1.readAll.1
    let whole := records.filter (·.endOffset ≤ t)
    let b := (whole.getLast?.map (·.endOffset)).getD 24
    let result := reader'.openFile (.readable (file.bytes.take t))
    let last := result.1.readAll.2
    (t < 24 → result.2 = false) ∧
    (24 ≤ t → result.2 = true ∧ result.1.readAll.1 = whole ∧ b ≤ t ∧
      (last.hasError = false ↔ t = b) ∧
      (1 ≤ t - b → t - b < 16 → StoppedInHeader last b (t - b)) ∧
      (16 ≤ t - b → ∃ record, records[whole.length]? = some record ∧
        StoppedInData last (b + 16) record.capturedLength.toNat (t - b - 16) ∧
        1 ≤ record.capturedLength.toNat - (t - b - 16)) ∧
      (last.hasError = true → ∀ calls,
        ((fun reader : PcapReader => reader.readNext.1)^[calls] last).readNext
          = (last, none))) := by
  obtain ⟨bytes, hsize⟩ := file
  obtain ⟨pcap, rfl⟩ := exists_pcap_of_ok hok
  intro records whole b result last
  have hle : t ≤ pcap.encode.length := ht
  have hrecords : records = delivered 0 24 pcap.records := (readAll_openFile_encode hsize reader).2
  refine ⟨fun hlt => openFile_short reader' ((List.length_take_le ..).trans_lt hlt), ?_⟩
  intro hheader
  obtain ⟨hopened, complete, rest, count, hsplit, hlength, hdelivered, herror, hrest⟩ :=
    readAll_cut hsize reader' hheader ht
  have htotal : pcap.encode.length = 24 + size pcap.records := by
    rw [PcapFile.encode, List.length_append, pcap.header.length_encode, length_records]
  -- the records that end in front of the cut are the complete ones
  have hwhole : whole = delivered 0 24 complete := by
    simp only [whole, hrecords, hsplit]
    refine filter_delivered (by rw [← hsplit, ← htotal]; exact hsize) (by omega) ?_
    rintro next rest' rfl
    rcases hrest with ⟨hnil, -⟩ | ⟨_, _, hcons, hlt, -⟩
    · cases hnil
    · cases hcons
      omega
  have hb : b = 24 + size complete := by
    simp only [b, hwhole]
    exact endOffset_getLast_delivered (by omega)
  -- so what is left of the file behind them starts at `b`
  have hcount : t - b = count := by omega
  have hdata : ∀ next : Record, ∀ index offset,
      (next.delivered index offset).capturedLength.toNat = next.bytes.length :=
    fun next _ _ => next.toNat_capturedLength
  refine ⟨hopened, hdelivered.trans hwhole.symm, by omega, herror.trans (by omega), ?_, ?_, ?_⟩
  · intro hpos hshort
    rw [hcount] at hpos hshort ⊢
    rcases hrest with ⟨-, rfl⟩ | ⟨next, rest', -, -, hstopped, -⟩
    · exact absurd hpos (Nat.not_lt_zero 0)
    · rw [hb]
      exact hstopped hpos hshort
  · intro hlong
    rw [hcount] at hlong ⊢
    rcases hrest with ⟨-, rfl⟩ | ⟨next, rest', rfl, hlt, -, hstopped⟩
    · exact absurd hlong (by decide)
    · refine ⟨next.delivered complete.length (24 + size complete), ?_, ?_, ?_⟩
      · rw [hrecords, hsplit, delivered_append, hwhole, length_delivered, Nat.zero_add,
          List.getElem?_append_right (length_delivered ..).le, length_delivered, Nat.sub_self]
        rfl
      · rw [hb, hdata]
        exact hstopped hlong
      · rw [hdata]
        omega
  · intro hstop calls
    -- a reader that has stopped stays where it is, however often it is called
    have hfinal := readNext_of_hasError hstop
    rw [Function.iterate_fixed (congrArg Prod.fst hfinal)]
    exact hfinal

/-- A file with one packet of two bytes. -/
def twoBytePacket : PcapFile where
  header :=
    { endianness := .little, timePrecision := .microsecond, reserved1 := 0, reserved2 := 0
      snaplen := 65535, snaplen_ne_zero := by decide }
  records :=
    [{ tsSec := 7, tsFraction := 8, originalLength := 3, bytes := [0xAB, 0xCD]
       length_le := by decide }]

theorem length_twoBytePacket : twoBytePacket.encode.length < UInt64.size := by decide

/-- The file breaks off between the two bytes of its record's data. -/
theorem readAll_take_twoBytePacket :
    let result := openFile {} (.readable (twoBytePacket.encode.take 41))
    result.2 = true ∧ result.1.readAll.1 = [] ∧ StoppedInData result.1.readAll.2 40 2 1 := by
  obtain ⟨hok, hrecords⟩ := readAll_openFile_encode length_twoBytePacket {}
  obtain ⟨-, hcut⟩ :=
    readAll_take {} {} ⟨twoBytePacket.encode, length_twoBytePacket⟩ 41 (by decide) hok
  dsimp only at hcut
  rw [hrecords] at hcut
  obtain ⟨hopened, hdelivered, -, -, -, hdata, -⟩ := hcut (by decide)
  obtain ⟨record, hrecord, hstopped, -⟩ := hdata (by decide)
  obtain rfl := Option.some.inj hrecord
  exact ⟨hopened, hdelivered, hstopped⟩

end PcapReader

end PcapConstrictor
