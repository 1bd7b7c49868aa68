import PcapConstrictor.Offline.PcapReader

/-!
# What the reader delivers

While the stream and the offset of a reader agree (`Reading`), `ReadNext` depends on the unread
bytes only: it delivers the record they start with (`RecordAt`), ends at their end, or reports an
error.
-/

namespace PcapConstrictor.PcapReader

open ByteString

/-! ## Open -/

/-- `Open` accepts the file `bytes`, whose global header is `header`. -/
def Accepted (bytes : Bytes) (header : ClassicPcapGlobalHeader) : Prop :=
  kClassicPcapGlobalHeaderSize ≤ bytes.length ∧ bytes.length < UInt64.size ∧
    checkGlobalHeader header = none ∧
    ∃ endianness timePrecision, detectMagic (bytes.take 4) = some (endianness, timePrecision) ∧
      header = readGlobalHeader (bytes.take kClassicPcapGlobalHeaderSize) endianness timePrecision

/-- A reader in front of the first record of an accepted file. -/
def opened (bytes : Bytes) (header : ClassicPcapGlobalHeader) : PcapReader where
  stream := some (bytes.drop kClassicPcapGlobalHeaderSize)
  globalHeader := header
  fileSize := UInt64.ofNat bytes.length
  nextInputOffset := UInt64.ofNat kClassicPcapGlobalHeaderSize

/-- A read within the bytes that are kept is unchanged by a cut. -/
theorem readBe32_take (bytes : Bytes) {n offset : ℕ} (h : offset + 4 ≤ n) :
    readBe32 (bytes.take n) offset = readBe32 bytes offset := by
  simp only [readBe32, byteAt_take (show offset < n by omega),
    byteAt_take (show offset + 1 < n by omega), byteAt_take (show offset + 2 < n by omega),
    byteAt_take (show offset + 3 < n by omega)]

theorem readU32_take {bytes : Bytes} {n offset : ℕ} (h : offset + 4 ≤ n)
    (endianness : PcapEndianness) :
    readU32 (bytes.take n) offset endianness = readU32 bytes offset endianness := by
  cases endianness with
  | little =>
    simp only [readU32, readLe32, byteAt_take (show offset < n by omega),
      byteAt_take (show offset + 1 < n by omega), byteAt_take (show offset + 2 < n by omega),
      byteAt_take (show offset + 3 < n by omega)]
  | big => exact readBe32_take bytes h

/-- None of the four magic numbers is the one of pcapng. -/
theorem not_pcapNg_of_detectMagic {bytes : Bytes} {found : PcapEndianness × PcapTimePrecision}
    (h : detectMagic (bytes.take 4) = some found) :
    readBe32 bytes 0 ≠ kPcapNgSectionHeaderBlockType := by
  rw [← readBe32_take bytes (show 0 + 4 ≤ 4 by decide)]
  unfold detectMagic at h
  split at h
  · next hmagic => rw [hmagic]; decide
  split at h
  · next hmagic => rw [hmagic]; decide
  split at h
  · next hmagic => rw [hmagic]; decide
  split at h
  · next hmagic => rw [hmagic]; decide
  · cases h

/-- An accepted header opens the file, whatever the reader did before. -/
theorem openFile_of_accepted {bytes : Bytes} {header : ClassicPcapGlobalHeader}
    (h : Accepted bytes header) (reader : PcapReader) :
    reader.openFile (.readable bytes) = (opened bytes header, true) := by
  obtain ⟨hlen, hsize, hcheck, endianness, timePrecision, hmagic, rfl⟩ := h
  unfold openFile
  simp only [InputFile.fileSize, InputFile.stream]
  rw [if_neg (by omega), readExact, if_pos hlen]
  dsimp only
  have htake : (bytes.take kClassicPcapGlobalHeaderSize).take 4 = bytes.take 4 := by
    rw [List.take_take]
    rfl
  rw [← htake] at hmagic
  rw [if_neg (not_pcapNg_of_detectMagic hmagic), hmagic]
  dsimp only
  rw [hcheck]
  rfl

/-- The stream is closed behind an error. -/
structure Refused (reader : PcapReader) : Prop where
  stream : reader.stream = none
  hasError : reader.hasError = true
  message : reader.errorMessage ≠ ""

/-- A reader that has refused something delivers nothing more. -/
theorem readNext_of_refused {reader : PcapReader} (h : Refused reader) :
    reader.readNext = (reader, none) := by
  unfold readNext
  rw [h.stream]

/-- **What `Open` does**: it accepts the file, or it reports an error and delivers nothing. -/
theorem openFile_cases (reader : PcapReader) (input : InputFile) :
    (∃ bytes header, input = .readable bytes ∧ Accepted bytes header ∧
      reader.openFile input = (opened bytes header, true)) ∨
    ((reader.openFile input).2 = false ∧ Refused (reader.openFile input).1) := by
  by_cases h : ∃ bytes header, input = .readable bytes ∧ Accepted bytes header
  · obtain ⟨bytes, header, rfl, hacc⟩ := h
    exact Or.inl ⟨bytes, header, rfl, hacc, openFile_of_accepted hacc reader⟩
  · refine Or.inr ?_
    unfold openFile
    dsimp only
    split
    · exact ⟨rfl, rfl, rfl, by simp [setError]⟩
    next size hfile =>
    split
    · exact ⟨rfl, rfl, rfl, by simp [setError]⟩
    next hsize =>
    split
    · exact ⟨rfl, rfl, rfl, by simp [setError]⟩
    next stream hstream =>
    split
    · exact ⟨rfl, rfl, rfl, by simp [setErrorAt, setError]⟩
    next headerBytes rest hread =>
    split
    · exact ⟨rfl, rfl, rfl, by simp [setErrorAt, setError]⟩
    split
    · exact ⟨rfl, rfl, rfl, by simp [setErrorAt, setError]⟩
    next endianness timePrecision hmagic =>
    split
    · exact ⟨rfl, rfl, rfl, by simp [setErrorAt, setError]⟩
    next hcheck =>
    -- every check has passed
    refine absurd ?_ h
    cases input with
    | missing => cases hfile
    | unreadable size => cases hstream
    | readable bytes =>
      rw [InputFile.fileSize, Option.some.injEq] at hfile
      rw [InputFile.stream, Option.some.injEq] at hstream
      subst hfile hstream
      obtain ⟨hlen, rfl, -⟩ := readExact_eq_some hread
      have hlt : bytes.length < UInt64.size := by
        have hpos : 0 < UInt64.size := by decide
        omega
      refine ⟨_, _, rfl, hlen, hlt, hcheck, endianness, timePrecision, ?_, rfl⟩
      rwa [List.take_take] at hmagic

/-- A file is accepted with one header. -/
theorem Accepted.unique {bytes : Bytes} {header header' : ClassicPcapGlobalHeader}
    (h : Accepted bytes header) (h' : Accepted bytes header') : header = header' := by
  obtain ⟨-, -, -, endianness, timePrecision, hmagic, rfl⟩ := h
  obtain ⟨-, -, -, endianness', timePrecision', hmagic', rfl⟩ := h'
  obtain ⟨rfl, rfl⟩ := Prod.mk.inj (Option.some.inj (hmagic.symm.trans hmagic'))
  rfl

/-- What `Open` has checked. -/
theorem header_of_accepted {bytes : Bytes} {header : ClassicPcapGlobalHeader}
    (h : Accepted bytes header) : header.snaplen ≠ 0 ∧ header.linkType = kEthernetLinkType := by
  have hcheck := h.2.2.1
  unfold checkGlobalHeader at hcheck
  split at hcheck
  · cases hcheck
  split at hcheck
  · cases hcheck
  next hsnaplen =>
  split at hcheck
  · cases hcheck
  next hlink => exact ⟨hsnaplen, not_not.mp hlink⟩

/-! ## ReadNext -/

/-- The stream is open at the offset `next_input_offset_`, `unread` is left and nothing has gone
wrong. -/
structure Reading (reader : PcapReader) (unread : Bytes) : Prop where
  stream : reader.stream = some unread
  hasError : reader.hasError = false
  offset : reader.nextInputOffset.toNat + unread.length = reader.fileSize.toNat

/-- A file that was opened is read from behind its header. -/
theorem reading_opened {bytes : Bytes} {header : ClassicPcapGlobalHeader}
    (h : Accepted bytes header) :
    Reading (opened bytes header) (bytes.drop kClassicPcapGlobalHeaderSize) := by
  refine ⟨rfl, rfl, ?_⟩
  have hlen := h.1
  have hsize := h.2.1
  rw [List.length_drop]
  simp only [opened, UInt64.toNat_ofNat', Nat.mod_eq_of_lt (show bytes.length < 2 ^ 64 from hsize)]
  simp only [kClassicPcapGlobalHeaderSize] at hlen ⊢
  omega

/-- The captured length in the record header that `unread` starts with. -/
def capturedLengthAt (endianness : PcapEndianness) (unread : Bytes) : UInt32 :=
  readU32 unread 8 endianness

/-- The unread bytes start with a complete record whose lengths are in order. -/
structure RecordAt (endianness : PcapEndianness) (unread : Bytes) : Prop where
  header : kClassicPcapPacketHeaderSize ≤ unread.length
  lengths : capturedLengthAt endianness unread ≤ readU32 unread 12 endianness
  payload : kClassicPcapPacketHeaderSize + (capturedLengthAt endianness unread).toNat
    ≤ unread.length

/-- The record that `unread` starts with. -/
def recordAt (reader : PcapReader) (unread : Bytes) : PcapPacketRecord where
  packetIndex := reader.nextPacketIndex
  headerOffset := reader.nextInputOffset
  dataOffset := reader.nextInputOffset + UInt64.ofNat kClassicPcapPacketHeaderSize
  tsSec := readU32 unread 0 reader.globalHeader.endianness
  tsFraction := readU32 unread 4 reader.globalHeader.endianness
  capturedLength := capturedLengthAt reader.globalHeader.endianness unread
  originalLength := readU32 unread 12 reader.globalHeader.endianness
  bytes := subspan unread kClassicPcapPacketHeaderSize
    (capturedLengthAt reader.globalHeader.endianness unread).toNat

/-- The reader behind the record that `unread` starts with. -/
def advance (reader : PcapReader) (unread : Bytes) : PcapReader :=
  let capturedLength := capturedLengthAt reader.globalHeader.endianness unread
  { reader with
    stream := some (unread.drop (kClassicPcapPacketHeaderSize + capturedLength.toNat))
    nextInputOffset := reader.nextInputOffset + UInt64.ofNat kClassicPcapPacketHeaderSize +
      capturedLength.toUInt64
    nextPacketIndex := reader.nextPacketIndex + 1 }

/-- The offset arithmetic of `ReadNext` does not wrap in front of a record. -/
theorem toNat_offset_add {reader : PcapReader} {unread : Bytes} (h : Reading reader unread) {n : ℕ}
    (hn : n ≤ unread.length) :
    (reader.nextInputOffset + UInt64.ofNat n).toNat = reader.nextInputOffset.toNat + n := by
  have hoffset := h.offset
  have hsize := reader.fileSize.toNat_lt
  rw [UInt64.toNat_add, UInt64.toNat_ofNat', Nat.mod_eq_of_lt (show n < 2 ^ 64 by omega)]
  exact Nat.mod_eq_of_lt (by omega)

/-- The bytes the file size promises behind `n` bytes of the unread part. -/
theorem toNat_remaining {reader : PcapReader} {unread : Bytes} (h : Reading reader unread) {n : ℕ}
    (hn : n ≤ unread.length) :
    (reader.fileSize - (reader.nextInputOffset + UInt64.ofNat n)).toNat = unread.length - n := by
  have hoffset := h.offset
  have hadd := toNat_offset_add h hn
  rw [UInt64.toNat_sub_of_le _ _ (UInt64.le_iff_toNat_le.mpr (by omega))]
  omega

/-- At the end of the file nothing is read, and nothing goes wrong. -/
theorem readNext_of_nil {reader : PcapReader} (h : Reading reader []) :
    reader.readNext = (reader, none) := by
  unfold readNext
  rw [h.stream, h.hasError]
  dsimp only
  have hoffset : reader.nextInputOffset = reader.fileSize := by
    rw [← UInt64.toNat_inj, ← h.offset]
    rfl
  rw [if_neg Bool.false_ne_true, if_pos hoffset]

theorem toNat_kHeaderSize : (UInt64.ofNat kClassicPcapPacketHeaderSize).toNat = 16 := rfl

/-- In front of unread bytes, `ReadNext` looks at the packet header if it is complete. -/
theorem readNext_of_ne_nil {reader : PcapReader} {unread : Bytes} (h : Reading reader unread)
    (hne : unread ≠ []) :
    (unread.length < kClassicPcapPacketHeaderSize ∧ reader.readNext.2 = none ∧
      reader.readNext.1.hasError = true ∧ reader.readNext.1.errorMessage ≠ "" ∧
      reader.readNext.1.incompleteTailInfo = some
        { kind := .packetHeader
          fileOffset := reader.nextInputOffset
          trailingBytes := UInt64.ofNat unread.length }) ∨
    (kClassicPcapPacketHeaderSize ≤ unread.length ∧
      reader.readNext = reader.readPayload (unread.take kClassicPcapPacketHeaderSize)
        (unread.drop kClassicPcapPacketHeaderSize)) := by
  have hoffset := h.offset
  have hpos := List.length_pos_iff.mpr hne
  have hremaining : (reader.fileSize - reader.nextInputOffset).toNat = unread.length := by
    rw [UInt64.toNat_sub_of_le _ _ (UInt64.le_iff_toNat_le.mpr (by omega))]
    omega
  unfold readNext
  rw [h.stream, h.hasError]
  dsimp only
  rw [if_neg Bool.false_ne_true, if_neg (fun heq => by rw [heq] at hoffset; omega),
    if_neg (fun hlt => by have := UInt64.lt_iff_toNat_lt.mp hlt; omega)]
  split
  · -- too short for a record header
    next hlt =>
    rw [UInt64.lt_iff_toNat_lt, hremaining, toNat_kHeaderSize] at hlt
    rw [← hremaining, UInt64.ofNat_toNat]
    exact Or.inl ⟨hremaining ▸ hlt, rfl, rfl, by simp [setErrorAt, setError], rfl⟩
  · next hlt =>
    rw [UInt64.lt_iff_toNat_lt, hremaining, toNat_kHeaderSize] at hlt
    have hle : kClassicPcapPacketHeaderSize ≤ unread.length := Nat.not_lt.mp hlt
    rw [readExact, if_pos hle]
    exact Or.inr ⟨hle, rfl⟩

/-- The part of `ReadNext` behind a complete packet header delivers the record, or reports that its
lengths contradict each other or the file. -/
theorem readPayload_cases {reader : PcapReader} {unread : Bytes} (h : Reading reader unread)
    (hheader : kClassicPcapPacketHeaderSize ≤ unread.length) :
    let next := reader.readPayload (unread.take kClassicPcapPacketHeaderSize)
      (unread.drop kClassicPcapPacketHeaderSize)
    (RecordAt reader.globalHeader.endianness unread ∧
      next = (reader.advance unread, some (reader.recordAt unread))) ∨
    (¬ RecordAt reader.globalHeader.endianness unread ∧ next.2 = none ∧
      next.1.hasError = true ∧ next.1.errorMessage ≠ "" ∧
      (capturedLengthAt reader.globalHeader.endianness unread
          ≤ readU32 unread 12 reader.globalHeader.endianness →
        next.1.incompleteTailInfo = some
          { kind := .packetData
            fileOffset := reader.nextInputOffset + UInt64.ofNat kClassicPcapPacketHeaderSize
            expectedCapturedLength :=
              (capturedLengthAt reader.globalHeader.endianness unread).toUInt64
            availablePayloadBytes := UInt64.ofNat (unread.length - kClassicPcapPacketHeaderSize)
            missingPayloadBytes :=
              (capturedLengthAt reader.globalHeader.endianness unread).toUInt64 -
                UInt64.ofNat (unread.length - kClassicPcapPacketHeaderSize) })) := by
  intro next
  have hremaining := toNat_remaining h hheader
  rw [← hremaining, UInt64.ofNat_toNat]
  simp only [next, readPayload, readU32_take (show 0 + 4 ≤ kClassicPcapPacketHeaderSize by decide),
    readU32_take (show 4 + 4 ≤ kClassicPcapPacketHeaderSize by decide),
    readU32_take (show 8 + 4 ≤ kClassicPcapPacketHeaderSize by decide),
    readU32_take (show 12 + 4 ≤ kClassicPcapPacketHeaderSize by decide)]
  split
  · -- the captured length exceeds the original one
    next hlengths =>
    exact Or.inr ⟨fun hrecord => UInt32.not_lt.mpr hrecord.lengths hlengths, rfl, rfl,
      by simp [setError, packetErrorPrefix], fun hle => absurd hlengths (UInt32.not_lt.mpr hle)⟩
  next hlengths =>
  split
  · -- the data reach beyond the end of the file
    next hpayload =>
    rw [gt_iff_lt, UInt64.lt_iff_toNat_lt, hremaining, UInt32.toNat_toUInt64] at hpayload
    refine Or.inr ⟨?_, rfl, rfl, by simp [setError, packetErrorPrefix], fun _ => rfl⟩
    intro hrecord
    have hle := hrecord.payload
    rw [capturedLengthAt] at hle
    omega
  next hpayload =>
  rw [gt_iff_lt, UInt64.lt_iff_toNat_lt, hremaining, UInt32.toNat_toUInt64] at hpayload
  have hle : (readU32 unread 8 reader.globalHeader.endianness).toNat
      ≤ (unread.drop kClassicPcapPacketHeaderSize).length := by
    rw [List.length_drop]
    omega
  rw [readExact, if_pos hle]
  refine Or.inl ⟨⟨hheader, UInt32.not_lt.mp hlengths, ?_⟩, ?_⟩
  · rw [capturedLengthAt]
    omega
  · simp only [advance, recordAt, capturedLengthAt, subspan, List.drop_drop]

/-- Behind a record, stream and offset agree again. -/
theorem reading_advance {reader : PcapReader} {unread : Bytes} (h : Reading reader unread)
    (hrecord : RecordAt reader.globalHeader.endianness unread) :
    Reading (reader.advance unread)
      (unread.drop (kClassicPcapPacketHeaderSize +
        (capturedLengthAt reader.globalHeader.endianness unread).toNat)) := by
  refine ⟨rfl, h.hasError, ?_⟩
  have hoffset := h.offset
  have hsize := reader.fileSize.toNat_lt
  have hpayload := hrecord.payload
  have hadd := toNat_offset_add h hrecord.header
  rw [List.length_drop]
  simp only [advance]
  rw [UInt64.toNat_add, hadd, UInt32.toNat_toUInt64, Nat.mod_eq_of_lt (by omega)]
  omega

/-- **What `ReadNext` does**, in terms of the unread bytes. -/
theorem readNext_cases {reader : PcapReader} {unread : Bytes} (h : Reading reader unread) :
    (unread = [] ∧ reader.readNext = (reader, none)) ∨
    (RecordAt reader.globalHeader.endianness unread ∧
      reader.readNext = (reader.advance unread, some (reader.recordAt unread))) ∨
    (unread ≠ [] ∧ ¬ RecordAt reader.globalHeader.endianness unread ∧
      reader.readNext.2 = none ∧ reader.readNext.1.hasError = true ∧
      reader.readNext.1.errorMessage ≠ "") := by
  by_cases hnil : unread = []
  · subst hnil
    exact Or.inl ⟨rfl, readNext_of_nil h⟩
  · refine Or.inr ?_
    rcases readNext_of_ne_nil h hnil with ⟨hshort, hnone, herror, hmessage, -⟩ | ⟨hheader, heq⟩
    · exact Or.inr ⟨hnil, fun hrecord => Nat.not_lt.mpr hrecord.header hshort, hnone, herror,
        hmessage⟩
    · rcases readPayload_cases h hheader with
        ⟨hrecord, hnext⟩ | ⟨hrecord, hnone, herror, hmessage, -⟩
      · exact Or.inl ⟨hrecord, heq.trans hnext⟩
      · rw [heq]
        exact Or.inr ⟨hnil, hrecord, hnone, herror, hmessage⟩

/-- A complete record is delivered, and the reader stands behind it. -/
theorem readNext_of_recordAt {reader : PcapReader} {unread : Bytes} (h : Reading reader unread)
    (hrecord : RecordAt reader.globalHeader.endianness unread) :
    reader.readNext = (reader.advance unread, some (reader.recordAt unread)) := by
  rcases readNext_cases h with ⟨rfl, -⟩ | ⟨-, heq⟩ | ⟨-, hnot, -⟩
  · exact absurd hrecord.header (by decide)
  · exact heq
  · exact absurd hrecord hnot

/-! ## Reading to the end -/

/-- **Induction over the records of a stream.** What a reader delivers is determined by the unread
bytes: nothing at their end, nothing but an error in front of anything else than a record, and a
record followed by what the advanced reader delivers. -/
theorem readAll_induction {motive : PcapReader → Bytes → List PcapPacketRecord → PcapReader → Prop}
    (done : ∀ reader, Reading reader [] → motive reader [] [] reader)
    (malformed : ∀ reader unread last, Reading reader unread → unread ≠ [] →
      ¬ RecordAt reader.globalHeader.endianness unread → last.hasError = true →
      last.errorMessage ≠ "" → motive reader unread [] last)
    (record : ∀ reader unread records last, Reading reader unread →
      RecordAt reader.globalHeader.endianness unread →
      motive (reader.advance unread)
        (unread.drop (kClassicPcapPacketHeaderSize +
          (capturedLengthAt reader.globalHeader.endianness unread).toNat)) records last →
      motive reader unread (reader.recordAt unread :: records) last)
    {reader : PcapReader} {unread : Bytes} (h : Reading reader unread) :
    motive reader unread reader.readAll.1 reader.readAll.2 := by
  induction hn : unread.length using Nat.strong_induction_on generalizing reader unread with
  | _ n ih =>
    rcases readNext_cases h with ⟨rfl, heq⟩ | ⟨hrecord, heq⟩ | ⟨hne, hnot, hnone, herror⟩
    · rw [readAll_of_none heq]
      exact done reader h
    · rw [readAll_of_some heq]
      refine record reader unread _ _ h hrecord (ih _ ?_ (reading_advance h hrecord) rfl)
      have hheader := hrecord.header
      rw [← hn, List.length_drop]
      simp only [kClassicPcapPacketHeaderSize] at hheader ⊢
      omega
    · rw [readAll_of_none (Prod.ext rfl hnone)]
      exact malformed reader unread _ h hne hnot herror.1 herror.2

/-- The number of bytes a record takes in a file. -/
def recordSize (record : PcapPacketRecord) : ℕ :=
  kClassicPcapPacketHeaderSize + record.capturedLength.toNat

/-- The records delivered are consistent and fit into the unread bytes, which they fill if no error
is left; and an error has a message. -/
structure Delivered (unread : Bytes) (records : List PcapPacketRecord) (last : PcapReader) :
    Prop where
  length_bytes : ∀ record ∈ records, record.bytes.length = record.capturedLength.toNat
  captured_le : ∀ record ∈ records, record.capturedLength ≤ record.originalLength
  size_le : (records.map recordSize).sum ≤ unread.length
  size_eq : last.hasError = false → (records.map recordSize).sum = unread.length
  message : last.hasError = true → last.errorMessage ≠ ""

/-- Reading to the end delivers the records in front of the first incomplete one. -/
theorem delivered_readAll {reader : PcapReader} {unread : Bytes} (h : Reading reader unread) :
    Delivered unread reader.readAll.1 reader.readAll.2 := by
  refine readAll_induction (motive := fun _ => Delivered)
    (fun reader h => ⟨nofun, nofun, Nat.le_refl _, fun _ => rfl, ?_⟩)
    (fun _ _ last _ _ _ herror hmessage =>
      ⟨nofun, nofun, Nat.zero_le _, fun hok => absurd (hok.symm.trans herror) nofun,
        fun _ => hmessage⟩)
    ?_ h
  · intro herror
    exact absurd (h.hasError.symm.trans herror) nofun
  · intro reader unread records last h hrecord ih
    have hpayload := hrecord.payload
    -- the record accounts for its bytes, `ih` for those behind it
    have hsize : recordSize (reader.recordAt unread) = kClassicPcapPacketHeaderSize +
        (capturedLengthAt reader.globalHeader.endianness unread).toNat := rfl
    refine ⟨?_, ?_, ?_, ?_, ih.message⟩
    · rw [List.forall_mem_cons]
      exact ⟨length_subspan hpayload, ih.length_bytes⟩
    · rw [List.forall_mem_cons]
      exact ⟨hrecord.lengths, ih.captured_le⟩
    · have hle := ih.size_le
      rw [List.length_drop] at hle
      rw [List.map_cons, List.sum_cons, hsize]
      omega
    · intro hok
      have heq := ih.size_eq hok
      rw [List.length_drop] at heq
      rw [List.map_cons, List.sum_cons, hsize, heq]
      omega

end PcapConstrictor.PcapReader
