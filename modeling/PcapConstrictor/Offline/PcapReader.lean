import PcapConstrictor.Writer.PcapWriter

/-!
# The PCAP reader

Reference: `offline/PcapReader.hpp`, `offline/PcapReader.cpp`.

The input file does not change while it is read. An open stream is the list of bytes that have not
been read yet; the offset the reader keeps is a separate number, as in the source, and
`Reading.offset` says that the two agree.
-/

namespace PcapConstrictor

open ByteString

/-- What the file system says about an input path. -/
inductive InputFile
  | missing
  | unreadable (size : ℕ)
  | readable (bytes : Bytes)
deriving DecidableEq, Repr

/-- `std::filesystem::file_size`. -/
def InputFile.fileSize : InputFile → Option ℕ
  | .missing => none
  | .unreadable size => some size
  | .readable bytes => some bytes.length

/-- The stream `std::ifstream(path, std::ios::binary)`, if it opens. -/
def InputFile.stream : InputFile → Option Bytes
  | .readable bytes => some bytes
  | _ => none

def kClassicPcapGlobalHeaderSize : ℕ := 24
def kClassicPcapPacketHeaderSize : ℕ := 16
def kPcapNgSectionHeaderBlockType : UInt32 := 0x0A0D0D0A
def kEthernetLinkType : UInt32 := 1

/-- `PcapEndianness`. -/
inductive PcapEndianness
  | little
  | big
deriving DecidableEq, Repr

/-- `PcapTimePrecision`. -/
inductive PcapTimePrecision
  | microsecond
  | nanosecond
deriving DecidableEq, Repr

/-- `ClassicPcapGlobalHeader`. -/
structure ClassicPcapGlobalHeader where
  magicBytes : Bytes := [0, 0, 0, 0]
  endianness : PcapEndianness := .little
  timePrecision : PcapTimePrecision := .microsecond
  versionMajor : UInt16 := 0
  versionMinor : UInt16 := 0
  reserved1 : UInt32 := 0
  reserved2 : UInt32 := 0
  snaplen : UInt32 := 0
  linkType : UInt32 := 0
deriving DecidableEq, Repr

/-- `PcapPacketRecord`. -/
structure PcapPacketRecord where
  packetIndex : UInt64
  headerOffset : UInt64
  dataOffset : UInt64
  tsSec : UInt32
  tsFraction : UInt32
  capturedLength : UInt32
  originalLength : UInt32
  bytes : Bytes
deriving DecidableEq, Repr

/-- `PcapIncompleteTailKind`. -/
inductive PcapIncompleteTailKind
  | packetHeader
  | packetData
deriving DecidableEq, Repr

/-- `PcapIncompleteTailInfo`. -/
structure PcapIncompleteTailInfo where
  kind : PcapIncompleteTailKind := .packetHeader
  fileOffset : UInt64 := 0
  trailingBytes : UInt64 := 0
  expectedCapturedLength : UInt64 := 0
  availablePayloadBytes : UInt64 := 0
  missingPayloadBytes : UInt64 := 0
deriving DecidableEq, Repr

/-- The members of a `PcapReader`; `stream_` is open when `stream` holds the bytes left. -/
structure PcapReader where
  stream : Option Bytes := none
  globalHeader : ClassicPcapGlobalHeader := {}
  fileSize : UInt64 := 0
  nextInputOffset : UInt64 := 0
  nextPacketIndex : UInt64 := 0
  hasError : Bool := false
  errorMessage : String := ""
  incompleteTailInfo : Option PcapIncompleteTailInfo := none
deriving DecidableEq, Repr

/-- `ReadU16`. -/
def readU16 (bytes : Bytes) (offset : ℕ) : PcapEndianness → UInt16
  | .little => readLe16 bytes offset
  | .big => readBe16 bytes offset

/-- `ReadU32`. -/
def readU32 (bytes : Bytes) (offset : ℕ) : PcapEndianness → UInt32
  | .little => readLe32 bytes offset
  | .big => readBe32 bytes offset

/-- `DetectMagic`. -/
def detectMagic (magicBytes : Bytes) : Option (PcapEndianness × PcapTimePrecision) :=
  if magicBytes = [0xD4, 0xC3, 0xB2, 0xA1] then some (.little, .microsecond)
  else if magicBytes = [0xA1, 0xB2, 0xC3, 0xD4] then some (.big, .microsecond)
  else if magicBytes = [0x4D, 0x3C, 0xB2, 0xA1] then some (.little, .nanosecond)
  else if magicBytes = [0xA1, 0xB2, 0x3C, 0x4D] then some (.big, .nanosecond)
  else none

/-- `ReadExact`: the bytes read and the bytes left. -/
def readExact (stream : Bytes) (size : ℕ) : Option (Bytes × Bytes) :=
  if size ≤ stream.length then some (stream.take size, stream.drop size) else none

/-- `PacketErrorPrefix`. -/
def packetErrorPrefix (packetIndex offset : UInt64) : String :=
  "packet " ++ toString packetIndex ++ " at file offset " ++ toString offset ++ ": "

/-- `duration_cast` of nanoseconds since the epoch to the ticks of the clock. -/
def SystemClock.ofNanoseconds (clock : SystemClock) (nanoseconds : ℤ) : ℤ :=
  nanoseconds.tdiv clock.nsPerTick

/-- `duration_cast` of microseconds since the epoch to the ticks of the clock. -/
def SystemClock.ofMicroseconds (clock : SystemClock) (microseconds : ℤ) : ℤ :=
  microseconds * (1000 / clock.nsPerTick : ℕ)

/-- `PcapPacketRecord::timestamp`. -/
def PcapPacketRecord.timestamp (clock : SystemClock) (record : PcapPacketRecord) :
    PcapTimePrecision → ℤ
  | .nanosecond =>
    clock.ofNanoseconds (record.tsSec.toNat * 1000000000 + record.tsFraction.toNat)
  | .microsecond =>
    clock.ofMicroseconds (record.tsSec.toNat * 1000000 + record.tsFraction.toNat)

namespace PcapReader

/-- `PcapReader::Clear`: every member is reset. -/
def clear (_reader : PcapReader) : PcapReader := {}

/-- `PcapReader::SetError`. -/
def setError (reader : PcapReader) (message : String) : PcapReader :=
  { reader with hasError := true, errorMessage := message }

/-- `PcapReader::SetErrorAt`. -/
def setErrorAt (reader : PcapReader) (offset : UInt64) (message : String) : PcapReader :=
  reader.setError ("file offset " ++ toString offset ++ ": " ++ message)

/-- The fields `Open` reads from the bytes of the global header. -/
def readGlobalHeader (headerBytes : Bytes) (endianness : PcapEndianness)
    (timePrecision : PcapTimePrecision) : ClassicPcapGlobalHeader where
  magicBytes := headerBytes.take 4
  endianness
  timePrecision
  versionMajor := readU16 headerBytes 4 endianness
  versionMinor := readU16 headerBytes 6 endianness
  reserved1 := readU32 headerBytes 8 endianness
  reserved2 := readU32 headerBytes 12 endianness
  snaplen := readU32 headerBytes 16 endianness
  linkType := readU32 headerBytes 20 endianness

/-- The checks `Open` makes on the fields of the global header: the offset and the message of the
first that fails. -/
def checkGlobalHeader (header : ClassicPcapGlobalHeader) : Option (UInt64 × String) :=
  if header.versionMajor ≠ 2 ∨ header.versionMinor ≠ 4 then
    some (4, "unsupported classic PCAP version " ++ toString header.versionMajor ++ "." ++
      toString header.versionMinor)
  else if header.snaplen = 0 then
    some (16, "invalid PCAP snaplen 0")
  else if header.linkType ≠ kEthernetLinkType then
    some (20, "unsupported linktype " ++ toString header.linkType ++
      "; only Ethernet (DLT_EN10MB/1) is supported")
  else
    none

/-- `PcapReader::Open`; the stream is closed where it fails. -/
def openFile (reader : PcapReader) (input : InputFile) : PcapReader × Bool :=
  let reader := reader.clear
  match input.fileSize with
  | none => (reader.setError "failed to read input file size", false)
  | some size =>
    if size > UInt64.size - 1 then
      (reader.setError "input file is too large", false)
    else
      let reader := { reader with fileSize := UInt64.ofNat size }
      match input.stream with
      | none => (reader.setError "failed to open input file", false)
      | some stream =>
        match readExact stream kClassicPcapGlobalHeaderSize with
        | none => (reader.setErrorAt 0 "unexpected EOF while reading PCAP global header", false)
        | some (headerBytes, rest) =>
          if readBe32 headerBytes 0 = kPcapNgSectionHeaderBlockType then
            (reader.setErrorAt 0 "pcapng is not supported by this offline feed mode", false)
          else
            match detectMagic (headerBytes.take 4) with
            | none => (reader.setErrorAt 0 "unsupported classic PCAP magic number", false)
            | some (endianness, timePrecision) =>
              let globalHeader := readGlobalHeader headerBytes endianness timePrecision
              let reader := { reader with globalHeader }
              match checkGlobalHeader globalHeader with
              | some (offset, message) => (reader.setErrorAt offset message, false)
              | none =>
                ({ reader with
                    stream := some rest
                    nextInputOffset := UInt64.ofNat kClassicPcapGlobalHeaderSize }, true)

/-- The part of `ReadNext` behind the packet header: its fields, and the payload read from
`stream`. -/
def readPayload (reader : PcapReader) (headerBytes stream : Bytes) :
    PcapReader × Option PcapPacketRecord :=
  let packetHeaderOffset := reader.nextInputOffset
  let tsSec := readU32 headerBytes 0 reader.globalHeader.endianness
  let tsFraction := readU32 headerBytes 4 reader.globalHeader.endianness
  let capturedLength := readU32 headerBytes 8 reader.globalHeader.endianness
  let originalLength := readU32 headerBytes 12 reader.globalHeader.endianness
  let reader := { reader with stream := some stream }
  if capturedLength > originalLength then
    (reader.setError (packetErrorPrefix reader.nextPacketIndex packetHeaderOffset ++
      "captured length " ++ toString capturedLength ++ " exceeds original length " ++
      toString originalLength), none)
  else
    let dataOffset := packetHeaderOffset + UInt64.ofNat kClassicPcapPacketHeaderSize
    let remainingData := reader.fileSize - dataOffset
    if capturedLength.toUInt64 > remainingData then
      ({ reader.setError (packetErrorPrefix reader.nextPacketIndex packetHeaderOffset ++
            "unexpected EOF while reading packet payload; expected " ++ toString capturedLength ++
            " byte(s), available " ++ toString remainingData ++ " byte(s), missing " ++
            toString (capturedLength.toUInt64 - remainingData) ++ " byte(s)") with
          incompleteTailInfo := some
            { kind := .packetData
              fileOffset := dataOffset
              expectedCapturedLength := capturedLength.toUInt64
              availablePayloadBytes := remainingData
              missingPayloadBytes := capturedLength.toUInt64 - remainingData } }, none)
    else
      match readExact stream capturedLength.toNat with
      | none =>
        ({ reader.setError (packetErrorPrefix reader.nextPacketIndex dataOffset ++
              "unexpected EOF while reading packet data") with stream := some [] }, none)
      | some (bytes, rest) =>
        ({ reader with
            stream := some rest
            nextInputOffset := dataOffset + capturedLength.toUInt64
            nextPacketIndex := reader.nextPacketIndex + 1 },
          some
            { packetIndex := reader.nextPacketIndex
              headerOffset := packetHeaderOffset
              dataOffset, tsSec, tsFraction, capturedLength, originalLength, bytes })

/-- `PcapReader::ReadNext`. -/
def readNext (reader : PcapReader) : PcapReader × Option PcapPacketRecord :=
  match reader.stream with
  | none => (reader, none)
  | some stream =>
    if reader.hasError then
      (reader, none)
    else if reader.nextInputOffset = reader.fileSize then
      (reader, none)
    else if reader.nextInputOffset > reader.fileSize then
      (reader.setErrorAt reader.nextInputOffset "reader offset is past end of input file", none)
    else
      let remainingForHeader := reader.fileSize - reader.nextInputOffset
      if remainingForHeader < UInt64.ofNat kClassicPcapPacketHeaderSize then
        ({ reader.setErrorAt reader.nextInputOffset
              ("unexpected EOF while reading packet header; " ++ toString remainingForHeader ++
                " trailing byte(s) could not be processed") with
            incompleteTailInfo := some
              { kind := .packetHeader
                fileOffset := reader.nextInputOffset
                trailingBytes := remainingForHeader } }, none)
      else
        match readExact stream kClassicPcapPacketHeaderSize with
        | none =>
          ({ reader.setErrorAt reader.nextInputOffset
                "unexpected EOF while reading packet header" with stream := some [] }, none)
        | some (headerBytes, rest) => reader.readPayload headerBytes rest

/-! ## Reading to the end -/

/-- A read that succeeds takes bytes from the front. -/
theorem readExact_eq_some {stream bytes rest : Bytes} {size : ℕ}
    (h : readExact stream size = some (bytes, rest)) :
    size ≤ stream.length ∧ bytes = stream.take size ∧ rest = stream.drop size := by
  unfold readExact at h
  rw [Option.ite_none_right_eq_some, Option.some.injEq, Prod.mk.injEq] at h
  exact ⟨h.1, h.2.1.symm, h.2.2.symm⟩

/-- The bytes an open stream has left. -/
def unreadBytes (reader : PcapReader) : Bytes := reader.stream.getD []

/-- Every delivered record consumes at least its header. -/
theorem length_unreadBytes_readNext {reader reader' : PcapReader} {record : PcapPacketRecord}
    (h : reader.readNext = (reader', some record)) :
    reader'.unreadBytes.length + kClassicPcapPacketHeaderSize ≤ reader.unreadBytes.length := by
  unfold readNext at h
  split at h
  · cases h
  next stream hstream =>
  split at h
  · cases h
  split at h
  · cases h
  split at h
  · cases h
  dsimp only at h
  split at h
  · cases h
  split at h
  · cases h
  next headerBytes rest hheader =>
  unfold readPayload at h
  dsimp only at h
  split at h
  · cases h
  split at h
  · cases h
  split at h
  · cases h
  next bytes rest' hpayload =>
  -- the header and the payload are taken off the front of the stream
  obtain ⟨hle, -, rfl⟩ := readExact_eq_some hheader
  obtain ⟨-, -, rfl⟩ := readExact_eq_some hpayload
  rw [Prod.mk.injEq] at h
  rw [← h.1]
  simp only [unreadBytes, hstream, Option.getD_some, List.length_drop]
  omega

/-- Reading a record's data leaves the file's header. -/
theorem globalHeader_readPayload (reader : PcapReader) (headerBytes stream : Bytes) :
    (reader.readPayload headerBytes stream).1.globalHeader = reader.globalHeader := by
  unfold readPayload
  dsimp only
  split
  · rfl
  split
  · rfl
  split <;> rfl

/-- `ReadNext` leaves the global header alone. -/
theorem globalHeader_readNext (reader : PcapReader) :
    reader.readNext.1.globalHeader = reader.globalHeader := by
  unfold readNext
  split
  · rfl
  split
  · rfl
  split
  · rfl
  split
  · rfl
  dsimp only
  split
  · rfl
  split
  · rfl
  · exact globalHeader_readPayload ..

/-- The records that `ReadNext` delivers until it returns nothing, and the reader it leaves. -/
def readAll (reader : PcapReader) : List PcapPacketRecord × PcapReader :=
  match _hnext : reader.readNext with
  | (reader', none) => ([], reader')
  | (reader', some record) =>
    let (records, last) := readAll reader'
    (record :: records, last)
termination_by reader.unreadBytes.length
decreasing_by
  have hlt := length_unreadBytes_readNext _hnext
  simp only [kClassicPcapPacketHeaderSize] at hlt
  omega

theorem readAll_of_none {reader reader' : PcapReader} (h : reader.readNext = (reader', none)) :
    reader.readAll = ([], reader') := by
  rw [readAll]
  split
  · next heq => rw [h] at heq; cases heq; rfl
  · next heq => rw [h] at heq; cases heq

theorem readAll_of_some {reader reader' : PcapReader} {record : PcapPacketRecord}
    (h : reader.readNext = (reader', some record)) :
    reader.readAll = (record :: reader'.readAll.1, reader'.readAll.2) := by
  rw [readAll]
  split
  · next heq => rw [h] at heq; cases heq
  · next heq => rw [h] at heq; cases heq; rfl

end PcapReader

end PcapConstrictor
