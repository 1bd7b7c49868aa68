import PcapConstrictor.Basic

/-!
# The PCAP writer

Reference: `writer/PcapWriter.hpp`, `writer/PcapWriter.cpp`.

The output stream is the list of bytes written so far; it does not fail. What remains fallible is
the length check of `WritePacket`, which throws before anything is written.

A `system_clock` time point counts ticks since the epoch. How long a tick is depends on the standard
library; all the code needs is that it divides a microsecond, so that conversions from microseconds
lose nothing.
-/

namespace PcapConstrictor

open ByteString

/-- The resolution of `std::chrono::system_clock`. -/
structure SystemClock where
  nsPerTick : ℕ
  nsPerTick_dvd : nsPerTick ∣ 1000

/-- The clock of the Windows standard library, with ticks of 100 nanoseconds. -/
def SystemClock.windows : SystemClock where
  nsPerTick := 100
  nsPerTick_dvd := by decide

/-- The numerical value of a `PcapLinkType`. -/
def PcapLinkType.toUInt32 : PcapLinkType → UInt32
  | .null => 0
  | .ethernet => 1

/-- `std::chrono::duration_cast` of a time point to microseconds since the epoch. -/
def SystemClock.microseconds (clock : SystemClock) (timestamp : ℤ) : ℤ :=
  (timestamp * clock.nsPerTick).tdiv 1000

/-- The constructor arguments of a `PcapWriter`. -/
structure PcapWriter where
  snaplen : UInt32 := 65535
  linkType : PcapLinkType := .ethernet
deriving DecidableEq, Repr

namespace PcapWriter

/-- The output stream and the member `global_header_written_`. -/
structure State where
  output : Bytes := []
  globalHeaderWritten : Bool := false
deriving DecidableEq, Repr

/-- The bytes written by `WriteGlobalHeader`. -/
def globalHeader (writer : PcapWriter) : Bytes :=
  encodeLe32 0xA1B2C3D4 ++ (encodeLe16 2 ++ (encodeLe16 4 ++ (encodeLe32 0 ++ (encodeLe32 0 ++
    (encodeLe32 writer.snaplen ++ encodeLe32 writer.linkType.toUInt32)))))

/-- `PcapWriter::WriteGlobalHeader`. -/
def writeGlobalHeader (writer : PcapWriter) (state : State) : State :=
  if state.globalHeaderWritten then state
  else { output := state.output ++ writer.globalHeader, globalHeaderWritten := true }

/-- The local `ts_sec` of `WritePacket`. -/
def tsSec (clock : SystemClock) (packet : CapturedPacket) : UInt32 :=
  UInt32.ofInt ((clock.microseconds packet.timestamp).tdiv 1000000)

/-- The local `ts_usec` of `WritePacket`. -/
def tsUsec (clock : SystemClock) (packet : CapturedPacket) : UInt32 :=
  let micros := clock.microseconds packet.timestamp
  UInt32.ofInt (micros - micros.tdiv 1000000 * 1000000)

/-- The local `orig_len` of `WritePacket`. -/
def origLen (packet : CapturedPacket) (inclLen : UInt32) : UInt32 := max packet.originalLen inclLen

/-- The record header written by `WritePacket`. -/
def recordHeader (clock : SystemClock) (packet : CapturedPacket) (inclLen : UInt32) : Bytes :=
  encodeLe32 (tsSec clock packet) ++ (encodeLe32 (tsUsec clock packet) ++
    (encodeLe32 inclLen ++ encodeLe32 (origLen packet inclLen)))

/-- The record written by `WritePacket`. -/
def record (clock : SystemClock) (packet : CapturedPacket) (inclLen : UInt32) : Bytes :=
  recordHeader clock packet inclLen ++ packet.data.take inclLen.toNat

/-- `PcapWriter::WritePacket`. -/
def writePacket (writer : PcapWriter) (clock : SystemClock) (state : State)
    (packet : CapturedPacket) (inclLen : UInt32) : Except String State :=
  if inclLen > packet.packet.safeCapturedLen then
    .error "incl_len exceeds available packet bytes"
  else
    let state := writer.writeGlobalHeader state
    .ok { state with output := state.output ++ record clock packet inclLen }

/-! ## What is written can be read back -/

@[simp] theorem length_globalHeader (writer : PcapWriter) : writer.globalHeader.length = 24 := rfl

@[simp] theorem length_recordHeader (clock : SystemClock) (packet : CapturedPacket)
    (inclLen : UInt32) : (recordHeader clock packet inclLen).length = 16 := rfl

/-- The fields of the global header. -/
theorem globalHeader_fields (writer : PcapWriter) (rest : Bytes) :
    let bytes := writer.globalHeader ++ rest
    readLe32 bytes 0 = 0xA1B2C3D4 ∧ readLe16 bytes 4 = 2 ∧ readLe16 bytes 6 = 4 ∧
      readLe32 bytes 16 = writer.snaplen ∧ readLe32 bytes 20 = writer.linkType.toUInt32 := by
  intro bytes
  simp only [bytes, globalHeader, List.append_assoc]
  exact ⟨readLe32_encodeLe32 [] _ _, readLe16_encodeLe16 (encodeLe32 0xA1B2C3D4) _ _,
    readLe16_encodeLe16 (encodeLe32 0xA1B2C3D4 ++ encodeLe16 2) _ _,
    readLe32_encodeLe32 (encodeLe32 0xA1B2C3D4 ++ (encodeLe16 2 ++ (encodeLe16 4 ++
      (encodeLe32 0 ++ encodeLe32 0)))) _ _,
    readLe32_encodeLe32 (encodeLe32 0xA1B2C3D4 ++ (encodeLe16 2 ++ (encodeLe16 4 ++
      (encodeLe32 0 ++ (encodeLe32 0 ++ encodeLe32 writer.snaplen))))) _ _⟩

/-- The fields of a record header. -/
theorem record_fields (clock : SystemClock) (packet : CapturedPacket) (inclLen : UInt32) :
    let bytes := record clock packet inclLen
    readLe32 bytes 0 = tsSec clock packet ∧ readLe32 bytes 4 = tsUsec clock packet ∧
      readLe32 bytes 8 = inclLen ∧ readLe32 bytes 12 = origLen packet inclLen := by
  intro bytes
  simp only [bytes, record, recordHeader, List.append_assoc]
  exact ⟨readLe32_encodeLe32 [] _ _, readLe32_encodeLe32 (encodeLe32 (tsSec clock packet)) _ _,
    readLe32_encodeLe32 (encodeLe32 (tsSec clock packet) ++ encodeLe32 (tsUsec clock packet)) _ _,
    readLe32_encodeLe32 (encodeLe32 (tsSec clock packet) ++ (encodeLe32 (tsUsec clock packet) ++
      encodeLe32 inclLen)) _ _⟩

end PcapWriter

end PcapConstrictor
