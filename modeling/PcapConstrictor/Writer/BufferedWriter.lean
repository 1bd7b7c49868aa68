import PcapConstrictor.Common.BufferedSink
import PcapConstrictor.Pipeline.Recording

/-!
# Writing to a file through a buffer

Reference: `WriteBytes`, `WriteLe16`, `WriteLe32` and their callers in `writer/PcapWriter.cpp`, over
the `std::ofstream` of the two pipelines.

`WriteBytes` throws when the stream is bad behind a write. The stream buffers: a write may leave its
bytes in the buffer, and goes bad when the device refuses what the stream hands over to it then. The
writer and the loop body for a packet are those of `PcapWriter` and `Recording`, write by write; as
long as no write fails they are the same (`consumeBuffered_cases`).
-/

namespace PcapConstrictor

open ByteString BufferedSink

namespace PcapWriter

/-- The writes of `WriteGlobalHeader`. -/
def headerChunks (writer : PcapWriter) : List Bytes :=
  [encodeLe32 0xA1B2C3D4, encodeLe16 2, encodeLe16 4, encodeLe32 0, encodeLe32 0,
    encodeLe32 writer.snaplen, encodeLe32 writer.linkType.toUInt32]

/-- The writes of `WritePacket` behind the global header. -/
def recordChunks (clock : SystemClock) (packet : CapturedPacket) (inclLen : UInt32) : List Bytes :=
  [encodeLe32 (tsSec clock packet), encodeLe32 (tsUsec clock packet), encodeLe32 inclLen,
    encodeLe32 (origLen packet inclLen), packet.data.take inclLen.toNat]

/-- Together the writes make up the global header. -/
theorem flatten_headerChunks (writer : PcapWriter) :
    writer.headerChunks.flatten = writer.globalHeader := rfl

/-- Together the writes make up the record. -/
theorem flatten_recordChunks (clock : SystemClock) (packet : CapturedPacket) (inclLen : UInt32) :
    (recordChunks clock packet inclLen).flatten = record clock packet inclLen := by
  simp [recordChunks, record, recordHeader]

/-- The stream and the member `global_header_written_`. -/
structure BufferedState where
  sink : BufferedSink UInt8 := {}
  globalHeaderWritten : Bool := false
deriving DecidableEq, Repr

/-- The text of the exception of `WriteBytes`. -/
def writeFailed : String := "failed to write PCAP data"

variable (device : BufferedDevice)

/-- `PcapWriter::WriteGlobalHeader`: the state it leaves, and the message of the exception if it
throws. -/
def writeGlobalHeaderBuffered (writer : PcapWriter) (state : BufferedState) :
    BufferedState × Option String :=
  if state.globalHeaderWritten then (state, none)
  else
    match writeAll device state.sink writer.headerChunks with
    | (sink, true) => ({ sink, globalHeaderWritten := true }, none)
    | (sink, false) => ({ state with sink }, some writeFailed)

/-- `PcapWriter::WritePacket`: the state it leaves, and the message of the exception if it
throws. -/
def writePacketBuffered (writer : PcapWriter) (clock : SystemClock) (state : BufferedState)
    (packet : CapturedPacket) (inclLen : UInt32) : BufferedState × Option String :=
  if inclLen > packet.packet.safeCapturedLen then
    (state, some "incl_len exceeds available packet bytes")
  else
    match writer.writeGlobalHeaderBuffered device state with
    | (state, some message) => (state, some message)
    | (state, none) =>
      match writeAll device state.sink (recordChunks clock packet inclLen) with
      | (sink, true) => ({ state with sink }, none)
      | (sink, false) => ({ state with sink }, some writeFailed)

/-- The state of a writer whose output is what the calls have brought, in the file or in the
buffer. -/
def BufferedState.plain (state : BufferedState) : State where
  output := state.sink.written
  globalHeaderWritten := state.globalHeaderWritten

@[simp] theorem BufferedState.plain_output (state : BufferedState) :
    state.plain.output = state.sink.written := rfl

@[simp] theorem BufferedState.plain_globalHeaderWritten (state : BufferedState) :
    state.plain.globalHeaderWritten = state.globalHeaderWritten := rfl

variable {device}

/-- The global header only adds to the output. -/
theorem prefix_writeGlobalHeader (writer : PcapWriter) (state : State) :
    state.output <+: (writer.writeGlobalHeader state).output := by
  rw [writeGlobalHeader]
  split
  · exact List.prefix_rfl
  · exact List.prefix_append ..

/-- The global header is written, or the stream fails within it. -/
theorem writeGlobalHeaderBuffered_cases (writer : PcapWriter) {state : BufferedState}
    (h : Flows device state.sink) :
    (∃ state', writer.writeGlobalHeaderBuffered device state = (state', none) ∧
      state'.plain = writer.writeGlobalHeader state.plain ∧ state'.globalHeaderWritten = true ∧
      Flows device state'.sink) ∨
    ∃ state', writer.writeGlobalHeaderBuffered device state = (state', some writeFailed) ∧
      Refused device state.sink.written (writer.writeGlobalHeader state.plain).output
        state'.sink := by
  rw [writeGlobalHeaderBuffered]
  by_cases hwritten : state.globalHeaderWritten = true
  · rw [if_pos hwritten]
    refine Or.inl ⟨state, rfl, ?_, hwritten, h⟩
    rw [writeGlobalHeader, state.plain_globalHeaderWritten, if_pos hwritten]
  rw [if_neg hwritten]
  have hheader : writer.writeGlobalHeader state.plain
      = { output := state.sink.written ++ writer.globalHeader, globalHeaderWritten := true } := by
    rw [writeGlobalHeader, state.plain_globalHeaderWritten, if_neg hwritten]
    rfl
  rw [hheader, ← flatten_headerChunks]
  rcases writeAll_cases h writer.headerChunks with
    ⟨sink, heq, hbrought, hflows⟩ | ⟨sink, heq, hrefused⟩
  · rw [heq]
    exact Or.inl ⟨_, rfl, by rw [BufferedState.plain, hbrought], rfl, hflows⟩
  · rw [heq]
    exact Or.inr ⟨_, rfl, hrefused⟩

/-- A packet is written, or the stream fails within its record or the header in front of it. -/
theorem writePacketBuffered_cases (writer : PcapWriter) (clock : SystemClock)
    {state : BufferedState} (h : Flows device state.sink) {packet : CapturedPacket}
    {inclLen : UInt32} (hle : inclLen ≤ packet.packet.safeCapturedLen) :
    let output := (writer.writeGlobalHeader state.plain).output ++ record clock packet inclLen
    (∃ state', writer.writePacketBuffered device clock state packet inclLen = (state', none) ∧
      state'.plain = { output, globalHeaderWritten := true } ∧ Flows device state'.sink) ∨
    ∃ state',
      writer.writePacketBuffered device clock state packet inclLen = (state', some writeFailed) ∧
      Refused device state.sink.written output state'.sink := by
  intro output
  rw [writePacketBuffered, if_neg (UInt32.not_lt.mpr hle)]
  rcases writeGlobalHeaderBuffered_cases writer h with
    ⟨state₁, heq, hstate₁, hwritten, hflows₁⟩ | ⟨state₁, heq, hrefused⟩
  · rw [heq]
    dsimp only
    have houtput : state₁.sink.written = (writer.writeGlobalHeader state.plain).output :=
      congrArg State.output hstate₁
    -- the header is in front of everything that is brought now
    have hbefore : state.sink.written <+: state₁.sink.written :=
      houtput ▸ prefix_writeGlobalHeader writer state.plain
    simp only [output, ← houtput, ← flatten_recordChunks]
    rcases writeAll_cases hflows₁ (recordChunks clock packet inclLen) with
      ⟨sink, hwrite, hbrought, hflows⟩ | ⟨sink, hwrite, hrefused⟩
    · rw [hwrite]
      exact Or.inl ⟨_, rfl, by rw [BufferedState.plain, hbrought, hwritten], hflows⟩
    · rw [hwrite]
      exact Or.inr ⟨_, rfl, hrefused.weaken hbefore⟩
  · rw [heq]
    exact Or.inr ⟨state₁, rfl, hrefused.extend (List.prefix_append ..)⟩

end PcapWriter

/-- The locals of the two loops over a buffered stream. -/
structure BufferedRecording where
  policy : LiveCapturePolicy.State := {}
  written : PcapWriter.BufferedState := {}
  stats : CaptureStats := {}

namespace BufferedRecording

open PcapWriter

/-- The loop body for one packet: the locals it leaves, and the message of the exception if the
writer throws. The counters are updated behind the writer only. -/
def consume (device : BufferedDevice) (config : PolicyConfig) (writer : PcapWriter)
    (clock : SystemClock) (s : BufferedRecording) (packet : CapturedPacket) :
    BufferedRecording × Option String :=
  let next := LiveCapturePolicy.evaluate config s.policy packet
  match writer.writePacketBuffered device clock s.written packet next.2.outputLen with
  | (written, some message) => ({ s with policy := next.1, written }, some message)
  | (written, none) => ({ policy := next.1, written, stats := s.stats.count packet next.2 }, none)

/-- The output file once the stream is closed, at the end of `Run`. -/
def file (device : BufferedDevice) (s : BufferedRecording) : Bytes := s.written.sink.close device

/-- The locals of a loop whose output is what the calls have brought. -/
def plain (s : BufferedRecording) : Recording where
  policy := s.policy
  written := s.written.plain
  stats := s.stats

/-- The stream has failed within what `output` adds to the locals `s`, and the counters are
those of `s`. -/
structure FailedWithin (device : BufferedDevice) (s : Recording) (output : Bytes)
    (failed : BufferedRecording) : Prop where
  stats : failed.stats = s.stats
  refused : Refused device s.written.output output failed.written.sink

/-- **What the loop body does**: the same as over a stream that does not fail, or the stream fails
within the record and the counters stay. -/
theorem consumeBuffered_cases {device : BufferedDevice} (config : PolicyConfig)
    (writer : PcapWriter) (clock : SystemClock) {s : BufferedRecording}
    (h : Flows device s.written.sink) (packet : CapturedPacket) :
    let next := Recording.consumed config writer clock s.plain packet
    (∃ s', consume device config writer clock s packet = (s', none) ∧ s'.plain = next ∧
      Flows device s'.written.sink) ∨
    ∃ s', consume device config writer clock s packet = (s', some writeFailed) ∧
      FailedWithin device s.plain next.written.output s' := by
  intro next
  have hle : (LiveCapturePolicy.evaluate config s.policy packet).2.outputLen
      ≤ packet.packet.safeCapturedLen :=
    UInt32.le_trans (LiveCapturePolicy.outputLen_le_base config s.policy packet)
      (LiveCapturePolicy.baseOutputLen_le config packet).1
  rw [consume]
  rcases writePacketBuffered_cases writer clock h hle with
    ⟨written, heq, hwritten, hflows⟩ | ⟨written, heq, hrefused⟩
  · rw [heq]
    exact Or.inl ⟨_, rfl, congrArg (fun written : State => ({ next with written } : Recording))
      hwritten, hflows⟩
  · rw [heq]
    exact Or.inr ⟨_, rfl, rfl, hrefused⟩

end BufferedRecording

end PcapConstrictor
