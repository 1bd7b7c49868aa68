import PcapConstrictor.Offline.PcapStream
import PcapConstrictor.Pipeline.Recording

/-!
# The offline packet feed

Reference: `offline/OfflinePacketFeed.hpp`, `offline/OfflinePacketFeed.cpp`.

The output file is a new one, written through a stream that does not fail. `run_of_accepted` reduces
a run to the records the reader delivers: the loop consumes them all, in order.
-/

namespace PcapConstrictor

open ByteString PcapReader

/-- `OfflinePacketFeedResult`. -/
structure OfflinePacketFeedResult where
  stats : CaptureStats := {}
  error : String := ""
deriving DecidableEq, Repr

/-- `OfflinePacketFeedResult::ok`. -/
def OfflinePacketFeedResult.ok (result : OfflinePacketFeedResult) : Bool := result.error == ""

namespace OfflinePacketFeed

/-- The local `packet` of `Run`. -/
def capturedPacket (clock : SystemClock) (precision : PcapTimePrecision)
    (record : PcapPacketRecord) : CapturedPacket where
  packet :=
    { data := record.bytes
      capturedLen := record.capturedLength
      originalLen := record.originalLength }
  timestamp := record.timestamp clock precision

/-- The loop of `Run`: the reader and the locals it ends with, and the message of the exception that
ended it, if one did. -/
def feedLoop (config : PolicyConfig) (writer : PcapWriter) (clock : SystemClock)
    (reader : PcapReader) (s : Recording) : PcapReader × Recording × Option String :=
  match _hnext : reader.readNext with
  | (reader', none) => (reader', s, none)
  | (reader', some record) =>
    let packet := capturedPacket clock reader'.globalHeader.timePrecision record
    match s.consume config writer clock packet with
    | .error message => (reader', s, some message)
    | .ok s => feedLoop config writer clock reader' s
termination_by reader.unreadBytes.length
decreasing_by
  have hlt := length_unreadBytes_readNext _hnext
  simp only [kClassicPcapPacketHeaderSize] at hlt
  omega

/-- The local `output_snaplen` of `Run`. -/
def outputSnaplen (config : PolicyConfig) (header : ClassicPcapGlobalHeader) : UInt32 :=
  if header.snaplen ≠ 0 then header.snaplen
  else min config.capture.defaultSnaplen config.capture.maxCaptureLen

/-- The result of `Run` from what its loop ends with. -/
def feedResult (reader : PcapReader) (s : Recording) : Option String → OfflinePacketFeedResult
  | some message => { stats := s.stats, error := message }
  | none =>
    if reader.hasError then { stats := s.stats, error := reader.errorMessage }
    else
      { stats := { s.stats with bytesSaved := s.stats.bytesInput - s.stats.bytesOutput } }

/-- `OfflinePacketFeed::Run`: the result, and the bytes of the output file if it was opened. -/
def run (clock : SystemClock) (config : PolicyConfig) (input : InputFile) (outputOpens : Bool) :
    OfflinePacketFeedResult × Option Bytes :=
  let (reader, accepted) := PcapReader.openFile {} input
  if !accepted then
    ({ error := reader.errorMessage }, none)
  else if !outputOpens then
    ({ error := "failed to open output file" }, none)
  else
    let writer : PcapWriter := { snaplen := outputSnaplen config reader.globalHeader }
    let (reader, s, exception) := feedLoop config writer clock reader {}
    (feedResult reader s exception, some s.written.output)

/-! ## The loop -/

/-- **The loop consumes the records the reader delivers**, and no exception ends it. -/
theorem feedLoop_eq (config : PolicyConfig) (writer : PcapWriter) (clock : SystemClock)
    (reader : PcapReader) (s : Recording) :
    feedLoop config writer clock reader s
      = (reader.readAll.2,
          s.consumeAll config writer clock
            (reader.readAll.1.map
              (capturedPacket clock reader.globalHeader.timePrecision)), none) := by
  fun_induction feedLoop config writer clock reader s with
  | case1 reader s reader' hnext => rw [readAll_of_none hnext]; rfl
  | case2 reader s reader' record hnext packet message hconsume =>
    rw [Recording.consume_eq] at hconsume
    cases hconsume
  | case3 reader s reader' record hnext packet s' hconsume ih =>
    rw [Recording.consume_eq, Except.ok.injEq] at hconsume
    have hheader := globalHeader_readNext reader
    rw [hnext] at hheader
    rw [ih, readAll_of_some hnext, ← hconsume, ← hheader]
    rfl

/-- The records of an accepted file, as far as the reader delivers them. -/
def recordsOf (bytes : Bytes) (header : ClassicPcapGlobalHeader) : List PcapPacketRecord :=
  (opened bytes header).readAll.1

/-- The packets of an accepted file. -/
def packetsOf (clock : SystemClock) (bytes : Bytes) (header : ClassicPcapGlobalHeader) :
    List CapturedPacket :=
  (recordsOf bytes header).map (capturedPacket clock header.timePrecision)

/-- The writer `Run` sets up for an accepted file. -/
def writerOf (header : ClassicPcapGlobalHeader) : PcapWriter := { snaplen := header.snaplen }

/-- **A run over an accepted file.** -/
theorem run_of_accepted (clock : SystemClock) (config : PolicyConfig) {bytes : Bytes}
    {header : ClassicPcapGlobalHeader} (h : Accepted bytes header) :
    run clock config (.readable bytes) true
      = let s := Recording.consumeAll config (writerOf header) clock {}
          (packetsOf clock bytes header)
        (feedResult (opened bytes header).readAll.2 s none, some s.written.output) := by
  unfold run
  rw [openFile_of_accepted h]
  simp only [Bool.not_true, Bool.false_eq_true, if_false, feedLoop_eq]
  have hsnaplen : outputSnaplen config (opened bytes header).globalHeader = header.snaplen :=
    if_pos (header_of_accepted h).1
  rw [hsnaplen]
  rfl

/-- A run over a file that is not accepted reports an error and creates no output file. -/
theorem run_of_not_accepted (clock : SystemClock) (config : PolicyConfig) {input : InputFile}
    (h : ¬ ∃ bytes header, input = .readable bytes ∧ Accepted bytes header) (outputOpens : Bool) :
    (run clock config input outputOpens).1.error ≠ "" ∧
      (run clock config input outputOpens).2 = none := by
  rcases openFile_cases {} input with ⟨bytes, header, hinput, hacc, -⟩ | ⟨hfalse, hrefused⟩
  · exact absurd ⟨bytes, header, hinput, hacc⟩ h
  · unfold run
    dsimp only
    rw [hfalse]
    exact ⟨hrefused.message, rfl⟩

end OfflinePacketFeed

end PcapConstrictor
