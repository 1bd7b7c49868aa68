import PcapConstrictor.Common.Loop
import PcapConstrictor.Offline.PcapReader
import PcapConstrictor.Pipeline.Recording

/-!
# The live capture

Reference: `capture/NpcapCapture.hpp`, `capture/NpcapCapture.cpp`.

The model of `NpcapCapture::Run` starts where the interface and the output file are open. What comes
from outside is an `Environment`: the stop flag, the clocks and the driver. Iteration `k` of the
loop loads the flag for the `k`-th time and may call `pcap_next_ex`. The loop may go on for ever; a
run returns when some amount of fuel suffices.
-/

namespace PcapConstrictor

open ByteString Loop

/-- `LiveCaptureTerminationReason`. -/
inductive LiveCaptureTerminationReason
  | stopped
  | maxPacketsReached
  | durationReached
  | interrupted
  | captureLoopEnded
  | error
deriving DecidableEq, Repr

/-- `NpcapDriverStats`. -/
structure NpcapDriverStats where
  receivedByDriver : UInt32 := 0
  droppedByDriverOrOs : UInt32 := 0
  droppedByInterface : UInt32 := 0
  available : Bool := false
deriving DecidableEq, Repr

/-- `NpcapCaptureRunResult`, less the elapsed time. -/
structure NpcapCaptureRunResult where
  stats : CaptureStats := {}
  driverStats : NpcapDriverStats := {}
  error : String := ""
  warning : String := ""
  terminationReason : LiveCaptureTerminationReason := .stopped
  linkType : PcapLinkType := .ethernet
deriving DecidableEq, Repr

namespace NpcapCapture

/-- `pcap_pkthdr`. -/
structure PcapPkthdr where
  tvSec : ℤ
  tvUsec : ℤ
  caplen : UInt32
  len : UInt32
deriving DecidableEq, Repr

/-- What a call of `pcap_next_ex` returns and writes through its two pointers, and what
`pcap_geterr` would say afterwards. -/
structure NextResult where
  status : ℤ
  header : Option PcapPkthdr := none
  bytes : Option Bytes := none
  errorText : Option String := none
deriving DecidableEq, Repr

/-- The driver hands out a buffer of at least `caplen` bytes. -/
def NextResult.Buffered (next : NextResult) : Prop :=
  ∀ header bytes, next.header = some header → next.bytes = some bytes →
    header.caplen.toNat ≤ bytes.length

/-- Everything `Run` learns from outside once the interface and the output file are open. -/
structure Environment where
  linkType : PcapLinkType
  warning : String := ""
  stopRequested : ℕ → Bool
  startTime : ℤ
  now : ℕ → ℤ
  nextEx : ℕ → NextResult
  driverStats : Option NpcapDriverStats := none
  driverErrorText : Option String := none
  stop_mono : ∀ {j k}, j ≤ k → stopRequested j = true → stopRequested k = true
  buffered : ∀ k, (nextEx k).Buffered

def PCAP_ERROR_BREAK : ℤ := -2

/-- `std::chrono::seconds(duration_sec)` in nanoseconds, as the comparison converts it. Both types
are signed with 64 bits: seconds from `2 ^ 63` on are negative, and nanoseconds that do not fit
wrap, which the language leaves open and two's complement hardware does. -/
def durationLimit (durationSec : UInt64) : Int64 := durationSec.toInt64 * 1000000000

/-- `DurationLimitReached`. The steady clock is read in nanoseconds. -/
def durationLimitReached (startTime now : ℤ) (durationSec : UInt64) : Bool :=
  durationSec != 0 && now - startTime ≥ (durationLimit durationSec).toInt

/-- `ToTimestamp`. -/
def toTimestamp (clock : SystemClock) (seconds microseconds : ℤ) : ℤ :=
  clock.ofMicroseconds (seconds * 1000000 + microseconds)

/-- `AppendWarning`. -/
def appendWarning (warning message : String) : String :=
  if message = "" then warning
  else if warning = "" then message
  else warning ++ "\n" ++ message

/-- The text of `pcap_geterr` if there is one. -/
def handleError (errorText : Option String) : Option String := errorText.filter (· ≠ "")

/-- The local `packet` of `Run`. -/
def capturedPacket (clock : SystemClock) (linkType : PcapLinkType) (header : PcapPkthdr)
    (bytes : Bytes) : CapturedPacket where
  packet :=
    { data := bytes.take header.caplen.toNat
      capturedLen := header.caplen
      originalLen := header.len }
  timestamp := toTimestamp clock header.tvSec header.tvUsec
  linkType

/-- The locals of the loop. -/
structure RunLocals where
  recording : Recording := {}
  error : String := ""
  terminationReason : LiveCaptureTerminationReason := .stopped

/-- A failed read of the driver ends the loop. -/
def RunLocals.receiveError (l : RunLocals) (message : String) : RunLocals where
  recording :=
    { l.recording with
      stats := { l.recording.stats with receiveErrors := l.recording.stats.receiveErrors + 1 } }
  error := message
  terminationReason := .error

variable (capture : CaptureOptions) (config : PolicyConfig) (writer : PcapWriter)
  (clock : SystemClock) (env : Environment)

/-- The loop condition and the loop body of `Run`. -/
def loopBody (k : ℕ) (l : RunLocals) : Iteration RunLocals RunLocals :=
  if env.stopRequested k then
    .exit l
  else if capture.maxPackets ≠ 0 ∧ l.recording.stats.packetsTotal ≥ capture.maxPackets then
    .exit { l with terminationReason := .maxPacketsReached }
  else if durationLimitReached env.startTime (env.now k) capture.durationSec then
    .exit { l with terminationReason := .durationReached }
  else
    let next := env.nextEx k
    if next.status = 0 then
      .next l
    else if next.status = PCAP_ERROR_BREAK then
      .exit { l with terminationReason := .captureLoopEnded }
    else if next.status < 0 then
      .exit (l.receiveError
        ((handleError next.errorText).getD "pcap_next_ex failed with no error details"))
    else
      match next.header, next.bytes with
      | some header, some bytes =>
        match l.recording.consume config writer clock
            (capturedPacket clock env.linkType header bytes) with
        | .error message => .exit { l with error := message, terminationReason := .error }
        | .ok recording => .next { l with recording }
      | _, _ => .exit (l.receiveError "pcap_next_ex returned success without packet data")

/-- The part of `Run` behind the loop, which iteration `k` has left. -/
def finish (k : ℕ) (l : RunLocals) : NpcapCaptureRunResult where
  stats :=
    { l.recording.stats with
      bytesSaved := l.recording.stats.bytesInput - l.recording.stats.bytesOutput }
  driverStats :=
    match env.driverStats with
    | some driverStats => { driverStats with available := true }
    | none => {}
  error := l.error
  warning :=
    match env.driverStats with
    | some _ => env.warning
    | none =>
      appendWarning env.warning ("pcap_stats warning: unavailable" ++
        match handleError env.driverErrorText with
        | some text => " (" ++ text ++ ")"
        | none => "")
  terminationReason :=
    if env.stopRequested (k + 1) && l.terminationReason == .stopped then .interrupted
    else l.terminationReason
  linkType := env.linkType

/-- The local `writer` of `Run`. -/
def writerOf : PcapWriter where
  snaplen := min capture.defaultSnaplen capture.maxCaptureLen
  linkType := env.linkType

/-- `NpcapCapture::Run` of a capture constructed with the options `capture`: the result and the
bytes of the output file, if the loop ends within `fuel` iterations. -/
def run (fuel : ℕ) : Option (NpcapCaptureRunResult × Bytes) :=
  let writer := writerOf capture env
  let locals : RunLocals := { recording := { written := writer.writeGlobalHeader {} } }
  match Loop.run (loopBody capture config writer clock env) fuel 0 locals with
  | none => none
  | some (k, l) => some (finish env k l, l.recording.written.output)

end NpcapCapture

end PcapConstrictor
