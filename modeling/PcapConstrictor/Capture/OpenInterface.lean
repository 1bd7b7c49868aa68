import PcapConstrictor.Capture.LiveCaptureReporting
import PcapConstrictor.Pipeline.WriteFailures

/-!
# Opening the interface

Reference: `NpcapCapture::Run` up to its loop, in `capture/NpcapCapture.cpp`.

What the driver answers while the interface is opened is a `Driver`; what it does afterwards is the
environment of the loop. `runOpen` is the whole of `Run`, with a buffered output stream.
-/

namespace PcapConstrictor.NpcapCapture

/-- What `pcap_open_live` leaves: whether it returned a handle, and its error buffer. -/
inductive OpenLive
  | failed (errorBuffer : String)
  | opened (errorBuffer : String)
deriving DecidableEq, Repr

/-- What `Run` learns from the driver. `setNonblock` holds the error buffer of `pcap_setnonblock` if
it failed, and `setMinToCopy` what `pcap_geterr` says if `pcap_setmintocopy` failed. The link type
and the warning of `session` are those that `Run` comes to. -/
structure Driver where
  openLive : String → ℤ → ℤ → ℤ → OpenLive
  setNonblock : Option String := none
  setMinToCopy : Option (Option String) := none
  datalink : ℤ
  session : Environment

def DLT_NULL : ℤ := 0
def DLT_EN10MB : ℤ := 1

/-- `UnsupportedDatalinkError`. -/
def unsupportedDatalinkError (datalink : ℤ) : String :=
  "unsupported live datalink " ++ toString datalink ++
    "; supported linktypes in this milestone are DLT_EN10MB and DLT_NULL"

/-- `TryMapDatalink`. -/
def tryMapDatalink (datalink : ℤ) : Option PcapLinkType :=
  if datalink = DLT_EN10MB then some .ethernet
  else if datalink = DLT_NULL then some .null
  else none

/-- The warnings of the calls that configure an open handle. `pcap_setmintocopy` is there on Windows
only. -/
def Driver.warning (driver : Driver) (windows : Bool) (errorBuffer : String) : String :=
  let warning := errorBuffer
  let warning :=
    match driver.setNonblock with
    | some text =>
      if text ≠ "" then appendWarning warning ("pcap_setnonblock(1) warning: " ++ text)
      else warning
    | none => warning
  if windows then
    match driver.setMinToCopy with
    | some errorText =>
      match handleError errorText with
      | some text => appendWarning warning ("pcap_setmintocopy(0) warning: " ++ text)
      | none => warning
    | none => warning
  else warning

/-- The environment of the loop. -/
def Driver.environment (driver : Driver) (linkType : PcapLinkType) (warning : String) :
    Environment :=
  { driver.session with linkType, warning }

/-- What a run comes to: its result, what it printed, and its output file if it opened one. -/
structure RunOutput where
  result : NpcapCaptureRunResult
  printed : String := ""
  file : Option ByteString.Bytes := none
deriving DecidableEq, Repr

/-- `static_cast<int>` of an unsigned 32-bit number. -/
def toInt (n : UInt32) : ℤ := n.toInt32.toInt

/-- `NpcapCapture::Run` of a capture constructed with the options `capture`, in a build with
Npcap. -/
def runOpen (windows : Bool) (driver : Driver) (device : BufferedDevice) (outputOpens : Bool)
    (capture : CaptureOptions) (config : PolicyConfig) (outputPath : String) (clock : SystemClock)
    (fuel : ℕ) : Option RunOutput :=
  let outputSnaplen := min capture.defaultSnaplen capture.maxCaptureLen
  match driver.openLive capture.interface (toInt outputSnaplen)
      (if capture.promiscuous then 1 else 0) (toInt capture.readTimeoutMs) with
  | .failed errorBuffer =>
    some
      { result :=
          { terminationReason := .error
            error :=
              if errorBuffer ≠ "" then errorBuffer
              else "pcap_open_live failed with no error details" } }
  | .opened errorBuffer =>
    let warning := driver.warning windows errorBuffer
    match tryMapDatalink driver.datalink with
    | none =>
      some
        { result :=
            { warning
              terminationReason := .error
              error := unsupportedDatalinkError driver.datalink } }
    | some linkType =>
      let printed :=
        formatLiveCaptureStartupSummary capture.interface outputPath outputSnaplen
            capture.readTimeoutMs capture.promiscuous linkType capture.maxPackets
            capture.durationSec ++
          (if linkType = .null ∧ capture.promiscuous = true then
            "Note: promiscuous mode is not meaningful for loopback DLT_NULL capture.\n"
          else "") ++
          "Press Ctrl+C to stop.\n"
      if !outputOpens then
        some
          { result :=
              { warning
                linkType
                terminationReason := .error
                error := "failed to open output file '" ++ outputPath ++ "'" }
            printed }
      else
        let environment := driver.environment linkType warning
        match runBuffered device capture config clock environment fuel with
        | none => none
        | some (result, taken) => some { result, printed, file := some taken }

end PcapConstrictor.NpcapCapture
