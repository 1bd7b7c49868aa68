import PcapConstrictor.Capture.NpcapCapture

/-!
# Reports of a live capture

Reference: `capture/LiveCaptureReporting.hpp`, `capture/LiveCaptureReporting.cpp`.

The elapsed time is a floating-point number; its text is a parameter.
-/

namespace PcapConstrictor

/-- `LiveCaptureTerminationReasonString`. -/
def liveCaptureTerminationReasonString : LiveCaptureTerminationReason → String
  | .stopped => "stopped"
  | .maxPacketsReached => "max_packets limit reached"
  | .durationReached => "duration_sec limit reached"
  | .interrupted => "interrupted"
  | .captureLoopEnded => "capture loop ended"
  | .error => "error"

/-- `LiveCaptureTerminationIsSuccess`. -/
def liveCaptureTerminationIsSuccess (reason : LiveCaptureTerminationReason) : Bool :=
  reason != .error

/-- `PcapLinkTypeString`. -/
def pcapLinkTypeString : PcapLinkType → String
  | .ethernet => "DLT_EN10MB"
  | .null => "DLT_NULL"

/-- The text of the option `promiscuous`. -/
def promiscuousString (promiscuous : Bool) : String :=
  if promiscuous then "enabled" else "disabled"

/-- A line of a report with a name and a number. -/
def numberLine (name : String) (n : ℕ) : String := name ++ ": " ++ toString n ++ "\n"

/-- `FormatLiveCaptureStartupSummary`. -/
def formatLiveCaptureStartupSummary (interfaceName outputPath : String)
    (snaplen readTimeoutMs : UInt32) (promiscuous : Bool) (linkType : PcapLinkType)
    (maxPackets durationSec : UInt64) : String :=
  "Opening Npcap capture:\n" ++
    "  interface: " ++ interfaceName ++ "\n" ++
    "  output: " ++ outputPath ++ "\n" ++
    numberLine "  snaplen" snaplen.toNat ++
    numberLine "  read_timeout_ms" readTimeoutMs.toNat ++
    "  promiscuous: " ++ promiscuousString promiscuous ++ "\n" ++
    "  linktype: " ++ pcapLinkTypeString linkType ++ "\n" ++
    (if maxPackets ≠ 0 then numberLine "  max_packets" maxPackets.toNat else "") ++
    (if durationSec ≠ 0 then numberLine "  duration_sec" durationSec.toNat else "")

/-- `FormatLiveCaptureSummary`. -/
def formatLiveCaptureSummary (reason : LiveCaptureTerminationReason) (stats : CaptureStats)
    (driverStats : NpcapDriverStats) (elapsedSeconds outputPath : String) (promiscuous : Bool) :
    String :=
  "Capture summary:\n" ++
    "termination: " ++ liveCaptureTerminationReasonString reason ++ "\n" ++
    "output: " ++ outputPath ++ "\n" ++
    "promiscuous: " ++ promiscuousString promiscuous ++ "\n" ++
    "elapsed_seconds: " ++ elapsedSeconds ++ "\n" ++
    numberLine "packets_seen" stats.packetsTotal.toNat ++
    numberLine "packets_written" stats.packetsWritten.toNat ++
    numberLine "bytes_seen" stats.bytesInput.toNat ++
    numberLine "bytes_written" stats.bytesOutput.toNat ++
    numberLine "bytes_saved" stats.bytesSaved.toNat ++
    numberLine "receive_errors" stats.receiveErrors.toNat ++
    numberLine "tls_appdata_constricted" stats.tlsAppdataConstricted.toNat ++
    numberLine "quic_short_constricted" stats.quicShortConstricted.toNat ++
    (if driverStats.available then
      "Npcap/libpcap stats:\n" ++
        numberLine "  ps_recv" driverStats.receivedByDriver.toNat ++
        numberLine "  ps_drop" driverStats.droppedByDriverOrOs.toNat ++
        numberLine "  ps_ifdrop" driverStats.droppedByInterface.toNat
    else "Npcap/libpcap stats: unavailable\n")

end PcapConstrictor
