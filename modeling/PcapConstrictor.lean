import PcapConstrictor.Basic
import PcapConstrictor.Capture.CaptureRun
import PcapConstrictor.Capture.CrashRecovery
import PcapConstrictor.Capture.LiveCaptureReporting
import PcapConstrictor.Capture.NpcapCapture
import PcapConstrictor.Capture.OpenInterface
import PcapConstrictor.Capture.Replay
import PcapConstrictor.Capture.Stopping
import PcapConstrictor.Capture.Termination
import PcapConstrictor.Capture.Timestamps
import PcapConstrictor.Common.BigEndian
import PcapConstrictor.Common.BufferedSink
import PcapConstrictor.Common.ByteString
import PcapConstrictor.Common.Encoding
import PcapConstrictor.Common.Fields
import PcapConstrictor.Common.FixedPoint
import PcapConstrictor.Common.Guarded
import PcapConstrictor.Common.Hidden
import PcapConstrictor.Common.Layout
import PcapConstrictor.Common.Loop
import PcapConstrictor.Common.Scanning
import PcapConstrictor.Common.Table
import PcapConstrictor.Common.Transducer
import PcapConstrictor.Config.ConfigLoader
import PcapConstrictor.Config.FirstError
import PcapConstrictor.Config.LastAssignment
import PcapConstrictor.Config.LineGrammar
import PcapConstrictor.Config.NonemptyOutput
import PcapConstrictor.Config.PortList
import PcapConstrictor.Config.RoundTrip
import PcapConstrictor.Config.Settings
import PcapConstrictor.Decode.FrameGrammar
import PcapConstrictor.Decode.Frames
import PcapConstrictor.Decode.Headers
import PcapConstrictor.Decode.PacketDecode
import PcapConstrictor.Decode.Recognition
import PcapConstrictor.Decode.Relocation
import PcapConstrictor.Decode.Transport
import PcapConstrictor.Decode.VlanTags
import PcapConstrictor.Offline.Canonical
import PcapConstrictor.Offline.OfflinePacketFeed
import PcapConstrictor.Offline.PcapGrammar
import PcapConstrictor.Offline.PcapReader
import PcapConstrictor.Offline.PcapStream
import PcapConstrictor.Offline.ReadBack
import PcapConstrictor.Offline.RecordMapping
import PcapConstrictor.Offline.Settling
import PcapConstrictor.Offline.Streaming
import PcapConstrictor.Offline.Truncation
import PcapConstrictor.Offline.WriterCalls
import PcapConstrictor.Pipeline.Accounting
import PcapConstrictor.Pipeline.Counters
import PcapConstrictor.Pipeline.Recording
import PcapConstrictor.Pipeline.Untraced
import PcapConstrictor.Pipeline.WriteFailures
import PcapConstrictor.Policy.ConnectionReset
import PcapConstrictor.Policy.Dropped
import PcapConstrictor.Policy.HandshakeFirst
import PcapConstrictor.Policy.Isolation
import PcapConstrictor.Policy.LengthDecision
import PcapConstrictor.Policy.LinkFraming
import PcapConstrictor.Policy.LiveCapturePolicy
import PcapConstrictor.Policy.LossRecovery
import PcapConstrictor.Policy.Monotonicity
import PcapConstrictor.Policy.PolicyRun
import PcapConstrictor.Policy.QuicConstrictor
import PcapConstrictor.Policy.QuicDatagram
import PcapConstrictor.Policy.QuicFlow
import PcapConstrictor.Policy.QuicGrammar
import PcapConstrictor.Policy.QuicHistory
import PcapConstrictor.Policy.QuicLearning
import PcapConstrictor.Policy.QuicMatching
import PcapConstrictor.Policy.QuicOutcome
import PcapConstrictor.Policy.QuicRenaming
import PcapConstrictor.Policy.RepeatedCut
import PcapConstrictor.Policy.SequenceShift
import PcapConstrictor.Policy.Settlement
import PcapConstrictor.Policy.TlsAlignment
import PcapConstrictor.Policy.TlsCoherence
import PcapConstrictor.Policy.TlsConfirmation
import PcapConstrictor.Policy.TlsConstrictor
import PcapConstrictor.Policy.TlsFollowing
import PcapConstrictor.Policy.TlsFraming
import PcapConstrictor.Policy.TlsProvenance
import PcapConstrictor.Policy.TlsRun
import PcapConstrictor.Policy.TlsSegment
import PcapConstrictor.Policy.TlsSpecification
import PcapConstrictor.Policy.TlsStream
import PcapConstrictor.Policy.Unread
import PcapConstrictor.Program.ExitCode
import PcapConstrictor.Program.Main
import PcapConstrictor.Program.OutputFile
import PcapConstrictor.Safety.LiveCapturePolicy
import PcapConstrictor.Safety.PacketDecode
import PcapConstrictor.Safety.QuicConstrictor
import PcapConstrictor.Safety.TlsConstrictor
import PcapConstrictor.Writer.BufferedWriter
import PcapConstrictor.Writer.PcapWriter
