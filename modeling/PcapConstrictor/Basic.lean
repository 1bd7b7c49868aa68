import PcapConstrictor.Common.ByteString

/-!
# Captured packets and the policy configuration

Reference: `capture/PcapLinkType.hpp`, `capture/PacketView.hpp`, `capture/CapturedPacket.hpp`,
`policy/PolicyConfig.hpp`.
-/

namespace PcapConstrictor

open ByteString

/-- `PcapLinkType`. -/
inductive PcapLinkType
  | null
  | ethernet
deriving DecidableEq, Repr

/-- `PacketView`: the bytes a capture source hands over, with the two lengths it reports. Nothing
relates the lengths to the bytes. -/
structure PacketView where
  data : Bytes
  capturedLen : UInt32
  originalLen : UInt32
deriving DecidableEq, Repr

/-- `PacketView::safe_captured_len`. -/
def PacketView.safeCapturedLen (view : PacketView) : UInt32 :=
  UInt32.ofNat (min view.capturedLen.toNat view.data.length)

/-- `CapturedPacket`. The timestamp is a `system_clock::time_point`, counted in clock ticks since
the epoch. -/
structure CapturedPacket where
  packet : PacketView
  timestamp : ℤ := 0
  linkType : PcapLinkType := .ethernet
deriving DecidableEq, Repr

namespace CapturedPacket

def data (packet : CapturedPacket) : Bytes := packet.packet.data

def capturedLen (packet : CapturedPacket) : UInt32 := packet.packet.capturedLen

def originalLen (packet : CapturedPacket) : UInt32 := packet.packet.originalLen

/-- The span `std::span(packet.data().data(), safe_captured_len)` that the decoder and both
constrictors read. -/
def safeData (packet : CapturedPacket) : Bytes :=
  packet.data.take packet.packet.safeCapturedLen.toNat

end CapturedPacket

/-- A view trusts neither of its two lengths. -/
theorem PacketView.toNat_safeCapturedLen (view : PacketView) :
    view.safeCapturedLen.toNat = min view.capturedLen.toNat view.data.length := by
  have h := view.capturedLen.toNat_lt
  rw [safeCapturedLen, UInt32.toNat_ofNat']
  exact Nat.mod_eq_of_lt (by omega)

/-- The bytes that may be read are as many as that length says. -/
theorem CapturedPacket.length_safeData (packet : CapturedPacket) :
    packet.safeData.length = packet.packet.safeCapturedLen.toNat := by
  rw [safeData, List.length_take, PacketView.toNat_safeCapturedLen, data]
  omega

/-- What the decoder sees is shorter than `2 ^ 32` bytes. -/
theorem CapturedPacket.length_safeData_lt (packet : CapturedPacket) :
    packet.safeData.length < 2 ^ 32 := by
  rw [length_safeData]
  exact UInt32.toNat_lt _

/-! ## Policy configuration -/

/-- `CaptureBackend`. -/
inductive CaptureBackend
  | npcap
deriving DecidableEq, Repr

/-- `TlsAppDataContinuationPolicy`. -/
inductive TlsAppDataContinuationPolicy
  | finalOnly
  | stream
  | bulk
deriving DecidableEq, Repr

/-- `PolicyConfig::GeneralOptions`. -/
structure GeneralOptions where
  minSavedBytesPerPacket : UInt32 := 16
deriving DecidableEq, Repr

/-- `PolicyConfig::CaptureOptions`. -/
structure CaptureOptions where
  backend : CaptureBackend := .npcap
  interface : String := ""
  output : String := "output.pcap"
  promiscuous : Bool := true
  defaultSnaplen : UInt32 := 65535
  maxCaptureLen : UInt32 := 65535
  maxPackets : UInt64 := 0
  durationSec : UInt64 := 0
  readTimeoutMs : UInt32 := 100
deriving DecidableEq, Repr

/-- `PolicyConfig::TlsOptions`. -/
structure TlsOptions where
  enabled : Bool := true
  ports : List UInt16 := [443, 8443]
  appDataKeepRecordBytes : UInt32 := 256
  appDataContinuationKeepBytes : UInt32 := 64
  appDataContinuationPolicy : TlsAppDataContinuationPolicy := .finalOnly
deriving DecidableEq, Repr

/-- `PolicyConfig::QuicOptions`. -/
structure QuicOptions where
  enabled : Bool := true
  ports : List UInt16 := [443, 8443]
  shortHeaderKeepPacketBytes : UInt32 := 64
  requireDcidMatch : Bool := true
  allowShortHeaderWithoutKnownDcid : Bool := false
deriving DecidableEq, Repr

/-- `PolicyConfig::StatsOptions`. -/
structure StatsOptions where
  enabled : Bool := true
deriving DecidableEq, Repr

/-- `PolicyConfig`. -/
structure PolicyConfig where
  general : GeneralOptions := {}
  capture : CaptureOptions := {}
  tls : TlsOptions := {}
  quic : QuicOptions := {}
  stats : StatsOptions := {}
deriving DecidableEq, Repr

/-- `PortConfigured`, used by the policy and by the QUIC constrictor. -/
def portConfigured (ports : List UInt16) (port : UInt16) : Bool := ports.contains port

end PcapConstrictor
