import PcapConstrictor.Decode.Recognition

/-!
# Well-formed frames

Ethernet frames that hold an IPv4 packet with a TCP segment or a UDP datagram, for the examples of
the modules behind. They carry no options, and the checksums, which the decoder does not read, are
zero.
-/

namespace PcapConstrictor

open ByteString

/-- The end points of a transport header. -/
structure Endpoints where
  srcIp : UInt32
  dstIp : UInt32
  srcPort : UInt16
  dstPort : UInt16
deriving DecidableEq, Repr

namespace Endpoints

/-- The end points of the opposite direction. -/
def reverse (ends : Endpoints) : Endpoints where
  srcIp := ends.dstIp
  dstIp := ends.srcIp
  srcPort := ends.dstPort
  dstPort := ends.srcPort

/-- The Ethernet and IPv4 headers in front of `n` bytes of the given protocol. -/
def ipv4Header (ends : Endpoints) (protocol : UInt8) (n : ℕ) : Bytes :=
  [0, 0, 0, 0, 0, 0, 0, 0, 0, 0, 0, 0, 0x08, 0x00, 0x45, 0] ++
    (encodeBe16 (UInt16.ofNat (20 + n)) ++
      ([0, 0, 0, 0, 64, protocol, 0, 0] ++ (encodeBe32 ends.srcIp ++ encodeBe32 ends.dstIp)))

/-- A TCP segment. -/
def tcpSegment (ends : Endpoints) (seq : UInt32) (flags : UInt8) (payload : Bytes) : Bytes :=
  encodeBe16 ends.srcPort ++ (encodeBe16 ends.dstPort ++ (encodeBe32 seq ++
    ([0, 0, 0, 0, 0x50, flags, 0, 0, 0, 0, 0, 0] ++ payload)))

/-- A UDP datagram. -/
def udpDatagram (ends : Endpoints) (payload : Bytes) : Bytes :=
  encodeBe16 ends.srcPort ++ (encodeBe16 ends.dstPort ++
    (encodeBe16 (UInt16.ofNat (8 + payload.length)) ++ ([0, 0] ++ payload)))

/-- A TCP segment in an Ethernet frame. -/
def tcpFrame (ends : Endpoints) (seq : UInt32) (flags : UInt8) (payload : Bytes) : Bytes :=
  ends.ipv4Header kIpProtocolTcp (20 + payload.length) ++ ends.tcpSegment seq flags payload

/-- A UDP datagram in an Ethernet frame. -/
def udpFrame (ends : Endpoints) (payload : Bytes) : Bytes :=
  ends.ipv4Header kIpProtocolUdp (8 + payload.length) ++ ends.udpDatagram payload

end Endpoints

/-- The address array of an IPv4 address. -/
def ipv4Address (ip : UInt32) : IpAddress := copyAddress (encodeBe32 ip) 0 4

/-- The captured packet that holds all bytes of a frame. -/
def CapturedPacket.ofFrame (frame : Bytes) : CapturedPacket where
  packet :=
    { data := frame
      capturedLen := UInt32.ofNat frame.length
      originalLen := UInt32.ofNat frame.length }

/-- The end points of the connection in the examples: a server on port 443. -/
def exampleEnds : Endpoints where
  srcIp := 0x0A000001
  dstIp := 0x0A000002
  srcPort := 443
  dstPort := 50000

/-- A packet of the example connection. -/
def examplePacket (seq : UInt32) (payload : Bytes) : CapturedPacket :=
  .ofFrame (exampleEnds.tcpFrame seq 0x10 payload)

/-- A packet with a Handshake and an Application Data record. -/
def plainPacket : CapturedPacket :=
  examplePacket 0 [0x16, 3, 3, 0, 1, 0, 0x17, 3, 3, 0, 4, 1, 2, 3, 4]

/-- Options that keep five bytes of an Application Data record. -/
def exampleOptions : TlsOptions :=
  { appDataKeepRecordBytes := 5, appDataContinuationKeepBytes := 0 }

/-- A configuration with these options that cuts small records. -/
def exampleConfig : PolicyConfig :=
  { general := { minSavedBytesPerPacket := 1 }, tls := exampleOptions }

end PcapConstrictor
