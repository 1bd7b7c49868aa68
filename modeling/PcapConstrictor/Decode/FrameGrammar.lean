import PcapConstrictor.Common.Encoding
import PcapConstrictor.Decode.PacketDecode

/-!
# The grammar of decodable frames

`Frame` is a frame as the protocols describe it: a link header, an unfragmented IP packet with one
TCP segment or UDP datagram in it, and trailing bytes. Every length field of a header is computed
from what follows it, so an inconsistent frame cannot be written down. `Frame.decoded` is the decode
result that belongs to a frame.
-/

namespace PcapConstrictor

open ByteString

/-- The address array that holds the given bytes, padded with zeros. -/
def IpAddress.padded (address : Bytes) : IpAddress := Vector.ofFn fun i => address.getD i 0

/-! ## Transport headers -/

/-- A TCP segment. The data offset counts the header in 32-bit words. -/
structure TcpSegment where
  srcPort : UInt16
  dstPort : UInt16
  sequenceNumber : UInt32
  acknowledgment : UInt32
  dataOffset : Fin 16
  reserved : Fin 16
  flags : UInt8
  window : UInt16
  checksum : UInt16
  urgentPointer : UInt16
  options : Bytes
  payload : Bytes
  length_options : 20 + options.length = 4 * dataOffset

namespace TcpSegment

def encode (segment : TcpSegment) : Bytes :=
  encodeBe16 segment.srcPort ++ (encodeBe16 segment.dstPort ++
    (encodeBe32 segment.sequenceNumber ++ (encodeBe32 segment.acknowledgment ++
      ([byteOf segment.dataOffset segment.reserved, segment.flags] ++
        (encodeBe16 segment.window ++ (encodeBe16 segment.checksum ++
          (encodeBe16 segment.urgentPointer ++ (segment.options ++ segment.payload))))))))

/-- The length of a segment: the header with its options, and the payload. -/
@[simp] theorem length_encode (segment : TcpSegment) :
    segment.encode.length = 20 + segment.options.length + segment.payload.length := by
  simp only [encode, List.length_append, length_encodeBe16, length_encodeBe32, List.length_cons,
    List.length_nil]
  omega

end TcpSegment

/-- A UDP datagram. The IP packet may hold more bytes than the UDP length announces. -/
structure UdpDatagram where
  srcPort : UInt16
  dstPort : UInt16
  checksum : UInt16
  payload : Bytes
  slack : Bytes
  length_lt : 8 + payload.length < UInt16.size

namespace UdpDatagram

/-- The length field: header and payload. -/
def udpLength (datagram : UdpDatagram) : UInt16 := UInt16.ofNat (8 + datagram.payload.length)

def encode (datagram : UdpDatagram) : Bytes :=
  encodeBe16 datagram.srcPort ++ (encodeBe16 datagram.dstPort ++ (encodeBe16 datagram.udpLength ++
    (encodeBe16 datagram.checksum ++ (datagram.payload ++ datagram.slack))))

/-- The length field does not wrap, by the bound in the structure. -/
theorem toNat_udpLength (datagram : UdpDatagram) :
    datagram.udpLength.toNat = 8 + datagram.payload.length := by
  rw [udpLength, UInt16.toNat_ofNat', Nat.mod_eq_of_lt datagram.length_lt]

/-- The length of a datagram, with the bytes behind what its length field covers. -/
@[simp] theorem length_encode (datagram : UdpDatagram) :
    datagram.encode.length = 8 + datagram.payload.length + datagram.slack.length := by
  simp only [encode, List.length_append, length_encodeBe16]
  omega

end UdpDatagram

/-- The transport part of an IP packet. -/
inductive Transport
  | tcp (segment : TcpSegment)
  | udp (datagram : UdpDatagram)

namespace Transport

def encode : Transport → Bytes
  | tcp segment => segment.encode
  | udp datagram => datagram.encode

def transportProtocol : Transport → TransportProtocol
  | tcp _ => .tcp
  | udp _ => .udp

/-- The protocol number in the IP header. -/
def ipProtocol : Transport → UInt8
  | tcp _ => 6
  | udp _ => 17

def headerLength : Transport → ℕ
  | tcp segment => 4 * segment.dataOffset
  | udp _ => 8

def payload : Transport → Bytes
  | tcp segment => segment.payload
  | udp datagram => datagram.payload

def srcPort : Transport → UInt16
  | tcp segment => segment.srcPort
  | udp datagram => datagram.srcPort

def dstPort : Transport → UInt16
  | tcp segment => segment.dstPort
  | udp datagram => datagram.dstPort

def tcpSeq : Transport → UInt32
  | tcp segment => segment.sequenceNumber
  | udp _ => 0

def tcpFlags : Transport → UInt8
  | tcp segment => segment.flags
  | udp _ => 0

end Transport

/-! ## Network headers -/

/-- An IPv4 packet that is not a fragment: neither more fragments nor a fragment offset, which are
the lower 14 bits of the fragment word. The header length counts 32-bit words. -/
structure Ipv4Packet where
  headerWords : Fin 16
  typeOfService : UInt8
  identification : UInt16
  flagsFragment : UInt16
  timeToLive : UInt8
  checksum : UInt16
  srcAddress : Vector UInt8 4
  dstAddress : Vector UInt8 4
  options : Bytes
  transport : Transport
  length_options : 20 + options.length = 4 * headerWords
  unfragmented : flagsFragment.toNat % 2 ^ 14 = 0
  length_lt : 4 * headerWords + transport.encode.length < UInt16.size

namespace Ipv4Packet

def totalLength (packet : Ipv4Packet) : ℕ :=
  4 * packet.headerWords + packet.transport.encode.length

def encode (packet : Ipv4Packet) : Bytes :=
  [byteOf 4 packet.headerWords, packet.typeOfService] ++
    (encodeBe16 (UInt16.ofNat packet.totalLength) ++ (encodeBe16 packet.identification ++
      (encodeBe16 packet.flagsFragment ++
        ([packet.timeToLive, packet.transport.ipProtocol] ++ (encodeBe16 packet.checksum ++
          (packet.srcAddress.toList ++ (packet.dstAddress.toList ++
            (packet.options ++ packet.transport.encode))))))))

/-- The total length does not wrap, by the bound in the structure. -/
theorem toNat_totalLength (packet : Ipv4Packet) :
    (UInt16.ofNat packet.totalLength).toNat = packet.totalLength := by
  rw [UInt16.toNat_ofNat']
  exact Nat.mod_eq_of_lt packet.length_lt

/-- An IPv4 packet is as long as its header says. -/
@[simp] theorem length_encode (packet : Ipv4Packet) :
    packet.encode.length = packet.totalLength := by
  have hoptions := packet.length_options
  simp only [encode, totalLength, List.length_append, length_encodeBe16, List.length_cons,
    List.length_nil, Vector.length_toList]
  omega

end Ipv4Packet

/-- An IPv6 packet whose header is followed by the transport header at once. Traffic class and flow
label take the 28 bits after the version. -/
structure Ipv6Packet where
  classHigh : Fin 16
  classAndFlow : Vector UInt8 3
  hopLimit : UInt8
  srcAddress : Vector UInt8 16
  dstAddress : Vector UInt8 16
  transport : Transport
  length_lt : transport.encode.length < UInt16.size

namespace Ipv6Packet

def payloadLength (packet : Ipv6Packet) : ℕ := packet.transport.encode.length

def encode (packet : Ipv6Packet) : Bytes :=
  [byteOf 6 packet.classHigh] ++ (packet.classAndFlow.toList ++
    (encodeBe16 (UInt16.ofNat packet.payloadLength) ++
      ([packet.transport.ipProtocol, packet.hopLimit] ++
        (packet.srcAddress.toList ++ (packet.dstAddress.toList ++ packet.transport.encode)))))

/-- The payload length does not wrap, by the bound in the structure. -/
theorem toNat_payloadLength (packet : Ipv6Packet) :
    (UInt16.ofNat packet.payloadLength).toNat = packet.payloadLength := by
  rw [UInt16.toNat_ofNat', payloadLength, Nat.mod_eq_of_lt packet.length_lt]

/-- An IPv6 packet is its fixed header and the payload length. -/
@[simp] theorem length_encode (packet : Ipv6Packet) :
    packet.encode.length = 40 + packet.payloadLength := by
  simp only [encode, payloadLength, List.length_append, length_encodeBe16, List.length_cons,
    List.length_nil, Vector.length_toList]
  omega

end Ipv6Packet

/-- The network part of a frame. -/
inductive Network
  | ipv4 (packet : Ipv4Packet)
  | ipv6 (packet : Ipv6Packet)

namespace Network

def encode : Network → Bytes
  | ipv4 packet => packet.encode
  | ipv6 packet => packet.encode

def ipVersion : Network → IpVersion
  | ipv4 _ => .ipv4
  | ipv6 _ => .ipv6

def headerLength : Network → ℕ
  | ipv4 packet => 4 * packet.headerWords
  | ipv6 _ => 40

def transport : Network → Transport
  | ipv4 packet => packet.transport
  | ipv6 packet => packet.transport

def addressLength : Network → UInt8
  | ipv4 _ => 4
  | ipv6 _ => 16

def srcAddress : Network → Bytes
  | ipv4 packet => packet.srcAddress.toList
  | ipv6 packet => packet.srcAddress.toList

def dstAddress : Network → Bytes
  | ipv4 packet => packet.dstAddress.toList
  | ipv6 packet => packet.dstAddress.toList

end Network

/-! ## Link headers -/

/-- A VLAN tag: its ethertype, which announces the tag, and the tag control information. -/
structure VlanTag where
  tpid : UInt16
  tci : UInt16
  tpid_eq : tpid = 0x8100 ∨ tpid = 0x88A8

def VlanTag.encode (tag : VlanTag) : Bytes := encodeBe16 tag.tpid ++ encodeBe16 tag.tci

@[simp] theorem VlanTag.length_encode (tag : VlanTag) : tag.encode.length = 4 := rfl

/-- A link header in front of an IP packet. -/
inductive Link
  | ethernet (addresses : Vector UInt8 12) (tags : List VlanTag)
  | null (family : UInt32)

/-- The ethertype of an IP version. -/
def etherTypeOf : IpVersion → UInt16
  | .ipv4 => 0x0800
  | .ipv6 => 0x86DD
  | .none => 0

namespace Link

def linkType : Link → PcapLinkType
  | ethernet _ _ => .ethernet
  | null _ => .null

/-- The link header in front of a packet of the given IP version. -/
def encode (ipVersion : IpVersion) : Link → Bytes
  | ethernet addresses tags =>
    addresses.toList ++ (tags.flatMap (·.encode) ++ encodeBe16 (etherTypeOf ipVersion))
  | null family => encodeLe32 family

def tagCount : Link → ℕ
  | ethernet _ tags => tags.length
  | null _ => 0

/-- The address family of a loopback header does not name the other IP version. -/
def Carries : Link → IpVersion → Prop
  | ethernet _ _, _ => True
  | null family, ipVersion => (family = 2 → ipVersion = .ipv4) ∧ (family = 23 → ipVersion = .ipv6)

/-- The length of the link header. -/
def headerLength : Link → ℕ
  | ethernet _ tags => 14 + 4 * tags.length
  | null _ => 4

end Link

/-- A stack of tags takes four bytes for each. -/
theorem length_tags (tags : List VlanTag) :
    (tags.flatMap (·.encode)).length = 4 * tags.length := by
  induction tags with
  | nil => rfl
  | cons tag tags ih =>
    rw [List.flatMap_cons, List.length_append, ih, VlanTag.length_encode, List.length_cons]
    omega

/-- The link header takes the length that the decoder reports. -/
@[simp] theorem Link.length_encode (link : Link) (ipVersion : IpVersion) :
    (link.encode ipVersion).length = link.headerLength := by
  cases link with
  | ethernet addresses tags =>
    simp only [encode, headerLength, List.length_append, Vector.length_toList, length_tags,
      length_encodeBe16]
    omega
  | null family => rfl

/-! ## Frames -/

/-- A frame with a TCP segment or a UDP datagram. -/
structure Frame where
  link : Link
  network : Network
  carries : link.Carries network.ipVersion
  trailing : Bytes

namespace Frame

def encode (frame : Frame) : Bytes :=
  frame.link.encode frame.network.ipVersion ++ (frame.network.encode ++ frame.trailing)

def transport (frame : Frame) : Transport := frame.network.transport

/-- The decode result that belongs to a frame. -/
def decoded (frame : Frame) : PacketDecodeResult where
  success := true
  failureReason := .none
  ethertype := etherTypeOf frame.network.ipVersion
  vlanTagCount := UInt8.ofNat frame.link.tagCount
  ipVersion := frame.network.ipVersion
  transportProtocol := frame.transport.transportProtocol
  ipProtocol := frame.transport.ipProtocol
  linkHeaderLength := frame.link.headerLength
  networkHeaderOffset := frame.link.headerLength
  networkHeaderLength := frame.network.headerLength
  transportHeaderOffset := frame.link.headerLength + frame.network.headerLength
  transportHeaderLength := frame.transport.headerLength
  transportPayloadOffset :=
    frame.link.headerLength + frame.network.headerLength + frame.transport.headerLength
  transportPayloadLength := frame.transport.payload.length
  srcPort := frame.transport.srcPort
  dstPort := frame.transport.dstPort
  tcpSeq := frame.transport.tcpSeq
  tcpFlags := frame.transport.tcpFlags
  srcAddress := IpAddress.padded frame.network.srcAddress
  dstAddress := IpAddress.padded frame.network.dstAddress
  addressLength := frame.network.addressLength

end Frame

end PcapConstrictor
