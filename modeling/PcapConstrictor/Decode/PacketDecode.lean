import PcapConstrictor.Basic

/-!
# The packet decoder

Reference: `decode/PacketDecode.hpp`, `decode/PacketDecode.cpp`.

The source fills one `PacketDecodeResult` in place; here each function takes the record and returns
the updated one. `size_t` offsets are natural numbers: every sum the decoder forms is bounded by
the packet length plus `65535`, far below `2 ^ 64`.
-/

namespace PcapConstrictor

open ByteString

/-- `IpVersion`. -/
inductive IpVersion
  | none
  | ipv4
  | ipv6
deriving DecidableEq, Repr

/-- `TransportProtocol`. -/
inductive TransportProtocol
  | none
  | tcp
  | udp
deriving DecidableEq, Repr

/-- `PacketDecodeFailureReason`. -/
inductive PacketDecodeFailureReason
  | none
  | truncatedNullHeader
  | unsupportedNullFamily
  | truncatedEthernetHeader
  | truncatedVlanTag
  | truncatedIpv4Header
  | invalidIpv4Ihl
  | invalidIpv4TotalLength
  | truncatedIpv4Packet
  | truncatedIpv6Header
  | truncatedIpv6Packet
  | unsupportedIpv6ExtensionHeaders
  | truncatedTcpHeader
  | invalidTcpDataOffset
  | truncatedUdpHeader
  | invalidUdpLength
  | truncatedUdpPayload
deriving DecidableEq, Repr

/-- An address array `std::array<std::byte, 16>`; an IPv4 address fills its first four bytes. -/
abbrev IpAddress := Vector UInt8 16

/-- The zero-filled address array. -/
def IpAddress.zero : IpAddress := Vector.replicate 16 0

/-- `PacketDecodeResult`. -/
structure PacketDecodeResult where
  success : Bool := false
  failureReason : PacketDecodeFailureReason := .none
  ethertype : UInt16 := 0
  vlanTagCount : UInt8 := 0
  ipVersion : IpVersion := .none
  transportProtocol : TransportProtocol := .none
  ipProtocol : UInt8 := 0
  linkHeaderLength : ℕ := 0
  networkHeaderOffset : ℕ := 0
  networkHeaderLength : ℕ := 0
  transportHeaderOffset : ℕ := 0
  transportHeaderLength : ℕ := 0
  transportPayloadOffset : ℕ := 0
  transportPayloadLength : ℕ := 0
  srcPort : UInt16 := 0
  dstPort : UInt16 := 0
  tcpSeq : UInt32 := 0
  tcpFlags : UInt8 := 0
  srcAddress : IpAddress := IpAddress.zero
  dstAddress : IpAddress := IpAddress.zero
  addressLength : UInt8 := 0
deriving DecidableEq, Repr

namespace PacketDecodeResult

/-- `PacketDecodeResult::is_non_ip`. -/
def isNonIp (result : PacketDecodeResult) : Bool := result.success && result.ipVersion == .none

/-- The exit every check of the decoder takes: a failure reason and `success = false`. -/
def fail (result : PacketDecodeResult) (reason : PacketDecodeFailureReason) :
    PacketDecodeResult :=
  { result with failureReason := reason, success := false }

end PacketDecodeResult

/-! ## Constants -/

def kEtherTypeVlan : UInt16 := 0x8100
def kEtherTypeProviderBridge : UInt16 := 0x88A8
def kEtherTypeIpv4 : UInt16 := 0x0800
def kEtherTypeIpv6 : UInt16 := 0x86DD

def kWindowsAfInet : UInt32 := 2
def kWindowsAfInet6 : UInt32 := 23

def kIpProtocolTcp : UInt8 := 6
def kIpProtocolUdp : UInt8 := 17

def kIpv6HopByHop : UInt8 := 0
def kIpv6Routing : UInt8 := 43
def kIpv6Fragment : UInt8 := 44
def kIpv6Authentication : UInt8 := 51
def kIpv6DestinationOptions : UInt8 := 60
def kIpv6Mobility : UInt8 := 135
def kIpv6Hip : UInt8 := 139
def kIpv6Shim6 : UInt8 := 140

/-- `IsVlanEthertype`. -/
def isVlanEthertype (etherType : UInt16) : Bool :=
  etherType == kEtherTypeVlan || etherType == kEtherTypeProviderBridge

/-- `IsUnsupportedIpv6Extension`. -/
def isUnsupportedIpv6Extension (nextHeader : UInt8) : Bool :=
  nextHeader == kIpv6HopByHop || nextHeader == kIpv6Routing || nextHeader == kIpv6Fragment ||
    nextHeader == kIpv6Authentication || nextHeader == kIpv6DestinationOptions ||
    nextHeader == kIpv6Mobility || nextHeader == kIpv6Hip || nextHeader == kIpv6Shim6

/-- `CopyAddress`: the first `length` bytes come from the packet, the others are zero. -/
def copyAddress (packet : Bytes) (offset length : ℕ) : IpAddress :=
  Vector.ofFn fun i => if i.val < length then byteAt packet (offset + i.val) else 0

/-! ## Transport headers -/

/-- The fields `DecodeTcp` writes once its checks have passed. -/
def withTcpHeader (result : PacketDecodeResult) (packet : Bytes)
    (transportOffset transportEnd headerLength : ℕ) : PacketDecodeResult :=
  { result with
    transportProtocol := .tcp
    transportHeaderOffset := transportOffset
    transportHeaderLength := headerLength
    transportPayloadOffset := transportOffset + headerLength
    transportPayloadLength := transportEnd - (transportOffset + headerLength)
    srcPort := readBe16 packet transportOffset
    dstPort := readBe16 packet (transportOffset + 2)
    tcpSeq := readBe32 packet (transportOffset + 4)
    tcpFlags := byteAt packet (transportOffset + 13) }

/-- `DecodeTcp`. -/
def decodeTcp (result : PacketDecodeResult) (packet : Bytes) (transportOffset transportEnd : ℕ) :
    PacketDecodeResult :=
  if ¬ HasBytes packet transportOffset 20 ∨ transportOffset + 20 > transportEnd then
    result.fail .truncatedTcpHeader
  else
    let headerLength : UInt8 := (byteAt packet (transportOffset + 12) >>> 4) * 4
    if headerLength < 20 then
      result.fail .invalidTcpDataOffset
    else if ¬ HasBytes packet transportOffset headerLength.toNat ∨
        transportOffset + headerLength.toNat > transportEnd then
      result.fail .truncatedTcpHeader
    else
      withTcpHeader result packet transportOffset transportEnd headerLength.toNat

/-- The fields `DecodeUdp` writes once its checks have passed. -/
def withUdpHeader (result : PacketDecodeResult) (packet : Bytes) (transportOffset udpLength : ℕ) :
    PacketDecodeResult :=
  { result with
    transportProtocol := .udp
    transportHeaderOffset := transportOffset
    transportHeaderLength := 8
    transportPayloadOffset := transportOffset + 8
    transportPayloadLength := udpLength - 8
    srcPort := readBe16 packet transportOffset
    dstPort := readBe16 packet (transportOffset + 2) }

/-- `DecodeUdp`. -/
def decodeUdp (result : PacketDecodeResult) (packet : Bytes) (transportOffset transportEnd : ℕ) :
    PacketDecodeResult :=
  if ¬ HasBytes packet transportOffset 8 ∨ transportOffset + 8 > transportEnd then
    result.fail .truncatedUdpHeader
  else
    let udpLength := readBe16 packet (transportOffset + 4)
    if udpLength < 8 then
      result.fail .invalidUdpLength
    else if transportOffset + udpLength.toNat > transportEnd then
      result.fail .truncatedUdpPayload
    else
      withUdpHeader result packet transportOffset udpLength.toNat

/-- The dispatch on the IP protocol that ends both `DecodeIpv4` and `DecodeIpv6`; other protocols
leave the record as it is. -/
def decodeTransport (result : PacketDecodeResult) (packet : Bytes)
    (transportOffset transportEnd : ℕ) : PacketDecodeResult :=
  if result.ipProtocol = kIpProtocolTcp then
    decodeTcp result packet transportOffset transportEnd
  else if result.ipProtocol = kIpProtocolUdp then
    decodeUdp result packet transportOffset transportEnd
  else
    result

/-! ## Network headers -/

/-- The fields `DecodeIpv4` writes once its header checks have passed. -/
def withIpv4Header (result : PacketDecodeResult) (packet : Bytes) (networkOffset ihl : ℕ) :
    PacketDecodeResult :=
  { result with
    success := true
    ipVersion := .ipv4
    networkHeaderOffset := networkOffset
    networkHeaderLength := ihl
    ipProtocol := byteAt packet (networkOffset + 9)
    addressLength := 4
    srcAddress := copyAddress packet (networkOffset + 12) 4
    dstAddress := copyAddress packet (networkOffset + 16) 4 }

/-- `DecodeIpv4`. -/
def decodeIpv4 (result : PacketDecodeResult) (packet : Bytes) (networkOffset : ℕ) :
    PacketDecodeResult :=
  if ¬ HasBytes packet networkOffset 20 then
    result.fail .truncatedIpv4Header
  else
    let version : UInt8 := byteAt packet networkOffset >>> 4
    let ihl : UInt8 := (byteAt packet networkOffset &&& 0x0F) * 4
    if version ≠ 4 ∨ ihl < 20 then
      result.fail .invalidIpv4Ihl
    else if ¬ HasBytes packet networkOffset ihl.toNat then
      result.fail .truncatedIpv4Header
    else
      let totalLength := readBe16 packet (networkOffset + 2)
      if totalLength < ihl.toUInt16 then
        result.fail .invalidIpv4TotalLength
      else if ¬ HasBytes packet networkOffset totalLength.toNat then
        result.fail .truncatedIpv4Packet
      else
        let result := withIpv4Header result packet networkOffset ihl.toNat
        let flagsFragment := readBe16 packet (networkOffset + 6)
        let moreFragments := flagsFragment &&& 0x2000 ≠ 0
        let fragmentOffset := flagsFragment &&& 0x1FFF
        if moreFragments ∨ fragmentOffset ≠ 0 then
          result
        else
          decodeTransport result packet (networkOffset + ihl.toNat)
            (networkOffset + totalLength.toNat)

/-- The fields `DecodeIpv6` writes once its header checks have passed. -/
def withIpv6Header (result : PacketDecodeResult) (packet : Bytes) (networkOffset : ℕ) :
    PacketDecodeResult :=
  { result with
    success := true
    ipVersion := .ipv6
    networkHeaderOffset := networkOffset
    networkHeaderLength := 40
    ipProtocol := byteAt packet (networkOffset + 6)
    addressLength := 16
    srcAddress := copyAddress packet (networkOffset + 8) 16
    dstAddress := copyAddress packet (networkOffset + 24) 16 }

/-- `DecodeIpv6`. -/
def decodeIpv6 (result : PacketDecodeResult) (packet : Bytes) (networkOffset : ℕ) :
    PacketDecodeResult :=
  if ¬ HasBytes packet networkOffset 40 then
    result.fail .truncatedIpv6Header
  else
    let version : UInt8 := byteAt packet networkOffset >>> 4
    if version ≠ 6 then
      result.fail .truncatedIpv6Header
    else
      let payloadLength := readBe16 packet (networkOffset + 4)
      let totalLength := 40 + payloadLength.toNat
      if ¬ HasBytes packet networkOffset totalLength then
        result.fail .truncatedIpv6Packet
      else
        let result := withIpv6Header result packet networkOffset
        if isUnsupportedIpv6Extension result.ipProtocol then
          result.fail .unsupportedIpv6ExtensionHeaders
        else
          decodeTransport result packet (networkOffset + 40) (networkOffset + totalLength)

/-! ## Link headers -/

/-- The IP version a DLT_NULL family announces. -/
def familyIpVersion (family : UInt32) : IpVersion :=
  if family = kWindowsAfInet then .ipv4
  else if family = kWindowsAfInet6 then .ipv6
  else .none

/-- The IP version the first nibble after the DLT_NULL header announces. -/
def nibbleIpVersion (packet : Bytes) : IpVersion :=
  if HasBytes packet 4 1 then
    let version : UInt8 := byteAt packet 4 >>> 4
    if version = 4 then .ipv4 else if version = 6 then .ipv6 else .none
  else
    .none

/-- The ethertype that goes with an IP version in `DecodeNull`. -/
def nullEthertype (ethertype : UInt16) : IpVersion → UInt16
  | .ipv4 => kEtherTypeIpv4
  | .ipv6 => kEtherTypeIpv6
  | .none => ethertype

/-- `DecodeNull`. -/
def decodeNull (result : PacketDecodeResult) (packet : Bytes) : PacketDecodeResult :=
  if ¬ HasBytes packet 0 4 then
    { result with failureReason := .truncatedNullHeader }
  else
    let family := familyIpVersion (readLe32 packet 0)
    let nibble := nibbleIpVersion packet
    let result :=
      { result with
        success := true
        linkHeaderLength := 4
        networkHeaderOffset := 4
        ethertype := nullEthertype result.ethertype family }
    if family ≠ .none ∧ nibble ≠ .none ∧ family ≠ nibble then
      result.fail .unsupportedNullFamily
    else
      let ipVersion := if family ≠ .none then family else nibble
      match ipVersion with
      | .ipv4 => decodeIpv4 { result with ethertype := kEtherTypeIpv4 } packet 4
      | .ipv6 => decodeIpv6 { result with ethertype := kEtherTypeIpv6 } packet 4
      | .none => result.fail .unsupportedNullFamily

/-- The VLAN loop of `DecodePacket`: strips tags while the ethertype announces one. An early return
of the source is an `error`; the other exit carries the offset of the network header. -/
def stripVlanTags (packet : Bytes) (result : PacketDecodeResult) (networkOffset : ℕ) :
    Except PacketDecodeResult (PacketDecodeResult × ℕ) :=
  if isVlanEthertype result.ethertype then
    if h : HasBytes packet networkOffset 4 then
      stripVlanTags packet
        { result with
          vlanTagCount := result.vlanTagCount + 1
          ethertype := readBe16 packet (networkOffset + 2)
          linkHeaderLength := result.linkHeaderLength + 4 }
        (networkOffset + 4)
    else
      .error (result.fail .truncatedVlanTag)
  else
    .ok (result, networkOffset)
termination_by packet.length - networkOffset
decreasing_by
  rw [hasBytes_iff] at h
  omega

/-- `DecodePacket`. -/
def decodePacket (packet : Bytes) (linkType : PcapLinkType := .ethernet) : PacketDecodeResult :=
  match linkType with
  | .null => decodeNull {} packet
  | .ethernet =>
    if ¬ HasBytes packet 0 14 then
      { failureReason := .truncatedEthernetHeader }
    else
      match stripVlanTags packet
          { success := true, linkHeaderLength := 14, ethertype := readBe16 packet 12 } 14 with
      | .error result => result
      | .ok (result, networkOffset) =>
        if result.ethertype = kEtherTypeIpv4 then
          decodeIpv4 result packet networkOffset
        else if result.ethertype = kEtherTypeIpv6 then
          decodeIpv6 result packet networkOffset
        else
          result

/-- The decode result of a captured packet, as `LiveCapturePolicy::Evaluate` asks for it. -/
def CapturedPacket.decoded (packet : CapturedPacket) : PacketDecodeResult :=
  decodePacket packet.safeData packet.linkType

end PcapConstrictor
