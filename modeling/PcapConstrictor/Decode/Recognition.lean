import Mathlib.Data.List.GetD
import Mathlib.Data.Nat.Bitwise
import PcapConstrictor.Decode.FrameGrammar
import PcapConstrictor.Decode.Transport

/-!
# The decoder recognises exactly the frames

Layer by layer: where the encoding of a header stands in the packet, the decoder function for that
layer fills in the fields of the header; and where the function gets past its checks, the encoding
of a header stands there. Together they give `decodePacket_recognises`.
-/

namespace PcapConstrictor

open ByteString

variable {packet : Bytes} {offset : ℕ}

/-! ## Transport headers -/

/-- What the transport stage adds to a decode result. -/
def Transport.addTo (transport : Transport) (result : PacketDecodeResult) (offset : ℕ) :
    PacketDecodeResult :=
  let located :=
    { result with
      transportProtocol := transport.transportProtocol
      transportHeaderOffset := offset
      transportHeaderLength := transport.headerLength
      transportPayloadOffset := offset + transport.headerLength
      transportPayloadLength := transport.payload.length
      srcPort := transport.srcPort
      dstPort := transport.dstPort }
  match transport with
  | tcp segment => { located with tcpSeq := segment.sequenceNumber, tcpFlags := segment.flags }
  | udp _ => located

/-- The segment is found at an offset when its fields are read back there. -/
theorem TcpSegment.holds_encode {segment : TcpSegment} :
    Holds packet offset segment.encode ↔
      (readBe16 packet offset = segment.srcPort ∧ readBe16 packet (offset + 2) = segment.dstPort ∧
        readBe32 packet (offset + 4) = segment.sequenceNumber ∧
        readBe32 packet (offset + 8) = segment.acknowledgment ∧
        byteAt packet (offset + 12) = byteOf segment.dataOffset segment.reserved ∧
        byteAt packet (offset + 13) = segment.flags ∧
        readBe16 packet (offset + 14) = segment.window ∧
        readBe16 packet (offset + 16) = segment.checksum ∧
        readBe16 packet (offset + 18) = segment.urgentPointer) ∧
      Holds packet (offset + 20) segment.options ∧
      Holds packet (offset + 20 + segment.options.length) segment.payload := by
  simp only [encode, holds_append, holds_encodeBe16, holds_encodeBe32, holds_cons, holds_nil,
    length_encodeBe16, length_encodeBe32, List.length_cons, List.length_nil, Nat.add_assoc,
    Nat.reduceAdd]
  constructor
  · rintro ⟨⟨-, h0⟩, ⟨-, h2⟩, ⟨-, h4⟩, ⟨-, h8⟩, ⟨-, h12, -, h13, -⟩, ⟨-, h14⟩, ⟨-, h16⟩, ⟨-, h18⟩,
      hoptions, hpayload⟩
    exact ⟨⟨h0, h2, h4, h8, h12, h13, h14, h16, h18⟩, hoptions, hpayload⟩
  · rintro ⟨⟨h0, h2, h4, h8, h12, h13, h14, h16, h18⟩, hoptions, hpayload⟩
    have hle := hoptions.1
    exact ⟨⟨by omega, h0⟩, ⟨by omega, h2⟩, ⟨by omega, h4⟩, ⟨by omega, h8⟩,
      ⟨by omega, h12, by omega, h13, by omega⟩, ⟨by omega, h14⟩, ⟨by omega, h16⟩,
      ⟨by omega, h18⟩, hoptions, hpayload⟩

/-- A datagram stands in the packet when each of its fields does. -/
theorem UdpDatagram.holds_encode {datagram : UdpDatagram} :
    Holds packet offset datagram.encode ↔
      (readBe16 packet offset = datagram.srcPort ∧
        readBe16 packet (offset + 2) = datagram.dstPort ∧
        readBe16 packet (offset + 4) = datagram.udpLength ∧
        readBe16 packet (offset + 6) = datagram.checksum) ∧
      Holds packet (offset + 8) datagram.payload ∧
      Holds packet (offset + 8 + datagram.payload.length) datagram.slack := by
  simp only [encode, holds_append, holds_encodeBe16, length_encodeBe16, Nat.add_assoc,
    Nat.reduceAdd]
  constructor
  · rintro ⟨⟨-, h0⟩, ⟨-, h2⟩, ⟨-, h4⟩, ⟨-, h6⟩, hpayload, hslack⟩
    exact ⟨⟨h0, h2, h4, h6⟩, hpayload, hslack⟩
  · rintro ⟨⟨h0, h2, h4, h6⟩, hpayload, hslack⟩
    have hle := hpayload.1
    exact ⟨⟨by omega, h0⟩, ⟨by omega, h2⟩, ⟨by omega, h4⟩, ⟨by omega, h6⟩, hpayload, hslack⟩

/-- A TCP segment that stands in the packet is decoded. -/
theorem TcpSegment.decodeTcp_eq {segment : TcpSegment} (result : PacketDecodeResult)
    (h : Holds packet offset segment.encode) :
    decodeTcp result packet offset (offset + segment.encode.length)
      = (Transport.tcp segment).addTo result offset := by
  have hlength := h.length_le
  rw [length_encode] at hlength ⊢
  obtain ⟨⟨hsrc, hdst, hseq, -, hwords, hflags, -⟩, -⟩ := holds_encode.mp h
  have hoptions := segment.length_options
  have hheader : ((byteAt packet (offset + 12) >>> 4) * 4 : UInt8).toNat
      = 4 * segment.dataOffset := by
    rw [toNat_highWords, hwords, highHalf_byteOf]
  have hlong : ¬ ((byteAt packet (offset + 12) >>> 4) * 4 : UInt8) < 20 := by
    rw [UInt8.lt_iff_toNat_lt, hheader, show (20 : UInt8).toNat = 20 from rfl]
    omega
  unfold decodeTcp
  dsimp only
  rw [hheader, if_neg (by rw [hasBytes_iff]; omega), if_neg hlong,
    if_neg (by rw [hasBytes_iff]; omega)]
  simp only [withTcpHeader, hsrc, hdst, hseq, hflags, Transport.addTo, Transport.transportProtocol,
    Transport.headerLength, Transport.payload, Transport.srcPort, Transport.dstPort]
  congr 1
  omega

/-- A UDP datagram that stands in the packet is decoded. -/
theorem UdpDatagram.decodeUdp_eq {datagram : UdpDatagram} (result : PacketDecodeResult)
    (h : Holds packet offset datagram.encode) :
    decodeUdp result packet offset (offset + datagram.encode.length)
      = (Transport.udp datagram).addTo result offset := by
  have hlength := h.length_le
  rw [length_encode] at hlength ⊢
  obtain ⟨⟨hsrc, hdst, hudp, -⟩, -⟩ := holds_encode.mp h
  have hudpNat := datagram.toNat_udpLength
  have hlong : ¬ datagram.udpLength < 8 := by
    rw [UInt16.lt_iff_toNat_lt, hudpNat, show (8 : UInt16).toNat = 8 from rfl]
    omega
  unfold decodeUdp
  dsimp only
  rw [hudp, if_neg (by rw [hasBytes_iff]; omega), if_neg hlong, hudpNat, if_neg (by omega)]
  simp only [withUdpHeader, hsrc, hdst, Nat.add_sub_cancel_left, Transport.addTo,
    Transport.transportProtocol, Transport.headerLength, Transport.payload, Transport.srcPort,
    Transport.dstPort]

/-- Where `DecodeTcp` gets past its checks stands a TCP segment. -/
theorem TcpSegment.exists_holds {headerLength transportEnd : ℕ} (h20 : 20 ≤ headerLength)
    (hheader : headerLength = ((byteAt packet (offset + 12) >>> 4) * 4 : UInt8).toNat)
    (hend : offset + headerLength ≤ transportEnd) (hlength : transportEnd ≤ packet.length) :
    ∃ segment : TcpSegment, offset + segment.encode.length = transportEnd ∧
      Holds packet offset segment.encode := by
  rw [toNat_highWords] at hheader
  -- the length checks leave room for the options and for the payload behind them
  obtain ⟨options, hoptions, holdsOptions⟩ :=
    exists_chunk (show offset + 20 + (headerLength - 20) ≤ packet.length by omega)
  obtain ⟨payload, hpayload, holdsPayload⟩ :=
    exists_chunk (show offset + headerLength + (transportEnd - (offset + headerLength))
      ≤ packet.length by omega)
  have hstart : offset + 20 + options.length = offset + headerLength := by omega
  refine ⟨{
    srcPort := readBe16 packet offset
    dstPort := readBe16 packet (offset + 2)
    sequenceNumber := readBe32 packet (offset + 4)
    acknowledgment := readBe32 packet (offset + 8)
    dataOffset := highHalf (byteAt packet (offset + 12))
    reserved := lowHalf (byteAt packet (offset + 12))
    flags := byteAt packet (offset + 13)
    window := readBe16 packet (offset + 14)
    checksum := readBe16 packet (offset + 16)
    urgentPointer := readBe16 packet (offset + 18)
    options := options
    payload := payload
    length_options := by omega }, ?_, ?_⟩
  · simp only [length_encode]
    omega
  · refine holds_encode.mpr ⟨⟨rfl, rfl, rfl, rfl, (byteOf_halves _).symm, rfl, rfl, rfl, rfl⟩,
      holdsOptions, ?_⟩
    simp only [hstart]
    exact holdsPayload

/-- Where `DecodeUdp` gets past its checks stands a UDP datagram. -/
theorem UdpDatagram.exists_holds {transportEnd : ℕ}
    (h8 : 8 ≤ (readBe16 packet (offset + 4)).toNat)
    (hend : offset + (readBe16 packet (offset + 4)).toNat ≤ transportEnd)
    (hlength : transportEnd ≤ packet.length) :
    ∃ datagram : UdpDatagram, offset + datagram.encode.length = transportEnd ∧
      Holds packet offset datagram.encode := by
  have hlt := (readBe16 packet (offset + 4)).toNat_lt
  obtain ⟨payload, hpayload, holdsPayload⟩ :=
    exists_chunk (show offset + 8 + ((readBe16 packet (offset + 4)).toNat - 8) ≤ packet.length
      by omega)
  obtain ⟨slack, hslack, holdsSlack⟩ :=
    exists_chunk (show offset + 8 + payload.length
      + (transportEnd - (offset + 8 + payload.length)) ≤ packet.length by omega)
  refine ⟨{
    srcPort := readBe16 packet offset
    dstPort := readBe16 packet (offset + 2)
    checksum := readBe16 packet (offset + 6)
    payload := payload
    slack := slack
    length_lt := by rw [show UInt16.size = 2 ^ 16 from rfl]; omega }, ?_, ?_⟩
  · simp only [length_encode]
    omega
  · refine holds_encode.mpr ⟨⟨rfl, rfl, UInt16.toNat_inj.mp ?_, rfl⟩, holdsPayload, holdsSlack⟩
    rw [toNat_udpLength]
    exact (show (readBe16 packet (offset + 4)).toNat = 8 + payload.length by omega)

namespace Transport

/-- Decoding an encoded transport header adds its fields to the result. -/
theorem decodeTransport_eq {transport : Transport} {result : PacketDecodeResult}
    (hprotocol : result.ipProtocol = transport.ipProtocol)
    (h : Holds packet offset transport.encode) :
    decodeTransport result packet offset (offset + transport.encode.length)
      = transport.addTo result offset := by
  unfold decodeTransport
  cases transport with
  | tcp segment =>
    have htcp : result.ipProtocol = kIpProtocolTcp := hprotocol
    rw [if_pos htcp]
    exact segment.decodeTcp_eq result h
  | udp datagram =>
    have hudp : result.ipProtocol = kIpProtocolUdp := hprotocol
    rw [if_neg (by rw [hudp]; decide), if_pos hudp]
    exact datagram.decodeUdp_eq result h

/-- A decoded transport header is one that stands in the packet. -/
theorem exists_holds {result : PacketDecodeResult} {transportEnd : ℕ}
    (hnone : result.transportProtocol = .none) (hlength : transportEnd ≤ packet.length)
    (hresult : (decodeTransport result packet offset transportEnd).transportProtocol ≠ .none) :
    ∃ transport : Transport, transport.ipProtocol = result.ipProtocol ∧
      offset + transport.encode.length = transportEnd ∧ Holds packet offset transport.encode := by
  unfold decodeTransport at hresult
  split_ifs at hresult with htcp hudp
  · rcases decodeTcp_cases result packet offset transportEnd with
      ⟨reason, -, heq⟩ | ⟨headerLength, h20, hend, hheader, -⟩
    · rw [heq] at hresult
      exact absurd hnone hresult
    · obtain ⟨segment, hsegment, hholds⟩ := TcpSegment.exists_holds h20 hheader hend hlength
      exact ⟨.tcp segment, htcp.symm, hsegment, hholds⟩
  · rcases decodeUdp_cases result packet offset transportEnd with
      ⟨reason, -, heq⟩ | ⟨udpLength, h8, -, hend, rfl, -⟩
    · rw [heq] at hresult
      exact absurd hnone hresult
    · obtain ⟨datagram, hdatagram, hholds⟩ := UdpDatagram.exists_holds h8 hend hlength
      exact ⟨.udp datagram, hudp.symm, hdatagram, hholds⟩
  · exact absurd hnone hresult

end Transport

/-! ## Network headers -/

/-- An address is copied from where it stands. -/
theorem copyAddress_eq_padded {address : Bytes} (h : Holds packet offset address) :
    copyAddress packet offset address.length = IpAddress.padded address := by
  refine Vector.ext ?_
  intro i hi
  rw [copyAddress, IpAddress.padded, Vector.getElem_ofFn, Vector.getElem_ofFn]
  by_cases hlt : i < address.length
  · rw [if_pos hlt]
    exact h.byteAt_eq hlt
  · rw [if_neg hlt]
    exact (List.getD_eq_default _ _ (Nat.not_lt.mp hlt)).symm

/-- The flag `more fragments` and the fragment offset are the lower 14 bits of their word. -/
theorem unfragmented_iff (word : UInt16) :
    (word &&& 0x2000 = 0 ∧ word &&& 0x1FFF = 0) ↔ word.toNat % 2 ^ 14 = 0 := by
  have hmore : (word &&& 0x2000).toNat = word.toNat / 2 ^ 13 % 2 * 2 ^ 13 := by
    rw [UInt16.toNat_and, show (0x2000 : UInt16).toNat = 2 ^ 13 from rfl, Nat.and_two_pow,
      Nat.toNat_testBit]
  have hoffset : (word &&& 0x1FFF).toNat = word.toNat % 2 ^ 13 := by
    rw [UInt16.toNat_and, show (0x1FFF : UInt16).toNat = 2 ^ 13 - 1 from rfl,
      Nat.and_two_pow_sub_one_eq_mod]
  rw [← UInt16.toNat_inj, ← UInt16.toNat_inj, hmore, hoffset, UInt16.toNat_zero]
  omega

/-- What the IPv4 stage adds to a decode result. -/
def Ipv4Packet.addTo (ip : Ipv4Packet) (result : PacketDecodeResult) (offset : ℕ) :
    PacketDecodeResult :=
  ip.transport.addTo
    { result with
      success := true
      ipVersion := .ipv4
      networkHeaderOffset := offset
      networkHeaderLength := 4 * ip.headerWords
      ipProtocol := ip.transport.ipProtocol
      addressLength := 4
      srcAddress := IpAddress.padded ip.srcAddress.toList
      dstAddress := IpAddress.padded ip.dstAddress.toList }
    (offset + 4 * ip.headerWords)

/-- What the IPv6 stage adds to a decode result. -/
def Ipv6Packet.addTo (ip : Ipv6Packet) (result : PacketDecodeResult) (offset : ℕ) :
    PacketDecodeResult :=
  ip.transport.addTo
    { result with
      success := true
      ipVersion := .ipv6
      networkHeaderOffset := offset
      networkHeaderLength := 40
      ipProtocol := ip.transport.ipProtocol
      addressLength := 16
      srcAddress := IpAddress.padded ip.srcAddress.toList
      dstAddress := IpAddress.padded ip.dstAddress.toList }
    (offset + 40)

/-- An IPv4 packet stands in the frame when each of its fields does. -/
theorem Ipv4Packet.holds_encode {ip : Ipv4Packet} :
    Holds packet offset ip.encode ↔
      (byteAt packet offset = byteOf 4 ip.headerWords ∧
        byteAt packet (offset + 1) = ip.typeOfService ∧
        readBe16 packet (offset + 2) = UInt16.ofNat ip.totalLength ∧
        readBe16 packet (offset + 4) = ip.identification ∧
        readBe16 packet (offset + 6) = ip.flagsFragment ∧
        byteAt packet (offset + 8) = ip.timeToLive ∧
        byteAt packet (offset + 9) = ip.transport.ipProtocol ∧
        readBe16 packet (offset + 10) = ip.checksum) ∧
      Holds packet (offset + 12) ip.srcAddress.toList ∧
      Holds packet (offset + 16) ip.dstAddress.toList ∧
      Holds packet (offset + 20) ip.options ∧
      Holds packet (offset + 20 + ip.options.length) ip.transport.encode := by
  simp only [encode, holds_append, holds_encodeBe16, holds_cons, holds_nil, length_encodeBe16,
    List.length_cons, List.length_nil, Vector.length_toList, Nat.add_assoc, Nat.reduceAdd]
  constructor
  · rintro ⟨⟨-, h0, -, h1, -⟩, ⟨-, h2⟩, ⟨-, h4⟩, ⟨-, h6⟩, ⟨-, h8, -, h9, -⟩, ⟨-, h10⟩, hsrc, hdst,
      hoptions, htransport⟩
    exact ⟨⟨h0, h1, h2, h4, h6, h8, h9, h10⟩, hsrc, hdst, hoptions, htransport⟩
  · rintro ⟨⟨h0, h1, h2, h4, h6, h8, h9, h10⟩, hsrc, hdst, hoptions, htransport⟩
    have hle := hoptions.1
    exact ⟨⟨by omega, h0, by omega, h1, by omega⟩, ⟨by omega, h2⟩, ⟨by omega, h4⟩,
      ⟨by omega, h6⟩, ⟨by omega, h8, by omega, h9, by omega⟩, ⟨by omega, h10⟩, hsrc, hdst,
      hoptions, htransport⟩

/-- An IPv6 packet stands in the frame when each of its fields does. -/
theorem Ipv6Packet.holds_encode {ip : Ipv6Packet} :
    Holds packet offset ip.encode ↔
      (byteAt packet offset = byteOf 6 ip.classHigh ∧
        readBe16 packet (offset + 4) = UInt16.ofNat ip.payloadLength ∧
        byteAt packet (offset + 6) = ip.transport.ipProtocol ∧
        byteAt packet (offset + 7) = ip.hopLimit) ∧
      Holds packet (offset + 1) ip.classAndFlow.toList ∧
      Holds packet (offset + 8) ip.srcAddress.toList ∧
      Holds packet (offset + 24) ip.dstAddress.toList ∧
      Holds packet (offset + 40) ip.transport.encode := by
  simp only [encode, holds_append, holds_encodeBe16, holds_cons, holds_nil, length_encodeBe16,
    List.length_cons, List.length_nil, Vector.length_toList, Nat.add_assoc, Nat.reduceAdd]
  constructor
  · rintro ⟨⟨-, h0, -⟩, hflow, ⟨-, h4⟩, ⟨-, h6, -, h7, -⟩, hsrc, hdst, htransport⟩
    exact ⟨⟨h0, h4, h6, h7⟩, hflow, hsrc, hdst, htransport⟩
  · rintro ⟨⟨h0, h4, h6, h7⟩, hflow, hsrc, hdst, htransport⟩
    have hle := htransport.1
    exact ⟨⟨by omega, h0, by omega⟩, hflow, ⟨by omega, h4⟩,
      ⟨by omega, h6, by omega, h7, by omega⟩, hsrc, hdst, htransport⟩

/-- The version in the first byte of an IP packet. -/
theorem shiftRight_byteOf (version low : Fin 16) :
    byteOf version low >>> 4 = UInt8.ofNat version := by
  refine UInt8.toNat_inj.mp ?_
  rw [toNat_shiftRight_four, highHalf_byteOf, UInt8.toNat_ofNat', Nat.mod_eq_of_lt (by omega)]

/-- An IPv4 packet that stands in the frame is decoded. -/
theorem Ipv4Packet.decodeIpv4_eq {ip : Ipv4Packet} (result : PacketDecodeResult)
    (h : Holds packet offset ip.encode) :
    decodeIpv4 result packet offset = ip.addTo result offset := by
  have hlength := h.length_le
  rw [length_encode] at hlength
  obtain ⟨⟨hwords, -, htotal, -, hfragment, -, hprotocol, -⟩, hsrc, hdst, -, htransport⟩ :=
    holds_encode.mp h
  have hoptions := ip.length_options
  have hsum : ip.totalLength = 4 * ip.headerWords + ip.transport.encode.length := rfl
  have htotalNat := ip.toNat_totalLength
  have hheader : ((byteAt packet offset &&& 0x0F) * 4 : UInt8).toNat = 4 * ip.headerWords := by
    rw [toNat_lowWords, hwords, lowHalf_byteOf]
  have hversion : byteAt packet offset >>> 4 = 4 := by
    rw [hwords, shiftRight_byteOf]
    rfl
  have hchecks : ¬ (byteAt packet offset >>> 4 ≠ 4 ∨
      ((byteAt packet offset &&& 0x0F) * 4 : UInt8) < 20) := by
    rw [UInt8.lt_iff_toNat_lt, hheader, show (20 : UInt8).toNat = 20 from rfl]
    exact fun hor => hor.elim (· hversion) (by omega)
  have hlong : ¬ UInt16.ofNat ip.totalLength
      < ((byteAt packet offset &&& 0x0F) * 4 : UInt8).toUInt16 := by
    rw [UInt16.lt_iff_toNat_lt, UInt8.toNat_toUInt16, hheader, htotalNat]
    omega
  have hwhole : ¬ (readBe16 packet (offset + 6) &&& 0x2000 ≠ 0 ∨
      readBe16 packet (offset + 6) &&& 0x1FFF ≠ 0) := by
    have hbits := (unfragmented_iff ip.flagsFragment).mpr ip.unfragmented
    rw [hfragment]
    exact fun hor => hor.elim (· hbits.1) (· hbits.2)
  -- the header checks pass, and the transport header follows the options
  unfold decodeIpv4
  dsimp only
  rw [if_neg (by rw [hasBytes_iff]; omega), if_neg hchecks, hheader, htotal, if_neg hlong,
    htotalNat, if_neg (by rw [hasBytes_iff]; omega), if_neg (by rw [hasBytes_iff]; omega),
    if_neg hwhole]
  have hstart : offset + 20 + ip.options.length = offset + 4 * ip.headerWords := by omega
  rw [hstart] at htransport
  rw [hsum, ← Nat.add_assoc, Transport.decodeTransport_eq hprotocol htransport]
  have hsrcAddress := copyAddress_eq_padded hsrc
  have hdstAddress := copyAddress_eq_padded hdst
  rw [Vector.length_toList] at hsrcAddress hdstAddress
  simp only [withIpv4Header, hprotocol, hsrcAddress, hdstAddress, addTo]

/-- An IPv6 packet that stands in the frame is decoded. -/
theorem Ipv6Packet.decodeIpv6_eq {ip : Ipv6Packet} (result : PacketDecodeResult)
    (h : Holds packet offset ip.encode) :
    decodeIpv6 result packet offset = ip.addTo result offset := by
  have hlength := h.length_le
  rw [length_encode] at hlength
  obtain ⟨⟨hclass, hpayload, hprotocol, -⟩, -, hsrc, hdst, htransport⟩ := holds_encode.mp h
  have hversion : byteAt packet offset >>> 4 = 6 := by
    rw [hclass, shiftRight_byteOf]
    rfl
  have hsupported : isUnsupportedIpv6Extension ip.transport.ipProtocol = false := by
    cases ip.transport <;> rfl
  have hsrcAddress := copyAddress_eq_padded hsrc
  have hdstAddress := copyAddress_eq_padded hdst
  rw [Vector.length_toList] at hsrcAddress hdstAddress
  unfold decodeIpv6
  dsimp only
  rw [if_neg (by rw [hasBytes_iff]; omega), if_neg (not_not.mpr hversion), hpayload,
    ip.toNat_payloadLength, if_neg (by rw [hasBytes_iff]; omega)]
  simp only [withIpv6Header, hprotocol, hsupported, Bool.false_eq_true, if_false, hsrcAddress,
    hdstAddress]
  rw [← Nat.add_assoc, payloadLength, Transport.decodeTransport_eq rfl htransport]
  rfl

/-- The first byte of an IP packet of the given version. -/
theorem byteOf_version {byte : UInt8} {version : Fin 16} (h : byte >>> 4 = UInt8.ofNat version) :
    byte = byteOf version (lowHalf byte) := by
  have hhigh : highHalf byte = version := by
    refine Fin.ext ?_
    rw [← toNat_shiftRight_four, h, UInt8.toNat_ofNat', Nat.mod_eq_of_lt (by omega)]
  rw [← hhigh, byteOf_halves]

/-- Where `DecodeIpv4` finds a transport header stands an IPv4 packet. -/
theorem Ipv4Packet.exists_holds {result : PacketDecodeResult}
    (hnone : result.transportProtocol = .none)
    (hresult : (decodeIpv4 result packet offset).transportProtocol ≠ .none) :
    ∃ ip : Ipv4Packet, Holds packet offset ip.encode := by
  rcases decodeIpv4_cases result packet offset with
    ⟨reason, -, heq⟩ | ⟨ihl, h20, hversion, hihl, hlength, hle, heq | ⟨hmore, hfragment, heq⟩⟩
  · rw [heq] at hresult
    exact absurd hnone hresult
  · rw [heq] at hresult
    exact absurd hnone hresult
  · rw [heq] at hresult
    -- the packet is whole and unfragmented; the other branches decode no transport header
    obtain ⟨transport, hprotocol, hend, htransport⟩ :=
      Transport.exists_holds (by exact hnone) hlength hresult
    rw [toNat_lowWords] at hihl
    obtain ⟨options, hoptions, holdsOptions⟩ :=
      exists_chunk (show offset + 20 + (ihl - 20) ≤ packet.length by omega)
    have hlt := (readBe16 packet (offset + 2)).toNat_lt
    refine ⟨{
      headerWords := lowHalf (byteAt packet offset)
      typeOfService := byteAt packet (offset + 1)
      identification := readBe16 packet (offset + 4)
      flagsFragment := readBe16 packet (offset + 6)
      timeToLive := byteAt packet (offset + 8)
      checksum := readBe16 packet (offset + 10)
      srcAddress := fixedAt 4 packet (offset + 12)
      dstAddress := fixedAt 4 packet (offset + 16)
      options := options
      transport := transport
      length_options := by omega
      unfragmented := (unfragmented_iff _).mp ⟨hmore, hfragment⟩
      length_lt := by rw [show UInt16.size = 2 ^ 16 from rfl]; omega }, ?_⟩
    refine holds_encode.mpr ⟨⟨byteOf_version hversion, rfl, UInt16.toNat_inj.mp ?_, rfl, rfl, rfl,
      hprotocol.symm, rfl⟩, holds_fixedAt (by omega), holds_fixedAt (by omega), holdsOptions, ?_⟩
    · rw [toNat_totalLength, totalLength]
      change _ = 4 * (lowHalf (byteAt packet offset)).val + transport.encode.length
      omega
    · have hstart : offset + 20 + options.length = offset + ihl := by omega
      simp only [hstart]
      exact htransport

/-- Where `DecodeIpv6` finds a transport header stands an IPv6 packet. -/
theorem Ipv6Packet.exists_holds {result : PacketDecodeResult}
    (hnone : result.transportProtocol = .none)
    (hresult : (decodeIpv6 result packet offset).transportProtocol ≠ .none) :
    ∃ ip : Ipv6Packet, Holds packet offset ip.encode := by
  rcases decodeIpv6_cases result packet offset with
    ⟨reason, -, heq⟩ | ⟨hversion, hlength, ⟨reason, -, heq⟩ | heq⟩
  · rw [heq] at hresult
    exact absurd hnone hresult
  · rw [heq] at hresult
    exact absurd hnone hresult
  · rw [heq] at hresult
    -- the next header is the transport header itself: there are no extension headers
    obtain ⟨transport, hprotocol, hend, htransport⟩ :=
      Transport.exists_holds (by exact hnone) hlength hresult
    have hlt := (readBe16 packet (offset + 4)).toNat_lt
    refine ⟨{
      classHigh := lowHalf (byteAt packet offset)
      classAndFlow := fixedAt 3 packet (offset + 1)
      hopLimit := byteAt packet (offset + 7)
      srcAddress := fixedAt 16 packet (offset + 8)
      dstAddress := fixedAt 16 packet (offset + 24)
      transport := transport
      length_lt := by rw [show UInt16.size = 2 ^ 16 from rfl]; omega }, ?_⟩
    refine holds_encode.mpr ⟨⟨byteOf_version hversion, UInt16.toNat_inj.mp ?_, hprotocol.symm,
      rfl⟩, holds_fixedAt (by omega), holds_fixedAt (by omega), holds_fixedAt (by omega),
      htransport⟩
    rw [toNat_payloadLength, payloadLength]
    change _ = transport.encode.length
    omega

namespace Network

/-- The dispatch on the IP version that ends `DecodePacket` and `DecodeNull`. -/
def decode (ipVersion : IpVersion) (result : PacketDecodeResult) (packet : Bytes)
    (networkOffset : ℕ) : PacketDecodeResult :=
  match ipVersion with
  | .ipv4 => decodeIpv4 result packet networkOffset
  | .ipv6 => decodeIpv6 result packet networkOffset
  | .none => result

/-- What the network stage adds to a decode result. -/
def addTo (network : Network) (result : PacketDecodeResult) (offset : ℕ) : PacketDecodeResult :=
  match network with
  | ipv4 ip => ip.addTo result offset
  | ipv6 ip => ip.addTo result offset

/-- Decoding an encoded network packet adds its fields to the result. -/
theorem decode_eq {network : Network} (result : PacketDecodeResult)
    (h : Holds packet offset network.encode) :
    decode network.ipVersion result packet offset = network.addTo result offset := by
  cases network with
  | ipv4 ip => exact ip.decodeIpv4_eq result h
  | ipv6 ip => exact ip.decodeIpv6_eq result h

/-- A decoded network packet is one that stands in the frame. -/
theorem exists_holds {ipVersion : IpVersion} {result : PacketDecodeResult}
    (hnone : result.transportProtocol = .none)
    (hresult : (decode ipVersion result packet offset).transportProtocol ≠ .none) :
    ∃ network : Network, network.ipVersion = ipVersion ∧ Holds packet offset network.encode := by
  cases ipVersion with
  | none => exact absurd hnone hresult
  | ipv4 =>
    obtain ⟨ip, hip⟩ := Ipv4Packet.exists_holds hnone hresult
    exact ⟨.ipv4 ip, rfl, hip⟩
  | ipv6 =>
    obtain ⟨ip, hip⟩ := Ipv6Packet.exists_holds hnone hresult
    exact ⟨.ipv6 ip, rfl, hip⟩

/-- A network packet has a version. -/
theorem ipVersion_ne_none (network : Network) : network.ipVersion ≠ .none := by
  cases network <;> exact nofun

end Network

/-! ## Link headers -/

/-- The decoder knows every tag of the grammar. -/
theorem VlanTag.isVlanEthertype_tpid (tag : VlanTag) : isVlanEthertype tag.tpid = true := by
  rcases tag.tpid_eq with h | h <;> rw [h] <;> rfl

/-- The decoder knows no other tags. -/
theorem tpid_of_isVlanEthertype {ethertype : UInt16} (h : isVlanEthertype ethertype = true) :
    ethertype = 0x8100 ∨ ethertype = 0x88A8 := by
  simpa [isVlanEthertype, kEtherTypeVlan, kEtherTypeProviderBridge] using h

/-- No tag is taken for an IP ethertype, so the decoder stops behind the last one. -/
theorem isVlanEthertype_etherTypeOf (ipVersion : IpVersion) :
    isVlanEthertype (etherTypeOf ipVersion) = false := by
  cases ipVersion <;> rfl

/-- The VLAN loop passes over a list of tags and stops behind the ethertype that follows them. -/
theorem stripVlanTags_eq {tags : List VlanTag} {ethertype : UInt16}
    (hplain : isVlanEthertype ethertype = false) (result : PacketDecodeResult)
    (h : Holds packet offset (tags.flatMap (·.encode) ++ encodeBe16 ethertype)) :
    stripVlanTags packet { result with ethertype := readBe16 packet offset } (offset + 2)
      = .ok ({ result with
          ethertype := ethertype
          vlanTagCount := result.vlanTagCount + UInt8.ofNat tags.length
          linkHeaderLength := result.linkHeaderLength + 4 * tags.length },
        offset + 2 + 4 * tags.length) := by
  induction tags generalizing offset result with
  | nil =>
    have hethertype := (holds_encodeBe16.mp h).2
    rw [stripVlanTags, hethertype, if_neg (by simp [hplain])]
    simp
  | cons tag tags ih =>
    rw [List.flatMap_cons, List.append_assoc, holds_append, VlanTag.length_encode] at h
    obtain ⟨htag, hrest⟩ := h
    obtain ⟨htpid, -⟩ := holds_append.mp htag
    have hethertype := (holds_encodeBe16.mp htpid).2
    have hle := hrest.length_le
    rw [List.length_append, length_encodeBe16] at hle
    have hbytes : HasBytes packet (offset + 2) 4 := by
      rw [hasBytes_iff]
      omega
    -- one round of the loop: one tag is counted, in 8 bits
    have hnext := ih { result with
      vlanTagCount := result.vlanTagCount + 1
      linkHeaderLength := result.linkHeaderLength + 4 } hrest
    rw [stripVlanTags, if_pos (by rw [hethertype]; exact tag.isVlanEthertype_tpid),
      dif_pos hbytes]
    refine hnext.trans ?_
    simp only [List.length_cons, Except.ok.injEq, Prod.mk.injEq, UInt8.ofNat_add, Nat.mul_add]
    refine ⟨?_, by omega⟩
    congr 1
    · rw [UInt8.add_assoc, UInt8.add_comm 1]
      rfl
    · omega

/-- Where the VLAN loop stops, a list of tags and an ethertype stand behind the addresses. -/
theorem exists_holds_tags {result stripped : PacketDecodeResult} {networkOffset : ℕ}
    (hle : offset + 2 ≤ packet.length) (hresult : result.ethertype = readBe16 packet offset)
    (h : stripVlanTags packet result (offset + 2) = .ok (stripped, networkOffset)) :
    ∃ tags : List VlanTag, networkOffset = offset + 2 + 4 * tags.length ∧
      Holds packet offset (tags.flatMap (·.encode) ++ encodeBe16 stripped.ethertype) := by
  generalize hstart : offset + 2 = start at h hle
  fun_induction stripVlanTags packet result start generalizing offset with
  | case1 result start hvlan hbytes ih =>
    subst hstart
    rw [hasBytes_iff] at hbytes
    obtain ⟨tags, hstop, htags⟩ := @ih (offset + 4) rfl rfl h (by omega)
    have htpid : Holds packet offset (encodeBe16 result.ethertype) :=
      holds_encodeBe16.mpr ⟨hle, hresult.symm⟩
    have htci : Holds packet (offset + 2) (encodeBe16 (readBe16 packet (offset + 2))) :=
      holds_encodeBe16.mpr ⟨by omega, rfl⟩
    refine ⟨⟨result.ethertype, readBe16 packet (offset + 2), tpid_of_isVlanEthertype hvlan⟩ :: tags,
      by rw [hstop, List.length_cons]; omega, ?_⟩
    rw [List.flatMap_cons, List.append_assoc, holds_append]
    exact ⟨holds_append.mpr ⟨htpid, htci⟩, htags⟩
  | case2 result start hvlan hbytes => cases h
  | case3 result start hvlan =>
    cases h
    subst hstart
    exact ⟨[], rfl, holds_encodeBe16.mpr ⟨hle, hresult.symm⟩⟩

/-- The decode result with which the network stage starts behind a link header. -/
def Link.decoded (link : Link) (ipVersion : IpVersion) : PacketDecodeResult where
  success := true
  ethertype := etherTypeOf ipVersion
  vlanTagCount := UInt8.ofNat link.tagCount
  linkHeaderLength := link.headerLength
  networkHeaderOffset := if link.linkType = .null then 4 else 0

/-- Behind an Ethernet header the network stage decodes the IP version of the ethertype. -/
theorem decodePacket_ethernet {addresses : Vector UInt8 12} {tags : List VlanTag}
    {ipVersion : IpVersion} (hne : ipVersion ≠ .none)
    (h : Holds packet 0 ((Link.ethernet addresses tags).encode ipVersion)) :
    decodePacket packet .ethernet
      = Network.decode ipVersion ((Link.ethernet addresses tags).decoded ipVersion) packet
          (14 + 4 * tags.length) := by
  have hlength := h.length_le
  rw [Link.length_encode, Link.headerLength] at hlength
  have htags := (holds_append.mp h).2
  rw [Vector.length_toList] at htags
  have hstrip := stripVlanTags_eq (isVlanEthertype_etherTypeOf ipVersion)
    { success := true, linkHeaderLength := 14 } htags
  unfold decodePacket
  dsimp only
  rw [if_neg (by rw [hasBytes_iff]; omega)]
  simp only [Nat.zero_add, Nat.reduceAdd] at hstrip
  rw [hstrip]
  dsimp only
  cases ipVersion with
  | none => exact absurd rfl hne
  | ipv4 =>
    rw [if_pos (show etherTypeOf .ipv4 = kEtherTypeIpv4 from rfl), UInt8.zero_add]
    rfl
  | ipv6 =>
    rw [if_neg (by decide), if_pos (show etherTypeOf .ipv6 = kEtherTypeIpv6 from rfl),
      UInt8.zero_add]
    rfl

/-- Behind a loopback header the network stage decodes the IP version on which the address family
and the first half byte of the packet agree, as far as they name one. -/
theorem decodePacket_null {family : UInt32} {ipVersion : IpVersion} (hne : ipVersion ≠ .none)
    (hfamily : familyIpVersion family = .none ∨ familyIpVersion family = ipVersion)
    (hnibble : nibbleIpVersion packet = .none ∨ nibbleIpVersion packet = ipVersion)
    (hknown : familyIpVersion family = ipVersion ∨ nibbleIpVersion packet = ipVersion)
    (h : Holds packet 0 (encodeLe32 family)) :
    decodePacket packet .null
      = Network.decode ipVersion ((Link.null family).decoded ipVersion) packet 4 := by
  obtain ⟨hlength, hread⟩ := holds_encodeLe32.mp h
  have hagree : ¬ (familyIpVersion family ≠ .none ∧ nibbleIpVersion packet ≠ .none ∧
      familyIpVersion family ≠ nibbleIpVersion packet) := by
    rintro ⟨hf, hn, hdiffer⟩
    exact hdiffer ((hfamily.resolve_left hf).trans (hnibble.resolve_left hn).symm)
  have hchosen : (if familyIpVersion family ≠ .none then familyIpVersion family
      else nibbleIpVersion packet) = ipVersion := by
    split
    · next hf => exact hfamily.resolve_left hf
    · next hf => exact hknown.resolve_left fun heq => hf (by rw [heq]; exact hne)
  unfold decodePacket
  dsimp only
  unfold decodeNull
  rw [if_neg (by rw [hasBytes_iff]; omega), hread]
  dsimp only
  rw [if_neg hagree, hchosen]
  cases ipVersion with
  | none => exact absurd rfl hne
  | ipv4 => rfl
  | ipv6 => rfl

/-- Where `DecodeNull` finds a transport header stand a loopback header and an IP packet that it may
carry. -/
theorem exists_holds_null
    (hresult : (decodePacket packet .null).transportProtocol ≠ .none) :
    ∃ (family : UInt32) (network : Network), (Link.null family).Carries network.ipVersion ∧
      Holds packet 0 (encodeLe32 family) ∧ Holds packet 4 network.encode := by
  unfold decodePacket at hresult
  dsimp only at hresult
  unfold decodeNull at hresult
  split at hresult
  · exact absurd rfl hresult
  next hbytes =>
  rw [not_not, hasBytes_iff] at hbytes
  dsimp only at hresult
  split at hresult
  · exact absurd rfl hresult
  -- whichever of the two the version is read from, the network packet is at offset 4
  have hdecode : ∃ (ipVersion : IpVersion) (result : PacketDecodeResult),
      ipVersion = (if familyIpVersion (readLe32 packet 0) ≠ .none
        then familyIpVersion (readLe32 packet 0) else nibbleIpVersion packet) ∧
      result.transportProtocol = .none ∧
      (Network.decode ipVersion result packet 4).transportProtocol ≠ .none := by
    split at hresult
    · next heq => exact ⟨.ipv4, _, heq.symm, rfl, hresult⟩
    · next heq => exact ⟨.ipv6, _, heq.symm, rfl, hresult⟩
    · exact absurd rfl hresult
  obtain ⟨ipVersion, result, hchosen, hnone, hnetwork⟩ := hdecode
  obtain ⟨network, rfl, hholds⟩ := Network.exists_holds hnone hnetwork
  refine ⟨readLe32 packet 0, network, ⟨?_, ?_⟩, holds_encodeLe32.mpr ⟨hbytes, rfl⟩, hholds⟩
  · intro hfamily
    rw [hchosen, hfamily]
    rfl
  · intro hfamily
    rw [hchosen, hfamily]
    rfl

/-- Where the decoder finds a transport header behind an Ethernet header stand the addresses, a list
of tags, an IP ethertype and an IP packet. -/
theorem exists_holds_ethernet
    (hresult : (decodePacket packet .ethernet).transportProtocol ≠ .none) :
    ∃ (addresses : Vector UInt8 12) (tags : List VlanTag) (network : Network),
      Holds packet 0 ((Link.ethernet addresses tags).encode network.ipVersion) ∧
      Holds packet (14 + 4 * tags.length) network.encode := by
  unfold decodePacket at hresult
  dsimp only at hresult
  split at hresult
  · exact absurd rfl hresult
  next hbytes =>
  rw [not_not, hasBytes_iff] at hbytes
  have hundecoded := stripVlanTags_undecoded packet
    { success := true, linkHeaderLength := 14, ethertype := readBe16 packet 12 } 14 ⟨rfl, rfl⟩
  split at hresult
  · next result heq =>
    rw [heq] at hundecoded
    exact absurd hundecoded hresult
  · next stripped networkOffset heq =>
    rw [heq] at hundecoded
    obtain ⟨tags, rfl, htags⟩ := @exists_holds_tags _ 12 _ _ _ (by omega) rfl heq
    -- the ethertype behind the tags decides
    have hdecode : ∃ ipVersion, etherTypeOf ipVersion = stripped.ethertype ∧
        (Network.decode ipVersion stripped packet (12 + 2 + 4 * tags.length)).transportProtocol
          ≠ .none := by
      split at hresult
      · next hipv4 => exact ⟨.ipv4, hipv4.symm, hresult⟩
      split at hresult
      · next hipv6 => exact ⟨.ipv6, hipv6.symm, hresult⟩
      · exact absurd hundecoded.2 hresult
    obtain ⟨ipVersion, hethertype, hnetwork⟩ := hdecode
    obtain ⟨network, rfl, hholds⟩ := Network.exists_holds hundecoded.2 hnetwork
    rw [← hethertype] at htags
    refine ⟨fixedAt 12 packet 0, tags, network, holds_append.mpr ⟨holds_fixedAt (by omega), ?_⟩,
      hholds⟩
    rw [Vector.length_toList]
    exact htags

/-! ## Frames -/

/-- The first half byte of an IP packet behind a loopback header. -/
theorem Network.nibbleIpVersion_eq {network : Network} (h : Holds packet 4 network.encode) :
    nibbleIpVersion packet = network.ipVersion := by
  have hbytes : HasBytes packet 4 1 := by
    have hlength := h.length_le
    rw [hasBytes_iff]
    cases network with
    | ipv4 ip =>
      have hoptions := ip.length_options
      rw [encode, ip.length_encode, Ipv4Packet.totalLength] at hlength
      omega
    | ipv6 ip =>
      rw [encode, ip.length_encode] at hlength
      omega
  unfold nibbleIpVersion
  rw [if_pos hbytes]
  dsimp only
  cases network with
  | ipv4 ip =>
    rw [(Ipv4Packet.holds_encode.mp h).1.1, shiftRight_byteOf]
    rfl
  | ipv6 ip =>
    rw [(Ipv6Packet.holds_encode.mp h).1.1, shiftRight_byteOf]
    rfl

/-- A family that may be in front of a packet names its IP version or none. -/
theorem familyIpVersion_of_carries {family : UInt32} {ipVersion : IpVersion}
    (h : (Link.null family).Carries ipVersion) :
    familyIpVersion family = .none ∨ familyIpVersion family = ipVersion := by
  unfold familyIpVersion
  split_ifs with h4 h6
  · exact Or.inr (h.1 h4).symm
  · exact Or.inr (h.2 h6).symm
  · exact Or.inl rfl

namespace Frame

/-- The decoder reads back every frame that stands at the start of the packet. -/
theorem decodePacket_eq {frame : Frame}
    (hlink : Holds packet 0 (frame.link.encode frame.network.ipVersion))
    (hnetwork : Holds packet frame.link.headerLength frame.network.encode) :
    decodePacket packet frame.link.linkType = frame.decoded := by
  obtain ⟨link, network, hcarries, trailing⟩ := frame
  have hne := network.ipVersion_ne_none
  have hdecode : decodePacket packet link.linkType
      = Network.decode network.ipVersion (link.decoded network.ipVersion) packet
          link.headerLength := by
    cases link with
    | ethernet addresses tags => exact decodePacket_ethernet hne hlink
    | null family =>
      have hnibble := Network.nibbleIpVersion_eq hnetwork
      exact decodePacket_null hne (familyIpVersion_of_carries hcarries) (Or.inr hnibble)
        (Or.inr hnibble) hlink
  refine hdecode.trans ((Network.decode_eq _ hnetwork).trans ?_)
  cases network with
  | ipv4 ip =>
    simp only [Network.addTo, Ipv4Packet.addTo, Link.decoded, decoded, transport, Network.transport]
    cases ip.transport <;> rfl
  | ipv6 ip =>
    simp only [Network.addTo, Ipv6Packet.addTo, Link.decoded, decoded, transport, Network.transport]
    cases ip.transport <;> rfl

/-- A frame is its link header and the network packet behind it. -/
theorem holds_encode (frame : Frame) :
    Holds frame.encode 0 (frame.link.encode frame.network.ipVersion) ∧
      Holds frame.encode frame.link.headerLength frame.network.encode := by
  have hparts : Holds frame.encode 0
      (frame.link.encode frame.network.ipVersion ++ (frame.network.encode ++ frame.trailing)) := by
    rw [← encode, ← eq_append_iff_holds, List.drop_length, List.append_nil]
  obtain ⟨hlink, hrest⟩ := holds_append.mp hparts
  rw [Link.length_encode, Nat.zero_add] at hrest
  exact ⟨hlink, (holds_append.mp hrest).1⟩

/-- The payload stands where the decode result says. -/
theorem holds_payload (frame : Frame) :
    Holds frame.encode frame.decoded.transportPayloadOffset frame.transport.payload := by
  have hnetwork := frame.holds_encode.2
  have htransport : Holds frame.encode (frame.link.headerLength + frame.network.headerLength)
      frame.transport.encode := by
    unfold transport
    cases hip : frame.network with
    | ipv4 ip =>
      rw [hip] at hnetwork
      -- the options fill what the header length counts beyond its fixed part
      have hoptions := ip.length_options
      have hstart : frame.link.headerLength + 4 * ip.headerWords
          = frame.link.headerLength + 20 + ip.options.length := by omega
      rw [Network.headerLength, hstart]
      exact (Ipv4Packet.holds_encode.mp hnetwork).2.2.2.2
    | ipv6 ip =>
      rw [hip] at hnetwork
      exact (Ipv6Packet.holds_encode.mp hnetwork).2.2.2.2
  simp only [decoded]
  cases htp : frame.transport with
  | tcp segment =>
    rw [htp] at htransport
    have hoptions := segment.length_options
    have hstart : frame.link.headerLength + frame.network.headerLength + 4 * segment.dataOffset
        = frame.link.headerLength + frame.network.headerLength + 20 + segment.options.length := by
      omega
    rw [Transport.headerLength, hstart]
    exact (TcpSegment.holds_encode.mp htransport).2.2
  | udp datagram =>
    rw [htp] at htransport
    exact (UdpDatagram.holds_encode.mp htransport).2.1

end Frame

/-- Where the decoder finds a transport header stands a frame. -/
theorem exists_frame {linkType : PcapLinkType}
    (hresult : (decodePacket packet linkType).transportProtocol ≠ .none) :
    ∃ frame : Frame, frame.link.linkType = linkType ∧ packet = frame.encode := by
  have hlayers : ∃ (link : Link) (network : Network), link.linkType = linkType ∧
      link.Carries network.ipVersion ∧ Holds packet 0 (link.encode network.ipVersion) ∧
      Holds packet link.headerLength network.encode := by
    cases linkType with
    | ethernet =>
      obtain ⟨addresses, tags, network, hlink, hnetwork⟩ := exists_holds_ethernet hresult
      exact ⟨.ethernet addresses tags, network, rfl, trivial, hlink, hnetwork⟩
    | null =>
      obtain ⟨family, network, hcarries, hlink, hnetwork⟩ := exists_holds_null hresult
      exact ⟨.null family, network, rfl, hcarries, hlink, hnetwork⟩
  obtain ⟨link, network, htype, hcarries, hlink, hnetwork⟩ := hlayers
  have hboth : Holds packet 0 (link.encode network.ipVersion ++ network.encode) := by
    refine holds_append.mpr ⟨hlink, ?_⟩
    rw [Link.length_encode, Nat.zero_add]
    exact hnetwork
  refine ⟨⟨link, network, hcarries,
    packet.drop (link.encode network.ipVersion ++ network.encode).length⟩, htype, ?_⟩
  rw [Frame.encode, ← List.append_assoc]
  exact eq_append_iff_holds.mpr hboth

/-- The payload of a transport header does not start at the start of the packet. -/
theorem payloadOffset_pos {linkType : PcapLinkType}
    (hresult : (decodePacket packet linkType).transportProtocol ≠ .none) :
    0 < (decodePacket packet linkType).transportPayloadOffset := by
  obtain ⟨frame, rfl, rfl⟩ := exists_frame hresult
  rw [Frame.decodePacket_eq frame.holds_encode.1 frame.holds_encode.2, Frame.decoded]
  have hlink : 0 < frame.link.headerLength := by
    cases frame.link with
    | ethernet addresses tags => exact Nat.lt_add_right _ (by decide)
    | null family => exact Nat.zero_lt_succ 3
  dsimp only
  omega

/-- **The decoder recognises exactly the frames.** It reports a transport protocol when the bytes
are the encoding of a frame, and then its result is the one that belongs to the frame. -/
theorem decodePacket_recognises (packet : Bytes) (linkType : PcapLinkType) :
    ((decodePacket packet linkType).transportProtocol ≠ .none ↔
      ∃ frame : Frame, frame.link.linkType = linkType ∧ packet = frame.encode) ∧
    ∀ frame : Frame,
      decodePacket frame.encode frame.link.linkType = frame.decoded ∧
      subspan frame.encode frame.decoded.transportPayloadOffset
        frame.decoded.transportPayloadLength = frame.transport.payload := by
  refine ⟨⟨?_, ?_⟩, ?_⟩
  · exact exists_frame
  · rintro ⟨frame, rfl, rfl⟩
    rw [Frame.decodePacket_eq frame.holds_encode.1 frame.holds_encode.2]
    cases htp : frame.transport <;> simp [Frame.decoded, htp, Transport.transportProtocol]
  · intro frame
    exact ⟨Frame.decodePacket_eq frame.holds_encode.1 frame.holds_encode.2,
      (holds_iff_subspan.mp frame.holds_payload).2⟩

end PcapConstrictor
