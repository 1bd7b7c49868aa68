import PcapConstrictor.Decode.Recognition

/-!
# Decoding reads headers only

A frame is its headers and what stands behind them, the tail. Any other tail of the same length
makes a frame with the same decode result, so the decoder does not look at the payload of a packet
(`decodePacket_congr`).
-/

namespace PcapConstrictor

open ByteString

namespace Transport

/-- The bytes in front of the payload. -/
def header : Transport → Bytes
  | tcp segment =>
    encodeBe16 segment.srcPort ++ (encodeBe16 segment.dstPort ++
      (encodeBe32 segment.sequenceNumber ++ (encodeBe32 segment.acknowledgment ++
        ([byteOf segment.dataOffset segment.reserved, segment.flags] ++
          (encodeBe16 segment.window ++ (encodeBe16 segment.checksum ++
            (encodeBe16 segment.urgentPointer ++ segment.options)))))))
  | udp datagram =>
    encodeBe16 datagram.srcPort ++ (encodeBe16 datagram.dstPort ++
      (encodeBe16 datagram.udpLength ++ encodeBe16 datagram.checksum))

/-- The payload and what follows it in the IP packet. -/
def rest : Transport → Bytes
  | tcp segment => segment.payload
  | udp datagram => datagram.payload ++ datagram.slack

/-- A transport packet is its header and the rest. -/
theorem encode_eq (transport : Transport) :
    transport.encode = transport.header ++ transport.rest := by
  cases transport <;>
    simp only [encode, header, rest, TcpSegment.encode, UdpDatagram.encode, List.append_assoc]

/-- The headers of the grammar have the length that is read from them. -/
theorem length_header (transport : Transport) :
    transport.header.length = transport.headerLength := by
  cases transport with
  | tcp segment =>
    have hoptions := segment.length_options
    simp only [header, headerLength, List.length_append, length_encodeBe16, length_encodeBe32,
      List.length_cons, List.length_nil]
    omega
  | udp datagram => rfl

/-- The transport with other bytes behind its header. -/
def withRest : (transport : Transport) → (bytes : Bytes) →
    bytes.length = transport.rest.length → Transport
  | tcp segment, bytes, _ => tcp { segment with payload := bytes }
  | udp datagram, bytes, h =>
    have hlength : (bytes.take datagram.payload.length).length = datagram.payload.length := by
      rw [rest, List.length_append] at h
      rw [List.length_take, h, Nat.min_eq_left (Nat.le_add_right _ _)]
    udp
      { datagram with
        payload := bytes.take datagram.payload.length
        slack := bytes.drop datagram.payload.length
        length_lt := hlength.symm ▸ datagram.length_lt }

variable {transport : Transport} {bytes : Bytes} (h : bytes.length = transport.rest.length)

/-- Exchanging the rest for bytes of the same length leaves the payload's length. -/
theorem length_payload_withRest :
    (transport.withRest bytes h).payload.length = transport.payload.length := by
  cases transport with
  | tcp segment => exact h
  | udp datagram =>
    rw [rest, List.length_append] at h
    rw [withRest, payload, List.length_take, h, Nat.min_eq_left (Nat.le_add_right _ _)]
    rfl

/-- Exchanging the rest leaves the header's bytes. -/
theorem encode_withRest : (transport.withRest bytes h).encode = transport.header ++ bytes := by
  rw [encode_eq]
  cases transport with
  | tcp segment => rfl
  | udp datagram =>
    have hlength := length_payload_withRest h
    have hrest : (withRest (udp datagram) bytes h).rest = bytes := List.take_append_drop _ bytes
    rw [hrest]
    congr 1
    simp only [payload, withRest] at hlength
    simp only [withRest, header, UdpDatagram.udpLength, hlength]

/-- Exchanging the rest leaves the packet's length. -/
theorem length_encode_withRest :
    (transport.withRest bytes h).encode.length = transport.encode.length := by
  rw [encode_withRest, encode_eq, List.length_append, List.length_append, h]

/-- The header fields stay as they are. -/
theorem fields_withRest :
    let changed := transport.withRest bytes h
    changed.transportProtocol = transport.transportProtocol ∧
      changed.ipProtocol = transport.ipProtocol ∧
      changed.headerLength = transport.headerLength ∧ changed.srcPort = transport.srcPort ∧
      changed.dstPort = transport.dstPort ∧ changed.tcpSeq = transport.tcpSeq ∧
      changed.tcpFlags = transport.tcpFlags := by
  cases transport <;> exact ⟨rfl, rfl, rfl, rfl, rfl, rfl, rfl⟩

end Transport

namespace Network

/-- The bytes in front of the transport header. -/
def header : Network → Bytes
  | ipv4 packet =>
    [byteOf ⟨4, by decide⟩ packet.headerWords, packet.typeOfService] ++
      (encodeBe16 (UInt16.ofNat packet.totalLength) ++ (encodeBe16 packet.identification ++
        (encodeBe16 packet.flagsFragment ++
          ([packet.timeToLive, packet.transport.ipProtocol] ++ (encodeBe16 packet.checksum ++
            (packet.srcAddress.toList ++ (packet.dstAddress.toList ++ packet.options)))))))
  | ipv6 packet =>
    [byteOf ⟨6, by decide⟩ packet.classHigh] ++ (packet.classAndFlow.toList ++
      (encodeBe16 (UInt16.ofNat packet.payloadLength) ++
        ([packet.transport.ipProtocol, packet.hopLimit] ++
          (packet.srcAddress.toList ++ packet.dstAddress.toList))))

/-- A network packet is its header and the transport packet. -/
theorem encode_eq (network : Network) :
    network.encode = network.header ++ network.transport.encode := by
  cases network <;>
    simp only [encode, header, transport, Ipv4Packet.encode, Ipv6Packet.encode,
      List.append_assoc] <;>
    rfl

/-- The network headers have the length that is read from them. -/
theorem length_header (network : Network) : network.header.length = network.headerLength := by
  cases network with
  | ipv4 packet =>
    have hoptions := packet.length_options
    simp only [header, headerLength, List.length_append, length_encodeBe16, List.length_cons,
      List.length_nil, Vector.length_toList]
    omega
  | ipv6 packet =>
    simp only [header, headerLength, List.length_append, length_encodeBe16, List.length_cons,
      List.length_nil, Vector.length_toList]

/-- The network part with other bytes behind the transport header. -/
def withRest : (network : Network) → (bytes : Bytes) →
    bytes.length = network.transport.rest.length → Network
  | ipv4 packet, bytes, h =>
    ipv4
      { packet with
        transport := packet.transport.withRest bytes h
        length_lt := (Transport.length_encode_withRest h).symm ▸ packet.length_lt }
  | ipv6 packet, bytes, h =>
    ipv6
      { packet with
        transport := packet.transport.withRest bytes h
        length_lt := (Transport.length_encode_withRest h).symm ▸ packet.length_lt }

variable {network : Network} {bytes : Bytes} (h : bytes.length = network.transport.rest.length)

/-- The rest of a network packet is that of its transport packet. -/
theorem transport_withRest :
    (network.withRest bytes h).transport = network.transport.withRest bytes h := by
  cases network <;> rfl

/-- Exchanging the rest leaves both headers' bytes. -/
theorem encode_withRest :
    (network.withRest bytes h).encode = network.header ++ (network.transport.header ++ bytes) := by
  rw [encode_eq, transport_withRest, Transport.encode_withRest]
  congr 1
  cases network with
  | ipv4 packet =>
    have hlength := @Transport.length_encode_withRest packet.transport bytes h
    have hprotocol := (@Transport.fields_withRest packet.transport bytes h).2.1
    simp only [withRest, header, Ipv4Packet.totalLength, hlength, hprotocol]
  | ipv6 packet =>
    have hlength := @Transport.length_encode_withRest packet.transport bytes h
    have hprotocol := (@Transport.fields_withRest packet.transport bytes h).2.1
    simp only [withRest, header, Ipv6Packet.payloadLength, hlength, hprotocol]

/-- Exchanging the rest leaves every field that the decoder reports. -/
theorem fields_withRest :
    let changed := network.withRest bytes h
    changed.ipVersion = network.ipVersion ∧ changed.headerLength = network.headerLength ∧
      changed.addressLength = network.addressLength ∧ changed.srcAddress = network.srcAddress ∧
      changed.dstAddress = network.dstAddress := by
  cases network <;> exact ⟨rfl, rfl, rfl, rfl, rfl⟩

end Network

namespace Frame

/-- The headers of a frame. -/
def header (frame : Frame) : Bytes :=
  frame.link.encode frame.network.ipVersion ++ (frame.network.header ++ frame.transport.header)

/-- What stands behind the headers. -/
def tail (frame : Frame) : Bytes := frame.transport.rest ++ frame.trailing

/-- A frame is its headers and the bytes behind them. -/
theorem encode_eq (frame : Frame) : frame.encode = frame.header ++ frame.tail := by
  simp only [encode, header, tail, Network.encode_eq, Transport.encode_eq, transport,
    List.append_assoc]

/-- The decoder finds the payload behind the headers. -/
theorem length_header (frame : Frame) :
    frame.header.length = frame.decoded.transportPayloadOffset := by
  simp only [header, List.length_append, Link.length_encode, Network.length_header,
    Transport.length_header, decoded, Nat.add_assoc]

/-- **The tail does not matter**: other bytes in its place make a frame with the same headers and
the same decode result. -/
theorem exists_withTail (frame : Frame) {bytes : Bytes} (h : bytes.length = frame.tail.length) :
    ∃ frame' : Frame, frame'.link = frame.link ∧ frame'.encode = frame.header ++ bytes ∧
      frame'.decoded = frame.decoded := by
  obtain ⟨link, network, hcarries, trailing⟩ := frame
  rw [tail, List.length_append] at h
  have hrest : (bytes.take network.transport.rest.length).length
      = network.transport.rest.length := by
    rw [List.length_take, h]
    exact Nat.min_eq_left (Nat.le_add_right _ _)
  obtain ⟨hversion, hheader, haddressLength, hsrc, hdst⟩ := Network.fields_withRest hrest
  refine ⟨⟨link, network.withRest _ hrest, hversion ▸ hcarries,
    bytes.drop network.transport.rest.length⟩, rfl, ?_, ?_⟩
  · simp only [encode, header, transport, hversion, Network.encode_withRest, List.append_assoc,
      List.take_append_drop]
  · have hlength := Transport.length_payload_withRest hrest
    obtain ⟨hprotocol, hipProtocol, htransportHeader, hsrcPort, hdstPort, hseq, hflags⟩ :=
      Transport.fields_withRest hrest
    simp only [decoded, transport, Network.transport_withRest, hversion, hheader, haddressLength,
      hsrc, hdst, hlength, hprotocol, hipProtocol, htransportHeader, hsrcPort, hdstPort, hseq,
      hflags]

end Frame

/-- **The decoder reads headers only.** Packets of one length that agree up to the payload are
decoded alike. -/
theorem decodePacket_congr {packet packet' : Bytes} {linkType : PcapLinkType}
    (hdecoded : (decodePacket packet linkType).transportProtocol ≠ .none)
    (hlength : packet.length = packet'.length)
    (hheader : packet.take (decodePacket packet linkType).transportPayloadOffset
      = packet'.take (decodePacket packet linkType).transportPayloadOffset) :
    decodePacket packet' linkType = decodePacket packet linkType := by
  obtain ⟨frame, rfl, rfl⟩ := exists_frame hdecoded
  have hframe := Frame.decodePacket_eq frame.holds_encode.1 frame.holds_encode.2
  rw [hframe, ← frame.length_header] at hheader
  have hfront : packet'.take frame.header.length = frame.header := by
    rw [← hheader, frame.encode_eq, List.take_left]
  have htail : (packet'.drop frame.header.length).length = frame.tail.length := by
    rw [List.length_drop, ← hlength, frame.encode_eq, List.length_append, Nat.add_sub_cancel_left]
  obtain ⟨frame', hlink, hencode, hsame⟩ := frame.exists_withTail htail
  have hpacket : packet' = frame'.encode := by
    rw [hencode]
    nth_rewrite 1 [← List.take_append_drop frame.header.length packet']
    rw [hfront]
  rw [hframe, ← hsame, ← hlink, hpacket]
  exact Frame.decodePacket_eq frame'.holds_encode.1 frame'.holds_encode.2

end PcapConstrictor
