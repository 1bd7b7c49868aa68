import PcapConstrictor.Decode.PacketDecode

/-!
# What a decoded transport packet guarantees

Each decoder function gets one case lemma that says how it can end. From these,
`decodePacket_transport` collects what holds whenever `DecodePacket` reports TCP or UDP: the packet
is complete and unfragmented, its headers are adjacent and its payload range lies inside the
captured bytes. Both constrictors rely on these facts and check few of them again.
-/

namespace PcapConstrictor

open ByteString

/-! ## Case lemmas -/

/-- `DecodeTcp` fails, or the whole TCP header lies inside the packet and the IP length. -/
theorem decodeTcp_cases (result : PacketDecodeResult) (packet : Bytes)
    (transportOffset transportEnd : ℕ) :
    (∃ reason, reason ≠ .none ∧
      decodeTcp result packet transportOffset transportEnd = result.fail reason) ∨
    ∃ headerLength, 20 ≤ headerLength ∧ transportOffset + headerLength ≤ transportEnd ∧
      headerLength = ((byteAt packet (transportOffset + 12) >>> 4) * 4 : UInt8).toNat ∧
      decodeTcp result packet transportOffset transportEnd
        = withTcpHeader result packet transportOffset transportEnd headerLength := by
  unfold decodeTcp
  dsimp only
  split
  · exact Or.inl ⟨.truncatedTcpHeader, by decide, rfl⟩
  split
  · exact Or.inl ⟨.invalidTcpDataOffset, by decide, rfl⟩
  split
  · exact Or.inl ⟨.truncatedTcpHeader, by decide, rfl⟩
  · rename_i _ h2 h3
    simp only [not_or, not_not, Nat.not_lt] at h3
    have h20 : (20 : UInt8).toNat ≤ _ := UInt8.le_iff_toNat_le.mp (UInt8.not_lt.mp h2)
    exact Or.inr ⟨_, h20, h3.2, rfl, rfl⟩

/-- `DecodeUdp` fails, or the UDP datagram lies inside the IP length. -/
theorem decodeUdp_cases (result : PacketDecodeResult) (packet : Bytes)
    (transportOffset transportEnd : ℕ) :
    (∃ reason, reason ≠ .none ∧
      decodeUdp result packet transportOffset transportEnd = result.fail reason) ∨
    ∃ udpLength, 8 ≤ udpLength ∧ udpLength < 65536 ∧ transportOffset + udpLength ≤ transportEnd ∧
      udpLength = (readBe16 packet (transportOffset + 4)).toNat ∧
      decodeUdp result packet transportOffset transportEnd
        = withUdpHeader result packet transportOffset udpLength := by
  unfold decodeUdp
  dsimp only
  split
  · exact Or.inl ⟨.truncatedUdpHeader, by decide, rfl⟩
  split
  · exact Or.inl ⟨.invalidUdpLength, by decide, rfl⟩
  split
  · exact Or.inl ⟨.truncatedUdpPayload, by decide, rfl⟩
  · rename_i _ h2 h3
    have h8 : (8 : UInt16).toNat ≤ _ := UInt16.le_iff_toNat_le.mp (UInt16.not_lt.mp h2)
    exact Or.inr ⟨_, h8, UInt16.toNat_lt _, by omega, rfl, rfl⟩

/-- `DecodeIpv4` fails, or a complete IPv4 packet starts at `networkOffset`; only an unfragmented
one is decoded further. -/
theorem decodeIpv4_cases (result : PacketDecodeResult) (packet : Bytes) (networkOffset : ℕ) :
    (∃ reason, reason ≠ .none ∧ decodeIpv4 result packet networkOffset = result.fail reason) ∨
    ∃ ihl, 20 ≤ ihl ∧ byteAt packet networkOffset >>> 4 = 4 ∧
      ihl = ((byteAt packet networkOffset &&& 0x0F) * 4 : UInt8).toNat ∧
      networkOffset + (readBe16 packet (networkOffset + 2)).toNat ≤ packet.length ∧
      ihl ≤ (readBe16 packet (networkOffset + 2)).toNat ∧
      (decodeIpv4 result packet networkOffset
          = withIpv4Header result packet networkOffset ihl ∨
        readBe16 packet (networkOffset + 6) &&& 0x2000 = 0 ∧
          readBe16 packet (networkOffset + 6) &&& 0x1FFF = 0 ∧
          decodeIpv4 result packet networkOffset
            = decodeTransport (withIpv4Header result packet networkOffset ihl) packet
                (networkOffset + ihl)
                (networkOffset + (readBe16 packet (networkOffset + 2)).toNat)) := by
  unfold decodeIpv4
  dsimp only
  split
  · exact Or.inl ⟨.truncatedIpv4Header, by decide, rfl⟩
  split
  · exact Or.inl ⟨.invalidIpv4Ihl, by decide, rfl⟩
  split
  · exact Or.inl ⟨.truncatedIpv4Header, by decide, rfl⟩
  split
  · exact Or.inl ⟨.invalidIpv4TotalLength, by decide, rfl⟩
  split
  · exact Or.inl ⟨.truncatedIpv4Packet, by decide, rfl⟩
  rename_i _ h2 _ h4 h5
  -- behind all checks: the header length is at least 20 and at most the total length
  simp only [not_or, not_not] at h2 h5
  have h20 : (20 : UInt8).toNat ≤ _ := UInt8.le_iff_toNat_le.mp (UInt8.not_lt.mp h2.2)
  have hihl := UInt16.le_iff_toNat_le.mp (UInt16.not_lt.mp h4)
  rw [UInt8.toNat_toUInt16] at hihl
  refine Or.inr ⟨_, h20, h2.1, rfl, hasBytes_iff.mp h5, hihl, ?_⟩
  split
  · exact Or.inl rfl
  · rename_i h6
    simp only [not_or, not_not] at h6
    exact Or.inr ⟨h6.1, h6.2, rfl⟩

/-- `DecodeIpv6` fails, or a complete IPv6 packet without a listed extension header starts at
`networkOffset`. -/
theorem decodeIpv6_cases (result : PacketDecodeResult) (packet : Bytes) (networkOffset : ℕ) :
    (∃ reason, reason ≠ .none ∧ decodeIpv6 result packet networkOffset = result.fail reason) ∨
    byteAt packet networkOffset >>> 4 = 6 ∧
      networkOffset + (40 + (readBe16 packet (networkOffset + 4)).toNat) ≤ packet.length ∧
      ((∃ reason, reason ≠ .none ∧ decodeIpv6 result packet networkOffset
          = (withIpv6Header result packet networkOffset).fail reason) ∨
        decodeIpv6 result packet networkOffset
          = decodeTransport (withIpv6Header result packet networkOffset) packet
              (networkOffset + 40)
              (networkOffset + (40 + (readBe16 packet (networkOffset + 4)).toNat))) := by
  unfold decodeIpv6
  dsimp only
  split
  · exact Or.inl ⟨.truncatedIpv6Header, by decide, rfl⟩
  split
  · exact Or.inl ⟨.truncatedIpv6Header, by decide, rfl⟩
  split
  · exact Or.inl ⟨.truncatedIpv6Packet, by decide, rfl⟩
  rename_i h2 h3
  refine Or.inr ⟨not_not.mp h2, hasBytes_iff.mp (not_not.mp h3), ?_⟩
  split
  · exact Or.inl ⟨.unsupportedIpv6ExtensionHeaders, by decide, rfl⟩
  · exact Or.inr rfl

/-! ## The guarantee -/

/-- The length the IP header of a decoded packet announces, header included. -/
def ipTotalLength (packet : Bytes) (result : PacketDecodeResult) : ℕ :=
  match result.ipVersion with
  | .ipv6 => 40 + (readBe16 packet (result.networkHeaderOffset + 4)).toNat
  | _ => (readBe16 packet (result.networkHeaderOffset + 2)).toNat

/-- What a TCP or UDP decode result says about the packet. -/
structure TransportDecoded (packet : Bytes) (result : PacketDecodeResult) : Prop where
  success : result.success = true
  failureReason : result.failureReason = .none
  addressLength :
    result.ipVersion = .ipv4 ∧ result.addressLength = 4 ∨
      result.ipVersion = .ipv6 ∧ result.addressLength = 16
  srcPadded : ∀ i : Fin 16, result.addressLength.toNat ≤ i → result.srcAddress[i] = 0
  dstPadded : ∀ i : Fin 16, result.addressLength.toNat ≤ i → result.dstAddress[i] = 0
  protocol :
    result.transportProtocol = .tcp ∧ result.ipProtocol = kIpProtocolTcp ∨
      result.transportProtocol = .udp ∧ result.ipProtocol = kIpProtocolUdp
  unfragmented : result.ipVersion = .ipv4 →
    readBe16 packet (result.networkHeaderOffset + 6) &&& 0x2000 = 0 ∧
      readBe16 packet (result.networkHeaderOffset + 6) &&& 0x1FFF = 0
  complete : result.networkHeaderOffset + ipTotalLength packet result ≤ packet.length
  transportHeader :
    result.networkHeaderOffset + result.networkHeaderLength = result.transportHeaderOffset
  transportPayload :
    result.transportHeaderOffset + result.transportHeaderLength = result.transportPayloadOffset
  payload_le : result.transportPayloadOffset + result.transportPayloadLength
    ≤ result.networkHeaderOffset + ipTotalLength packet result

namespace TransportDecoded

variable {packet : Bytes} {result : PacketDecodeResult}

/-- The payload ends within the packet. -/
theorem payload_le_length (h : TransportDecoded packet result) :
    result.transportPayloadOffset + result.transportPayloadLength ≤ packet.length :=
  h.payload_le.trans h.complete

/-- The address bytes in use fit the address array. -/
theorem addressLength_le (h : TransportDecoded packet result) :
    result.addressLength.toNat ≤ 16 := by
  rcases h.addressLength with ⟨-, h4⟩ | ⟨-, h16⟩
  · rw [h4]
    exact Nat.le_of_ble_eq_true rfl
  · rw [h16]
    exact Nat.le_refl 16

/-- The policy's own bounds check of the payload succeeds. -/
theorem hasBytes_payload (h : TransportDecoded packet result) :
    HasBytes packet result.transportPayloadOffset result.transportPayloadLength :=
  hasBytes_iff.mpr h.payload_le_length

end TransportDecoded

/-- What is not copied is zero. -/
theorem copyAddress_padded (packet : Bytes) (offset length : ℕ) (i : Fin 16) (h : length ≤ i) :
    (copyAddress packet offset length)[i] = 0 := by
  simp [copyAddress, Nat.not_lt.mpr h]

/-- The IP stage has filled the record up to the transport header. -/
structure NetworkDecoded (packet : Bytes) (result : PacketDecodeResult) : Prop where
  success : result.success = true
  failureReason : result.failureReason = .none
  notTransport : result.transportProtocol = .none
  addressLength :
    result.ipVersion = .ipv4 ∧ result.addressLength = 4 ∨
      result.ipVersion = .ipv6 ∧ result.addressLength = 16
  srcPadded : ∀ i : Fin 16, result.addressLength.toNat ≤ i → result.srcAddress[i] = 0
  dstPadded : ∀ i : Fin 16, result.addressLength.toNat ≤ i → result.dstAddress[i] = 0
  unfragmented : result.ipVersion = .ipv4 →
    readBe16 packet (result.networkHeaderOffset + 6) &&& 0x2000 = 0 ∧
      readBe16 packet (result.networkHeaderOffset + 6) &&& 0x1FFF = 0
  complete : result.networkHeaderOffset + ipTotalLength packet result ≤ packet.length

/-- The transport stage turns the network guarantee into the transport guarantee. -/
theorem decodeTransport_transport {packet : Bytes} (result : PacketDecodeResult)
    (h : NetworkDecoded packet result)
    (hresult : (decodeTransport result packet
      (result.networkHeaderOffset + result.networkHeaderLength)
      (result.networkHeaderOffset + ipTotalLength packet result)).transportProtocol ≠ .none) :
    TransportDecoded packet (decodeTransport result packet
      (result.networkHeaderOffset + result.networkHeaderLength)
      (result.networkHeaderOffset + ipTotalLength packet result)) := by
  obtain ⟨hs, hf, hn, ha, hsrc, hdst, hu, hc⟩ := h
  unfold decodeTransport at hresult ⊢
  split_ifs at hresult ⊢ with htcp hudp
  · rcases decodeTcp_cases result packet _ _ with ⟨reason, -, heq⟩ | ⟨len, h20, hend, -, heq⟩
    · rw [heq] at hresult
      exact absurd hn hresult
    · rw [heq]
      refine ⟨hs, hf, ha, hsrc, hdst, Or.inl ⟨rfl, htcp⟩, hu, hc, rfl, rfl, ?_⟩
      simp only [withTcpHeader]
      -- the bound is the IP packet's end, not the frame's
      change _ ≤ result.networkHeaderOffset + ipTotalLength packet result
      omega
  · rcases decodeUdp_cases result packet _ _ with ⟨reason, -, heq⟩ | ⟨len, h8, -, hend, -, heq⟩
    · rw [heq] at hresult
      exact absurd hn hresult
    · rw [heq]
      refine ⟨hs, hf, ha, hsrc, hdst, Or.inr ⟨rfl, hudp⟩, hu, hc, rfl, rfl, ?_⟩
      simp only [withUdpHeader]
      change _ ≤ result.networkHeaderOffset + ipTotalLength packet result
      omega
  · exact absurd hn hresult

/-- No stage before the network header has failed or found a transport header. -/
def Undecoded (result : PacketDecodeResult) : Prop :=
  result.failureReason = .none ∧ result.transportProtocol = .none

/-- A transport header behind an IPv4 header stands within the packet. -/
theorem decodeIpv4_transport {packet : Bytes} {result : PacketDecodeResult} {networkOffset : ℕ}
    (h : Undecoded result)
    (hresult : (decodeIpv4 result packet networkOffset).transportProtocol ≠ .none) :
    TransportDecoded packet (decodeIpv4 result packet networkOffset) := by
  rcases decodeIpv4_cases result packet networkOffset with
    ⟨reason, -, heq⟩ | ⟨ihl, -, -, -, hlen, -, heq | ⟨hmore, hoffset, heq⟩⟩
  · rw [heq] at hresult
    exact absurd h.2 hresult
  · rw [heq] at hresult
    exact absurd h.2 hresult
  · rw [heq] at hresult ⊢
    exact decodeTransport_transport (withIpv4Header result packet networkOffset ihl)
      ⟨rfl, h.1, h.2, Or.inl ⟨rfl, rfl⟩, fun i hi => copyAddress_padded _ _ _ i hi,
        fun i hi => copyAddress_padded _ _ _ i hi, fun _ => ⟨hmore, hoffset⟩, hlen⟩ hresult

/-- A transport header behind an IPv6 header stands within the packet. -/
theorem decodeIpv6_transport {packet : Bytes} {result : PacketDecodeResult} {networkOffset : ℕ}
    (h : Undecoded result)
    (hresult : (decodeIpv6 result packet networkOffset).transportProtocol ≠ .none) :
    TransportDecoded packet (decodeIpv6 result packet networkOffset) := by
  rcases decodeIpv6_cases result packet networkOffset with
    ⟨reason, -, heq⟩ | ⟨-, hlen, ⟨reason, -, heq⟩ | heq⟩
  · rw [heq] at hresult
    exact absurd h.2 hresult
  · rw [heq] at hresult
    exact absurd h.2 hresult
  · rw [heq] at hresult ⊢
    exact decodeTransport_transport (withIpv6Header result packet networkOffset)
      ⟨rfl, h.1, h.2, Or.inr ⟨rfl, rfl⟩, fun i hi => copyAddress_padded _ _ _ i hi,
        fun i hi => copyAddress_padded _ _ _ i hi, (fun hv => nomatch hv), hlen⟩ hresult

/-- A transport header behind a loopback header stands within the packet. -/
theorem decodeNull_transport {packet : Bytes} {result : PacketDecodeResult} (h : Undecoded result)
    (hresult : (decodeNull result packet).transportProtocol ≠ .none) :
    TransportDecoded packet (decodeNull result packet) := by
  revert hresult
  unfold decodeNull
  dsimp only
  split
  · exact fun hresult => absurd h.2 hresult
  split
  · exact fun hresult => absurd h.2 hresult
  split
  · exact fun hresult => decodeIpv4_transport ⟨h.1, h.2⟩ hresult
  · exact fun hresult => decodeIpv6_transport ⟨h.1, h.2⟩ hresult
  · exact fun hresult => absurd h.2 hresult

/-- The VLAN loop touches neither the failure reason, unless it returns early, nor the transport
protocol. -/
theorem stripVlanTags_undecoded (packet : Bytes) (result : PacketDecodeResult) (networkOffset : ℕ)
    (h : Undecoded result) :
    match stripVlanTags packet result networkOffset with
    | .error result => result.transportProtocol = .none
    | .ok (result, _) => Undecoded result := by
  fun_induction stripVlanTags packet result networkOffset with
  | case1 result networkOffset hvlan hbytes ih => exact ih h
  | case2 result networkOffset hvlan hbytes => exact h.2
  | case3 result networkOffset hvlan => exact h

/-- **Transport guarantee.** Whenever `DecodePacket` reports TCP or UDP, the packet is a complete,
unfragmented IP packet with adjacent headers and its payload inside the captured bytes. -/
theorem decodePacket_transport {packet : Bytes} {linkType : PcapLinkType}
    (hresult : (decodePacket packet linkType).transportProtocol ≠ .none) :
    TransportDecoded packet (decodePacket packet linkType) := by
  cases linkType with
  | null => exact decodeNull_transport ⟨rfl, rfl⟩ hresult
  | ethernet =>
    have hvlan := stripVlanTags_undecoded packet
      { success := true, linkHeaderLength := 14, ethertype := readBe16 packet 12 } 14 ⟨rfl, rfl⟩
    revert hresult
    unfold decodePacket
    dsimp only
    split
    · exact fun hresult => absurd rfl hresult
    split
    · rename_i result heq
      rw [heq] at hvlan
      exact fun hresult => absurd hvlan hresult
    · rename_i result networkOffset heq
      rw [heq] at hvlan
      split
      · exact fun hresult => decodeIpv4_transport hvlan hresult
      split
      · exact fun hresult => decodeIpv6_transport hvlan hresult
      · exact fun hresult => absurd hvlan.2 hresult

/-! ## Captured packets -/

namespace CapturedPacket

/-- The decoder reports TCP. -/
def IsTcp (packet : CapturedPacket) : Prop := packet.decoded.transportProtocol = .tcp

/-- The decoder reports UDP. -/
def IsUdp (packet : CapturedPacket) : Prop := packet.decoded.transportProtocol = .udp

instance (packet : CapturedPacket) : Decidable packet.IsTcp :=
  inferInstanceAs (Decidable (_ = _))

instance (packet : CapturedPacket) : Decidable packet.IsUdp :=
  inferInstanceAs (Decidable (_ = _))

/-- The transport payload. -/
def payload (packet : CapturedPacket) : Bytes :=
  subspan packet.safeData packet.decoded.transportPayloadOffset
    packet.decoded.transportPayloadLength

/-- A TCP packet was decoded to its transport header. -/
theorem IsTcp.transportDecoded {packet : CapturedPacket} (h : packet.IsTcp) :
    TransportDecoded packet.safeData packet.decoded :=
  decodePacket_transport (by rw [← decoded, h]; exact nofun)

/-- A UDP packet was decoded to its transport header. -/
theorem IsUdp.transportDecoded {packet : CapturedPacket} (h : packet.IsUdp) :
    TransportDecoded packet.safeData packet.decoded :=
  decodePacket_transport (by rw [← decoded, h]; exact nofun)

/-- The payload has the length that the decoder reports. -/
theorem length_payload {packet : CapturedPacket}
    (h : TransportDecoded packet.safeData packet.decoded) :
    packet.payload.length = packet.decoded.transportPayloadLength :=
  length_subspan h.payload_le_length

end CapturedPacket

end PcapConstrictor
