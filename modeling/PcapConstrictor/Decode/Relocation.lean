import PcapConstrictor.Decode.Recognition

/-!
# Decoding behind other bytes

What the decoder says about an IP packet depends on its bytes only: behind a link header of any
length it reads the same fields, and its payload offset moves along (`decode_relocated`).
-/

namespace PcapConstrictor

open ByteString

/-- A decode result without the fields that say where in the packet the headers were found. -/
def PacketDecodeResult.content (result : PacketDecodeResult) : PacketDecodeResult :=
  { result with
    ethertype := 0
    vlanTagCount := 0
    linkHeaderLength := 0
    networkHeaderOffset := 0
    transportHeaderOffset := 0
    transportPayloadOffset := 0 }

/-- `result` says of an IP packet behind `n` bytes what `alone` says of the packet by itself. -/
structure Relocated (n : ℕ) (result alone : PacketDecodeResult) : Prop where
  content : result.content = alone.content
  payloadOffset : alone.transportProtocol ≠ .none →
    result.transportPayloadOffset = n + alone.transportPayloadOffset

section Relocation

variable {front ip : Bytes} {result alone : PacketDecodeResult}

/-- An address is copied from the same bytes behind a front part. -/
theorem copyAddress_append_right (offset length : ℕ) :
    copyAddress (front ++ ip) (front.length + offset) length = copyAddress ip offset length := by
  simp only [copyAddress, Nat.add_assoc, byteAt_append_right]

/-- A result that has found no transport header has no payload offset to move. -/
theorem Relocated.of_content {n : ℕ} (h : result.content = alone.content)
    (hnone : alone.transportProtocol = .none) : Relocated n result alone :=
  ⟨h, fun hne => absurd hnone hne⟩

/-- Reporting a failure on both sides keeps the results in step. -/
theorem Relocated.fail {n : ℕ} (h : Relocated n result alone)
    (hnone : alone.transportProtocol = .none) (reason : PacketDecodeFailureReason) :
    Relocated n (result.fail reason) (alone.fail reason) :=
  .of_content (congrArg (·.fail reason) h.content) hnone

/-- Results in step carry the same protocol. -/
theorem Relocated.ipProtocol_eq {n : ℕ} (h : Relocated n result alone) :
    result.ipProtocol = alone.ipProtocol := by
  have hprotocol : result.content.ipProtocol = alone.content.ipProtocol := by rw [h.content]
  exact hprotocol

/-- A TCP header decodes alike behind a front part. -/
theorem decodeTcp_relocated (h : Relocated front.length result alone)
    (hnone : alone.transportProtocol = .none) (offset stop : ℕ) :
    Relocated front.length
      (decodeTcp result (front ++ ip) (front.length + offset) (front.length + stop))
      (decodeTcp alone ip offset stop) := by
  unfold decodeTcp
  dsimp only
  simp only [hasBytes_append_right, Nat.add_assoc, byteAt_append_right, gt_iff_lt,
    Nat.add_lt_add_iff_left]
  generalize ((byteAt ip (offset + 12) >>> 4) * 4 : UInt8) = headerLength
  split
  · exact h.fail hnone _
  split
  · exact h.fail hnone _
  split
  · exact h.fail hnone _
  · have hcontent : (withTcpHeader result.content ip offset stop headerLength.toNat).content
        = (withTcpHeader alone.content ip offset stop headerLength.toNat).content := by
      rw [h.content]
    refine ⟨?_, fun _ => Nat.add_assoc _ _ _⟩
    refine Eq.trans ?_ hcontent
    simp only [withTcpHeader, PacketDecodeResult.content, Nat.add_assoc, readBe16_append_right,
      readBe32_append_right, byteAt_append_right, Nat.add_sub_add_left]

/-- A UDP header decodes alike behind a front part. -/
theorem decodeUdp_relocated (h : Relocated front.length result alone)
    (hnone : alone.transportProtocol = .none) (offset stop : ℕ) :
    Relocated front.length
      (decodeUdp result (front ++ ip) (front.length + offset) (front.length + stop))
      (decodeUdp alone ip offset stop) := by
  unfold decodeUdp
  dsimp only
  simp only [hasBytes_append_right, Nat.add_assoc, readBe16_append_right, gt_iff_lt,
    Nat.add_lt_add_iff_left]
  generalize readBe16 ip (offset + 4) = udpLength
  split
  · exact h.fail hnone _
  split
  · exact h.fail hnone _
  split
  · exact h.fail hnone _
  · have hcontent : (withUdpHeader result.content ip offset udpLength.toNat).content
        = (withUdpHeader alone.content ip offset udpLength.toNat).content := by rw [h.content]
    refine ⟨?_, fun _ => Nat.add_assoc _ _ _⟩
    refine Eq.trans ?_ hcontent
    simp only [withUdpHeader, PacketDecodeResult.content, Nat.add_assoc, readBe16_append_right]

/-- A transport header decodes alike behind a front part. -/
theorem decodeTransport_relocated (h : Relocated front.length result alone)
    (hnone : alone.transportProtocol = .none) (offset stop : ℕ) :
    Relocated front.length
      (decodeTransport result (front ++ ip) (front.length + offset) (front.length + stop))
      (decodeTransport alone ip offset stop) := by
  unfold decodeTransport
  rw [h.ipProtocol_eq]
  split
  · exact decodeTcp_relocated h hnone offset stop
  split
  · exact decodeUdp_relocated h hnone offset stop
  · exact h

/-- An IPv4 packet decodes alike behind a front part. -/
theorem decodeIpv4_relocated (h : Relocated front.length result alone)
    (hnone : alone.transportProtocol = .none) :
    Relocated front.length (decodeIpv4 result (front ++ ip) front.length)
      (decodeIpv4 alone ip 0) := by
  have hbytes := hasBytes_append_right front ip 0
  have hfirst := byteAt_append_right front ip 0
  rw [Nat.add_zero] at hbytes hfirst
  unfold decodeIpv4
  dsimp only
  rw [hfirst]
  simp only [hbytes, readBe16_append_right, Nat.zero_add]
  -- the same check fails on both sides, or none does
  split
  · exact h.fail hnone _
  split
  · exact h.fail hnone _
  split
  · exact h.fail hnone _
  split
  · exact h.fail hnone _
  split
  · exact h.fail hnone _
  generalize ((byteAt ip 0 &&& 0x0F) * 4 : UInt8).toNat = ihl
  have hheader : Relocated front.length (withIpv4Header result (front ++ ip) front.length ihl)
      (withIpv4Header alone ip 0 ihl) := by
    refine .of_content ?_ hnone
    have hcontent : (withIpv4Header result.content ip 0 ihl).content
        = (withIpv4Header alone.content ip 0 ihl).content := by rw [h.content]
    refine Eq.trans ?_ hcontent
    simp only [withIpv4Header, PacketDecodeResult.content, byteAt_append_right,
      copyAddress_append_right, Nat.zero_add]
  split
  · exact hheader
  · exact decodeTransport_relocated hheader hnone _ _

/-- An IPv6 packet decodes alike behind a front part. -/
theorem decodeIpv6_relocated (h : Relocated front.length result alone)
    (hnone : alone.transportProtocol = .none) :
    Relocated front.length (decodeIpv6 result (front ++ ip) front.length)
      (decodeIpv6 alone ip 0) := by
  have hbytes := hasBytes_append_right front ip 0
  have hfirst := byteAt_append_right front ip 0
  rw [Nat.add_zero] at hbytes hfirst
  unfold decodeIpv6
  dsimp only
  rw [hfirst]
  simp only [hbytes, readBe16_append_right, Nat.zero_add]
  -- the same check fails on both sides, or none does
  split
  · exact h.fail hnone _
  split
  · exact h.fail hnone _
  split
  · exact h.fail hnone _
  have hheader : Relocated front.length (withIpv6Header result (front ++ ip) front.length)
      (withIpv6Header alone ip 0) := by
    refine .of_content ?_ hnone
    have hcontent : (withIpv6Header result.content ip 0).content
        = (withIpv6Header alone.content ip 0).content := by rw [h.content]
    refine Eq.trans ?_ hcontent
    simp only [withIpv6Header, PacketDecodeResult.content, byteAt_append_right,
      copyAddress_append_right, Nat.zero_add]
  rw [hheader.ipProtocol_eq]
  split
  · exact hheader.fail hnone _
  · exact decodeTransport_relocated hheader hnone _ _

/-- **The decoder does not look at the bytes in front of an IP packet.** -/
theorem decode_relocated (ipVersion : IpVersion) (h : Relocated front.length result alone)
    (hnone : alone.transportProtocol = .none) :
    Relocated front.length (Network.decode ipVersion result (front ++ ip) front.length)
      (Network.decode ipVersion alone ip 0) := by
  cases ipVersion with
  | none => exact h
  | ipv4 => exact decodeIpv4_relocated h hnone
  | ipv6 => exact decodeIpv6_relocated h hnone

end Relocation

end PcapConstrictor
