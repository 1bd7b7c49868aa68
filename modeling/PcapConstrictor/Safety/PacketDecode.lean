import PcapConstrictor.Common.Guarded
import PcapConstrictor.Decode.Transport

/-!
# The decoder reads inside the packet

Reference: `decode/PacketDecode.cpp`.

The guarded reading of every function of the decoder: each access, each `size_t` subtraction and
each copy into an address array is tested, in the order of the source, and the VLAN loop runs on
fuel. The lemma beside each definition says that the tests pass and that the plain reading is
returned. What makes them pass are the checks of the decoder itself, so no lemma but the one of the
VLAN loop has a hypothesis about the packet.
-/

namespace PcapConstrictor

open ByteString Guarded

/-- `CopyAddress`: the array is cleared, then `length` bytes are copied to its front. -/
def Checked.copyAddress (packet : Bytes) (offset length : ℕ) : Guarded IpAddress :=
  copyCells IpAddress.zero packet offset length

/-- Copying an address never faults when it lies in the packet and fits the array. -/
theorem Checked.copyAddress_eq {packet : Bytes} {offset length : ℕ}
    (hread : offset + length ≤ packet.length) (hwrite : length ≤ 16) :
    Checked.copyAddress packet offset length
      = .ok (PcapConstrictor.copyAddress packet offset length) := by
  rw [copyAddress, copyCells_eq hread hwrite]
  refine congrArg Except.ok (Vector.ext ?_)
  intro i hi
  simp [PcapConstrictor.copyAddress, IpAddress.zero]

/-! ## Transport headers -/

/-- `DecodeTcp`. -/
def Checked.decodeTcp (result : PacketDecodeResult) (packet : Bytes)
    (transportOffset transportEnd : ℕ) : Guarded PacketDecodeResult := do
  let fits ← hasBytes packet transportOffset 20
  if ¬ fits = true ∨ transportOffset + 20 > transportEnd then
    return result.fail .truncatedTcpHeader
  else
    let dataOffset ← readAt packet (transportOffset + 12)
    let headerLength : UInt8 := (dataOffset >>> 4) * 4
    if headerLength < 20 then
      return result.fail .invalidTcpDataOffset
    else
      let fits ← hasBytes packet transportOffset headerLength.toNat
      if ¬ fits = true ∨ transportOffset + headerLength.toNat > transportEnd then
        return result.fail .truncatedTcpHeader
      else
        let payloadLength ← sub transportEnd (transportOffset + headerLength.toNat)
        let srcPort ← readBe16 packet transportOffset
        let dstPort ← readBe16 packet (transportOffset + 2)
        let tcpSeq ← readBe32 packet (transportOffset + 4)
        let tcpFlags ← readAt packet (transportOffset + 13)
        return { result with
          transportProtocol := .tcp
          transportHeaderOffset := transportOffset
          transportHeaderLength := headerLength.toNat
          transportPayloadOffset := transportOffset + headerLength.toNat
          transportPayloadLength := payloadLength
          srcPort, dstPort, tcpSeq, tcpFlags }

/-- A TCP header is decoded without a fault, wherever it should stand. -/
theorem Checked.decodeTcp_eq (result : PacketDecodeResult) (packet : Bytes)
    (transportOffset transportEnd : ℕ) :
    Checked.decodeTcp result packet transportOffset transportEnd
      = .ok (PcapConstrictor.decodeTcp result packet transportOffset transportEnd) := by
  unfold decodeTcp PcapConstrictor.decodeTcp
  simp only [hasBytes_eq, ok_bind, pure_eq_ok, decide_eq_true_eq]
  split
  · rfl
  next hfits =>
  simp only [hasBytes_iff, not_or, not_not, Nat.not_lt] at hfits
  -- twenty header bytes are there: the data offset and all fixed fields are
  rw [readAt_eq (by omega), ok_bind]
  split
  · rfl
  split
  · rfl
  next hheader =>
  simp only [hasBytes_iff, not_or, not_not, Nat.not_lt] at hheader
  rw [sub_eq hheader.2, ok_bind, readBe16_eq (by omega), ok_bind, readBe16_eq (by omega), ok_bind,
    readBe32_eq (by omega), ok_bind, readAt_eq (by omega), ok_bind]
  rfl

/-- `DecodeUdp`. -/
def Checked.decodeUdp (result : PacketDecodeResult) (packet : Bytes)
    (transportOffset transportEnd : ℕ) : Guarded PacketDecodeResult := do
  let fits ← hasBytes packet transportOffset 8
  if ¬ fits = true ∨ transportOffset + 8 > transportEnd then
    return result.fail .truncatedUdpHeader
  else
    let udpLength ← readBe16 packet (transportOffset + 4)
    if udpLength < 8 then
      return result.fail .invalidUdpLength
    else if transportOffset + udpLength.toNat > transportEnd then
      return result.fail .truncatedUdpPayload
    else
      let payloadLength ← sub udpLength.toNat 8
      let srcPort ← readBe16 packet transportOffset
      let dstPort ← readBe16 packet (transportOffset + 2)
      return { result with
        transportProtocol := .udp
        transportHeaderOffset := transportOffset
        transportHeaderLength := 8
        transportPayloadOffset := transportOffset + 8
        transportPayloadLength := payloadLength
        srcPort, dstPort }

theorem Checked.decodeUdp_eq (result : PacketDecodeResult) (packet : Bytes)
    (transportOffset transportEnd : ℕ) :
    Checked.decodeUdp result packet transportOffset transportEnd
      = .ok (PcapConstrictor.decodeUdp result packet transportOffset transportEnd) := by
  unfold decodeUdp PcapConstrictor.decodeUdp
  simp only [hasBytes_eq, ok_bind, pure_eq_ok, decide_eq_true_eq]
  split
  · rfl
  next hfits =>
  simp only [hasBytes_iff, not_or, not_not, Nat.not_lt] at hfits
  rw [readBe16_eq (by omega), ok_bind]
  split
  · rfl
  next hlength =>
  split
  · rfl
  have h8 : 8 ≤ (ByteString.readBe16 packet (transportOffset + 4)).toNat :=
    UInt16.le_iff_toNat_le.mp (UInt16.not_lt.mp hlength)
  rw [sub_eq h8, ok_bind, readBe16_eq (by omega), ok_bind, readBe16_eq (by omega), ok_bind]
  rfl

/-- The dispatch on the IP protocol. -/
def Checked.decodeTransport (result : PacketDecodeResult) (packet : Bytes)
    (transportOffset transportEnd : ℕ) : Guarded PacketDecodeResult :=
  if result.ipProtocol = kIpProtocolTcp then
    decodeTcp result packet transportOffset transportEnd
  else if result.ipProtocol = kIpProtocolUdp then
    decodeUdp result packet transportOffset transportEnd
  else
    return result

theorem Checked.decodeTransport_eq (result : PacketDecodeResult) (packet : Bytes)
    (transportOffset transportEnd : ℕ) :
    Checked.decodeTransport result packet transportOffset transportEnd
      = .ok (PcapConstrictor.decodeTransport result packet transportOffset transportEnd) := by
  unfold decodeTransport PcapConstrictor.decodeTransport
  split
  · apply decodeTcp_eq
  split
  · apply decodeUdp_eq
  · rfl

/-! ## Network headers -/

/-- `DecodeIpv4`. -/
def Checked.decodeIpv4 (result : PacketDecodeResult) (packet : Bytes) (networkOffset : ℕ) :
    Guarded PacketDecodeResult := do
  let fits ← hasBytes packet networkOffset 20
  if ¬ fits = true then
    return result.fail .truncatedIpv4Header
  else
    let first ← readAt packet networkOffset
    let version : UInt8 := first >>> 4
    let ihl : UInt8 := (first &&& 0x0F) * 4
    if version ≠ 4 ∨ ihl < 20 then
      return result.fail .invalidIpv4Ihl
    else
      let fits ← hasBytes packet networkOffset ihl.toNat
      if ¬ fits = true then
        return result.fail .truncatedIpv4Header
      else
        let totalLength ← readBe16 packet (networkOffset + 2)
        if totalLength < ihl.toUInt16 then
          return result.fail .invalidIpv4TotalLength
        else
          let fits ← hasBytes packet networkOffset totalLength.toNat
          if ¬ fits = true then
            return result.fail .truncatedIpv4Packet
          else
            let ipProtocol ← readAt packet (networkOffset + 9)
            let srcAddress ← copyAddress packet (networkOffset + 12) 4
            let dstAddress ← copyAddress packet (networkOffset + 16) 4
            let result := { result with
              success := true
              ipVersion := .ipv4
              networkHeaderOffset := networkOffset
              networkHeaderLength := ihl.toNat
              addressLength := 4
              ipProtocol, srcAddress, dstAddress }
            let flagsFragment ← readBe16 packet (networkOffset + 6)
            let moreFragments := flagsFragment &&& 0x2000 ≠ 0
            let fragmentOffset := flagsFragment &&& 0x1FFF
            if moreFragments ∨ fragmentOffset ≠ 0 then
              return result
            else
              decodeTransport result packet (networkOffset + ihl.toNat)
                (networkOffset + totalLength.toNat)

theorem Checked.decodeIpv4_eq (result : PacketDecodeResult) (packet : Bytes) (networkOffset : ℕ) :
    Checked.decodeIpv4 result packet networkOffset
      = .ok (PcapConstrictor.decodeIpv4 result packet networkOffset) := by
  unfold decodeIpv4 PcapConstrictor.decodeIpv4
  simp only [hasBytes_eq, ok_bind, pure_eq_ok, decide_eq_true_eq]
  split
  · rfl
  next hfits =>
  simp only [hasBytes_iff, not_not] at hfits
  -- the twenty fixed bytes cover every field but the options
  rw [readAt_eq (by omega), ok_bind]
  split
  · rfl
  split
  · rfl
  rw [readBe16_eq (by omega), ok_bind]
  split
  · rfl
  split
  · rfl
  rw [readAt_eq (by omega), ok_bind, copyAddress_eq (by omega) (by omega), ok_bind,
    copyAddress_eq (by omega) (by omega), ok_bind, readBe16_eq (by omega), ok_bind]
  split
  · rfl
  · apply decodeTransport_eq

/-- `DecodeIpv6`. -/
def Checked.decodeIpv6 (result : PacketDecodeResult) (packet : Bytes) (networkOffset : ℕ) :
    Guarded PacketDecodeResult := do
  let fits ← hasBytes packet networkOffset 40
  if ¬ fits = true then
    return result.fail .truncatedIpv6Header
  else
    let first ← readAt packet networkOffset
    let version : UInt8 := first >>> 4
    if version ≠ 6 then
      return result.fail .truncatedIpv6Header
    else
      let payloadLength ← readBe16 packet (networkOffset + 4)
      let totalLength := 40 + payloadLength.toNat
      let fits ← hasBytes packet networkOffset totalLength
      if ¬ fits = true then
        return result.fail .truncatedIpv6Packet
      else
        let ipProtocol ← readAt packet (networkOffset + 6)
        let srcAddress ← copyAddress packet (networkOffset + 8) 16
        let dstAddress ← copyAddress packet (networkOffset + 24) 16
        let result := { result with
          success := true
          ipVersion := .ipv6
          networkHeaderOffset := networkOffset
          networkHeaderLength := 40
          addressLength := 16
          ipProtocol, srcAddress, dstAddress }
        if isUnsupportedIpv6Extension result.ipProtocol then
          return result.fail .unsupportedIpv6ExtensionHeaders
        else
          decodeTransport result packet (networkOffset + 40) (networkOffset + totalLength)

theorem Checked.decodeIpv6_eq (result : PacketDecodeResult) (packet : Bytes) (networkOffset : ℕ) :
    Checked.decodeIpv6 result packet networkOffset
      = .ok (PcapConstrictor.decodeIpv6 result packet networkOffset) := by
  unfold decodeIpv6 PcapConstrictor.decodeIpv6
  simp only [hasBytes_eq, ok_bind, pure_eq_ok, decide_eq_true_eq]
  split
  · rfl
  next hfits =>
  simp only [hasBytes_iff, not_not] at hfits
  rw [readAt_eq (by omega), ok_bind]
  split
  · rfl
  rw [readBe16_eq (by omega), ok_bind]
  split
  · rfl
  rw [readAt_eq (by omega), ok_bind, copyAddress_eq (by omega) (by omega), ok_bind,
    copyAddress_eq (by omega) (by omega), ok_bind]
  change (if isUnsupportedIpv6Extension (withIpv6Header result packet networkOffset).ipProtocol
    then _ else _) = _
  split
  · rfl
  · apply decodeTransport_eq

/-! ## Link headers -/

/-- The IP version the first nibble after the DLT_NULL header announces. -/
def Checked.nibbleIpVersion (packet : Bytes) : Guarded IpVersion := do
  let fits ← hasBytes packet 4 1
  if fits = true then
    let first ← readAt packet 4
    let version : UInt8 := first >>> 4
    return if version = 4 then .ipv4 else if version = 6 then .ipv6 else .none
  else
    return .none

/-- The version's half byte is read behind a length check. -/
theorem Checked.nibbleIpVersion_eq (packet : Bytes) :
    Checked.nibbleIpVersion packet = .ok (PcapConstrictor.nibbleIpVersion packet) := by
  unfold nibbleIpVersion PcapConstrictor.nibbleIpVersion
  simp only [hasBytes_eq, ok_bind, pure_eq_ok, decide_eq_true_eq]
  split
  · next hfits =>
    rw [hasBytes_iff] at hfits
    rw [readAt_eq (by omega), ok_bind]
  · rfl

/-- `DecodeNull`. -/
def Checked.decodeNull (result : PacketDecodeResult) (packet : Bytes) :
    Guarded PacketDecodeResult := do
  let fits ← hasBytes packet 0 4
  if ¬ fits = true then
    return { result with failureReason := .truncatedNullHeader }
  else
    let familyBytes ← readLe32 packet 0
    let family := familyIpVersion familyBytes
    let nibble ← nibbleIpVersion packet
    let result :=
      { result with
        success := true
        linkHeaderLength := 4
        networkHeaderOffset := 4
        ethertype := nullEthertype result.ethertype family }
    if family ≠ .none ∧ nibble ≠ .none ∧ family ≠ nibble then
      return result.fail .unsupportedNullFamily
    else
      let ipVersion := if family ≠ .none then family else nibble
      match ipVersion with
      | .ipv4 => decodeIpv4 { result with ethertype := kEtherTypeIpv4 } packet 4
      | .ipv6 => decodeIpv6 { result with ethertype := kEtherTypeIpv6 } packet 4
      | .none => return result.fail .unsupportedNullFamily

/-- A loopback frame is decoded without a fault. -/
theorem Checked.decodeNull_eq (result : PacketDecodeResult) (packet : Bytes) :
    Checked.decodeNull result packet = .ok (PcapConstrictor.decodeNull result packet) := by
  unfold decodeNull PcapConstrictor.decodeNull
  simp only [hasBytes_eq, nibbleIpVersion_eq, ok_bind, pure_eq_ok, decide_eq_true_eq]
  split
  · rfl
  next hfits =>
  simp only [hasBytes_iff, not_not] at hfits
  rw [readLe32_eq (by omega), ok_bind]
  split
  · rfl
  generalize (if familyIpVersion (ByteString.readLe32 packet 0) ≠ .none then _ else _) = ipVersion
  cases ipVersion with
  | none => rfl
  | ipv4 => apply decodeIpv4_eq
  | ipv6 => apply decodeIpv6_eq

/-- The VLAN loop of `DecodePacket`, for at most `fuel` tags. -/
def Checked.stripVlanTags (packet : Bytes) : ℕ → PacketDecodeResult → ℕ →
    Guarded (Except PacketDecodeResult (PacketDecodeResult × ℕ))
  | 0, _, _ => .error .endless
  | fuel + 1, result, networkOffset =>
    if isVlanEthertype result.ethertype then do
      let fits ← hasBytes packet networkOffset 4
      if fits = true then
        let ethertype ← readBe16 packet (networkOffset + 2)
        stripVlanTags packet fuel
          { result with
            vlanTagCount := result.vlanTagCount + 1
            ethertype
            linkHeaderLength := result.linkHeaderLength + 4 }
          (networkOffset + 4)
      else
        return .error (result.fail .truncatedVlanTag)
    else
      return .ok (result, networkOffset)

/-- Each tag takes four bytes of the packet, so the loop ends within as many rounds as bytes are
left. -/
theorem Checked.stripVlanTags_eq {packet : Bytes} {fuel : ℕ} (result : PacketDecodeResult)
    (networkOffset : ℕ) (hfuel : packet.length - networkOffset < fuel) :
    Checked.stripVlanTags packet fuel result networkOffset
      = .ok (PcapConstrictor.stripVlanTags packet result networkOffset) := by
  induction fuel generalizing result networkOffset with
  | zero => omega
  | succ fuel ih =>
    unfold stripVlanTags PcapConstrictor.stripVlanTags
    split
    · simp only [hasBytes_eq, ok_bind, pure_eq_ok, decide_eq_true_eq]
      split
      · next hfits =>
        rw [hasBytes_iff] at hfits
        rw [readBe16_eq (by omega), ok_bind]
        apply ih
        omega
      · rfl
    · rfl

/-- `DecodePacket`. -/
def Checked.decodePacket (fuel : ℕ) (packet : Bytes) (linkType : PcapLinkType) :
    Guarded PacketDecodeResult :=
  match linkType with
  | .null => decodeNull {} packet
  | .ethernet => do
    let fits ← hasBytes packet 0 14
    if ¬ fits = true then
      return { failureReason := .truncatedEthernetHeader }
    else
      let ethertype ← readBe16 packet 12
      let stripped ← stripVlanTags packet fuel
        { success := true, linkHeaderLength := 14, ethertype } 14
      match stripped with
      | .error result => return result
      | .ok (result, networkOffset) =>
        if result.ethertype = kEtherTypeIpv4 then
          decodeIpv4 result packet networkOffset
        else if result.ethertype = kEtherTypeIpv6 then
          decodeIpv6 result packet networkOffset
        else
          return result

/-- **The decoder is safe.** With fuel for as many VLAN tags as the packet has bytes, no packet and
no link type makes the decoder fault. -/
theorem Checked.decodePacket_eq {fuel : ℕ} {packet : Bytes} (linkType : PcapLinkType)
    (hfuel : packet.length < fuel) :
    Checked.decodePacket fuel packet linkType
      = .ok (PcapConstrictor.decodePacket packet linkType) := by
  unfold decodePacket PcapConstrictor.decodePacket
  cases linkType with
  | null => exact decodeNull_eq {} packet
  | ethernet =>
    simp only [hasBytes_eq, ok_bind, pure_eq_ok, decide_eq_true_eq]
    split
    · rfl
    next hfits =>
    simp only [hasBytes_iff, not_not] at hfits
    rw [readBe16_eq (by omega), ok_bind, stripVlanTags_eq _ _ (by omega), ok_bind]
    generalize PcapConstrictor.stripVlanTags packet _ 14 = stripped
    cases stripped with
    | error result => rfl
    | ok stripped =>
      dsimp only
      split
      · apply decodeIpv4_eq
      split
      · apply decodeIpv6_eq
      · rfl

end PcapConstrictor
