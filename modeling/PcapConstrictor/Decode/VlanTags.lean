import PcapConstrictor.Decode.Recognition

/-!
# VLAN accounting

The VLAN loop keeps an 8-bit counter, the length of the link header and an offset in step. The
length and the offset are exact at every depth (`decodePacket_tagged`); the counter is exact as long
as it does not wrap around.
-/

namespace PcapConstrictor

open ByteString

/-- The frame carries the tags behind its addresses, and behind them an ethertype that does not
announce another one. -/
structure Tagged (packet : Bytes) (tags : List VlanTag) (ethertype : UInt16) : Prop where
  holds : Holds packet 12 (tags.flatMap (·.encode) ++ encodeBe16 ethertype)
  plain : ethertype ≠ 0x8100 ∧ ethertype ≠ 0x88A8

/-- The decode result accounts for `count` tags in front of `ethertype`. -/
structure Accounted (result : PacketDecodeResult) (count : ℕ) (ethertype : UInt16) : Prop where
  vlanTagCount : result.vlanTagCount.toNat = count
  linkHeaderLength : result.linkHeaderLength = 14 + 4 * result.vlanTagCount.toNat
  ethertype : result.ethertype = ethertype
  networkHeaderOffset : result.ipVersion ≠ .none →
    result.networkHeaderOffset = result.linkHeaderLength

/-- A tag of a customer network, with no VLAN identifier. -/
def customerTag : VlanTag where
  tpid := 0x8100
  tci := 0
  tpid_eq := Or.inl rfl

/-! ## The stages behind the link header -/

/-- What the later stages leave of a link header: its fields, and a network header at `offset` if
there is one. -/
structure KeepsLink (before after : PacketDecodeResult) (offset : ℕ) : Prop where
  ethertype : after.ethertype = before.ethertype
  vlanTagCount : after.vlanTagCount = before.vlanTagCount
  linkHeaderLength : after.linkHeaderLength = before.linkHeaderLength
  networkHeaderOffset : after.ipVersion ≠ .none → after.networkHeaderOffset = offset

/-- A result without an IP version has no network header to place. -/
theorem KeepsLink.of_none {before : PacketDecodeResult} (hnone : before.ipVersion = .none)
    (offset : ℕ) : KeepsLink before before offset :=
  ⟨rfl, rfl, rfl, fun h => absurd hnone h⟩

/-- Reporting a failure leaves the link header. -/
theorem KeepsLink.fail {before after : PacketDecodeResult} {offset : ℕ}
    (h : KeepsLink before after offset) (reason : PacketDecodeFailureReason) :
    KeepsLink before (after.fail reason) offset :=
  ⟨h.ethertype, h.vlanTagCount, h.linkHeaderLength, h.networkHeaderOffset⟩

/-- The transport stage leaves the link header. -/
theorem keepsLink_decodeTransport {before after : PacketDecodeResult} {offset : ℕ}
    (h : KeepsLink before after offset) (packet : Bytes) (transportOffset transportEnd : ℕ) :
    KeepsLink before (decodeTransport after packet transportOffset transportEnd) offset := by
  unfold decodeTransport
  split
  · rcases decodeTcp_cases after packet transportOffset transportEnd with
      ⟨reason, -, heq⟩ | ⟨headerLength, -, -, -, heq⟩
    · rw [heq]
      exact h.fail reason
    · rw [heq]
      exact ⟨h.ethertype, h.vlanTagCount, h.linkHeaderLength, h.networkHeaderOffset⟩
  split
  · rcases decodeUdp_cases after packet transportOffset transportEnd with
      ⟨reason, -, heq⟩ | ⟨udpLength, -, -, -, -, heq⟩
    · rw [heq]
      exact h.fail reason
    · rw [heq]
      exact ⟨h.ethertype, h.vlanTagCount, h.linkHeaderLength, h.networkHeaderOffset⟩
  · exact h

/-- The IPv4 stage leaves the link header and starts the network header behind it. -/
theorem keepsLink_decodeIpv4 {result : PacketDecodeResult} (hnone : result.ipVersion = .none)
    (packet : Bytes) (offset : ℕ) : KeepsLink result (decodeIpv4 result packet offset) offset := by
  rcases decodeIpv4_cases result packet offset with
    ⟨reason, -, heq⟩ | ⟨ihl, -, -, -, -, -, hheader⟩
  · rw [heq]
    exact (KeepsLink.of_none hnone offset).fail reason
  · have hkeeps : KeepsLink result (withIpv4Header result packet offset ihl) offset :=
      ⟨rfl, rfl, rfl, fun _ => rfl⟩
    rcases hheader with heq | ⟨-, -, heq⟩
    · rw [heq]
      exact hkeeps
    · rw [heq]
      exact keepsLink_decodeTransport hkeeps ..

/-- The IPv6 stage leaves the link header and starts the network header behind it. -/
theorem keepsLink_decodeIpv6 {result : PacketDecodeResult} (hnone : result.ipVersion = .none)
    (packet : Bytes) (offset : ℕ) : KeepsLink result (decodeIpv6 result packet offset) offset := by
  have hkeeps : KeepsLink result (withIpv6Header result packet offset) offset :=
    ⟨rfl, rfl, rfl, fun _ => rfl⟩
  rcases decodeIpv6_cases result packet offset with
    ⟨reason, -, heq⟩ | ⟨-, -, ⟨reason, -, heq⟩ | heq⟩
  · rw [heq]
    exact (KeepsLink.of_none hnone offset).fail reason
  · rw [heq]
    exact hkeeps.fail reason
  · rw [heq]
    exact keepsLink_decodeTransport hkeeps ..

/-! ## The link header -/

/-- The result with which the network stage starts behind the tags. -/
def taggedHeader (count : ℕ) (ethertype : UInt16) : PacketDecodeResult where
  success := true
  ethertype := ethertype
  vlanTagCount := UInt8.ofNat count
  linkHeaderLength := 14 + 4 * count

/-- The ethertypes that end a stack of tags. -/
theorem isVlanEthertype_eq_false {ethertype : UInt16} :
    isVlanEthertype ethertype = false ↔ ethertype ≠ 0x8100 ∧ ethertype ≠ 0x88A8 := by
  simp [isVlanEthertype, kEtherTypeVlan, kEtherTypeProviderBridge]

/-- **The decoder stands behind the tags of the frame**, however many there are. -/
theorem decodePacket_of_tagged {packet : Bytes} {tags : List VlanTag} {ethertype : UInt16}
    (h : Tagged packet tags ethertype) :
    decodePacket packet .ethernet =
      let header := taggedHeader tags.length ethertype
      if ethertype = kEtherTypeIpv4 then decodeIpv4 header packet (14 + 4 * tags.length)
      else if ethertype = kEtherTypeIpv6 then decodeIpv6 header packet (14 + 4 * tags.length)
      else header := by
  have hlength := h.holds.length_le
  rw [List.length_append, length_tags, length_encodeBe16] at hlength
  have hstrip := stripVlanTags_eq (isVlanEthertype_eq_false.mpr h.plain)
    { success := true, linkHeaderLength := 14 } h.holds
  simp only [Nat.reduceAdd, UInt8.zero_add] at hstrip
  unfold decodePacket
  dsimp only
  rw [if_neg (by rw [hasBytes_iff]; omega), hstrip]
  rfl

/-- Behind a stack of tags the link header is `taggedHeader`, whatever follows. -/
theorem keepsLink_of_tagged {packet : Bytes} {tags : List VlanTag} {ethertype : UInt16}
    (h : Tagged packet tags ethertype) :
    KeepsLink (taggedHeader tags.length ethertype) (decodePacket packet .ethernet)
      (14 + 4 * tags.length) := by
  rw [decodePacket_of_tagged h]
  dsimp only
  split
  · exact keepsLink_decodeIpv4 rfl packet _
  split
  · exact keepsLink_decodeIpv6 rfl packet _
  · exact KeepsLink.of_none rfl _

/-- What the decoder reports about the tags of a frame: the counter alone is reduced. -/
theorem decodePacket_tagged {packet : Bytes} {tags : List VlanTag} {ethertype : UInt16}
    (h : Tagged packet tags ethertype) :
    let result := decodePacket packet .ethernet
    result.vlanTagCount.toNat = tags.length % 256 ∧
      result.linkHeaderLength = 14 + 4 * tags.length ∧ result.ethertype = ethertype ∧
      (result.ipVersion ≠ .none → result.networkHeaderOffset = 14 + 4 * tags.length) := by
  intro result
  have hkeeps := keepsLink_of_tagged h
  refine ⟨?_, hkeeps.linkHeaderLength, hkeeps.ethertype, hkeeps.networkHeaderOffset⟩
  rw [hkeeps.vlanTagCount, taggedHeader, UInt8.toNat_ofNat']

/-- The VLAN loop ends at a tag that is cut off, or in front of another ethertype. -/
theorem stripVlanTags_stops (packet : Bytes) (result : PacketDecodeResult) (networkOffset : ℕ) :
    match stripVlanTags packet result networkOffset with
    | .error result => result.failureReason = .truncatedVlanTag
    | .ok (result, _) => isVlanEthertype result.ethertype = false := by
  fun_induction stripVlanTags packet result networkOffset with
  | case1 result networkOffset hvlan hbytes ih => exact ih
  | case2 result networkOffset hvlan hbytes => rfl
  | case3 result networkOffset hvlan => exact Bool.eq_false_iff.mpr hvlan

/-- A frame on which the decoder gets past the link layer is tagged. -/
theorem exists_tagged {packet : Bytes}
    (hethernet : (decodePacket packet .ethernet).failureReason ≠ .truncatedEthernetHeader)
    (hvlan : (decodePacket packet .ethernet).failureReason ≠ .truncatedVlanTag) :
    ∃ tags ethertype, Tagged packet tags ethertype := by
  have hstops := stripVlanTags_stops packet
    { success := true, linkHeaderLength := 14, ethertype := readBe16 packet 12 } 14
  revert hethernet hvlan
  unfold decodePacket
  dsimp only
  split
  · exact fun hethernet => absurd rfl hethernet
  next hbytes =>
  rw [not_not, hasBytes_iff] at hbytes
  split
  · next result heq =>
    rw [heq] at hstops
    exact fun _ hvlan => absurd hstops hvlan
  · next stripped networkOffset heq =>
    intro _ _
    rw [heq] at hstops
    obtain ⟨tags, -, hholds⟩ := @exists_holds_tags _ 12 _ _ _ (by omega) rfl heq
    exact ⟨tags, stripped.ethertype, hholds, isVlanEthertype_eq_false.mp hstops⟩

/-- **When VLAN accounting is exact**: on every Ethernet frame that gets past the link layer the
decode result accounts for the tags of the frame if and only if there are fewer than 256. -/
theorem vlan_accounting_iff {packet : Bytes}
    (hethernet : (decodePacket packet .ethernet).failureReason ≠ .truncatedEthernetHeader)
    (hvlan : (decodePacket packet .ethernet).failureReason ≠ .truncatedVlanTag) :
    (∃ tags ethertype, Tagged packet tags ethertype) ∧
      ∀ tags ethertype, Tagged packet tags ethertype →
        (Accounted (decodePacket packet .ethernet) tags.length ethertype ↔ tags.length < 256) := by
  refine ⟨exists_tagged hethernet hvlan, ?_⟩
  intro tags ethertype htagged
  obtain ⟨hcount, hlength, hethertype, hoffset⟩ := decodePacket_tagged htagged
  constructor
  · intro haccounted
    have hexact := haccounted.vlanTagCount
    omega
  · intro hlt
    rw [Nat.mod_eq_of_lt hlt] at hcount
    exact ⟨hcount, by rw [hlength, hcount], hethertype, fun hip => by rw [hoffset hip, hlength]⟩

/-- A frame with `count` tags in front of an ethertype that is not IP. -/
def taggedFrame (count : ℕ) : Bytes :=
  List.replicate 12 0 ++
    ((List.replicate count customerTag).flatMap (·.encode) ++ encodeBe16 0x1234)

/-- The frame has the tags it was made of. -/
theorem tagged_taggedFrame (count : ℕ) :
    Tagged (taggedFrame count) (List.replicate count customerTag) 0x1234 :=
  ⟨@holds_of_eq _ (List.replicate 12 0) _ [] (congrArg _ (List.append_nil _).symm), by decide⟩

/-- The frame carries no IP packet, so its result is the link header alone. -/
theorem decodePacket_taggedFrame (count : ℕ) :
    decodePacket (taggedFrame count) .ethernet = taggedHeader count 0x1234 := by
  rw [decodePacket_of_tagged (tagged_taggedFrame count), List.length_replicate]
  rfl

/-- Two tags are accounted for. -/
theorem vlan_accounting_iff_nested :
    Accounted (decodePacket (taggedFrame 2) .ethernet) 2 0x1234 := by
  have hreason : (decodePacket (taggedFrame 2) .ethernet).failureReason = .none := by
    rw [decodePacket_taggedFrame]
    rfl
  obtain ⟨-, hiff⟩ := @vlan_accounting_iff (taggedFrame 2) (by rw [hreason]; decide)
    (by rw [hreason]; decide)
  exact (hiff _ _ (tagged_taggedFrame 2)).mpr (by decide)

/-- With 256 tags the counter is back at zero. -/
theorem taggedFrame_256_not_accounted :
    (decodePacket (taggedFrame 256) .ethernet).failureReason = .none ∧
      Tagged (taggedFrame 256) (List.replicate 256 customerTag) 0x1234 ∧
      (decodePacket (taggedFrame 256) .ethernet).vlanTagCount = 0 ∧
      ¬ Accounted (decodePacket (taggedFrame 256) .ethernet) 256 0x1234 := by
  rw [decodePacket_taggedFrame]
  refine ⟨rfl, tagged_taggedFrame 256, rfl, ?_⟩
  intro haccounted
  exact absurd haccounted.vlanTagCount (by decide)

end PcapConstrictor
