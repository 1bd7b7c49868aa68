import PcapConstrictor.Decode.Transport
import PcapConstrictor.Policy.QuicConstrictor
import Mathlib.Data.Sym.Sym2

/-!
# Flows of the QUIC constrictor

The flow key orders the two end points of a packet, so that both directions of a flow share one
entry. `flowKey_eq_iff` shows that two packets share a key exactly when they have the same IP
version and the same unordered pair of end points: the order `CompareEndpoints` is total on the end
points the decoder produces, whose address arrays are zero behind the address. The direction then
tells which of the two end points sent the packet.
-/

namespace PcapConstrictor.QuicConstrictor

open ByteString

/-- An end point whose address array is zero behind the address. -/
def Endpoint.Padded (endpoint : Endpoint) : Prop :=
  endpoint.addressLength.toNat ≤ 16 ∧
    ∀ i : Fin 16, endpoint.addressLength.toNat ≤ i → endpoint.address.get i = 0

/-! ## The order of end points -/

/-- Comparing byte strings the other way round gives the opposite answer. -/
theorem compareBytes_swap (left right : Bytes) :
    compareBytes right left = (compareBytes left right).swap := by
  fun_induction compareBytes left right with
  | case1 a left b right hlt =>
    rw [compareBytes, if_neg (UInt8.lt_asymm hlt), if_pos hlt]
    rfl
  | case2 a left b right hlt hgt =>
    rw [compareBytes, if_pos hgt]
    rfl
  | case3 a left b right hlt hgt ih =>
    rw [compareBytes, if_neg hgt, if_neg hlt, ih]
  | case4 left right hnil =>
    unfold compareBytes
    split
    · next b right' a left' => exact absurd rfl (hnil _ _ _ _ rfl)
    · rfl

/-- Byte strings of one length that compare equal are equal. -/
theorem eq_of_compareBytes {left right : Bytes} (hlength : left.length = right.length)
    (h : compareBytes left right = .eq) : left = right := by
  fun_induction compareBytes left right with
  | case1 a left b right hlt => cases h
  | case2 a left b right hlt hgt => cases h
  | case3 a left b right hlt hgt ih =>
    rw [ih (by simpa using hlength) h,
      UInt8.le_antisymm (UInt8.not_lt.mp hgt) (UInt8.not_lt.mp hlt)]
  | case4 left right hnil =>
    cases left with
    | nil => exact (List.eq_nil_of_length_eq_zero hlength.symm).symm
    | cons a left =>
      cases right with
      | nil => cases hlength
      | cons b right => exact (hnil a left b right rfl rfl).elim

/-- A comparison that goes on to `next` when its two values are equal, in both orders. -/
theorem compare_swap {α : Type*} [LT α] [DecidableLT α] {a b : α} (hasymm : a < b → ¬ b < a)
    (next : Ordering) :
    (if b < a then .lt else if b > a then .gt else next.swap)
      = (if a < b then .lt else if a > b then .gt else next).swap := by
  by_cases hab : a < b
  · simp [hab, hasymm hab]
  · by_cases hba : b < a <;> simp [hab, hba]

/-- Comparing endpoints the other way round gives the opposite answer. -/
theorem compareEndpoints_swap (left right : Endpoint) :
    compareEndpoints right left = (compareEndpoints left right).swap := by
  unfold compareEndpoints
  dsimp only
  rw [Nat.min_comm right.addressLength.toNat, compareBytes_swap]
  cases compareBytes _ _ with
  | lt => rfl
  | gt => rfl
  | eq =>
    have hport := compare_swap (UInt16.lt_asymm (a := left.port) (b := right.port)) .eq
    have hlength := compare_swap
      (UInt8.lt_asymm (a := left.addressLength) (b := right.addressLength))
      (if left.port < right.port then .lt else if left.port > right.port then .gt else .eq)
    rw [← hport] at hlength
    exact hlength

/-- The addresses of end points with the same address length are equal when their leading bytes
are. -/
theorem address_eq_of_take {left right : Endpoint} (hleft : left.Padded) (hright : right.Padded)
    (hlength : left.addressLength = right.addressLength)
    (h : left.address.toList.take left.addressLength.toNat
      = right.address.toList.take left.addressLength.toNat) : left.address = right.address := by
  refine Vector.ext ?_
  intro i hi
  -- the leading bytes agree by assumption, the others are zero on both sides
  by_cases hlt : i < left.addressLength.toNat
  · have hget := congrArg (·[i]?) h
    simpa [hlt, hi] using hget
  · have hle := Nat.not_lt.mp hlt
    exact (hleft.2 ⟨i, hi⟩ hle).trans (hright.2 ⟨i, hi⟩ (hlength ▸ hle)).symm

/-- End points that compare equal are equal. -/
theorem eq_of_compareEndpoints {left right : Endpoint} (hleft : left.Padded)
    (hright : right.Padded) (h : compareEndpoints left right = .eq) : left = right := by
  unfold compareEndpoints at h
  dsimp only at h
  split at h
  · cases h
  · cases h
  next hbytes =>
  split at h
  · cases h
  split at h
  · cases h
  split at h
  · cases h
  split at h
  · cases h
  next hlt hgt hportLt hportGt =>
  have hlength : left.addressLength = right.addressLength :=
    UInt8.le_antisymm (UInt8.not_lt.mp hgt) (UInt8.not_lt.mp hlt)
  have hport : left.port = right.port :=
    UInt16.le_antisymm (UInt16.not_lt.mp hportGt) (UInt16.not_lt.mp hportLt)
  have htake := eq_of_compareBytes (by simp) hbytes
  rw [← hlength, Nat.min_self] at htake
  have haddress := address_eq_of_take hleft hright hlength htake
  cases left
  cases right
  simp_all

/-! ## Flow keys -/

/-- The unordered pair of end points of a packet. -/
def endpointsOf (decoded : PacketDecodeResult) : Sym2 Endpoint :=
  s(sourceOf decoded, destinationOf decoded)

theorem padded_source {packet : Bytes} {decoded : PacketDecodeResult}
    (h : TransportDecoded packet decoded) : (sourceOf decoded).Padded :=
  ⟨h.addressLength_le, h.srcPadded⟩

theorem padded_destination {packet : Bytes} {decoded : PacketDecodeResult}
    (h : TransportDecoded packet decoded) : (destinationOf decoded).Padded :=
  ⟨h.addressLength_le, h.dstPadded⟩

/-- The flow key for an ordered pair of end points. -/
def orderedKey (version : IpVersion) (source destination : Endpoint) : FlowKey × FlowDirection :=
  if compareEndpoints source destination ≠ .gt then (⟨version, source, destination⟩, .aToB)
  else (⟨version, destination, source⟩, .bToA)

/-- The flow of a packet is the ordered pair of its endpoints. -/
theorem makeCanonicalFlow_eq (decoded : PacketDecodeResult) :
    makeCanonicalFlow decoded
      = orderedKey decoded.ipVersion (sourceOf decoded) (destinationOf decoded) := rfl

/-- The opposite direction of a flow. -/
def FlowDirection.opposite : FlowDirection → FlowDirection
  | .aToB => .bToA
  | .bToA => .aToB

/-- The packets of the opposite direction share the key, and have the opposite direction unless the
flow connects an end point with itself. -/
theorem orderedKey_swap (version : IpVersion) {source destination : Endpoint}
    (hsource : source.Padded) (hdestination : destination.Padded) :
    (orderedKey version destination source).1 = (orderedKey version source destination).1 ∧
      (source ≠ destination → (orderedKey version destination source).2
        = (orderedKey version source destination).2.opposite) := by
  unfold orderedKey
  rw [compareEndpoints_swap source destination]
  cases hcompare : compareEndpoints source destination with
  | lt => simp [Ordering.swap, FlowDirection.opposite]
  | eq =>
    have heq := eq_of_compareEndpoints hsource hdestination hcompare
    simp [Ordering.swap, heq]
  | gt => simp [Ordering.swap, FlowDirection.opposite]

/-- Ordering keeps the two endpoints. -/
theorem orderedKey_endpoints (version : IpVersion) (source destination : Endpoint) :
    (orderedKey version source destination).1.ipVersion = version ∧
      s((orderedKey version source destination).1.endpointA,
        (orderedKey version source destination).1.endpointB) = s(source, destination) := by
  unfold orderedKey
  split
  · exact ⟨rfl, rfl⟩
  · exact ⟨rfl, Sym2.eq_swap⟩

/-- **Flow identity.** Two packets share a flow key exactly when they have the same IP version and
the same unordered pair of end points. -/
theorem flowKey_eq_iff {packet : Bytes} {decoded decoded' : PacketDecodeResult}
    (h : TransportDecoded packet decoded) :
    (makeCanonicalFlow decoded).1 = (makeCanonicalFlow decoded').1 ↔
      decoded.ipVersion = decoded'.ipVersion ∧ endpointsOf decoded = endpointsOf decoded' := by
  rw [makeCanonicalFlow_eq, makeCanonicalFlow_eq]
  obtain ⟨hversion, hends⟩ := orderedKey_endpoints decoded.ipVersion (sourceOf decoded)
    (destinationOf decoded)
  obtain ⟨hversion', hends'⟩ := orderedKey_endpoints decoded'.ipVersion (sourceOf decoded')
    (destinationOf decoded')
  constructor
  · intro hkey
    rw [← hversion, ← hversion', endpointsOf, endpointsOf, ← hends, ← hends', hkey]
    exact ⟨rfl, rfl⟩
  · rintro ⟨hv, he⟩
    rw [endpointsOf, endpointsOf, Sym2.eq_iff] at he
    rcases he with ⟨hs, hd⟩ | ⟨hs, hd⟩
    · rw [hv, hs, hd]
    · rw [hv, ← hs, ← hd]
      exact ((orderedKey_swap _ (padded_source h) (padded_destination h)).1).symm

end PcapConstrictor.QuicConstrictor
