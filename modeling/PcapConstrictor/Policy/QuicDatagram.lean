import PcapConstrictor.Policy.QuicGrammar
import PcapConstrictor.Policy.QuicMatching

/-!
# The walk over a QUIC datagram

The loop of `Evaluate` over long headers gets through exactly the payloads that are a concatenation
of long-header packets and a remainder without a long header. There is only one way to take a
payload apart like this, and the loop stops behind the packets with the last source connection ID of
them stored (`datagram_walk`).
-/

namespace PcapConstrictor

open ByteString

namespace QuicConstrictor

/-- A payload is the concatenation of long-header packets and a remainder that has no long header.
A packet without length is the last thing in it. -/
structure Decomposes (payload : Bytes) (packets : List LongPacket) (remainder : Bytes) : Prop where
  concat : payload = packets.flatMap LongPacket.encode ++ remainder
  short : ∀ first ∈ remainder.head?, first < 0x80
  toEnd : ∀ before packet after, packets = before ++ packet :: after → packet.IsRetry →
    after = [] ∧ remainder = []

/-! ## Packet by packet -/

section Decomposes

variable {payload remainder : Bytes} {packet : LongPacket} {packets : List LongPacket}

/-- An encoded packet has bytes, so a decomposition is finite. -/
theorem LongPacket.encode_ne_nil (packet : LongPacket) : packet.encode ≠ [] := List.cons_ne_nil _ _

/-- Without packets the remainder is all there is, and it starts no long header. -/
theorem decomposes_nil : Decomposes payload [] remainder ↔
    payload = remainder ∧ ∀ first ∈ payload.head?, first < 0x80 := by
  constructor
  · intro h
    have hconcat : payload = remainder := h.concat
    exact ⟨hconcat, hconcat ▸ h.short⟩
  · rintro ⟨rfl, hshort⟩
    exact ⟨rfl, hshort, fun before _ _ hsplit => by simp at hsplit⟩

/-- A decomposition starts with its first packet; behind a Retry there is nothing. -/
theorem decomposes_cons : Decomposes payload (packet :: packets) remainder ↔
    ∃ rest, payload = packet.encode ++ rest ∧ Decomposes rest packets remainder ∧
      (packet.IsRetry → rest = []) := by
  constructor
  · intro h
    refine ⟨packets.flatMap LongPacket.encode ++ remainder, ?_, ⟨rfl, h.short, ?_⟩, ?_⟩
    · rw [← List.append_assoc, ← List.flatMap_cons]
      exact h.concat
    · intro before retry after hsplit
      exact h.toEnd (packet :: before) retry after (congrArg _ hsplit)
    · intro hretry
      obtain ⟨rfl, rfl⟩ := h.toEnd [] packet packets rfl hretry
      rfl
  · rintro ⟨rest, rfl, h, hend⟩
    refine ⟨?_, h.short, ?_⟩
    · rw [List.flatMap_cons, List.append_assoc, ← h.concat]
    · intro before retry after hsplit hretry
      cases before with
      | nil =>
        obtain ⟨rfl, rfl⟩ := List.cons.inj hsplit
        -- behind a Retry nothing is left, and every packet has bytes
        have hconcat := h.concat
        rw [hend hretry, eq_comm, List.append_eq_nil_iff] at hconcat
        refine ⟨?_, hconcat.2⟩
        cases packets with
        | nil => rfl
        | cons next packets =>
          exact absurd (List.append_eq_nil_iff.mp hconcat.1).1 next.encode_ne_nil
      | cons first before =>
        obtain ⟨-, hsplit⟩ := List.cons.inj hsplit
        exact h.toEnd before retry after hsplit hretry

end Decomposes

/-! ## The chain of long headers -/

section Chain

variable {payload remainder : Bytes} {offset : ℕ} {packets : List LongPacket}

/-- The high bit of a byte tells. -/
theorem isLongHeader_eq_false_iff (first : UInt8) : isLongHeader first = false ↔ first < 0x80 := by
  have hlt : first.toNat < 2 ^ 8 := first.toNat_lt
  rw [← Bool.not_eq_true, isLongHeader_iff, UInt8.lt_iff_toNat_lt]
  change ¬ 8 ≤ first.toNat / 16 ↔ first.toNat < 128
  omega

/-- The first byte behind an offset is the one at the offset. -/
theorem head?_drop (h : offset < payload.length) :
    (payload.drop offset).head? = some (byteAt payload offset) := by
  rw [List.drop_eq_getElem_cons h, List.head?_cons, List.getElem_eq_getD 0]
  rfl

/-- The chain of a payload that can be taken apart. -/
theorem longHeaders_of_decomposes (hle : offset ≤ payload.length)
    (h : Decomposes (payload.drop offset) packets remainder) :
    longHeaders payload offset
      = ⟨packets.map LongPacket.info, offset + (packets.map (·.encode.length)).sum, true⟩ := by
  induction packets generalizing offset with
  | nil =>
    have hshort : ¬ (offset < payload.length ∧ isLongHeader (byteAt payload offset) = true) := by
      rintro ⟨hlt, hlong⟩
      have hfirst := (decomposes_nil.mp h).2 _ (head?_drop hlt)
      rw [← isLongHeader_eq_false_iff, hlong] at hfirst
      cases hfirst
    rw [longHeaders, dif_neg hshort]
    rfl
  | cons packet packets ih =>
    obtain ⟨rest, hsplit, hrest, hend⟩ := decomposes_cons.mp h
    have hholds : Holds payload offset packet.encode := ⟨hle, rest, hsplit.symm⟩
    have hdrop : rest = payload.drop (offset + packet.encode.length) := by
      rw [← List.drop_drop, hsplit, List.drop_left]
    -- a Retry has no length field, so it is read to the end of the payload
    have hstop : packet.IsRetry → offset + packet.encode.length = payload.length := by
      intro hretry
      have hnil := hend hretry
      rw [hdrop, List.drop_eq_nil_iff] at hnil
      exact Nat.le_antisymm hholds.length_le hnil
    rw [hdrop] at hrest
    rw [longHeaders_of_some (LongPacket.isLongHeader hholds)
      (parseLongHeader_iff.mpr ⟨_, hholds, hstop, rfl⟩)]
    have hnext : longHeaders payload (offset + packet.info.totalSize) = _ :=
      ih hholds.length_le hrest
    rw [hnext, List.map_cons, List.map_cons, List.sum_cons, ← Nat.add_assoc]
    rfl

/-- A valid chain takes its payload apart. -/
theorem decomposes_of_longHeaders (hle : offset ≤ payload.length)
    (h : (longHeaders payload offset).valid = true) :
    ∃ packets remainder, Decomposes (payload.drop offset) packets remainder := by
  fun_induction longHeaders payload offset with
  | case1 offset hlong hparse => cases h
  | case2 offset hlong header hparse rest ih =>
    obtain ⟨packet, hholds, hend, rfl⟩ := parseLongHeader_iff.mp hparse
    obtain ⟨packets, remainder, hrest⟩ := ih hholds.length_le h
    refine ⟨packet :: packets, remainder, decomposes_cons.mpr ⟨_, ?_, hrest, ?_⟩⟩
    · obtain ⟨back, hback⟩ := hholds.2
      change payload.drop offset = packet.encode ++ payload.drop (offset + packet.encode.length)
      rw [← List.drop_drop, ← hback, List.drop_left]
    · intro hretry
      exact List.drop_eq_nil_iff.mpr (hend hretry).ge
  | case3 offset hlong =>
    refine ⟨[], payload.drop offset, decomposes_nil.mpr ⟨rfl, ?_⟩⟩
    intro first hfirst
    have hlt : offset < payload.length := by
      by_contra hge
      rw [List.drop_eq_nil_of_le (Nat.not_lt.mp hge)] at hfirst
      cases hfirst
    rw [head?_drop hlt, Option.mem_some_iff] at hfirst
    rw [← isLongHeader_eq_false_iff, ← hfirst]
    simpa [hlt] using hlong

/-- What starts with a long-header packet is not a remainder. -/
theorem Decomposes.not_nil {packet : LongPacket} {remainder' : Bytes}
    (h : Decomposes payload (packet :: packets) remainder) :
    ¬ Decomposes payload [] remainder' := by
  intro hnil
  obtain ⟨rest, rfl, -⟩ := decomposes_cons.mp h
  have hholds : Holds (packet.encode ++ rest) 0 packet.encode := ⟨Nat.zero_le _, rest, rfl⟩
  obtain ⟨hlt, hlong⟩ := LongPacket.isLongHeader hholds
  have hfirst := (decomposes_nil.mp hnil).2 _ (head?_drop hlt)
  rw [← isLongHeader_eq_false_iff, hlong] at hfirst
  cases hfirst

/-- A payload can be taken apart in one way only. -/
theorem Decomposes.unique {packets' : List LongPacket} {remainder' : Bytes}
    (h : Decomposes payload packets remainder) (h' : Decomposes payload packets' remainder') :
    packets' = packets ∧ remainder' = remainder := by
  induction packets generalizing payload packets' with
  | nil =>
    cases packets' with
    | nil => exact ⟨rfl, (decomposes_nil.mp h').1.symm.trans (decomposes_nil.mp h).1⟩
    | cons packet packets' => exact absurd h h'.not_nil
  | cons packet packets ih =>
    cases packets' with
    | nil => exact absurd h' h.not_nil
    | cons packet' packets' =>
      obtain ⟨rest, hsplit, hrest, hend⟩ := decomposes_cons.mp h
      obtain ⟨rest', hsplit', hrest', hend'⟩ := decomposes_cons.mp h'
      have hlast : ∀ (p : LongPacket) (tail : Bytes), payload = p.encode ++ tail →
          (p.IsRetry → tail = []) → p.IsRetry → 0 + p.encode.length = payload.length := by
        intro p tail hp htail hretry
        rw [hp, htail hretry, List.append_nil, Nat.zero_add]
      obtain rfl : packet = packet' := LongPacket.unique
        ⟨Nat.zero_le _, rest, hsplit.symm⟩ ⟨Nat.zero_le _, rest', hsplit'.symm⟩
        (hlast packet rest hsplit hend) (hlast packet' rest' hsplit' hend')
      obtain rfl : rest = rest' := List.append_cancel_left (hsplit.symm.trans hsplit')
      obtain ⟨rfl, rfl⟩ := ih hrest hrest'
      exact ⟨rfl, rfl⟩

end Chain

/-! ## The walk -/

/-- The last non-empty source connection ID in a list of packets. -/
def lastPacketScid (packets : List LongPacket) : Option PacketCid :=
  ((packets.map (·.scid)).filter fun scid => !scid.bytes.isEmpty).getLast?

/-- A connection ID is empty when it has no bytes. -/
theorem nonEmpty_connectionId (cid : PacketCid) :
    cid.connectionId.nonEmpty = !cid.bytes.isEmpty := by
  have hlength := cid.toNat_length
  change (true && decide (UInt8.ofNat cid.bytes.length > 0)) = _
  rw [Bool.true_and, Bool.eq_iff_iff, decide_eq_true_iff, gt_iff_lt, UInt8.lt_iff_toNat_lt, hlength]
  cases cid.bytes <;> simp

/-- The last nonempty connection ID, read from the parsed packets or from the encoded ones. -/
theorem lastScid_info (packets : List LongPacket) :
    lastScid (packets.map LongPacket.info)
      = (lastPacketScid packets).map PacketCid.connectionId := by
  have hscids : (packets.map LongPacket.info).map (·.scid)
      = (packets.map (·.scid)).map PacketCid.connectionId := by
    simp only [List.map_map]
    rfl
  have hfilter : (fun id : ConnectionId => id.nonEmpty) ∘ PacketCid.connectionId
      = fun scid => !scid.bytes.isEmpty := funext nonEmpty_connectionId
  rw [lastScid, hscids, List.filter_map, hfilter, List.getLast?_map]
  rfl

/-- A parsed header takes at least seven bytes, all of them in the payload. -/
theorem parseLongHeader_seven {payload : Bytes} {offset : ℕ} {header : LongHeaderInfo}
    (h : parseLongHeader payload offset = some header) :
    7 ≤ header.totalSize ∧ offset + header.totalSize ≤ payload.length := by
  obtain ⟨packet, hholds, -, rfl⟩ := parseLongHeader_iff.mp h
  refine ⟨?_, hholds.length_le⟩
  change 7 ≤ packet.encode.length
  rw [packet.length_encode]
  omega

/-- **The walk over a datagram.** In every table, hence in every table that a run can reach, the
loop over the payload of an applicable packet gets past the long headers exactly when the payload is
a concatenation of long-header packets and a remainder without a long header. Then this
concatenation is unique, the loop has stopped behind its packets, and the slot of the sender holds
the last non-empty source connection ID among them, or what it held before. Every step of the loop
advances by at least seven bytes inside the payload. -/
theorem datagram_walk {config : QuicOptions} {packet : CapturedPacket}
    (happ : applicable packet.decoded config = true) (flowStates : FlowStates) :
    (∀ offset header, parseLongHeader packet.payload offset = some header →
      7 ≤ header.totalSize ∧ offset + header.totalSize ≤ packet.payload.length) ∧
    match longHeaderLoop (flowOf packet).1 (flowOf packet).2 packet.payload { flowStates } with
    | .error learned =>
      step config flowStates packet = (learned, { disposition := .malformedFallback }) ∧
        ∀ packets remainder, ¬ Decomposes packet.payload packets remainder
    | .ok l =>
      (step config flowStates packet).1 = l.flowStates ∧
        ∃ packets remainder, Decomposes packet.payload packets remainder ∧
          (∀ packets' remainder', Decomposes packet.payload packets' remainder' →
            packets' = packets ∧ remainder' = remainder) ∧
          l.offset = (packets.map (·.encode.length)).sum ∧
          (l.flowStates.value (flowOf packet).1).scidOf (flowOf packet).2
            = ((lastPacketScid packets).map PacketCid.connectionId).getD
              ((flowStates.value (flowOf packet).1).scidOf (flowOf packet).2) := by
  refine ⟨fun offset header h => parseLongHeader_seven h, ?_⟩
  have hstep := step_of_applicable happ flowStates
  have hchain : longHeaders packet.payload 0 = chainOf packet := rfl
  have hdrop : packet.payload.drop 0 = packet.payload := List.drop_zero
  rw [longHeaderLoop_eq]
  simp only [hchain]
  cases hvalid : (chainOf packet).valid with
  -- a datagram that decomposes would have been walked to its end
  | false =>
    rw [hvalid] at hstep
    refine ⟨hstep, fun packets remainder h => ?_⟩
    have hheaders := longHeaders_of_decomposes (Nat.zero_le _) (hdrop.symm ▸ h)
    rw [hchain] at hheaders
    rw [hheaders] at hvalid
    cases hvalid
  | true =>
    obtain ⟨packets, remainder, h⟩ := decomposes_of_longHeaders (Nat.zero_le _) hvalid
    rw [hdrop] at h
    have hheaders := longHeaders_of_decomposes (Nat.zero_le _) (hdrop.symm ▸ h)
    rw [hchain, Nat.zero_add] at hheaders
    refine ⟨by rw [hstep], packets, remainder, h, fun _ _ h' => h.unique h', ?_, ?_⟩
    · rw [hheaders]
    · dsimp only
      rw [value_learnChain, if_pos rfl, scidOf_learnAll, if_pos rfl, hheaders, lastScid_info]

/-- The server's first datagram decomposes. -/
theorem datagram_walk_handshake :
    ∃ packets remainder, Decomposes serverHandshake.payload packets remainder := by
  have h := (@datagram_walk {} serverHandshake (by decide +kernel) ∅).2
  split at h
  · have hmalformed : (step {} ∅ serverHandshake).2.disposition = .malformedFallback := by
      rw [h.1]
    exact absurd hmalformed (by decide +kernel)
  · obtain ⟨-, packets, remainder, hdecomposes, -⟩ := h
    exact ⟨packets, remainder, hdecomposes⟩

end QuicConstrictor

end PcapConstrictor
