import PcapConstrictor.Policy.Unread

/-!
# What constricting drops

The bytes behind the cut of a constricted packet are not looked at, as long as a cut TLS payload
ends with the record that is cut and the header of that record is kept (`unread_of_constricted`).
-/

namespace PcapConstrictor

open ByteString

namespace TlsConstrictor

/-- If nothing is framed and that is no fault, then nothing is left. -/
theorem length_le_of_framing_nil {payload : Bytes} {offset : ℕ}
    (hvalid : (framing payload offset).valid = true)
    (h : (framing payload offset).records = []) : payload.length ≤ offset := by
  by_contra hlt
  rw [Nat.not_le] at hlt
  cases hread : readTlsRecordHeader payload offset with
  | none =>
    rw [framing_of_none hlt hread] at hvalid
    cases hvalid
  | some header =>
    by_cases hover : kTlsRecordHeaderSize + header.2.toNat > payload.length - offset
    · rw [framing_of_overhang hlt hread hover] at h
      cases h
    · rw [framing_of_fits hlt hread hover] at h
      cases h

/-- A framing without a fault reaches the end of the payload. -/
theorem length_le_of_getLast? {payload : Bytes} {offset : ℕ} {last : FramedRecord}
    (hvalid : (framing payload offset).valid = true)
    (h : (framing payload offset).records.getLast? = some last) :
    payload.length ≤ last.offset + last.totalSize := by
  fun_induction framing payload offset with
  | case1 offset hlt hread => cases hvalid
  | case2 offset hlt contentType recordLength hread totalSize record hover =>
    obtain rfl : record = last := Option.some.inj h
    change payload.length ≤ offset + totalSize
    omega
  | case3 offset hlt contentType recordLength hread totalSize record hover rest ih =>
    rw [List.getLast?_cons] at h
    cases hlast : rest.records.getLast? with
    | some record' =>
      rw [hlast] at h
      exact ih hvalid (hlast.trans h)
    | none =>
      rw [hlast] at h
      obtain rfl : record = last := Option.some.inj h
      exact length_le_of_framing_nil hvalid (List.getLast?_eq_none_iff.mp hlast)
  | case4 offset hge => cases h

/-- Where the last record is an Application Data record, it is the last of those. -/
theorem lastAppData_eq_getLast? {f : Framing}
    (h : ∀ last ∈ f.records.getLast?, last.isAppData = true) :
    f.lastAppData = f.records.getLast? := by
  unfold Framing.lastAppData
  cases hlast : f.records.getLast? with
  | none =>
    rw [List.getLast?_eq_none_iff.mp hlast]
    rfl
  | some last =>
    obtain ⟨before, hrecords⟩ := List.getLast?_eq_some_iff.mp hlast
    rw [hrecords, List.filter_append, List.filter_cons_of_pos (h last hlast), List.filter_nil,
      List.getLast?_concat]

/-- The bytes behind a cut are not looked at. -/
theorem unread_of_cut {config : TlsOptions} {payload : Bytes} {tcpSeq : UInt32}
    {before : DirectionState} {keep i : ℕ}
    (hcut : (segment config payload tcpSeq before).cut = some keep)
    (hends : ∀ last ∈ (framing payload
        ((before.dropOnGap tcpSeq).entry payload.length)).records.getLast?,
      kTlsRecordHeaderSize ≤ config.appDataKeepRecordBytes.toNat ∧ last.isAppData = true)
    (hle : keep ≤ i) (hlt : i < payload.length) :
    Unread payload ((before.dropOnGap tcpSeq).entry payload.length) i := by
  rcases segment_cases config payload tcpSeq before with
    ⟨-, -, hout⟩ | ⟨hactive, heq, -⟩ | ⟨-, -, -, hout⟩ | ⟨-, ⟨-, hout⟩ | ⟨-, hout⟩⟩
  · rw [hout] at hcut
    cases hcut
  · -- the end of the record that was tracked: its bytes are not read
    refine Or.inl ?_
    rw [DirectionState.entry, if_pos hactive, ← heq, Nat.min_self]
    exact hlt
  · rw [hout] at hcut
    cases hcut
  · rw [hout] at hcut
    cases hcut
  · rw [hout] at hcut
    obtain ⟨hvalid, framed, hlast, rfl⟩ := segmentFrames_cut hcut
    have hlast : (framing payload ((before.dropOnGap tcpSeq).entry payload.length)).records.getLast?
        = some framed := lastAppData_eq_getLast? (fun last h => (hends last h).2) ▸ hlast
    have hheader := (hends framed hlast).1
    obtain ⟨-, hlt', length, hread, htotal⟩ := framing_mem (List.mem_of_getLast? hlast)
    have hheld := (readTlsRecordHeader_eq_some hread).1
    -- the last framed record reaches to the end of the payload, so what is dropped is its body
    have hend := length_le_of_getLast? hvalid hlast
    unfold keepInRecord clampedKeepSize FramedRecord.present at hle
    refine Or.inr ⟨framed, List.mem_of_getLast? hlast, ?_, by omega⟩
    omega

end TlsConstrictor

namespace QuicConstrictor

/-- The bytes behind what is kept of a datagram are not looked at. -/
theorem unread_of_kept {expected : Option ConnectionId} {config : QuicOptions} {payload : Bytes}
    {kept i : ℕ} (hkept : (datagramOutcome expected config payload).kept = some kept)
    (hle : kept ≤ i) (hlt : i < payload.length) : Unread expected payload i := by
  unfold datagramOutcome at hkept
  dsimp only at hkept
  split at hkept
  · cases hkept
  next hvalid =>
  split at hkept
  · cases hkept
  split at hkept
  · cases hkept
  refine ⟨by simpa using hvalid, ?_⟩
  -- what is kept has room for the bytes that are compared
  have hmatched : ∀ minimum, 1 + comparedLength expected ≤ minimum →
      (matchedOutcome config payload (longHeaders payload 0).stop minimum).kept = some kept →
      (longHeaders payload 0).stop + 1 + comparedLength expected ≤ i := by
    intro minimum hminimum h
    obtain rfl := Option.some.inj h
    omega
  unfold shortHeaderOutcome at hkept
  cases hdcid : expected.filter (·.known) with
  | none =>
    rw [hdcid] at hkept
    dsimp only at hkept
    split at hkept
    · cases hkept
    · exact hmatched 1 (by simp [comparedLength, hdcid]) hkept
  | some dcid =>
    rw [hdcid] at hkept
    dsimp only at hkept
    split at hkept
    · cases hkept
    split at hkept
    · cases hkept
    · exact hmatched _ (by simp [comparedLength, hdcid]) hkept

end QuicConstrictor

namespace LiveCapturePolicy

variable {config : PolicyConfig} {state : State} {packet : CapturedPacket}

/-- If a record that starts in a TLS payload is cut, then it is the last one, and not within its
header. -/
def CutsLastRecord (config : PolicyConfig) (state : State) (packet : CapturedPacket) : Prop :=
  ∀ last ∈ (TlsConstrictor.framingOf state.tlsConstrictor packet).records.getLast?,
    TlsConstrictor.kTlsRecordHeaderSize ≤ config.tls.appDataKeepRecordBytes.toNat ∧
      last.isAppData = true

/-- **What constricting drops is not looked at.** -/
theorem unread_of_constricted
    (h : (evaluate config state packet).2.outputLen < baseOutputLen config packet)
    (htls : tlsGate config packet = true → CutsLastRecord config state packet) {i : ℕ}
    (hle : (evaluate config state packet).2.outputLen.toNat ≤ i) :
    Unread config state packet i := by
  obtain ⟨hlength, -⟩ := evaluate_settled config state packet
  rw [UInt32.lt_iff_toNat_lt, hlength] at h
  rw [hlength] at hle
  cases hproposed : (proposal config state packet).outputLen packet with
  | none =>
    rw [hproposed, settle_none] at h
    exact absurd h (Nat.lt_irrefl _)
  | some proposed =>
    rw [hproposed, settle_some] at h hle
    rw [Proposal.outputLen, Option.map_eq_some_iff] at hproposed
    obtain ⟨keep, hkeep, rfl⟩ := hproposed
    split at h
    next hsaves =>
      rw [if_pos hsaves] at hle
      -- the proposal was taken, so one of the two constrictors has made it
      cases htlsGate : tlsGate config packet with
      | true =>
        rw [proposal_of_tls htlsGate] at hkeep
        have hends := htls htlsGate
        have htcp : packet.decoded.transportProtocol = .tcp := isTcp_of_tlsGate htlsGate
        rw [TlsConstrictor.answer] at hkeep
        split at hkeep
        · cases hkeep
        refine ⟨by rw [htcp]; decide, by omega, fun hlt => ⟨fun _ => ?_, fun hquicGate => ?_⟩⟩
        · exact TlsConstrictor.unread_of_cut hkeep hends (by omega) hlt
        · cases htcp.symm.trans (isUdp_of_quicGate hquicGate)
      | false =>
        cases hquicGate : quicGate config packet with
        | true =>
          rw [proposal_of_quic htlsGate hquicGate] at hkeep
          have hudp : packet.decoded.transportProtocol = .udp := isUdp_of_quicGate hquicGate
          refine ⟨by rw [hudp]; decide, by omega, fun hlt => ⟨fun hcontra => ?_, fun _ => ?_⟩⟩
          · cases htlsGate.symm.trans hcontra
          · exact QuicConstrictor.unread_of_kept hkeep (by omega) hlt
        | false =>
          rw [proposal_of_neither htlsGate hquicGate] at hkeep
          cases hkeep
    next => exact absurd h (Nat.lt_irrefl _)

end LiveCapturePolicy

end PcapConstrictor
