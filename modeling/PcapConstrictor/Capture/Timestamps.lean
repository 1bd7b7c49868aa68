import PcapConstrictor.Capture.NpcapCapture
import PcapConstrictor.Offline.RecordMapping

/-!
# Live time stamps

`WritePacket` splits a time into seconds and microseconds with `duration_cast`, which rounds towards
zero. In front of the epoch that is the wrong direction: the microseconds of a negative time are
negative, and they wrap around as a 32-bit field.
-/

namespace PcapConstrictor

open ByteString

namespace PcapWriter

/-- Conversion to 32 bits is reduction, negative values included. -/
theorem toNat_ofInt (value : ℤ) : ((UInt32.ofInt value).toNat : ℤ) = value % 2 ^ 32 := by
  have hnonneg : 0 ≤ value % 2 ^ 32 := Int.emod_nonneg _ (by decide)
  have hlt : value % 2 ^ 32 < 2 ^ 32 := Int.emod_lt_of_pos _ (by decide)
  rw [UInt32.ofInt, UInt32.toNat_ofNat', Nat.mod_eq_of_lt (by omega), Int.toNat_of_nonneg hnonneg]

/-- The number of whole seconds of a time, rounded towards zero. -/
theorem seconds_tdiv {sec usec : ℤ} (hlow : 0 ≤ usec) (hhigh : usec < 1000000) :
    (sec * 1000000 + usec).tdiv 1000000 = if 0 ≤ sec ∨ usec = 0 then sec else sec + 1 := by
  have hfloor : (sec * 1000000 + usec) / 1000000 = sec := by omega
  have hsplit : (0 ≤ sec * 1000000 + usec ∨ (1000000 : ℤ) ∣ sec * 1000000 + usec)
      ↔ (0 ≤ sec ∨ usec = 0) := by omega
  rw [Int.tdiv_eq_ediv, hfloor]
  simp only [hsplit]
  split
  · exact Int.add_zero sec
  · rfl

/-- How the writer splits the time of a live packet. -/
theorem split_toTimestamp {clock : SystemClock} {packet : CapturedPacket} {sec usec : ℤ}
    (hlow : 0 ≤ usec) (hhigh : usec < 1000000)
    (htime : packet.timestamp = NpcapCapture.toTimestamp clock sec usec) :
    ((tsSec clock packet).toNat : ℤ) = (if 0 ≤ sec ∨ usec = 0 then sec else sec + 1) % 2 ^ 32 ∧
      ((tsUsec clock packet).toNat : ℤ)
        = if 0 ≤ sec ∨ usec = 0 then usec else 2 ^ 32 - 1000000 + usec := by
  have hmicros : clock.microseconds packet.timestamp = sec * 1000000 + usec := by
    rw [htime, NpcapCapture.toTimestamp, SystemClock.microseconds_ofMicroseconds]
  rw [tsSec, tsUsec, toNat_ofInt, hmicros, toNat_ofInt, seconds_tdiv hlow hhigh]
  refine ⟨rfl, ?_⟩
  split
  · rw [add_sub_cancel_left]
    exact Int.emod_eq_of_lt hlow (by omega)
  · omega

end PcapWriter

namespace NpcapCapture

open PcapWriter

/-- **When live time stamps are stored faithfully**: `WritePacket` stores the time of a packet that
`Run` has built unless it is a time before the epoch that is not a whole number of seconds. -/
theorem timestamp_faithful_iff {writer : PcapWriter} {clock : SystemClock} {state state' : State}
    {linkType : PcapLinkType} {header : PcapPkthdr} {bytes : Bytes} {inclLen : UInt32}
    (hlow : 0 ≤ header.tvUsec) (hhigh : header.tvUsec < 1000000)
    (hwrite : writer.writePacket clock state (capturedPacket clock linkType header bytes) inclLen
      = .ok state') :
    ∃ record : Bytes, state'.output = (writer.writeGlobalHeader state).output ++ record ∧
      (((readLe32 record 0).toNat : ℤ) = header.tvSec % 2 ^ 32 ∧
          ((readLe32 record 4).toNat : ℤ) = header.tvUsec
        ↔ 0 ≤ header.tvSec ∨ header.tvUsec = 0) ∧
      ((readLe32 record 4).toNat < 1000000 ↔ 0 ≤ header.tvSec ∨ header.tvUsec = 0) := by
  set packet := capturedPacket clock linkType header bytes
  refine ⟨record clock packet inclLen, ?_, ?_⟩
  · unfold writePacket at hwrite
    split at hwrite
    · cases hwrite
    · exact congrArg State.output (Except.ok.inj hwrite).symm
  · obtain ⟨hfieldSec, hfieldUsec, -⟩ := record_fields clock packet inclLen
    have htime : packet.timestamp = toTimestamp clock header.tvSec header.tvUsec := rfl
    obtain ⟨hsec, husec⟩ := split_toTimestamp hlow hhigh htime
    rw [hfieldSec, hfieldUsec]
    by_cases hepoch : 0 ≤ header.tvSec ∨ header.tvUsec = 0
    · rw [if_pos hepoch] at hsec husec
      exact ⟨iff_of_true ⟨hsec, husec⟩ hepoch, iff_of_true (by omega) hepoch⟩
    · rw [if_neg hepoch] at hsec husec
      exact ⟨iff_of_false (fun h => by omega) hepoch, iff_of_false (by omega) hepoch⟩

/-- A time of the year 2023. -/
theorem timestamp_faithful_iff_2023 :
    let header : PcapPkthdr := { tvSec := 1700000000, tvUsec := 123456, caplen := 0, len := 0 }
    ∃ record : Bytes, ((readLe32 record 0).toNat : ℤ) = header.tvSec % 2 ^ 32 ∧
      ((readLe32 record 4).toNat : ℤ) = header.tvUsec := by
  intro header
  obtain ⟨record, -, hfaithful, -⟩ :=
    @timestamp_faithful_iff {} .windows {} _ .ethernet header [] 0 (by decide) (by decide) rfl
  exact ⟨record, hfaithful.mpr (Or.inl (by decide))⟩

/-- One microsecond after 03:14:08 on 19 January 2038, as a driver with a 32-bit `tv_sec` reports
it. -/
def headerAfter2038 : PcapPkthdr where
  tvSec := -2147483648
  tvUsec := 1
  caplen := 0
  len := 0

/-- Seconds that wrap below zero, with a microsecond left over. -/
theorem headerAfter2038_not_faithful :
    ∃ state', writePacket {} .windows {} (capturedPacket .windows .ethernet headerAfter2038 []) 0
        = .ok state' ∧
      ((readLe32 (state'.output.drop 24) 0).toNat : ℤ) ≠ headerAfter2038.tvSec % 2 ^ 32 ∧
      ((readLe32 (state'.output.drop 24) 4).toNat : ℤ) ≠ headerAfter2038.tvUsec ∧
      (readLe32 (state'.output.drop 24) 4).toNat = 4293967297 :=
  ⟨_, rfl, by decide, by decide, by decide⟩

end NpcapCapture

end PcapConstrictor
