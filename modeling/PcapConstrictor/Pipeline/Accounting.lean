import PcapConstrictor.Capture.Termination
import PcapConstrictor.Offline.RecordMapping

/-!
# The counters of a run

What both kinds of run report at their end is exact: each decision counter is the number of packets
decided so among those that came in before the end, and the saved bytes cover the configured minimum
for every packet counted as constricted (`counters_exact`). An offline run cannot reach the range of
the counters, a live one can.
-/

namespace PcapConstrictor

open PcapReader

/-- The counters `stats` are those of the packets `packets`. -/
structure Recording.Accounts (config : PolicyConfig) (packets : List CapturedPacket)
    (stats : CaptureStats) : Prop where
  packetsTotal : stats.packetsTotal.toNat = packets.length
  exact : ∀ counter, (stats.counter counter).toNat = counted config {} packets counter
  disjoint : ∑ counter, (stats.counter counter).toNat ≤ stats.packetsTotal.toNat

/-- The saved bytes in `stats` cover the minimum for each packet counted as constricted. -/
def CaptureStats.CoversSavings (config : PolicyConfig) (stats : CaptureStats) : Prop :=
  (stats.tlsAppdataConstricted.toNat + stats.quicShortConstricted.toNat)
    * max 1 config.general.minSavedBytesPerPacket.toNat ≤ stats.bytesSaved.toNat

namespace Recording

variable {config : PolicyConfig} (writer : PcapWriter) (clock : SystemClock) {s : Recording}
  (hpolicy : s.policy = {}) (hstats : s.stats = {}) {packets : List CapturedPacket}
  (hcount : packets.length < 2 ^ 64)
include hpolicy hstats hcount

/-- A counter holds its count, which fits. -/
theorem toNat_counter_consumeAll (counter : Counter) :
    ((consumeAll config writer clock s packets).stats.counter counter).toNat
      = counted config {} packets counter := by
  have hzero : CaptureStats.counter {} counter = 0 := by cases counter <;> rfl
  rw [counter_consumeAll, hpolicy, hstats, hzero, UInt64.zero_add, UInt64.toNat_ofNat']
  exact Nat.mod_eq_of_lt ((counted_le config {} packets counter).trans_lt hcount)

/-- The statistics account for every packet, as long as the numbers fit. -/
theorem accounts_consumeAll :
    Accounts config packets (consumeAll config writer clock s packets).stats := by
  have htotal : (consumeAll config writer clock s packets).stats.packetsTotal.toNat
      = packets.length := by
    rw [(stats_consumeAll config writer clock s packets).1, hstats, UInt64.zero_add,
      UInt64.toNat_ofNat']
    exact Nat.mod_eq_of_lt hcount
  refine ⟨htotal, toNat_counter_consumeAll writer clock hpolicy hstats hcount, ?_⟩
  simp only [toNat_counter_consumeAll writer clock hpolicy hstats hcount, htotal]
  exact sum_counted_le config {} packets

/-- The difference of the byte counters covers the savings. -/
theorem coversSavings_consumeAll (hbytes : capturedBytes packets < 2 ^ 64) :
    let stats := (consumeAll config writer clock s packets).stats
    CaptureStats.CoversSavings config
      { stats with bytesSaved := stats.bytesInput - stats.bytesOutput } := by
  intro stats
  obtain ⟨-, -, hinput, houtput⟩ := stats_consumeAll config writer clock s packets
  rw [hstats, UInt64.zero_add] at hinput houtput
  rw [hpolicy] at houtput
  have hkept := keptBytes_add_le config {} packets
  have hinputNat : stats.bytesInput.toNat = capturedBytes packets := by
    rw [hinput, UInt64.toNat_ofNat']
    exact Nat.mod_eq_of_lt hbytes
  have houtputNat : stats.bytesOutput.toNat = keptBytes config {} packets := by
    rw [houtput, UInt64.toNat_ofNat']
    exact Nat.mod_eq_of_lt (by omega)
  have htls : stats.tlsAppdataConstricted.toNat = _ :=
    toNat_counter_consumeAll writer clock hpolicy hstats hcount .tlsAppdataConstricted
  have hquic : stats.quicShortConstricted.toNat = _ :=
    toNat_counter_consumeAll writer clock hpolicy hstats hcount .quicShortConstricted
  unfold CaptureStats.CoversSavings
  dsimp only
  rw [htls, hquic, UInt64.toNat_sub_of_le _ _ (UInt64.le_iff_toNat_le.mpr (by omega)), hinputNat,
    houtputNat, ← constricted]
  omega

end Recording

/-- The counters that `Accounts` speaks of. -/
theorem Recording.Accounts.congr {config : PolicyConfig} {packets : List CapturedPacket}
    {stats stats' : CaptureStats} (h : Accounts config packets stats)
    (htotal : stats'.packetsTotal = stats.packetsTotal)
    (hcounter : ∀ counter, stats'.counter counter = stats.counter counter) :
    Accounts config packets stats' := by
  refine ⟨htotal ▸ h.packetsTotal, fun counter => ?_, ?_⟩
  · rw [hcounter]
    exact h.exact counter
  · simp only [hcounter, htotal]
    exact h.disjoint

/-- **The counters are exact**, in the offline feed for every input, and in a live capture that does
not reach the range of the counters. -/
theorem counters_exact (config : PolicyConfig) (clock : SystemClock) :
    (∀ (input : InputFile) (reader : PcapReader),
      PcapReader.openFile {} input = (reader, true) →
        let packets := reader.readAll.1.map
          (OfflinePacketFeed.capturedPacket clock reader.globalHeader.timePrecision)
        let result := (OfflinePacketFeed.run clock config input true).1
        Recording.Accounts config packets result.stats ∧
          (result.ok = true → result.stats.CoversSavings config)) ∧
    ∀ (env : NpcapCapture.Environment) (fuel : ℕ) (result : NpcapCaptureRunResult) output,
      NpcapCapture.run config.capture config clock env fuel = some (result, output) →
        ∃ n < fuel, NpcapCapture.EndsAt config.capture env n result.terminationReason ∧
          let packets := NpcapCapture.packetsBefore clock env n
          packets.length < 2 ^ 64 → Recording.Accounts config packets result.stats ∧
            (Recording.capturedBytes packets < 2 ^ 64 → result.stats.CoversSavings config) := by
  constructor
  · intro input reader hopen packets result
    rcases openFile_cases {} input with ⟨bytes, header, rfl, hacc, heq⟩ | ⟨hfalse, -⟩
    · obtain ⟨rfl, -⟩ := Prod.mk.inj (hopen.symm.trans heq)
      obtain ⟨hcount, hsum⟩ := OfflinePacketFeed.sum_captured_lt hacc
      rw [← OfflinePacketFeed.capturedBytes_packetsOf clock header.timePrecision] at hsum
      have hlength : packets.length < 2 ^ 64 := (List.length_map _).trans_lt hcount
      have hresult : result = OfflinePacketFeed.feedResult (opened bytes header).readAll.2
          (Recording.consumeAll config (OfflinePacketFeed.writerOf header) clock {} packets) none :=
        congrArg Prod.fst (OfflinePacketFeed.run_of_accepted clock config hacc)
      have haccounts : Recording.Accounts config packets (Recording.consumeAll config
          (OfflinePacketFeed.writerOf header) clock {} packets).stats :=
        Recording.accounts_consumeAll _ clock rfl rfl hlength
      rw [hresult, OfflinePacketFeed.feedResult]
      cases herror : (opened bytes header).readAll.2.hasError with
      | true =>
        -- a read error sets a message, so the run is not ok and nothing is said of its savings
        have hmessage := (delivered_readAll (reading_opened hacc)).message herror
        exact ⟨haccounts, fun hok => absurd (beq_iff_eq.mp hok) hmessage⟩
      | false =>
        exact ⟨haccounts.congr rfl fun counter => by cases counter <;> rfl,
          fun _ => Recording.coversSavings_consumeAll _ clock rfl rfl hlength hsum⟩
    · rw [hopen] at hfalse
      cases hfalse
  · intro env fuel result output hrun
    obtain ⟨n, hlt, reason, hends, rfl, rfl⟩ := (NpcapCapture.run_eq_some_iff config clock).mp hrun
    have hreason := (NpcapCapture.loopBody_exitAt config clock hends.reason).2
    refine ⟨n, hlt, hreason.symm ▸ hends, fun hcount => ?_⟩
    have hstats := NpcapCapture.stats_resultAt config clock hends
    have haccounts : Recording.Accounts config (NpcapCapture.packetsBefore clock env n)
        (NpcapCapture.localsAt config.capture config clock env n).recording.stats :=
      Recording.accounts_consumeAll _ clock rfl rfl hcount
    have hcovers : ∀ stats : CaptureStats,
        CaptureStats.CoversSavings config { stats with receiveErrors := 0 }
          = stats.CoversSavings config := fun _ => rfl
    refine ⟨?_, fun hbytes => ?_⟩
    · -- a failed read is the only thing that is counted behind the last packet
      refine haccounts.congr ?_ fun counter => ?_
      · have heq := congrArg CaptureStats.packetsTotal hstats
        exact heq
      · have heq := congrArg (CaptureStats.counter · counter) hstats
        cases counter <;> exact heq
    · rw [← hcovers, hstats]
      exact Recording.coversSavings_consumeAll _ clock rfl rfl hcount hbytes

end PcapConstrictor
