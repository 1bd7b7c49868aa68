import PcapConstrictor.Common.FixedPoint
import PcapConstrictor.Offline.Canonical
import PcapConstrictor.Policy.RepeatedCut

/-!
# Passes over the output

The output of the feed can be its input again. A second pass need not leave it alone: it does not
see the packets that the first one has cut, so the constrictors know less and may know otherwise.
But the feed comes to rest: with each pass that changes the file a packet loses a cut, and it has
two at most (`passes_settle`).
-/

namespace PcapConstrictor

open ByteString PcapReader FixedPoint

namespace PcapFile

variable (clock : SystemClock) (config : PolicyConfig)

/-- What a pass makes of the records of a canonical file, from a policy in state `policy`. -/
def cutRecords (policy : LiveCapturePolicy.State) : List Record → List Record
  | [] => []
  | record :: records =>
    let next := LiveCapturePolicy.evaluate config policy (record.packet clock .microsecond)
    record.cutAt next.2.outputLen.toNat :: cutRecords next.1 records

/-- The limits of the configuration allow all of the record. -/
def Record.Limited (record : Record) : Prop :=
  record.capturedLength ≤ Recording.snaplenOf config

/-- How often the records can still be cut. -/
def Record.cutsLeft (record : Record) : ℕ := PcapConstrictor.cutsLeft record.bytes .ethernet

/-- All of a record's bytes reach the policy. -/
theorem Record.safeData_packet (record : Record) (precision : PcapTimePrecision) :
    (record.packet clock precision).safeData = record.bytes := by
  have hsafe : (record.packet clock precision).packet.safeCapturedLen.toNat
      = min record.capturedLength.toNat record.bytes.length := PacketView.toNat_safeCapturedLen _
  rw [record.toNat_capturedLength, Nat.min_self] at hsafe
  rw [CapturedPacket.safeData, hsafe]
  exact List.take_length

/-- What is stored without a cut: the record, up to the snapshot length. -/
theorem Record.toNat_baseOutputLen (record : Record) (precision : PcapTimePrecision) :
    (LiveCapturePolicy.baseOutputLen config (record.packet clock precision)).toNat
      = min record.bytes.length (Recording.snaplenOf config).toNat := by
  have hsafe := CapturedPacket.length_safeData (record.packet clock precision)
  rw [record.safeData_packet] at hsafe
  have horiginal : (record.packet clock precision).originalLen = record.originalLength := rfl
  have hle := record.length_le
  rw [LiveCapturePolicy.toNat_baseOutputLen, ← hsafe, horiginal, Recording.snaplenOf, toNat_min32]
  omega

/-- What is decided for a record is within its data and within the limits. -/
theorem Record.outputLen_le (policy : LiveCapturePolicy.State) (record : Record) :
    let outputLen :=
      (LiveCapturePolicy.evaluate config policy (record.packet clock .microsecond)).2.outputLen
    outputLen ≤ record.capturedLength ∧ outputLen ≤ Recording.snaplenOf config := by
  intro outputLen
  have hle : outputLen.toNat ≤ _ := UInt32.le_iff_toNat_le.mp
    (LiveCapturePolicy.outputLen_le_base config policy (record.packet clock .microsecond))
  rw [record.toNat_baseOutputLen] at hle
  simp only [UInt32.le_iff_toNat_le, record.toNat_capturedLength]
  omega

/-- A record that went through a pass is within the snapshot length. -/
theorem Record.limited_cutAt (policy : LiveCapturePolicy.State) (record : Record) :
    (record.cutAt (LiveCapturePolicy.evaluate config policy
      (record.packet clock .microsecond)).2.outputLen.toNat).Limited config := by
  obtain ⟨hcaptured, hlimit⟩ := record.outputLen_le clock config policy
  rw [UInt32.le_iff_toNat_le, record.toNat_capturedLength] at hcaptured
  rw [Record.Limited, UInt32.le_iff_toNat_le, Record.toNat_capturedLength]
  exact (List.length_take_of_le hcaptured).trans_le (UInt32.le_iff_toNat_le.mp hlimit)

/-- **A pass leaves a record alone or takes a cut from it**, if the limits allow all of it. -/
theorem Record.cutsLeft_cutAt {record : Record} (h : record.Limited config)
    (policy : LiveCapturePolicy.State) :
    let cut := record.cutAt (LiveCapturePolicy.evaluate config policy
      (record.packet clock .microsecond)).2.outputLen.toNat
    cut = record ∨ cut.cutsLeft < record.cutsLeft := by
  have hevaluate :=
    LiveCapturePolicy.cutsLeft_evaluate config policy (record.packet clock .microsecond)
  dsimp only at hevaluate ⊢
  rw [record.safeData_packet] at hevaluate
  rcases hevaluate with hbase | hlt
  · refine Or.inl (Record.cutAt_of_le ?_)
    rw [Record.Limited, UInt32.le_iff_toNat_le, record.toNat_capturedLength] at h
    rw [hbase, record.toNat_baseOutputLen]
    omega
  · exact Or.inr hlt

/-- A pass drops no record. -/
theorem length_cutRecords (policy : LiveCapturePolicy.State) (records : List Record) :
    (cutRecords clock config policy records).length = records.length := by
  induction records generalizing policy with
  | nil => rfl
  | cons record records ih => rw [cutRecords, List.length_cons, List.length_cons, ih]

/-- Behind a pass, all records are within the snapshot length. -/
theorem limited_cutRecords (policy : LiveCapturePolicy.State) (records : List Record) :
    ∀ record ∈ cutRecords clock config policy records, record.Limited config := by
  induction records generalizing policy with
  | nil => exact fun _ hmem => absurd hmem List.not_mem_nil
  | cons record records ih =>
    rw [cutRecords, List.forall_mem_cons]
    exact ⟨record.limited_cutAt clock config policy, ih _⟩

theorem inRange_cutRecords {records : List Record}
    (h : ∀ record ∈ records, record.InRange) (policy : LiveCapturePolicy.State) :
    ∀ record ∈ cutRecords clock config policy records, record.InRange := by
  induction records generalizing policy with
  | nil => exact fun _ hmem => absurd hmem List.not_mem_nil
  | cons record records ih =>
    rw [List.forall_mem_cons] at h
    rw [cutRecords, List.forall_mem_cons]
    exact ⟨h.1, ih h.2 _⟩

/-- A pass makes no file longer. -/
theorem size_cutRecords_le (policy : LiveCapturePolicy.State) (records : List Record) :
    size (cutRecords clock config policy records) ≤ size records := by
  induction records generalizing policy with
  | nil => exact Nat.le_refl _
  | cons record records ih =>
    have hlength : ∀ n, (record.cutAt n).bytes.length ≤ record.bytes.length :=
      fun n => List.length_take_le' n record.bytes
    rw [cutRecords, size_cons, size_cons]
    exact Nat.add_le_add (Nat.add_le_add_left (hlength _) 16) (ih _)

/-- Record by record, a pass changes nothing or takes a cut. -/
theorem forall₂_cutRecords {records : List Record} (h : ∀ record ∈ records, record.Limited config)
    (policy : LiveCapturePolicy.State) :
    List.Forall₂ (fun record cut => cut = record ∨ cut.cutsLeft < record.cutsLeft) records
      (cutRecords clock config policy records) := by
  induction records generalizing policy with
  | nil => exact List.Forall₂.nil
  | cons record records ih =>
    rw [List.forall_mem_cons] at h
    exact List.Forall₂.cons (Record.cutsLeft_cutAt clock config h.1 policy) (ih h.2 _)

/-- The sum of the cuts left is a measure for the passes. -/
theorem decreasing_cutRecords :
    Decreasing (cutRecords clock config {})
      (fun records => ∀ record ∈ records, record.Limited config)
      (fun records => (records.map Record.cutsLeft).sum) where
  keeps := fun records _ => limited_cutRecords clock config {} records
  decreases := fun _ h => Forall₂.sum_lt (forall₂_cutRecords clock config h {})

/-- No record can be cut more than twice. -/
theorem sum_cutsLeft_le (records : List Record) :
    (records.map Record.cutsLeft).sum ≤ 2 * records.length := by
  induction records with
  | nil => exact Nat.le_refl 0
  | cons record records ih =>
    have hle : record.cutsLeft ≤ 2 := cutsLeft_le record.bytes .ethernet
    rw [List.map_cons, List.sum_cons, List.length_cons]
    omega

/-- Passes over the records of a canonical file come to rest. The first one applies the limits. -/
theorem exists_settled_cutRecords (records : List Record) :
    ∃ k ≤ 2 * records.length + 1, SettledAt (cutRecords clock config {}) records k := by
  obtain ⟨k, hk, hsettled⟩ := (decreasing_cutRecords clock config).exists_settled
    (limited_cutRecords clock config {} records)
  have hle := sum_cutsLeft_le (cutRecords clock config {} records)
  rw [length_cutRecords] at hle
  exact ⟨k + 1, by omega, hsettled.succ⟩

/-- The records written are those of the pass. -/
theorem records_eq_cutRecords {records : List Record}
    (h : ∀ record ∈ records, record.InRange) (policy : LiveCapturePolicy.State) :
    Recording.records config clock policy (records.map (Record.packet clock .microsecond))
      = (cutRecords clock config policy records).map (Record.encode .little) := by
  induction records generalizing policy with
  | nil => rfl
  | cons record records ih =>
    rw [List.forall_mem_cons] at h
    have hrest := ih h.2 (LiveCapturePolicy.evaluate config policy
      (record.packet clock .microsecond)).1
    have hfirst := OfflinePacketFeed.record_packet clock h.1
      (record.outputLen_le clock config policy).1
    unfold Recording.records Recording.decisions at hrest ⊢
    rw [List.map_cons, Transducer.outputs_cons, List.zipWith_cons_cons, hrest, hfirst, cutRecords,
      List.map_cons]

end PcapFile

namespace OfflinePacketFeed

open PcapFile LiveCapturePolicy

variable (clock : SystemClock) (config : PolicyConfig)

/-- A pass over a canonical file. -/
theorem run_cutRecords (header : Header) {records : List Record} (hne : records ≠ [])
    (hrange : ∀ record ∈ records, record.InRange)
    (hsize : (PcapFile.mk header.canonical records).encode.length < UInt64.size) :
    ∃ result, run clock config (.readable (PcapFile.mk header.canonical records).encode) true
        = (result, some (PcapFile.mk header.canonical
            (cutRecords clock config {} records)).encode) ∧
      result.ok = true := by
  have hacc := accepted_encode hsize
  obtain ⟨hpackets, hread⟩ := packetsOf_encode clock hsize
  have hprecision : (PcapFile.mk header.canonical records).header.timePrecision = .microsecond :=
    rfl
  rw [hprecision] at hpackets
  have hpacketsNe : records.map (Record.packet clock .microsecond) ≠ [] := by simpa using hne
  refine ⟨_, Prod.ext rfl ?_, ?_⟩
  · rw [run_of_accepted clock config hacc, hpackets]
    dsimp only
    rw [Recording.written_consumeAll config _ clock {} hpacketsNe,
      records_eq_cutRecords clock config hrange, ← List.flatMap_def]
    rfl
  · rw [run_of_accepted clock config hacc]
    exact (ok_feedResult hacc _).mpr hread

/-- What the feed makes of a file in a number of passes. -/
def passes (bytes : Bytes) : ℕ → Bytes
  | 0 => bytes
  | k + 1 => (run clock config (.readable (passes bytes k)) true).2.getD []

/-- The file behind `k` passes, if there is one at least. -/
def fileBehind (file : PcapFile) (k : ℕ) : PcapFile where
  header := file.header.canonical
  records := (cutRecords clock config {})^[k]
    (file.records.map (·.canonical file.header.timePrecision))

section Passes

variable {file : PcapFile} (hsize : file.encode.length < UInt64.size)
  (hne : file.records ≠ [])

include hsize hne

/-- Every pass finds a file that it can take. -/
theorem fileBehind_sound (k : ℕ) :
    (fileBehind clock config file k).records ≠ [] ∧
      (∀ record ∈ (fileBehind clock config file k).records, record.InRange) ∧
      (fileBehind clock config file k).encode.length < UInt64.size := by
  have hlength : ∀ records : List Record, (PcapFile.mk file.header.canonical records).encode.length
      = 24 + size records := by
    intro records
    rw [PcapFile.encode, List.length_append, Header.length_encode]
    exact congrArg (24 + ·) (PcapFile.length_records _ records)
  have hfirst : 24 + size (file.records.map (·.canonical file.header.timePrecision))
      < UInt64.size := by
    rw [← hlength]
    exact file.length_canonical ▸ hsize
  unfold fileBehind
  rw [hlength]
  induction k with
  | zero => exact ⟨by simpa using hne, file.canonical_inRange, hfirst⟩
  | succ k ih =>
    obtain ⟨hnonempty, hinRange, hlt⟩ := ih
    rw [Function.iterate_succ_apply']
    refine ⟨?_, inRange_cutRecords clock config hinRange {}, ?_⟩
    · rw [← List.length_pos_iff, length_cutRecords]
      exact List.length_pos_iff.mpr hnonempty
    · exact lt_of_le_of_lt (Nat.add_le_add_left (size_cutRecords_le clock config {} _) 24) hlt

/-- One more pass over the file behind `k` passes. -/
theorem run_fileBehind (k : ℕ) :
    ∃ result, run clock config (.readable (fileBehind clock config file k).encode) true
        = (result, some (fileBehind clock config file (k + 1)).encode) ∧
      result.ok = true := by
  obtain ⟨hnonempty, hinRange, hlt⟩ := fileBehind_sound clock config hsize hne k
  obtain ⟨result, hrun, hok⟩ := run_cutRecords clock config file.header hnonempty hinRange hlt
  refine ⟨result, hrun.trans ?_, hok⟩
  rw [fileBehind, fileBehind, Function.iterate_succ_apply']

/-- The first pass takes the file for its canonical form. -/
theorem run_passes (k : ℕ) :
    run clock config (.readable (passes clock config file.encode k)) true
      = run clock config (.readable (fileBehind clock config file k).encode) true := by
  induction k with
  | zero => exact run_canonical clock config hsize
  | succ k ih =>
    obtain ⟨result, hrun, -⟩ := run_fileBehind clock config hsize hne k
    rw [passes, ih, hrun]
    rfl

/-- The output of `k + 1` passes, computed on the records. -/
theorem passes_succ (k : ℕ) :
    passes clock config file.encode (k + 1) = (fileBehind clock config file (k + 1)).encode := by
  obtain ⟨result, hrun, -⟩ := run_fileBehind clock config hsize hne k
  rw [passes, run_passes clock config hsize hne, hrun]
  rfl

/-- **Passes come to rest.** However often the feed is run over its own output, with one
configuration, every pass succeeds, and behind twice as many passes as the file has records, and one
more, the file does not change again. -/
theorem passes_settle :
    (∀ k, (run clock config (.readable (passes clock config file.encode k)) true).1.ok = true) ∧
      ∃ k ≤ 2 * file.records.length + 1, ∀ j, k ≤ j →
        passes clock config file.encode j = passes clock config file.encode k := by
  refine ⟨fun k => ?_, ?_⟩
  · obtain ⟨result, hrun, hok⟩ := run_fileBehind clock config hsize hne k
    rw [run_passes clock config hsize hne, hrun]
    exact hok
  · obtain ⟨k, hk, hsettled⟩ := exists_settled_cutRecords clock config
      (file.records.map (·.canonical file.header.timePrecision))
    rw [List.length_map] at hk
    -- the file itself need not be canonical
    have hbehind : ∀ j, max k 1 ≤ j →
        passes clock config file.encode j = (fileBehind clock config file k).encode := by
      intro j hj
      obtain ⟨n, rfl⟩ : ∃ n, j = n + 1 := ⟨j - 1, by omega⟩
      rw [passes_succ clock config hsize hne, fileBehind, hsettled (n + 1) (by omega)]
      rfl
    refine ⟨max k 1, by omega, fun j hj => ?_⟩
    rw [hbehind j hj, hbehind (max k 1) (Nat.le_refl _)]

end Passes

/-- A Handshake record, and an Application Data record in two parts, the second of which starts like
a record of its own. -/
def splitRecordFile : PcapFile where
  header := twoBytePacket.header
  records :=
    [.ofFrame (exampleEnds.tcpFrame 0 0x10 [0x16, 3, 3, 0, 1, 0]),
      .ofFrame (exampleEnds.tcpFrame 6 0x10 [0x17, 3, 3, 0, 30, 1, 2, 3, 4, 5]),
      .ofFrame (exampleEnds.tcpFrame 16 0x10 [0x17, 3, 3, 0, 4, 1, 2, 3, 4])]

/-- Three records settle within seven passes. -/
theorem passes_settle_splitRecordFile :
    (∀ k, (run .windows exampleConfig
        (.readable (passes .windows exampleConfig splitRecordFile.encode k)) true).1.ok = true) ∧
      ∃ k ≤ 2 * 3 + 1, ∀ j, k ≤ j →
        passes .windows exampleConfig splitRecordFile.encode j
          = passes .windows exampleConfig splitRecordFile.encode k := by
  exact passes_settle .windows exampleConfig (by decide +kernel) (List.cons_ne_nil _ _)

/-- The second pass cuts what the first one has kept. -/
example :
    [0, 1, 2].map (fun k =>
        (fileBehind .windows exampleConfig splitRecordFile k).records.map (·.bytes.length))
      = [[60, 64, 63], [60, 59, 63], [60, 59, 59]] := by
  decide +kernel

end OfflinePacketFeed

end PcapConstrictor
