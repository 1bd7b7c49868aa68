import PcapConstrictor.Policy.LengthDecision

/-!
# Recording packets

Reference: `stats/CaptureStats.hpp` and the loop bodies of `OfflinePacketFeed::Run` and
`NpcapCapture::Run`, which treat a packet alike: the policy decides, the writer writes, the counters
count. `AccumulateDecisionStats` stands in both files with one body.

Counters are 64-bit and wrap. Since the writer never rejects a decided length, a list of packets is
consumed in full; `written_consumeAll` and `stats_consumeAll` say what it leaves.
-/

namespace PcapConstrictor

open ByteString

/-- The counters of `CaptureStats` that the loops maintain. -/
structure CaptureStats where
  packetsTotal : UInt64 := 0
  packetsWritten : UInt64 := 0
  bytesInput : UInt64 := 0
  bytesOutput : UInt64 := 0
  bytesSaved : UInt64 := 0
  receiveErrors : UInt64 := 0
  tlsAppdataConstricted : UInt64 := 0
  tlsFallback : UInt64 := 0
  quicLongHeader : UInt64 := 0
  quicShortMatched : UInt64 := 0
  quicShortConstricted : UInt64 := 0
  quicFallback : UInt64 := 0
deriving DecidableEq, Repr

namespace CaptureStats

/-- `AccumulateDecisionStats`. -/
def accumulateDecisionStats (stats : CaptureStats) : DecisionReason → CaptureStats
  | .tlsApplicationDataConstricted =>
    { stats with tlsAppdataConstricted := stats.tlsAppdataConstricted + 1 }
  | .tlsMalformedFallback => { stats with tlsFallback := stats.tlsFallback + 1 }
  | .tlsNoRecordFallback => { stats with tlsFallback := stats.tlsFallback + 1 }
  | .quicLongHeader => { stats with quicLongHeader := stats.quicLongHeader + 1 }
  | .quicShortHeaderMatched => { stats with quicShortMatched := stats.quicShortMatched + 1 }
  | .quicShortHeaderConstricted =>
    { stats with quicShortConstricted := stats.quicShortConstricted + 1 }
  | .quicShortHeaderUnknownCidFallback => { stats with quicFallback := stats.quicFallback + 1 }
  | .quicShortHeaderDcidMismatchFallback => { stats with quicFallback := stats.quicFallback + 1 }
  | .quicMalformedFallback => { stats with quicFallback := stats.quicFallback + 1 }
  | _ => stats

/-- The updates of the counters after a packet has been written. -/
def count (stats : CaptureStats) (packet : CapturedPacket) (decision : LiveCaptureDecision) :
    CaptureStats :=
  let stats :=
    { stats with
      packetsTotal := stats.packetsTotal + 1
      packetsWritten := stats.packetsWritten + 1
      bytesInput := stats.bytesInput + packet.capturedLen.toUInt64
      bytesOutput := stats.bytesOutput + decision.outputLen.toUInt64 }
  stats.accumulateDecisionStats decision.reason

/-- The decision counters do not touch the others. -/
theorem accumulateDecisionStats_frame (stats : CaptureStats) (reason : DecisionReason) :
    (stats.accumulateDecisionStats reason).packetsTotal = stats.packetsTotal ∧
      (stats.accumulateDecisionStats reason).packetsWritten = stats.packetsWritten ∧
      (stats.accumulateDecisionStats reason).bytesInput = stats.bytesInput ∧
      (stats.accumulateDecisionStats reason).bytesOutput = stats.bytesOutput := by
  cases reason <;> exact ⟨rfl, rfl, rfl, rfl⟩

end CaptureStats

/-- The locals of the two loops: policy, writer and counters. -/
structure Recording where
  policy : LiveCapturePolicy.State := {}
  written : PcapWriter.State := {}
  stats : CaptureStats := {}

namespace Recording

variable (config : PolicyConfig) (writer : PcapWriter) (clock : SystemClock)

/-- The loop body for one packet. An exception of the writer ends the loop with its message. -/
def consume (s : Recording) (packet : CapturedPacket) : Except String Recording :=
  let next := LiveCapturePolicy.evaluate config s.policy packet
  match writer.writePacket clock s.written packet next.2.outputLen with
  | .error message => .error message
  | .ok written => .ok { policy := next.1, written, stats := s.stats.count packet next.2 }

/-- What the loop body leaves, given that the writer never rejects a decided length. -/
def consumed (s : Recording) (packet : CapturedPacket) : Recording :=
  let next := LiveCapturePolicy.evaluate config s.policy packet
  { policy := next.1
    written :=
      { output := (writer.writeGlobalHeader s.written).output
          ++ PcapWriter.record clock packet next.2.outputLen
        globalHeaderWritten := true }
    stats := s.stats.count packet next.2 }

/-- Consuming a packet never throws: the policy asks for no more than the writer accepts. -/
theorem consume_eq (s : Recording) (packet : CapturedPacket) :
    consume config writer clock s packet = .ok (consumed config writer clock s packet) := by
  unfold consume consumed
  dsimp only
  rw [LiveCapturePolicy.writePacket_evaluate]

/-- The loop over a list of packets. -/
def consumeAll (s : Recording) (packets : List CapturedPacket) : Recording :=
  packets.foldl (consumed config writer clock) s

/-- The decisions for a list of packets, from a policy in state `policy`. -/
def decisions (policy : LiveCapturePolicy.State) (packets : List CapturedPacket) :
    List LiveCaptureDecision :=
  Transducer.outputs (LiveCapturePolicy.evaluate config) policy packets

/-- The records written for a list of packets. -/
def records (policy : LiveCapturePolicy.State) (packets : List CapturedPacket) : List Bytes :=
  List.zipWith (fun packet decision => PcapWriter.record clock packet decision.outputLen) packets
    (decisions config policy packets)

/-- The number of bytes captured in a list of packets. -/
def capturedBytes (packets : List CapturedPacket) : ℕ :=
  (packets.map (·.capturedLen.toNat)).sum

/-- The number of bytes kept of a list of packets. -/
def keptBytes (policy : LiveCapturePolicy.State) (packets : List CapturedPacket) : ℕ :=
  ((decisions config policy packets).map (·.outputLen.toNat)).sum

/-- The output behind a list of packets: the first one writes the global header if it is still
missing. -/
theorem written_consumeAll (s : Recording) {packets : List CapturedPacket} (hne : packets ≠ []) :
    (consumeAll config writer clock s packets).written
      = { output := (writer.writeGlobalHeader s.written).output
            ++ (records config clock s.policy packets).flatten
          globalHeaderWritten := true } := by
  induction packets generalizing s with
  | nil => exact absurd rfl hne
  | cons packet packets ih =>
    have hcons : consumeAll config writer clock s (packet :: packets)
        = consumeAll config writer clock (consumed config writer clock s packet) packets := rfl
    rw [hcons]
    by_cases hnil : packets = []
    · subst hnil
      simp [consumeAll, consumed, records, decisions]
    · rw [ih _ hnil]
      simp [consumed, records, decisions, PcapWriter.writeGlobalHeader]

/-- The records of packets are those of a first part, and what is recorded behind that. -/
theorem records_append (policy : LiveCapturePolicy.State) (before after : List CapturedPacket) :
    records config clock policy (before ++ after)
      = records config clock policy before
        ++ records config clock
            (Transducer.after (LiveCapturePolicy.evaluate config) policy before) after := by
  simp only [records, decisions, Transducer.outputs_append]
  exact List.zipWith_append (Transducer.length_outputs ..).symm

/-- The file of a writer with the records of a list of packets. -/
def fileOf (packets : List CapturedPacket) : Bytes :=
  writer.globalHeader ++ (records config clock {} packets).flatten

/-- More packets only add to the file. -/
theorem fileOf_mono {packets packets' : List CapturedPacket} (hle : packets <+: packets') :
    fileOf config writer clock packets <+: fileOf config writer clock packets' := by
  obtain ⟨rest, rfl⟩ := hle
  rw [fileOf, fileOf, records_append, List.flatten_append, ← List.append_assoc]
  exact List.prefix_append ..

/-- The counters behind a list of packets. -/
theorem stats_consumeAll (s : Recording) (packets : List CapturedPacket) :
    let stats := (consumeAll config writer clock s packets).stats
    stats.packetsTotal = s.stats.packetsTotal + UInt64.ofNat packets.length ∧
      stats.packetsWritten = s.stats.packetsWritten + UInt64.ofNat packets.length ∧
      stats.bytesInput = s.stats.bytesInput + UInt64.ofNat (capturedBytes packets) ∧
      stats.bytesOutput
        = s.stats.bytesOutput + UInt64.ofNat (keptBytes config s.policy packets) := by
  induction packets generalizing s with
  | nil => simp [consumeAll, capturedBytes, keptBytes, decisions]
  | cons packet packets ih =>
    obtain ⟨htotal, hwritten, hinput, houtput⟩ := ih (consumed config writer clock s packet)
    have hframe := CaptureStats.accumulateDecisionStats_frame
    simp only [consumed, CaptureStats.count, hframe] at htotal hwritten hinput houtput
    have hone : UInt64.ofNat (packets.length + 1) = 1 + UInt64.ofNat packets.length := by
      rw [UInt64.ofNat_add, UInt64.add_comm]
      rfl
    refine ⟨?_, ?_, ?_, ?_⟩
    · rw [List.length_cons, hone, ← UInt64.add_assoc]
      exact htotal
    · rw [List.length_cons, hone, ← UInt64.add_assoc]
      exact hwritten
    · rw [capturedBytes, List.map_cons, List.sum_cons, UInt64.ofNat_add, UInt64.ofNat_uInt32ToNat,
        ← UInt64.add_assoc]
      exact hinput
    · rw [keptBytes, decisions, Transducer.outputs_cons, List.map_cons, List.sum_cons,
        UInt64.ofNat_add, UInt64.ofNat_uInt32ToNat, ← UInt64.add_assoc]
      exact houtput

/-- `bytes` is the record of `packet`: its time, its original length, and a prefix of its data
within all limits. -/
structure Recorded (packet : CapturedPacket) (bytes : Bytes) : Prop where
  tsSec : readLe32 bytes 0 = PcapWriter.tsSec clock packet
  tsUsec : readLe32 bytes 4 = PcapWriter.tsUsec clock packet
  origLen : readLe32 bytes 12 = packet.originalLen
  inclLen_le : readLe32 bytes 8 ≤ packet.capturedLen ∧
    readLe32 bytes 8 ≤ config.capture.defaultSnaplen ∧
    readLe32 bytes 8 ≤ config.capture.maxCaptureLen
  length : bytes.length = 16 + (readLe32 bytes 8).toNat
  data : bytes.drop 16 = packet.data.take (readLe32 bytes 8).toNat

/-- The record of a packet is its prefix, of the decided length. -/
theorem recorded_record (policy : LiveCapturePolicy.State) (packet : CapturedPacket) :
    Recorded config clock packet
      (PcapWriter.record clock packet
        (LiveCapturePolicy.evaluate config policy packet).2.outputLen) := by
  have hbase := UInt32.le_iff_toNat_le.mp
    (LiveCapturePolicy.outputLen_le_base config policy packet)
  generalize (LiveCapturePolicy.evaluate config policy packet).2.outputLen = inclLen at hbase ⊢
  obtain ⟨hsec, husec, hincl, horig⟩ := PcapWriter.record_fields clock packet inclLen
  rw [LiveCapturePolicy.toNat_baseOutputLen, PacketView.toNat_safeCapturedLen] at hbase
  refine ⟨hsec, husec, ?_, ?_, ?_, ?_⟩
  · rw [horig, PcapWriter.origLen]
    exact max32_eq_left (UInt32.le_iff_toNat_le.mpr (by omega))
  · rw [hincl, CapturedPacket.capturedLen]
    simp only [UInt32.le_iff_toNat_le]
    omega
  · rw [hincl, PcapWriter.record, List.length_append, PcapWriter.length_recordHeader,
      List.length_take, CapturedPacket.data]
    omega
  · rw [hincl]
    rfl

/-- **Each packet gets its record**, whatever state the policy is in. -/
theorem recorded_records (policy : LiveCapturePolicy.State) (packets : List CapturedPacket) :
    List.Forall₂ (Recorded config clock) packets (records config clock policy packets) := by
  induction packets generalizing policy with
  | nil => exact List.Forall₂.nil
  | cons packet packets ih =>
    exact List.Forall₂.cons (recorded_record config clock policy packet) (ih _)

/-- No packet is kept beyond what was captured of it. -/
theorem keptBytes_le (policy : LiveCapturePolicy.State) (packets : List CapturedPacket) :
    keptBytes config policy packets ≤ capturedBytes packets := by
  induction packets generalizing policy with
  | nil => exact Nat.le_refl _
  | cons packet packets ih =>
    have hkept := UInt32.le_iff_toNat_le.mp
      (LiveCapturePolicy.outputLen_le_base config policy packet)
    have hbase := UInt32.le_iff_toNat_le.mp (LiveCapturePolicy.baseOutputLen_le config packet).1
    rw [PacketView.toNat_safeCapturedLen] at hbase
    have hcaptured : min packet.packet.capturedLen.toNat packet.packet.data.length
        ≤ packet.capturedLen.toNat := Nat.min_le_left _ _
    have hrest := ih (LiveCapturePolicy.evaluate config policy packet).1
    rw [keptBytes, decisions, Transducer.outputs_cons, List.map_cons, List.sum_cons, capturedBytes,
      List.map_cons, List.sum_cons]
    exact Nat.add_le_add (hkept.trans (hbase.trans hcaptured)) hrest

end Recording

end PcapConstrictor
