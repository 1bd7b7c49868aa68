import PcapConstrictor.Capture.Termination
import PcapConstrictor.Offline.Settling
import PcapConstrictor.Policy.Dropped

/-!
# What is dropped leaves no trace

A byte that the policy does not look at and does not keep has no influence on what a pipeline
writes: neither on the record of its packet nor on anything behind it
(`dropped_leaves_no_trace`).
-/

namespace PcapConstrictor

open ByteString

/-- Two packets that agree but for bytes of the first one that the policy, in `state`, neither looks
at nor keeps. -/
structure LiveCapturePolicy.Untraced (config : PolicyConfig) (state : State)
    (p q : CapturedPacket) : Prop where
  timestamp : p.timestamp = q.timestamp
  agree : p.Agree (fun i => Unread config state p i ∧
    (evaluate config state p).2.outputLen.toNat ≤ i) q

open LiveCapturePolicy

/-- Every packet agrees with itself. -/
theorem LiveCapturePolicy.Untraced.refl (config : PolicyConfig) (state : State)
    (p : CapturedPacket) : Untraced config state p p :=
  ⟨rfl, rfl, rfl, rfl, rfl, fun _ _ => rfl⟩

namespace Recording

variable (config : PolicyConfig) (writer : PcapWriter) (clock : SystemClock)

/-- The loop body writes the same for both. -/
theorem consumed_untraced {s : Recording} {p q : CapturedPacket}
    (h : Untraced config s.policy p q) :
    consumed config writer clock s q = consumed config writer clock s p := by
  have hevaluate := evaluate_agree (h.agree.mono fun i hi => hi.1)
  have hkept : ∀ i < (evaluate config s.policy p).2.outputLen.toNat,
      ¬ (Unread config s.policy p i ∧ (evaluate config s.policy p).2.outputLen.toNat ≤ i) :=
    fun i hi hhidden => Nat.not_le.mpr hi hhidden.2
  have hrecord : PcapWriter.record clock q (evaluate config s.policy p).2.outputLen
      = PcapWriter.record clock p (evaluate config s.policy p).2.outputLen := by
    have htime : q.timestamp = p.timestamp := h.timestamp.symm
    simp only [PcapWriter.record, PcapWriter.recordHeader, PcapWriter.tsSec, PcapWriter.tsUsec,
      PcapWriter.origLen, htime, ← h.agree.originalLen, h.agree.data.take_eq hkept]
  have hcount : ∀ decision, s.stats.count q decision = s.stats.count p decision := by
    intro decision
    rw [CaptureStats.count, CaptureStats.count, h.agree.capturedLen]
  simp only [consumed, hevaluate, hrecord, hcount]

/-- So does the loop over a list of packets. -/
theorem consumeAll_untraced {s : Recording} {ps qs : List CapturedPacket}
    (h : Transducer.Along (evaluate config) (Untraced config) s.policy ps qs) :
    consumeAll config writer clock s qs = consumeAll config writer clock s ps := by
  generalize hpolicy : s.policy = policy at h
  induction h generalizing s with
  | nil => rfl
  | cons hfirst _ ih =>
    subst hpolicy
    rw [consumeAll, List.foldl_cons, consumed_untraced config writer clock hfirst]
    exact ih rfl

end Recording

namespace OfflinePacketFeed

open PcapFile

/-- A file with other bytes in its records is as long. -/
theorem length_encode_untraced {clock : SystemClock} {config : PolicyConfig}
    {file file' : PcapFile}
    (hpackets : Transducer.Along (evaluate config) (Untraced config) {}
      (file.records.map (Record.packet clock file.header.timePrecision))
      (file'.records.map (Record.packet clock file.header.timePrecision))) :
    file'.encode.length = file.encode.length := by
  have hdata : List.Forall₂ (fun p q : CapturedPacket => p.data.length = q.data.length)
      (file.records.map (Record.packet clock file.header.timePrecision))
      (file'.records.map (Record.packet clock file.header.timePrecision)) :=
    hpackets.forall₂ fun _ _ _ h => h.agree.data.length_eq
  have hbytes : List.Forall₂ (fun record record' : Record =>
      record.bytes.length = record'.bytes.length) file.records file'.records := by
    rwa [List.forall₂_map_left_iff, List.forall₂_map_right_iff] at hdata
  have hsize : size file'.records = size file.records := by
    generalize file.records = records, file'.records = records' at hbytes
    induction hbytes with
    | nil => rfl
    | cons hfirst _ ih => rw [size_cons, size_cons, ih, hfirst]
  rw [encode, encode, List.length_append, List.length_append, Header.length_encode,
    Header.length_encode, PcapFile.length_records, PcapFile.length_records, hsize]

/-- Two such files are constricted alike. -/
theorem run_untraced (clock : SystemClock) (config : PolicyConfig) {file file' : PcapFile}
    (hsize : file.encode.length < UInt64.size) (hheader : file'.header = file.header)
    (hpackets : Transducer.Along (evaluate config) (Untraced config) {}
      (file.records.map (Record.packet clock file.header.timePrecision))
      (file'.records.map (Record.packet clock file.header.timePrecision))) :
    run clock config (.readable file'.encode) true
      = run clock config (.readable file.encode) true := by
  have hsize' : file'.encode.length < UInt64.size :=
    (length_encode_untraced hpackets).symm ▸ hsize
  obtain ⟨hread, hok⟩ := packetsOf_encode clock hsize
  obtain ⟨hread', hok'⟩ := packetsOf_encode clock hsize'
  have hconsumed := @Recording.consumeAll_untraced config (writerOf file.header.fields) clock {} _ _
    hpackets
  rw [hheader] at hread' hok'
  rw [run_of_accepted clock config (accepted_encode hsize),
    run_of_accepted clock config (accepted_encode hsize'), hheader, hread, hread']
  simp only [feedResult, hok, hok', Bool.false_eq_true, if_false, hconsumed]

end OfflinePacketFeed

namespace NpcapCapture

variable {capture : CaptureOptions} {config : PolicyConfig} {clock : SystemClock}
  {env env' : Environment}

/-- The driver hands over bytes in both cases or in neither, and if so, then packets that agree but
for bytes that leave no trace. -/
def UntracedAt (config : PolicyConfig) (clock : SystemClock) (env env' : Environment) (k : ℕ) :
    Prop :=
  Option.Rel (fun bytes bytes' => ∀ header ∈ (env.nextEx k).header,
    Untraced config (Transducer.after (evaluate config) {} (packetsBefore clock env k))
      (capturedPacket clock env.linkType header bytes)
      (capturedPacket clock env.linkType header bytes')) (env.nextEx k).bytes (env'.nextEx k).bytes

/-- Two captures that differ in nothing but bytes that leave no trace. -/
structure UntracedCapture (config : PolicyConfig) (clock : SystemClock) (env env' : Environment) :
    Prop where
  linkType : env'.linkType = env.linkType
  warning : env'.warning = env.warning
  stopRequested : env'.stopRequested = env.stopRequested
  startTime : env'.startTime = env.startTime
  now : env'.now = env.now
  driverStats : env'.driverStats = env.driverStats
  driverErrorText : env'.driverErrorText = env.driverErrorText
  status : ∀ k, (env'.nextEx k).status = (env.nextEx k).status
  header : ∀ k, (env'.nextEx k).header = (env.nextEx k).header
  errorText : ∀ k, (env'.nextEx k).errorText = (env.nextEx k).errorText
  bytes : ∀ k, UntracedAt config clock env env' k

/-- The policy state of a recording depends on the packets alone. -/
theorem policy_consumeAll (writer : PcapWriter) (s : Recording) (packets : List CapturedPacket) :
    (s.consumeAll config writer clock packets).policy
      = Transducer.after (evaluate config) s.policy packets := by
  induction packets generalizing s with
  | nil => rfl
  | cons packet packets ih =>
    rw [Transducer.after_cons]
    exact ih (s.consumed config writer clock packet)

/-- One iteration of the loop does the same for both. -/
theorem loopBody_untraced (h : UntracedCapture config clock env env') (k : ℕ) :
    loopBody capture config (writerOf capture env) clock env' k
        (localsAt capture config clock env k)
      = loopBody capture config (writerOf capture env) clock env k
        (localsAt capture config clock env k) := by
  have hpolicy : (localsAt capture config clock env k).recording.policy
      = Transducer.after (evaluate config) {} (packetsBefore clock env k) :=
    policy_consumeAll ..
  have hbytes := h.bytes k
  unfold UntracedAt at hbytes
  rw [← hpolicy] at hbytes
  simp only [loopBody, h.stopRequested, h.startTime, h.now, h.linkType, h.status, h.header,
    h.errorText, Recording.consume_eq]
  cases hheader : (env.nextEx k).header with
  | none => rfl
  | some header =>
    generalize (env.nextEx k).bytes = bytes, (env'.nextEx k).bytes = bytes' at hbytes
    cases hbytes with
    | none => rfl
    | some hfirst =>
      simp only [Recording.consumed_untraced config _ clock (hfirst header hheader)]

/-- Two such captures record alike. -/
theorem run_untraced (h : UntracedCapture config clock env env') (fuel : ℕ) :
    run capture config clock env' fuel = run capture config clock env fuel := by
  have hwriter : writerOf capture env' = writerOf capture env := by
    rw [writerOf, writerOf, h.linkType]
  have hloop := Loop.run_congr (fun k l => l = localsAt capture config clock env k)
    (fun k l l' hl hnext => eq_localsAt_of_next capture config clock env (hl ▸ hnext))
    (fun k l hl => hl ▸ loopBody_untraced h k) fuel
    (rfl : localsAt capture config clock env 0 = localsAt capture config clock env 0)
  have hfinish : finish env' = finish env := by
    funext k l
    simp only [finish, h.driverStats, h.warning, h.driverErrorText, h.stopRequested, h.linkType]
  have hinitial : localsAt capture config clock env 0
      = { recording := { written := (writerOf capture env).writeGlobalHeader {} } } := rfl
  rw [hinitial] at hloop
  simp only [run, hwriter, hfinish, hloop]

end NpcapCapture

/-- **What is dropped leaves no trace.** Two capture files, or two live captures, that differ in
nothing but bytes that the policy neither looks at nor keeps come to the same result and the same
output file. The bytes that constricting drops are of this kind, unless they hold the header of a
TLS record. -/
theorem dropped_leaves_no_trace (config : PolicyConfig) (clock : SystemClock) :
    (∀ file file' : PcapFile, file.encode.length < UInt64.size → file'.header = file.header →
      Transducer.Along (evaluate config) (Untraced config) {}
        (file.records.map (PcapFile.Record.packet clock file.header.timePrecision))
        (file'.records.map (PcapFile.Record.packet clock file.header.timePrecision)) →
      OfflinePacketFeed.run clock config (.readable file'.encode) true
        = OfflinePacketFeed.run clock config (.readable file.encode) true) ∧
    (∀ (capture : CaptureOptions) (env env' : NpcapCapture.Environment),
      NpcapCapture.UntracedCapture config clock env env' → ∀ fuel,
        NpcapCapture.run capture config clock env' fuel
          = NpcapCapture.run capture config clock env fuel) ∧
    ∀ (state : State) (p q : CapturedPacket), p.timestamp = q.timestamp →
      (evaluate config state p).2.outputLen < baseOutputLen config p →
      (tlsGate config p = true → CutsLastRecord config state p) →
      p.Agree (fun i => (evaluate config state p).2.outputLen.toNat ≤ i) q →
      Untraced config state p q :=
  ⟨fun _ _ hsize hheader hpackets =>
      OfflinePacketFeed.run_untraced clock config hsize hheader hpackets,
    fun _ _ _ h fuel => NpcapCapture.run_untraced h fuel,
    fun _ _ _ htime hconstricted htls hagree =>
      ⟨htime, hagree.mono fun _ hi => ⟨unread_of_constricted hconstricted htls hi, hi⟩⟩⟩

/-- A packet with a Handshake and an Application Data record of the given content. -/
def contentFrame (content : Bytes) : Bytes :=
  exampleEnds.tcpFrame 0 0x10 ([0x16, 3, 3, 0, 1, 0, 0x17, 3, 3, 0, 4] ++ content)

/-- That packet, and another Application Data record. -/
def contentFile (content : Bytes) : PcapFile where
  header := PcapReader.twoBytePacket.header
  records :=
    [.ofFrame (contentFrame content), .ofFrame (exampleEnds.tcpFrame 15 0x10 [0x17, 3, 3, 0, 1, 7])]

/-- Two files that differ in what is dropped of a record. -/
theorem dropped_leaves_no_trace_content :
    OfflinePacketFeed.run .windows exampleConfig (.readable (contentFile [9, 8, 7, 6]).encode) true
      = OfflinePacketFeed.run .windows exampleConfig (.readable (contentFile [1, 2, 3, 4]).encode)
        true := by
  obtain ⟨hoffline, -, hdropped⟩ := dropped_leaves_no_trace exampleConfig .windows
  let packet : Bytes → CapturedPacket := fun content =>
    (PcapFile.Record.ofFrame (contentFrame content)).packet .windows .microsecond
  have hcontent : Untraced exampleConfig {} (packet [1, 2, 3, 4]) (packet [9, 8, 7, 6]) := by
    have hcut : (evaluate exampleConfig {} (packet [1, 2, 3, 4])).2.outputLen.toNat = 65 := by
      decide +kernel
    have hsame : ∀ i < 65, byteAt (contentFrame [1, 2, 3, 4]) i
        = byteAt (contentFrame [9, 8, 7, 6]) i := by decide +kernel
    refine hdropped {} (packet [1, 2, 3, 4]) (packet [9, 8, 7, 6]) rfl ?_ ?_ ?_
    · decide +kernel
    · intro _
      unfold CutsLastRecord
      decide +kernel
    · refine ⟨rfl, by decide +kernel, by decide +kernel, ?_⟩
      refine ⟨by decide +kernel, fun i hi => ?_⟩
      rw [hcut] at hi
      apply hsame i (Nat.not_le.mp hi)
  -- the other packet is the same in both files
  exact hoffline (contentFile [1, 2, 3, 4]) (contentFile [9, 8, 7, 6]) (by decide +kernel) rfl
    (.cons hcontent (.cons (.refl ..) .nil))

end PcapConstrictor
