import PcapConstrictor.Capture.Replay
import PcapConstrictor.Offline.Truncation
import PcapConstrictor.Pipeline.WriteFailures

/-!
# After a crash

A capture that is killed leaves some beginning of what it has written. The reader finds the complete
records in it, and says whether a part of another one is left (`crash_recovery`).
-/

namespace PcapConstrictor

open ByteString PcapReader Loop

namespace PcapWriter

/-- **Reading the beginning of a file of the writer**: the packets whose records are complete, and
an error if a part of another record follows them. -/
theorem readAll_torn (writer : PcapWriter) (hsnaplen : writer.snaplen ≠ 0)
    (hlink : writer.linkType = .ethernet) {clock : SystemClock} {written : List Written}
    (haccepted : ∀ w ∈ written, w.2 ≤ w.1.packet.safeCapturedLen) {disk : Bytes}
    (htorn : disk <+: writer.globalHeader ++ recordBytes clock written)
    (hheader : 24 ≤ disk.length) (hsize : disk.length < UInt64.size) (reader : PcapReader) :
    let result := reader.openFile (.readable disk)
    result.2 = true ∧ ∃ whole rest, written = whole ++ rest ∧
      List.Forall₂ (fun w record => ReadsBack clock w.1 w.2 record) whole result.1.readAll.1 ∧
      writer.globalHeader ++ recordBytes clock whole <+: disk ∧
      (result.1.readAll.2.hasError = false
        ↔ disk = writer.globalHeader ++ recordBytes clock whole) ∧
      ∀ next rest', rest = next :: rest' →
        ¬ writer.globalHeader ++ recordBytes clock (whole ++ [next]) <+: disk := by
  intro result
  obtain ⟨whole, rest, tail, rfl, hcut, hrest⟩ := @Layout.exists_cut _ _
    (fun w : Written => record clock w.1 w.2) written (disk.length - 24)
  have hwhole : ∀ w ∈ whole, w.2 ≤ w.1.packet.safeCapturedLen :=
    fun w hw => haccepted w (List.mem_append_left rest hw)
  obtain ⟨records, hrecords, hread⟩ := exists_records hwhole
  -- the bytes on the disk
  obtain rfl : disk = writer.globalHeader ++ (recordBytes clock whole ++ tail) := by
    rw [List.prefix_iff_eq_take] at htorn
    rw [htorn, List.take_append, length_globalHeader,
      List.take_of_length_le (by rw [length_globalHeader]; exact hheader)]
    exact congrArg _ hcut
  have hacc := accepted_globalHeader hsnaplen hlink hsize
  have hopened : result = (opened _ writer.headerOf, true) := openFile_of_accepted hacc reader
  have hreading := reading_opened hacc
  rw [List.drop_left' (length_globalHeader_eq writer), hrecords] at hreading
  obtain ⟨behind, hbehind, hglobal, -, hall⟩ :=
    @readAll_of_append records tail _ 0 24 hreading ⟨rfl, rfl⟩
  rw [← hrecords] at hall
  rw [hopened]
  refine ⟨rfl, whole, rest, rfl, ?_⟩
  dsimp only
  rw [hall, ← List.append_assoc]
  rcases hrest with ⟨rfl, rfl⟩ | ⟨next, rest', rfl, hlt, hinitial⟩
  · rw [readAll_of_none (readNext_of_nil hbehind), List.append_nil, List.append_nil]
    exact ⟨hread 0 24, List.prefix_rfl, iff_of_true hbehind.hasError rfl,
      fun _ _ hnil => absurd hnil (List.cons_ne_nil _ _).symm⟩
  have hincomplete : ∀ next' rest'', next :: rest' = next' :: rest'' →
      ¬ writer.globalHeader ++ recordBytes clock (whole ++ [next'])
        <+: writer.globalHeader ++ recordBytes clock whole ++ tail := by
    rintro next' rest'' hnext hle
    obtain ⟨rfl, -⟩ := List.cons.inj hnext
    have hlength := hle.length_le
    simp only [recordBytes, List.flatMap_append, List.flatMap_singleton, List.length_append]
      at hlength
    omega
  by_cases hnil : tail = []
  · subst hnil
    rw [readAll_of_none (readNext_of_nil hbehind), List.append_nil, List.append_nil]
    rw [List.append_nil] at hincomplete
    exact ⟨hread 0 24, List.prefix_rfl, iff_of_true hbehind.hasError rfl, hincomplete⟩
  · have hnext : next.2 ≤ next.1.packet.safeCapturedLen :=
      haccepted next (List.mem_append_right whole List.mem_cons_self)
    have hendianness : behind.globalHeader.endianness = .little := by
      rw [hglobal]
      rfl
    rw [← encode_grammarRecord clock hnext, ← hendianness] at hinitial hlt
    obtain ⟨hnone, herror, -⟩ := readNext_of_prefix hbehind hnil hinitial hlt
    rw [readAll_of_none (Prod.ext rfl hnone : behind.readNext = (_, none)), List.append_nil]
    refine ⟨hread 0 24, List.prefix_append .., ?_, hincomplete⟩
    rw [herror]
    refine iff_of_false (by decide) fun heq => hnil ?_
    simpa using heq

end PcapWriter

namespace Recording

/-- The packets with the lengths decided for them. -/
def writtenOf (config : PolicyConfig) (policy : LiveCapturePolicy.State)
    (packets : List CapturedPacket) : List PcapWriter.Written :=
  packets.zip ((decisions config policy packets).map (·.outputLen))

/-- The output behind the header, as the writer's own record bytes. -/
theorem recordBytes_writtenOf (config : PolicyConfig) (clock : SystemClock)
    (policy : LiveCapturePolicy.State) (packets : List CapturedPacket) :
    PcapWriter.recordBytes clock (writtenOf config policy packets)
      = (records config clock policy packets).flatten := by
  rw [PcapWriter.recordBytes, writtenOf, records, List.flatMap_def, List.zip_eq_zipWith,
    List.zipWith_map_right, List.map_zipWith]

/-- What is written goes on in the policy state behind the first part. -/
theorem writtenOf_append (config : PolicyConfig) (policy : LiveCapturePolicy.State)
    (before after : List CapturedPacket) :
    writtenOf config policy (before ++ after)
      = writtenOf config policy before
        ++ writtenOf config (Transducer.after (LiveCapturePolicy.evaluate config) policy before)
            after := by
  rw [writtenOf, decisions, Transducer.outputs_append, List.map_append, List.zip_append]
  · rfl
  · rw [List.length_map, Transducer.length_outputs]

@[simp] theorem length_writtenOf (config : PolicyConfig) (policy : LiveCapturePolicy.State)
    (packets : List CapturedPacket) :
    (writtenOf config policy packets).length = packets.length := by
  rw [writtenOf, List.length_zip, List.length_map, decisions, Transducer.length_outputs,
    Nat.min_self]

/-- The writer accepts every decided length. -/
theorem le_of_mem_writtenOf (config : PolicyConfig) (policy : LiveCapturePolicy.State)
    (packets : List CapturedPacket) :
    ∀ w ∈ writtenOf config policy packets, w.2 ≤ w.1.packet.safeCapturedLen := by
  induction packets generalizing policy with
  | nil => exact nofun
  | cons packet packets ih =>
    rw [writtenOf, decisions, Transducer.outputs_cons, List.map_cons, List.zip_cons_cons,
      List.forall_mem_cons]
    exact ⟨UInt32.le_trans (LiveCapturePolicy.outputLen_le_base config policy packet)
      (LiveCapturePolicy.baseOutputLen_le config packet).1, ih _⟩

/-- The whole file, as the writer's own bytes. -/
theorem fileOf_eq (config : PolicyConfig) (writer : PcapWriter) (clock : SystemClock)
    (packets : List CapturedPacket) :
    fileOf config writer clock packets
      = writer.globalHeader ++ PcapWriter.recordBytes clock (writtenOf config {} packets) := by
  rw [recordBytes_writtenOf, fileOf]

end Recording

namespace NpcapCapture

/-- The locals in front of the loop. -/
def initialLocals (capture : CaptureOptions) (env : Environment) : RunLocals where
  recording := { written := (writerOf capture env).writeGlobalHeader {} }

/-- The locals in front of an iteration are a function of its number. -/
theorem eq_localsAt_of_reaches {capture : CaptureOptions} {config : PolicyConfig}
    {clock : SystemClock} {env : Environment} {k : ℕ} {l : RunLocals}
    (h : Reaches (loopBody capture config (writerOf capture env) clock env)
      (initialLocals capture env) k l) : l = localsAt capture config clock env k := by
  induction h with
  | start => rfl
  | next _ hbody ih =>
    rw [ih] at hbody
    exact eq_localsAt_of_next capture config clock env hbody

/-- **A crash loses the last packets only.** Let `disk` be any beginning of what a capture has
written when it is killed in front of some iteration. If the global header is there, the reader
opens it and delivers the first packets received, each with the length decided for it, as far as
their records are complete, and reports an error exactly if a part of another record follows. -/
theorem crash_recovery {capture : CaptureOptions} {config : PolicyConfig} {clock : SystemClock}
    {env : Environment} (hlink : env.linkType = .ethernet)
    (hsnaplen : min capture.defaultSnaplen capture.maxCaptureLen ≠ 0) {k : ℕ} {l : RunLocals}
    (hreaches : Reaches (loopBody capture config (writerOf capture env) clock env)
      (initialLocals capture env) k l)
    {disk : Bytes} (hdisk : disk <+: l.recording.written.output)
    (hsize : disk.length < UInt64.size) (reader : PcapReader) :
    let result := reader.openFile (.readable disk)
    let fileOf := Recording.fileOf config (writerOf capture env) clock
    (disk.length < kClassicPcapGlobalHeaderSize → result.2 = false) ∧
    (kClassicPcapGlobalHeaderSize ≤ disk.length → result.2 = true ∧
      ∃ whole rest, packetsBefore clock env k = whole ++ rest ∧
        List.Forall₂ (fun w record => PcapWriter.ReadsBack clock w.1 w.2 record)
          (Recording.writtenOf config {} whole) result.1.readAll.1 ∧
        fileOf whole <+: disk ∧
        (result.1.readAll.2.hasError = false ↔ disk = fileOf whole) ∧
        ∀ next rest', rest = next :: rest' → ¬ fileOf (whole ++ [next]) <+: disk) := by
  intro result fileOf
  refine ⟨openFile_short reader, fun hheader => ?_⟩
  have houtput : l.recording.written.output
      = (writerOf capture env).globalHeader
        ++ PcapWriter.recordBytes clock
            (Recording.writtenOf config {} (packetsBefore clock env k)) := by
    rw [eq_localsAt_of_reaches hreaches, Recording.recordBytes_writtenOf]
    exact output_consumeAll ..
  rw [houtput] at hdisk
  obtain ⟨hopened, written, remaining, hwritten, hread, hwhole, hok, hnext⟩ :=
    (writerOf capture env).readAll_torn hsnaplen hlink
      (Recording.le_of_mem_writtenOf config {} _) hdisk hheader hsize reader
  -- the records that are left are those of the first packets
  set packets := packetsBefore clock env k
  have hsplit := Recording.writtenOf_append config {} (packets.take written.length)
    (packets.drop written.length)
  have hlength : written.length = (packets.take written.length).length := by
    have htotal := congrArg List.length hwritten
    rw [Recording.length_writtenOf, List.length_append] at htotal
    rw [List.length_take, Nat.min_eq_left (by omega)]
  rw [List.take_append_drop, hwritten] at hsplit
  obtain ⟨hfirst, hrest⟩ := List.append_inj hsplit
    (hlength.trans (Recording.length_writtenOf ..).symm)
  simp only [fileOf, Recording.fileOf_eq]
  refine ⟨hopened, _, _, (List.take_append_drop written.length packets).symm, ?_⟩
  rw [← hfirst]
  refine ⟨hread, hwhole, hok, fun next rest' hdrop => ?_⟩
  rw [hdrop] at hrest
  rw [Recording.writtenOf_append, ← hfirst]
  exact hnext _ _ hrest

/-- The loop reaches every iteration that no earlier one keeps it from. -/
theorem reaches_localsAt {capture : CaptureOptions} (config : PolicyConfig) (clock : SystemClock)
    {env : Environment} {k : ℕ} (h : ∀ j < k, endReason capture env j = none) :
    Reaches (loopBody capture config (writerOf capture env) clock env) (initialLocals capture env) k
      (localsAt capture config clock env k) := by
  induction k with
  | zero => exact .start
  | succ k ih =>
    exact .next (ih fun j hj => h j (Nat.lt_succ_of_lt hj))
      ((endReason_eq_none_iff config clock).mp (h k (Nat.lt_succ_self k)))

/-- A crash behind the second packet, with 100 bytes on the disk. -/
theorem crash_recovery_quic :
    let l := localsAt eagerConfig.capture eagerConfig .windows quicCapture 2
    let disk := l.recording.written.output.take 100
    let result := openFile {} (.readable disk)
    result.2 = true ∧ ∃ whole rest, packetsBefore .windows quicCapture 2 = whole ++ rest ∧
      List.Forall₂ (fun w record => PcapWriter.ReadsBack .windows w.1 w.2 record)
        (Recording.writtenOf eagerConfig {} whole) result.1.readAll.1 := by
  intro l disk result
  have hlength : disk.length = 100 := by decide +kernel
  have hfirst : ∀ j < 2, endReason eagerConfig.capture quicCapture j = none := by decide +kernel
  have hsnaplen : min eagerConfig.capture.defaultSnaplen eagerConfig.capture.maxCaptureLen ≠ 0 := by
    decide
  obtain ⟨-, hrecovered⟩ := crash_recovery rfl hsnaplen
    (reaches_localsAt eagerConfig .windows hfirst) (List.take_prefix 100 _)
    (by rw [hlength]; decide) {}
  obtain ⟨hopened, whole, rest, hpackets, hread, -⟩ := hrecovered (by rw [hlength]; decide)
  exact ⟨hopened, whole, rest, hpackets, hread⟩

end NpcapCapture

end PcapConstrictor
