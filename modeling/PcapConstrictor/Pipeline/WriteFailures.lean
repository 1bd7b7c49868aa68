import PcapConstrictor.Capture.Termination
import PcapConstrictor.Offline.OfflinePacketFeed
import PcapConstrictor.Writer.BufferedWriter

/-!
# When a write fails

Reference: the `catch` clauses of `OfflinePacketFeed::Run` and `NpcapCapture::Run`.

The two pipelines over a buffered stream to a device that may be full. A run does what it does over
a stream that does not fail, and its file is as much of the output as the device takes; or it
reports the failure of a write, and then the file breaks off in front of the end of the record that
is not counted. No more than a buffer's length is lost of what was counted
(`write_failure_contained`).
-/

namespace PcapConstrictor

open ByteString BufferedSink

namespace OfflinePacketFeed

open PcapReader

/-- The loop of `Run` over a buffered stream. -/
def feedLoopBuffered (device : BufferedDevice) (config : PolicyConfig) (writer : PcapWriter)
    (clock : SystemClock) (reader : PcapReader) (s : BufferedRecording) :
    PcapReader × BufferedRecording × Option String :=
  match _hnext : reader.readNext with
  | (reader', none) => (reader', s, none)
  | (reader', some record) =>
    let packet := capturedPacket clock reader'.globalHeader.timePrecision record
    match s.consume device config writer clock packet with
    | (s, some message) => (reader', s, some message)
    | (s, none) => feedLoopBuffered device config writer clock reader' s
termination_by reader.unreadBytes.length
decreasing_by
  have hlt := length_unreadBytes_readNext _hnext
  simp only [kClassicPcapPacketHeaderSize] at hlt
  omega

/-- The reader behind the opening of the output file, which reads `reread rest` in place of the rest
of its file. The two are the same, unless the output file is the input file: then it has been
emptied and is written while it is read. -/
def reopened (reread : Bytes → Bytes) (reader : PcapReader) : PcapReader :=
  { reader with stream := reader.stream.map reread }

/-- A reader whose file was not touched goes on as before. -/
@[simp] theorem reopened_id (reader : PcapReader) : reopened id reader = reader := by
  rw [reopened, Option.map_id_fun, id]

/-- `OfflinePacketFeed::Run` over a buffered stream, which is closed when `Run` returns. -/
def runBuffered (device : BufferedDevice) (reread : Bytes → Bytes) (clock : SystemClock)
    (config : PolicyConfig) (input : InputFile) (outputOpens : Bool) :
    OfflinePacketFeedResult × Option Bytes :=
  let (reader, accepted) := PcapReader.openFile {} input
  if !accepted then
    ({ error := reader.errorMessage }, none)
  else if !outputOpens then
    ({ error := "failed to open output file" }, none)
  else
    let reader := reopened reread reader
    let writer : PcapWriter := { snaplen := outputSnaplen config reader.globalHeader }
    let (reader, s, exception) := feedLoopBuffered device config writer clock reader {}
    (feedResult reader s.plain exception, some (s.file device))

/-- **The loop consumes the records the reader delivers**, up to the one within which a write
fails. -/
theorem feedLoopBuffered_cases {device : BufferedDevice} (config : PolicyConfig)
    (writer : PcapWriter) (clock : SystemClock) (reader : PcapReader) (s : BufferedRecording)
    (h : Flows device s.written.sink) :
    let packets := reader.readAll.1.map (capturedPacket clock reader.globalHeader.timePrecision)
    (∃ s', feedLoopBuffered device config writer clock reader s = (reader.readAll.2, s', none) ∧
      s'.plain = s.plain.consumeAll config writer clock packets ∧
      Flows device s'.written.sink) ∨
    ∃ reader' s' before packet after,
      feedLoopBuffered device config writer clock reader s
        = (reader', s', some PcapWriter.writeFailed) ∧
      packets = before ++ packet :: after ∧
      s'.FailedWithin device (s.plain.consumeAll config writer clock before)
        (s.plain.consumeAll config writer clock (before ++ [packet])).written.output := by
  fun_induction feedLoopBuffered device config writer clock reader s with
  | case1 reader s reader' hnext =>
    rw [readAll_of_none hnext]
    exact Or.inl ⟨s, rfl, rfl, h⟩
  | case2 reader s reader' record hnext packet s' message hconsume =>
    have hheader := globalHeader_readNext reader
    rw [hnext] at hheader
    rw [readAll_of_some hnext, ← hheader, List.map_cons]
    rcases BufferedRecording.consumeBuffered_cases config writer clock h packet with
      ⟨t, heq, -⟩ | ⟨t, heq, hfailed⟩
    · rw [hconsume] at heq
      cases heq
    · obtain ⟨rfl, hmessage⟩ := Prod.mk.inj (hconsume.symm.trans heq)
      obtain rfl := Option.some.inj hmessage
      exact Or.inr ⟨reader', s', [], packet, _, rfl, rfl, hfailed⟩
  | case3 reader s reader' record hnext packet s' hconsume ih =>
    have hheader := globalHeader_readNext reader
    rw [hnext] at hheader
    rw [readAll_of_some hnext, ← hheader, List.map_cons]
    rcases BufferedRecording.consumeBuffered_cases config writer clock h packet with
      ⟨t, heq, hplain, hs'⟩ | ⟨t, heq, -⟩
    · obtain ⟨rfl, -⟩ := Prod.mk.inj (hconsume.symm.trans heq)
      -- the packet went through, so the loop goes on with a sink that has lost nothing
      rcases ih hs' with
        ⟨t, hloop, ht, hflows⟩ | ⟨reader', t, before, next, after, hloop, hpackets, ht⟩
      · refine Or.inl ⟨t, hloop, ?_, hflows⟩
        rw [ht, hplain]
        rfl
      · refine Or.inr ⟨reader', t, packet :: before, next, after, hloop, ?_, ?_⟩
        · rw [hpackets]
          rfl
        · rw [hplain] at ht
          exact ht
    · rw [hconsume] at heq
      cases heq

end OfflinePacketFeed

namespace NpcapCapture

open Loop

/-- The locals of the loop over a buffered stream. -/
structure BufferedLocals where
  recording : BufferedRecording := {}
  error : String := ""
  terminationReason : LiveCaptureTerminationReason := .stopped

/-- A failed read of the driver ends the loop. -/
def BufferedLocals.receiveError (l : BufferedLocals) (message : String) : BufferedLocals where
  recording :=
    { l.recording with
      stats := { l.recording.stats with receiveErrors := l.recording.stats.receiveErrors + 1 } }
  error := message
  terminationReason := .error

/-- The locals of a loop whose output is what the calls have brought. -/
def BufferedLocals.plain (l : BufferedLocals) : RunLocals where
  recording := l.recording.plain
  error := l.error
  terminationReason := l.terminationReason

section Loop

variable (device : BufferedDevice) (capture : CaptureOptions) (config : PolicyConfig)
  (writer : PcapWriter) (clock : SystemClock) (env : Environment)

/-- The loop condition and the loop body of `Run` over a buffered stream. -/
def loopBodyBuffered (k : ℕ) (l : BufferedLocals) : Iteration BufferedLocals BufferedLocals :=
  if env.stopRequested k then
    .exit l
  else if capture.maxPackets ≠ 0 ∧ l.recording.stats.packetsTotal ≥ capture.maxPackets then
    .exit { l with terminationReason := .maxPacketsReached }
  else if durationLimitReached env.startTime (env.now k) capture.durationSec then
    .exit { l with terminationReason := .durationReached }
  else
    let next := env.nextEx k
    if next.status = 0 then
      .next l
    else if next.status = PCAP_ERROR_BREAK then
      .exit { l with terminationReason := .captureLoopEnded }
    else if next.status < 0 then
      .exit (l.receiveError
        ((handleError next.errorText).getD "pcap_next_ex failed with no error details"))
    else
      match next.header, next.bytes with
      | some header, some bytes =>
        match l.recording.consume device config writer clock
            (capturedPacket clock env.linkType header bytes) with
        | (recording, some message) =>
          .exit { recording, error := message, terminationReason := .error }
        | (recording, none) => .next { l with recording }
      | _, _ => .exit (l.receiveError "pcap_next_ex returned success without packet data")

/-- `NpcapCapture::Run` over a buffered stream, which is closed when `Run` returns. An exception of
the global header ends it in front of the loop. -/
def runBuffered (fuel : ℕ) : Option (NpcapCaptureRunResult × Bytes) :=
  let writer := writerOf capture env
  match writer.writeGlobalHeaderBuffered device {} with
  | (written, some message) =>
    some ({ error := message
            warning := env.warning
            terminationReason := .error
            linkType := env.linkType }, written.sink.close device)
  | (written, none) =>
    match Loop.run (loopBodyBuffered device capture config writer clock env) fuel 0
        { recording := { written } } with
    | none => none
    | some (k, l) => some (finish env k l.plain, l.recording.file device)

variable {device} {l : BufferedLocals}

/-- **One iteration** does what it does over a stream that does not fail, or the record of its
packet fails. -/
theorem loopBodyBuffered_cases (h : Flows device l.recording.written.sink) (k : ℕ) :
    (∃ l', loopBody capture config writer clock env k l.plain = .next l'.plain ∧
      loopBodyBuffered device capture config writer clock env k l = .next l' ∧
      Flows device l'.recording.written.sink) ∨
    (∃ e, loopBody capture config writer clock env k l.plain = .exit e.plain ∧
      loopBodyBuffered device capture config writer clock env k l = .exit e ∧
      Flows device e.recording.written.sink) ∨
    ∃ e t, loopBody capture config writer clock env k l.plain = .next t ∧
      loopBodyBuffered device capture config writer clock env k l = .exit e ∧
      (packetAt clock env k).isSome ∧ e.error = PcapWriter.writeFailed ∧
      e.terminationReason = .error ∧
      e.recording.FailedWithin device l.plain.recording t.recording.written.output := by
  unfold loopBody loopBodyBuffered
  by_cases hstop : env.stopRequested k = true
  · rw [if_pos hstop, if_pos hstop]
    exact Or.inr (Or.inl ⟨l, rfl, rfl, h⟩)
  rw [if_neg hstop, if_neg hstop]
  by_cases hlimit : capture.maxPackets ≠ 0 ∧ l.recording.stats.packetsTotal ≥ capture.maxPackets
  · have hlimit' : capture.maxPackets ≠ 0 ∧
        l.plain.recording.stats.packetsTotal ≥ capture.maxPackets := hlimit
    rw [if_pos hlimit, if_pos hlimit']
    exact Or.inr (Or.inl ⟨{ l with terminationReason := .maxPacketsReached }, rfl, rfl, h⟩)
  have hlimit' : ¬ (capture.maxPackets ≠ 0 ∧
      l.plain.recording.stats.packetsTotal ≥ capture.maxPackets) := hlimit
  rw [if_neg hlimit, if_neg hlimit']
  by_cases hduration : durationLimitReached env.startTime (env.now k) capture.durationSec = true
  · rw [if_pos hduration, if_pos hduration]
    exact Or.inr (Or.inl ⟨{ l with terminationReason := .durationReached }, rfl, rfl, h⟩)
  rw [if_neg hduration, if_neg hduration]
  dsimp only
  by_cases htimeout : (env.nextEx k).status = 0
  · rw [if_pos htimeout, if_pos htimeout]
    exact Or.inl ⟨l, rfl, rfl, h⟩
  rw [if_neg htimeout, if_neg htimeout]
  by_cases hbreak : (env.nextEx k).status = PCAP_ERROR_BREAK
  · rw [if_pos hbreak, if_pos hbreak]
    exact Or.inr (Or.inl ⟨{ l with terminationReason := .captureLoopEnded }, rfl, rfl, h⟩)
  rw [if_neg hbreak, if_neg hbreak]
  by_cases hfailed : (env.nextEx k).status < 0
  · rw [if_pos hfailed, if_pos hfailed]
    exact Or.inr (Or.inl ⟨l.receiveError _, rfl, rfl, h⟩)
  rw [if_neg hfailed, if_neg hfailed]
  cases hheader : (env.nextEx k).header with
  | none => exact Or.inr (Or.inl ⟨l.receiveError _, rfl, rfl, h⟩)
  | some header =>
    cases hbytes : (env.nextEx k).bytes with
    | none => exact Or.inr (Or.inl ⟨l.receiveError _, rfl, rfl, h⟩)
    | some bytes =>
      -- only here is something written; up to here the two bodies make the same tests
      have hpacket : (packetAt clock env k).isSome := by
        rw [packetAt, if_neg (by omega), hheader, hbytes]
        rfl
      dsimp only
      rw [Recording.consume_eq]
      rcases BufferedRecording.consumeBuffered_cases config writer clock h
          (capturedPacket clock env.linkType header bytes) with
        ⟨recording, heq, hplain, hs⟩ | ⟨recording, heq, hwithin⟩
      · rw [heq]
        exact Or.inl ⟨{ l with recording }, congrArg (fun recording : Recording =>
          Iteration.next { l.plain with recording }) hplain.symm, rfl, hs⟩
      · rw [heq]
        exact Or.inr (Or.inr ⟨_, _, rfl, rfl, hpacket, rfl, rfl, hwithin⟩)

end Loop

/-- The loop, which over a stream that does not fail would go on behind iteration `n`, ends there
with the error of a write. -/
structure BreaksOff (device : BufferedDevice) (capture : CaptureOptions) (config : PolicyConfig)
    (clock : SystemClock) (env : Environment) (n : ℕ) (e : BufferedLocals) : Prop where
  goesOn : ∀ j ≤ n, endReason capture env j = none
  delivered : (packetAt clock env n).isSome
  error : e.error = PcapWriter.writeFailed
  terminationReason : e.terminationReason = .error
  within : e.recording.FailedWithin device (localsAt capture config clock env n).recording
    (localsAt capture config clock env (n + 1)).recording.written.output

/-- **A run of the loop** over a buffered stream is a run over one that does not fail, or it breaks
off. -/
theorem run_loopBodyBuffered {device : BufferedDevice} {capture : CaptureOptions}
    {config : PolicyConfig} {clock : SystemClock} {env : Environment} {l : BufferedLocals}
    (hl : l.plain = localsAt capture config clock env 0)
    (h : Flows device l.recording.written.sink) (fuel : ℕ) :
    let writer := writerOf capture env
    let plain := Loop.run (loopBody capture config writer clock env) fuel 0
      (localsAt capture config clock env 0)
    let buffered := Loop.run (loopBodyBuffered device capture config writer clock env) fuel 0 l
    (plain = none ∧ buffered = none) ∨
      (∃ n e, plain = some (n, e.plain) ∧ buffered = some (n, e) ∧
        Flows device e.recording.written.sink) ∨
      ∃ n e, buffered = some (n, e) ∧ BreaksOff device capture config clock env n e := by
  intro writer plain buffered
  -- the locals stay those of the plain loop, as long as every write has gone through
  let Rel (k : ℕ) (s : RunLocals) (l : BufferedLocals) : Prop :=
    s = localsAt capture config clock env k ∧ l.plain = s ∧ Flows device l.recording.written.sink ∧
      ∀ j < k, endReason capture env j = none
  let Out (e : RunLocals) (e' : BufferedLocals) : Prop :=
    e = e'.plain ∧ Flows device e'.recording.written.sink
  have hstart : Rel 0 (localsAt capture config clock env 0) l :=
    ⟨rfl, hl, h, fun j hj => absurd hj (Nat.not_lt_zero j)⟩
  suffices hstep : ∀ k s l, Rel k s l →
      (∃ t l', loopBody capture config writer clock env k s = .next t ∧
        loopBodyBuffered device capture config writer clock env k l = .next l' ∧
        Rel (k + 1) t l') ∨
      (∃ e e', loopBody capture config writer clock env k s = .exit e ∧
        loopBodyBuffered device capture config writer clock env k l = .exit e' ∧ Out e e') ∨
      ∃ e', loopBodyBuffered device capture config writer clock env k l = .exit e' ∧
        BreaksOff device capture config clock env k e' by
    rcases Loop.run_simulation Rel Out (BreaksOff device capture config clock env) hstep fuel
      hstart with hnone | ⟨n, _, e, hplain, hbuffered, rfl, hflows⟩ | hbroke
    · exact Or.inl hnone
    · exact Or.inr (Or.inl ⟨n, e, hplain, hbuffered, hflows⟩)
    · exact Or.inr (Or.inr hbroke)
  rintro k _ l ⟨hs, rfl, hsink, hfirst⟩
  rcases loopBodyBuffered_cases capture config writer clock env hsink k with
    ⟨l', hbody, hbody', hsink'⟩ | ⟨e, hbody, hbody', hsink'⟩ |
      ⟨e, t, hbody, hbody', hdelivered, herror, hreason, hwithin⟩
  · -- both go on
    have hreached := hbody
    rw [hs] at hreached
    have hnext := eq_localsAt_of_next capture config clock env hreached
    refine Or.inl ⟨l'.plain, l', hbody, hbody', hnext, rfl, hsink', fun j hj => ?_⟩
    rcases Nat.lt_succ_iff_lt_or_eq.mp hj with hlt | rfl
    · exact hfirst j hlt
    · exact (endReason_eq_none_iff config clock).mpr (hnext ▸ hreached)
  · exact Or.inr (Or.inl ⟨e.plain, e, hbody, hbody', rfl, hsink'⟩)
  · -- a write fails where the plain loop would have gone on
    rw [hs] at hbody hwithin
    obtain rfl := eq_localsAt_of_next capture config clock env hbody
    refine Or.inr (Or.inr ⟨e, hbody', fun j hj => ?_, hdelivered, herror, hreason, hwithin⟩)
    rcases Nat.eq_or_lt_of_le hj with rfl | hlt
    · exact (endReason_eq_none_iff config clock).mpr hbody
    · exact hfirst j hlt

end NpcapCapture

namespace OfflinePacketFeed

open PcapReader

/-- The output behind a list of packets that is not empty. -/
theorem output_fileOf (config : PolicyConfig) (clock : SystemClock) (writer : PcapWriter)
    {packets : List CapturedPacket} (hne : packets ≠ []) :
    (Recording.consumeAll config writer clock {} packets).written.output
      = Recording.fileOf config writer clock packets := by
  rw [Recording.written_consumeAll config writer clock {} hne]
  rfl

/-- **A run of the feed** whose output file is not its input file. -/
theorem runBuffered_cases (device : BufferedDevice) (clock : SystemClock) (config : PolicyConfig)
    (input : InputFile) (outputOpens : Bool) :
    let plain := run clock config input outputOpens
    let buffered := runBuffered device id clock config input outputOpens
    (buffered = (plain.1, plain.2.map device.keeps) ∧
      ∀ output ∈ plain.2, output.length ≤ (device.keeps output).length + device.buffer) ∨
    (buffered.1.error = PcapWriter.writeFailed ∧
      ∃ bytes header before packet after, input = .readable bytes ∧ outputOpens = true ∧
        Accepted bytes header ∧ packetsOf clock bytes header = before ++ packet :: after ∧
        let file := Recording.fileOf config (writerOf header) clock
        let taken := device.keeps (file (before ++ [packet]))
        buffered.2 = some taken ∧ taken ≠ file (before ++ [packet]) ∧
        (before ≠ [] → (file before).length ≤ taken.length + device.buffer) ∧
        buffered.1.stats
          = (Recording.consumeAll config (writerOf header) clock {} before).stats) := by
  intro plain buffered
  rcases openFile_cases {} input with ⟨bytes, header, rfl, hacc, heq⟩ | ⟨hfalse, -⟩
  · cases outputOpens with
    | false =>
      simp only [plain, buffered, runBuffered, run, heq]
      exact Or.inl ⟨rfl, nofun⟩
    | true =>
      have hsnaplen : outputSnaplen config (opened bytes header).globalHeader = header.snaplen :=
        if_pos (header_of_accepted hacc).1
      simp only [plain, buffered, runBuffered, heq, run_of_accepted clock config hacc,
        Bool.not_true, Bool.false_eq_true, if_false, reopened_id, hsnaplen]
      rcases feedLoopBuffered_cases config { snaplen := header.snaplen } clock
          (opened bytes header) {} flows_empty with
        ⟨s, hloop, hs, hflows⟩ | ⟨reader, s, before, packet, after, hloop, hpackets, hfailed⟩
      · rw [hloop]
        obtain ⟨hclose, hlost⟩ := hflows.close
        have houtput : s.written.sink.written
            = (Recording.consumeAll config (writerOf header) clock {}
                (packetsOf clock bytes header)).written.output :=
          congrArg (fun s : Recording => s.written.output) hs
        rw [houtput] at hclose hlost
        refine Or.inl ⟨?_, fun output houtput => Option.mem_some_iff.mp houtput ▸ hlost⟩
        rw [Option.map_some, ← hclose]
        dsimp only
        rw [hs]
        rfl
      · rw [hloop]
        have hpacket : (Recording.consumeAll config (writerOf header) clock {}
            (before ++ [packet])).written.output
              = Recording.fileOf config (writerOf header) clock (before ++ [packet]) :=
          output_fileOf config clock (writerOf header) (by simp)
        refine Or.inr ⟨rfl, bytes, header, before, packet, after, rfl, trivial, hacc, hpackets, ?_,
          ?_, fun hne => ?_, hfailed.stats⟩
        · exact congrArg some (hpacket ▸ hfailed.refused.close)
        · exact hpacket ▸ hfailed.refused.full
        · have hlost := hfailed.refused.lost
          rw [← output_fileOf config clock (writerOf header) hne, ← hpacket]
          exact hlost
  · refine Or.inl ?_
    simp only [plain, buffered, runBuffered, run, hfalse]
    exact ⟨rfl, nofun⟩

end OfflinePacketFeed

namespace NpcapCapture

/-- The locals in front of an iteration hold the file of the packets delivered before it. -/
theorem output_localsAt (capture : CaptureOptions) (config : PolicyConfig) (clock : SystemClock)
    (env : Environment) (n : ℕ) :
    (localsAt capture config clock env n).recording.written.output
      = Recording.fileOf config (writerOf capture env) clock (packetsBefore clock env n) :=
  output_consumeAll ..

/-- Their counters are those of these packets. -/
theorem stats_localsAt (capture : CaptureOptions) (config : PolicyConfig) (clock : SystemClock)
    (env : Environment) (n : ℕ) :
    (localsAt capture config clock env n).recording.stats
      = (Recording.consumeAll config (writerOf capture env) clock {}
          (packetsBefore clock env n)).stats := by
  rw [localsAt, Recording.stats_consumeAll_eq_foldl, Recording.stats_consumeAll_eq_foldl]
  rfl

/-- Where the loop breaks off, the device has refused a part of the file up to the packet of that
iteration. -/
theorem BreaksOff.refused {device : BufferedDevice} {capture : CaptureOptions}
    {config : PolicyConfig} {clock : SystemClock} {env : Environment} {n : ℕ} {e : BufferedLocals}
    (h : BreaksOff device capture config clock env n e) :
    ∃ packet, packetAt clock env n = some packet ∧
      let file := Recording.fileOf config (writerOf capture env) clock
      let packets := packetsBefore clock env n
      Refused device (file packets) (file (packets ++ [packet])) e.recording.written.sink := by
  obtain ⟨packet, hpacket⟩ := Option.isSome_iff_exists.mp h.delivered
  have hbefore : packetsBefore clock env (n + 1) = packetsBefore clock env n ++ [packet] := by
    rw [packetsBefore_succ, hpacket]
    rfl
  have hrefused := h.within.refused
  rw [output_localsAt, output_localsAt, hbefore] at hrefused
  exact ⟨packet, hpacket, hrefused⟩

/-- **A run of the capture**: it returns when it does over a stream that does not fail, with as much
of the output as the device takes, or it ends with the error of a write. -/
theorem runBuffered_cases (device : BufferedDevice) (capture : CaptureOptions)
    (config : PolicyConfig) (clock : SystemClock) (env : Environment) (fuel : ℕ) :
    let plain := run capture config clock env fuel
    let buffered := runBuffered device capture config clock env fuel
    (buffered = plain.map (fun out => (out.1, device.keeps out.2)) ∧
      ∀ out ∈ plain, out.2.length ≤ (device.keeps out.2).length + device.buffer) ∨
    ∃ result taken, buffered = some (result, taken) ∧
      result.error = PcapWriter.writeFailed ∧ result.terminationReason = .error ∧
      let file := Recording.fileOf config (writerOf capture env) clock
      ((taken = device.keeps (file []) ∧ taken ≠ file [] ∧ result.stats = {}) ∨
        ∃ n packet, (∀ j ≤ n, endReason capture env j = none) ∧
          packetAt clock env n = some packet ∧
          let packets := packetsBefore clock env n
          taken = device.keeps (file (packets ++ [packet])) ∧ taken ≠ file (packets ++ [packet]) ∧
          (file packets).length ≤ taken.length + device.buffer ∧
          let stats := (Recording.consumeAll config (writerOf capture env) clock {} packets).stats
          result.stats = { stats with bytesSaved := stats.bytesInput - stats.bytesOutput }) := by
  intro plain buffered
  have hempty : Flows device ({} : PcapWriter.BufferedState).sink := flows_empty
  rcases PcapWriter.writeGlobalHeaderBuffered_cases (writerOf capture env) hempty with
    ⟨written, heq, hwritten, -, hflows⟩ | ⟨written, heq, hrefused⟩
  · have hlocals : BufferedLocals.plain { recording := { written } }
        = localsAt capture config clock env 0 :=
      congrArg (fun written : PcapWriter.State => ({ recording := { written } } : RunLocals))
        hwritten
    simp only [plain, buffered, run_eq_map, runBuffered, heq]
    rcases run_loopBodyBuffered hlocals hflows fuel with
      ⟨hplain, hloop⟩ | ⟨n, e, hplain, hloop, hflows⟩ | ⟨n, e, hloop, hbroke⟩
    · rw [hplain, hloop]
      exact Or.inl ⟨rfl, nofun⟩
    · rw [hplain, hloop]
      obtain ⟨hclose, hlost⟩ := hflows.close
      refine Or.inl ⟨?_, fun out hout => ?_⟩
      · exact congrArg (fun taken => some (finish env n e.plain, taken)) hclose
      · obtain rfl := Option.mem_some_iff.mp hout
        exact hlost
    · rw [hloop]
      obtain ⟨packet, hpacket, hrefused⟩ := hbroke.refused
      have hreason : e.plain.terminationReason = .error := hbroke.terminationReason
      refine Or.inr ⟨_, _, rfl, hbroke.error, ?_, Or.inr ⟨n, packet, hbroke.goesOn, hpacket,
        hrefused.close, ?_, ?_, ?_⟩⟩
      · rw [finish, hreason]
        simp
      · rw [BufferedRecording.file, hrefused.close]
        exact hrefused.full
      · rw [BufferedRecording.file, hrefused.close]
        exact hrefused.lost
      · rw [← stats_localsAt, ← hbroke.within.stats]
        rfl
  · simp only [buffered, runBuffered, heq]
    have hheader : Recording.fileOf config (writerOf capture env) clock []
        = (writerOf capture env).globalHeader := List.append_nil _
    refine Or.inr ⟨_, _, rfl, rfl, rfl, Or.inl ⟨?_, ?_, rfl⟩⟩
    · rw [hheader]
      exact hrefused.close
    · rw [hheader, hrefused.close]
      exact hrefused.full

end NpcapCapture

/-- **A failed write is reported, and loses what waited in the buffer at most.** The device takes a
limited number of bytes, if there is a limit, and refuses everything behind.

A run with a buffered stream to such a device gives the result of a run over a stream that does not
fail, and its file holds as much of the output as the device takes: what is missing has waited in
the buffer when the stream was closed. Or the run ends with the error of a write. Then the counters
are those of the packets in front of one packet; the device has no room for all of the file up to
the record of that packet, holds as much of it as it takes, and lacks at most a buffer's length of
what was counted. -/
theorem write_failure_contained (device : BufferedDevice) (config : PolicyConfig)
    (clock : SystemClock) :
    (∀ (input : InputFile) (outputOpens : Bool),
      let plain := OfflinePacketFeed.run clock config input outputOpens
      let buffered := OfflinePacketFeed.runBuffered device id clock config input outputOpens
      (buffered = (plain.1, plain.2.map device.keeps) ∧
        ∀ output ∈ plain.2, output.length ≤ (device.keeps output).length + device.buffer) ∨
      (buffered.1.error = PcapWriter.writeFailed ∧
        ∃ bytes header before packet after, input = .readable bytes ∧ outputOpens = true ∧
          PcapReader.Accepted bytes header ∧
          OfflinePacketFeed.packetsOf clock bytes header = before ++ packet :: after ∧
          let writer := OfflinePacketFeed.writerOf header
          let file := Recording.fileOf config writer clock
          let taken := device.keeps (file (before ++ [packet]))
          buffered.2 = some taken ∧ taken ≠ file (before ++ [packet]) ∧
          (before ≠ [] → (file before).length ≤ taken.length + device.buffer) ∧
          buffered.1.stats = (Recording.consumeAll config writer clock {} before).stats)) ∧
    ∀ (capture : CaptureOptions) (env : NpcapCapture.Environment) (fuel : ℕ),
      let plain := NpcapCapture.run capture config clock env fuel
      let buffered := NpcapCapture.runBuffered device capture config clock env fuel
      (buffered = plain.map (fun out => (out.1, device.keeps out.2)) ∧
        ∀ out ∈ plain, out.2.length ≤ (device.keeps out.2).length + device.buffer) ∨
      ∃ result taken, buffered = some (result, taken) ∧
        result.error = PcapWriter.writeFailed ∧ result.terminationReason = .error ∧
        let writer := NpcapCapture.writerOf capture env
        let file := Recording.fileOf config writer clock
        ((taken = device.keeps (file []) ∧ taken ≠ file [] ∧ result.stats = {}) ∨
          ∃ n packet, (∀ j ≤ n, NpcapCapture.endReason capture env j = none) ∧
            NpcapCapture.packetAt clock env n = some packet ∧
            let packets := NpcapCapture.packetsBefore clock env n
            taken = device.keeps (file (packets ++ [packet])) ∧
            taken ≠ file (packets ++ [packet]) ∧
            (file packets).length ≤ taken.length + device.buffer ∧
            let stats := (Recording.consumeAll config writer clock {} packets).stats
            result.stats
              = { stats with bytesSaved := stats.bytesInput - stats.bytesOutput }) := by
  constructor
  · intro input outputOpens
    exact OfflinePacketFeed.runBuffered_cases device clock config input outputOpens
  · intro capture env fuel
    exact NpcapCapture.runBuffered_cases device capture config clock env fuel

end PcapConstrictor
