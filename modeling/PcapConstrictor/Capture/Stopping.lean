import PcapConstrictor.Capture.Termination

/-!
# Stopping a live capture

However the loop of the live capture ends, the file is the global header and one record for each
packet delivered before the iteration that ends it (`run_leaves_capture`). The counters are 64 bits
wide and wrap, which only a capture of more than `2 ^ 64` bytes or packets can show.
-/

namespace PcapConstrictor.NpcapCapture

open ByteString Loop

variable {capture : CaptureOptions} {config : PolicyConfig} {clock : SystemClock}
  {env : Environment}

/-- The flag is loaded once more behind the loop: a loop that it ended was interrupted. -/
theorem terminationReason_finish {n : ℕ} {e : RunLocals}
    (hstopped : e.terminationReason = .stopped → env.stopRequested n = true) :
    (e.terminationReason = .stopped ∧ env.stopRequested n = true ∧
      (finish env n e).terminationReason = .interrupted) ∨
    (e.terminationReason ≠ .stopped ∧
      (finish env n e).terminationReason = e.terminationReason) := by
  by_cases hreason : e.terminationReason = .stopped
  · have hstop := hstopped hreason
    have hagain := env.stop_mono (Nat.le_succ n) hstop
    exact Or.inl ⟨hreason, hstop, by simp [finish, hreason, hagain]⟩
  · exact Or.inr ⟨hreason, by simp [finish, hreason]⟩

/-- **Stopping a live capture leaves a complete file and the counters that belong to it**, as long
as these are in the range of the counters. -/
theorem run_leaves_capture {fuel : ℕ} {result : NpcapCaptureRunResult} {output : Bytes}
    (hrun : run config.capture config clock env fuel = some (result, output)) :
    ∃ n < fuel, ∃ written,
      let packets := packetsBefore clock env n
      EndsAt config.capture env n result.terminationReason ∧
      output = PcapWriter.globalHeader
          { snaplen := min config.capture.defaultSnaplen config.capture.maxCaptureLen
            linkType := env.linkType } ++ written.flatten ∧
      List.Forall₂ (Recording.Recorded config clock) packets written ∧
      (config.capture.maxPackets ≠ 0 →
        packets.length ≤ config.capture.maxPackets.toNat) ∧
      (packets.length < 2 ^ 64 → result.stats.packetsTotal.toNat = packets.length ∧
        result.stats.packetsWritten.toNat = packets.length) ∧
      (Recording.capturedBytes packets < 2 ^ 64 →
        result.stats.bytesInput.toNat = Recording.capturedBytes packets ∧
        result.stats.bytesOutput.toNat ≤ result.stats.bytesInput.toNat ∧
        result.stats.bytesSaved.toNat
          = result.stats.bytesInput.toNat - result.stats.bytesOutput.toNat) ∧
      (result.error ≠ "" ↔ result.terminationReason = .error) ∧
      result.terminationReason ≠ .stopped ∧
      (result.terminationReason = .interrupted → env.stopRequested n = true) ∧
      (result.terminationReason = .maxPacketsReached →
        packets.length = config.capture.maxPackets.toNat) ∧
      (result.terminationReason = .captureLoopEnded ∨ result.terminationReason = .error →
        packetAt clock env n = none) := by
  obtain ⟨n, hfuel, reason, hends, rfl, rfl⟩ := (run_eq_some_iff config clock).mp hrun
  obtain ⟨hbody, rfl⟩ := loopBody_exitAt config clock hends.reason
  have hinv := atIteration_localsAt config clock hends.first
  refine ⟨n, hfuel, Recording.records config clock {} (packetsBefore clock env n), hends, rfl,
    Recording.recorded_records config clock {} _, hinv.limit, ?_⟩
  clear hends hrun
  -- iteration `n` leaves the loop; the counters are those in front of it
  rw [resultAt]
  generalize exitAt config.capture config clock env n = e at hbody ⊢
  obtain ⟨-, htotal, hpackets, hinput, houtput, herror, hstopped, hlimit, hnone, hinterrupted⟩ :=
    exit_cases hinv hbody
  obtain ⟨-, hpackets', hinput', houtput'⟩ := Recording.stats_consumeAll config
    (writerOf config.capture env) clock (initialRecording config.capture env)
    (packetsBefore clock env n)
  rw [← hinv.recording] at hpackets' hinput' houtput'
  refine ⟨fun hlt => ⟨?_, ?_⟩, ?_, ?_⟩
  · exact (congrArg UInt64.toNat htotal).trans (toNat_packetsTotal rfl hinv hlt)
  · refine (congrArg UInt64.toNat (hpackets.trans hpackets')).trans ?_
    rw [initialRecording, UInt64.zero_add, UInt64.toNat_ofNat']
    exact Nat.mod_eq_of_lt hlt
  · intro hlt
    have hkept := Recording.keptBytes_le config {} (packetsBefore clock env n)
    have hin : (finish env n e).stats.bytesInput.toNat
        = Recording.capturedBytes (packetsBefore clock env n) := by
      refine (congrArg UInt64.toNat (hinput.trans hinput')).trans ?_
      rw [initialRecording, UInt64.zero_add, UInt64.toNat_ofNat']
      exact Nat.mod_eq_of_lt hlt
    have hout : (finish env n e).stats.bytesOutput.toNat
        = Recording.keptBytes config {} (packetsBefore clock env n) := by
      refine (congrArg UInt64.toNat (houtput.trans houtput')).trans ?_
      rw [initialRecording, UInt64.zero_add, UInt64.toNat_ofNat']
      exact Nat.mod_eq_of_lt (Nat.lt_of_le_of_lt hkept hlt)
    have hle : (finish env n e).stats.bytesOutput.toNat ≤ (finish env n e).stats.bytesInput.toNat :=
      hin ▸ hout ▸ hkept
    exact ⟨hin, hle, UInt64.toNat_sub_of_le _ _ (UInt64.le_iff_toNat_le.mpr hle)⟩
  · have hfinish : (finish env n e).error = e.error := rfl
    rw [hfinish]
    rcases terminationReason_finish hstopped with ⟨hreason, hstop, heq⟩ | ⟨hreason, heq⟩
    · rw [heq, herror, hreason]
      simp [hstop]
    · rw [heq]
      refine ⟨herror, hreason, fun h => absurd h hinterrupted, ?_, hnone⟩
      -- the loop leaves at the limit, and the invariant keeps the count from passing it
      intro h
      obtain ⟨hmax, hge⟩ := hlimit h
      have hle := hinv.limit hmax
      have htotal'' := toNat_packetsTotal rfl hinv
        (Nat.lt_of_le_of_lt hle config.capture.maxPackets.toNat_lt)
      have hge' := UInt64.le_iff_toNat_le.mp hge
      omega

/-- A loopback capture that is interrupted after one packet and one time-out. -/
def interruptedCapture : Environment where
  linkType := .null
  stopRequested k := 2 ≤ k
  startTime := 0
  now k := k
  nextEx
    | 0 =>
      { status := 1
        header := some { tvSec := 5, tvUsec := 6, caplen := 4, len := 9 }
        bytes := some [2, 0, 0, 0] }
    | _ => { status := 0 }
  stop_mono hle h := by
    simp only [decide_eq_true_eq] at h ⊢
    exact h.trans hle
  buffered
    | 0, _, _, rfl, rfl => by decide

/-- One packet, a time-out, and the interrupt. -/
theorem run_leaves_capture_interrupted :
    ∃ result output, ∃ n < 3, ∃ written,
      run ({} : PolicyConfig).capture {} .windows interruptedCapture 3 = some (result, output) ∧
      EndsAt ({} : PolicyConfig).capture interruptedCapture n result.terminationReason ∧
      output = PcapWriter.globalHeader { snaplen := 65535, linkType := .null } ++ written.flatten ∧
      List.Forall₂ (Recording.Recorded {} .windows) (packetsBefore .windows interruptedCapture n)
        written ∧
      result.terminationReason ≠ .stopped := by
  have hreturns :
      (run ({} : PolicyConfig).capture {} .windows interruptedCapture 3).isSome = true := by
    decide +kernel
  obtain ⟨⟨result, output⟩, hrun⟩ := Option.isSome_iff_exists.mp hreturns
  obtain ⟨n, hlt, written, hends, houtput, hrecorded, -, -, -, -, hstopped, -⟩ :=
    run_leaves_capture hrun
  exact ⟨result, output, n, hlt, written, hrun, hends, houtput, hrecorded, hstopped⟩

/-! ## Counters that wrap -/

/-- An interface that delivers one packet `count` times, and ends. -/
def repeating (header : PcapPkthdr) (count : ℕ) : Environment where
  linkType := .ethernet
  stopRequested _ := false
  startTime := 0
  now _ := 0
  nextEx k :=
    if k < count then
      { status := 1
        header := some header
        bytes := some (List.replicate header.caplen.toNat 0) }
    else { status := PCAP_ERROR_BREAK }
  stop_mono _ h := h
  buffered k header' bytes hheader hbytes := by
    split at hheader
    · next hk =>
      rw [if_pos hk] at hbytes
      obtain rfl := Option.some.inj hheader
      obtain rfl := Option.some.inj hbytes
      exact (List.length_replicate ..).ge
    · cases hheader

/-- The packet that is delivered again and again. -/
def repeatedPacket (clock : SystemClock) (header : PcapPkthdr) : CapturedPacket :=
  capturedPacket clock .ethernet header (List.replicate header.caplen.toNat 0)

/-- The locals after `k` packets. -/
def repeatedLocals (clock : SystemClock) (header : PcapPkthdr) (count k : ℕ) : RunLocals where
  recording :=
    let env := repeating header count
    (initialRecording {} env).consumeAll {} (writerOf {} env) clock
      (List.replicate k (repeatedPacket clock header))

/-- The source delivers the same packet again and again. -/
theorem packetAt_repeating (clock : SystemClock) (header : PcapPkthdr) {count k : ℕ}
    (h : k < count) :
    packetAt clock (repeating header count) k = some (repeatedPacket clock header) := by
  rw [packetAt]
  simp only [repeating, if_pos h]
  rfl

/-- As many copies have come in as there were iterations. -/
theorem packetsBefore_repeating (clock : SystemClock) (header : PcapPkthdr) {count k : ℕ}
    (h : k ≤ count) :
    packetsBefore clock (repeating header count) k
      = List.replicate k (repeatedPacket clock header) := by
  induction k with
  | zero => rfl
  | succ k ih =>
    rw [packetsBefore_succ, ih (Nat.le_of_succ_le h), packetAt_repeating clock header h,
      List.replicate_succ']
    rfl

/-- The run returns with everything that was delivered in the file. -/
theorem run_repeating (clock : SystemClock) (header : PcapPkthdr) (count : ℕ) :
    let env := repeating header count
    let l := repeatedLocals clock header count count
    run {} {} clock env (count + 1)
      = some (finish env count { l with terminationReason := .captureLoopEnded },
          l.recording.written.output) := by
  intro env l
  -- each delivery is one iteration that goes on
  have hnext : ∀ j < count, loopBody {} {} (writerOf {} env) clock env (0 + j)
      (repeatedLocals clock header count j)
        = .next (repeatedLocals clock header count (j + 1)) := by
    intro j hj
    rw [Nat.zero_add, loopBody_of_packetAt rfl (fun hlimit => hlimit.1 rfl) rfl
      (packetAt_repeating clock header hj)]
    simp only [repeatedLocals, List.replicate_succ', Recording.consumeAll, List.foldl_concat]
    rfl
  -- behind the last one the driver reports the end
  have hexit : loopBody {} {} (writerOf {} env) clock env count l
      = .exit { l with terminationReason := .captureLoopEnded } := by
    rw [loopBody]
    simp only [env, repeating, if_neg (Nat.lt_irrefl count)]
    rfl
  have hloop := Loop.run_add (loopBody {} {} (writerOf {} env) clock env) 1 0
    (repeatedLocals clock header count) hnext
  have hlast : Loop.run (loopBody {} {} (writerOf {} env) clock env) 1 (0 + count) l
      = some (count, { l with terminationReason := .captureLoopEnded }) := by
    rw [Nat.zero_add, Loop.run, hexit]
  have hrun := hloop.trans hlast
  have hzero : repeatedLocals clock header count 0
      = { recording := { written := (writerOf {} env).writeGlobalHeader {} } } := rfl
  rw [hzero] at hrun
  rw [run, hrun]

/-- A packet whose original length is below its captured length is cut to the former. -/
theorem keptBytes_replicate (policy : LiveCapturePolicy.State) {packet : CapturedPacket}
    {config : PolicyConfig} (h : LiveCapturePolicy.malformed packet = true) (n : ℕ) :
    Recording.keptBytes config policy (List.replicate n packet)
      = n * (LiveCapturePolicy.baseOutputLen config packet).toNat := by
  have hdecision : ∀ policy, (LiveCapturePolicy.evaluate config policy packet).2.outputLen
      = LiveCapturePolicy.baseOutputLen config packet := by
    intro policy
    rw [LiveCapturePolicy.evaluate_of_neither (by simp [LiveCapturePolicy.tlsGate, h])
      (by simp [LiveCapturePolicy.quicGate, h])]
    rfl
  induction n generalizing policy with
  | zero => simp [Recording.keptBytes, Recording.decisions]
  | succ n ih =>
    have hrest := ih (LiveCapturePolicy.evaluate config policy packet).1
    unfold Recording.keptBytes Recording.decisions at hrest ⊢
    rw [List.replicate_succ, Transducer.outputs_cons, List.map_cons, List.sum_cons, hrest,
      hdecision, Nat.succ_mul, Nat.add_comm]

/-- The counters of a run that repeats one packet. -/
theorem stats_repeating (clock : SystemClock) (header : PcapPkthdr) (count : ℕ) :
    let packet := repeatedPacket clock header
    ∃ result output, run {} {} clock (repeating header count) (count + 1) = some (result, output) ∧
      result.stats.packetsTotal = UInt64.ofNat count ∧
      result.stats.bytesInput = UInt64.ofNat (count * packet.capturedLen.toNat) ∧
      result.stats.bytesOutput
        = UInt64.ofNat (Recording.keptBytes {} {} (List.replicate count packet)) := by
  intro packet
  obtain ⟨htotal, -, hinput, houtput⟩ := Recording.stats_consumeAll {}
    (writerOf {} (repeating header count)) clock (initialRecording {} (repeating header count))
    (List.replicate count packet)
  have hcaptured : Recording.capturedBytes (List.replicate count packet)
      = count * packet.capturedLen.toNat := by
    rw [Recording.capturedBytes, List.map_replicate, List.sum_replicate, smul_eq_mul]
  rw [List.length_replicate, initialRecording, UInt64.zero_add] at htotal
  rw [hcaptured, initialRecording, UInt64.zero_add] at hinput
  rw [initialRecording, UInt64.zero_add] at houtput
  exact ⟨_, _, run_repeating clock header count, htotal, hinput, houtput⟩

/-- A packet of `2 ^ 31` captured bytes that claims to have been one byte long. -/
def hugeHeader : PcapPkthdr := { tvSec := 0, tvUsec := 0, caplen := 0x80000000, len := 1 }

/-- A packet without bytes. -/
def emptyHeader : PcapPkthdr := { tvSec := 0, tvUsec := 0, caplen := 0, len := 0 }

/-- The policy sees the length that the driver reports. -/
theorem capturedLen_repeatedPacket (clock : SystemClock) (header : PcapPkthdr) :
    (repeatedPacket clock header).capturedLen = header.caplen ∧
      (repeatedPacket clock header).packet.safeCapturedLen = header.caplen := by
  refine ⟨rfl, UInt32.toNat_inj.mp ?_⟩
  rw [PacketView.toNat_safeCapturedLen]
  simp [repeatedPacket, capturedPacket]

/-- `2 ^ 33` huge packets wrap the counter of bytes read below the one of bytes written, and `2 ^
64` packets wrap the counter of packets. -/
theorem counters_wrap :
    (∃ fuel result output,
      run {} {} .windows (repeating hugeHeader (2 ^ 33)) fuel = some (result, output) ∧
      result.stats.bytesInput < result.stats.bytesOutput) ∧
    (∃ fuel result output,
      run {} {} .windows (repeating emptyHeader (2 ^ 64)) fuel = some (result, output) ∧
      (packetsBefore .windows (repeating emptyHeader (2 ^ 64)) (2 ^ 64)).length = 2 ^ 64 ∧
      result.stats.packetsTotal = 0) := by
  constructor
  · obtain ⟨result, output, hrun, -, hinput, houtput⟩ :=
      stats_repeating .windows hugeHeader (2 ^ 33)
    obtain ⟨hcaptured, hsafe⟩ := capturedLen_repeatedPacket .windows hugeHeader
    -- more bytes captured than were on the wire, so it is malformed and stored as one byte
    have horiginal : (repeatedPacket .windows hugeHeader).originalLen = 1 := rfl
    have hmalformed : LiveCapturePolicy.malformed (repeatedPacket .windows hugeHeader) = true := by
      rw [LiveCapturePolicy.malformed, hsafe, horiginal, Bool.or_eq_true]
      exact Or.inr (by decide)
    have hbase : (LiveCapturePolicy.baseOutputLen {} (repeatedPacket .windows hugeHeader)).toNat
        = 1 := by
      rw [LiveCapturePolicy.toNat_baseOutputLen, hsafe, horiginal]
      decide
    rw [keptBytes_replicate {} hmalformed, hbase] at houtput
    rw [hcaptured] at hinput
    refine ⟨_, result, output, hrun, ?_⟩
    rw [hinput, houtput]
    decide
  · obtain ⟨result, output, hrun, htotal, -⟩ := stats_repeating .windows emptyHeader (2 ^ 64)
    refine ⟨_, result, output, hrun, ?_, ?_⟩
    · rw [packetsBefore_repeating _ _ (Nat.le_refl _), List.length_replicate]
    · rw [htotal]
      decide

end PcapConstrictor.NpcapCapture
