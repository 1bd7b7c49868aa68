import PcapConstrictor.Capture.CaptureRun
import PcapConstrictor.Pipeline.Counters

/-!
# When a live capture ends

Reference: the loop of `NpcapCapture::Run`.

`endReason` reads off the environment why an iteration ends the loop. It knows nothing of the policy
and the writer: these never decide how long a capture lasts. A run returns exactly when some
iteration has such a reason, and the first one is the reason it reports (`run_ends_iff`).
-/

namespace PcapConstrictor.NpcapCapture

open ByteString Loop

/-! ## The control flow of the loop -/

/-- The `k`-th call of `pcap_next_ex` delivers a packet. -/
def delivers (env : Environment) (k : ℕ) : Bool :=
  0 < (env.nextEx k).status && (env.nextEx k).header.isSome && (env.nextEx k).bytes.isSome

/-- The number of packets delivered in front of iteration `k`. -/
def received (env : Environment) (k : ℕ) : ℕ := (List.range k).countP (delivers env)

/-- Why iteration `k` ends the loop, if it does. -/
def endReason (capture : CaptureOptions) (env : Environment) (k : ℕ) :
    Option LiveCaptureTerminationReason :=
  if env.stopRequested k then some .interrupted
  else if capture.maxPackets ≠ 0 ∧ UInt64.ofNat (received env k) ≥ capture.maxPackets then
    some .maxPacketsReached
  else if durationLimitReached env.startTime (env.now k) capture.durationSec then
    some .durationReached
  else if (env.nextEx k).status = 0 then none
  else if (env.nextEx k).status = PCAP_ERROR_BREAK then some .captureLoopEnded
  else if delivers env k then none
  else some .error

/-- Iteration `n` is the first that ends the loop. -/
structure EndsAt (capture : CaptureOptions) (env : Environment) (n : ℕ)
    (reason : LiveCaptureTerminationReason) : Prop where
  reason : endReason capture env n = some reason
  first : ∀ j < n, endReason capture env j = none

/-- One more iteration receives one more packet, or none. -/
theorem received_succ (env : Environment) (k : ℕ) :
    received env (k + 1) = received env k + if delivers env k then 1 else 0 := by
  rw [received, List.range_succ, List.countP_append, List.countP_singleton]
  rfl

/-- A packet is there when the driver has delivered one. -/
theorem isSome_packetAt (clock : SystemClock) (env : Environment) (k : ℕ) :
    (packetAt clock env k).isSome = delivers env k := by
  unfold packetAt delivers
  by_cases hstatus : (env.nextEx k).status ≤ 0
  · simp [hstatus]
  · cases (env.nextEx k).header <;> cases (env.nextEx k).bytes <;>
      simp [hstatus, Int.not_le.mp hstatus]

/-- The number of packets is what has been received. -/
theorem length_packetsBefore (clock : SystemClock) (env : Environment) (k : ℕ) :
    (packetsBefore clock env k).length = received env k := by
  induction k with
  | zero => rfl
  | succ k ih =>
    rw [packetsBefore_succ, List.length_append, ih, received_succ, ← isSome_packetAt clock]
    cases packetAt clock env k <;> rfl

/-- If some iteration ends the loop, then one does so first. -/
theorem exists_endsAt {capture : CaptureOptions} {env : Environment} {k : ℕ}
    (h : (endReason capture env k).isSome) : ∃ n ≤ k, ∃ reason, EndsAt capture env n reason := by
  classical
  have hex : ∃ n, (endReason capture env n).isSome := ⟨k, h⟩
  obtain ⟨reason, hreason⟩ := Option.isSome_iff_exists.mp (Nat.find_spec hex)
  refine ⟨Nat.find hex, Nat.find_min' hex h, reason, hreason, fun j hj => ?_⟩
  simpa using Nat.find_min hex hj

/-- A loop has one first end. -/
theorem EndsAt.unique {capture : CaptureOptions} {env : Environment} {n m : ℕ}
    {reason reason' : LiveCaptureTerminationReason} (h : EndsAt capture env n reason)
    (h' : EndsAt capture env m reason') : n = m ∧ reason = reason' := by
  have heq : n = m := by
    rcases Nat.lt_trichotomy n m with hlt | heq | hlt
    · cases (h'.first n hlt).symm.trans h.reason
    · exact heq
    · cases (h.first m hlt).symm.trans h'.reason
  subst heq
  exact ⟨rfl, Option.some.inj (h.reason.symm.trans h'.reason)⟩

/-- Counting up to a positive limit, the counter meets it. -/
theorem exists_received_eq (env : Environment) {limit k : ℕ} (h : limit ≤ received env k) :
    ∃ j ≤ k, received env j = limit := by
  induction k with
  | zero => exact ⟨0, le_rfl, (Nat.le_zero.mp h).symm⟩
  | succ k ih =>
    by_cases hle : limit ≤ received env k
    · obtain ⟨j, hj, heq⟩ := ih hle
      exact ⟨j, hj.trans (Nat.le_succ k), heq⟩
    · have hsucc := received_succ env k
      refine ⟨k + 1, le_rfl, ?_⟩
      split at hsucc <;> omega

/-! ## The duration limit -/

/-- The limit in nanoseconds is the configured number of seconds, modulo `2 ^ 64` around zero. -/
theorem toInt_durationLimit (durationSec : UInt64) :
    (durationLimit durationSec).toInt
      = ((durationSec.toNat : ℤ) * 1000000000).bmod (2 ^ 64) := by
  have hseconds : durationSec.toInt64.toInt = (durationSec.toNat : ℤ).bmod (2 ^ 64) := by
    rw [← UInt64.ofNat_toNat (x := durationSec), UInt64.toInt64_ofNat', Int64.toInt_ofNat',
      UInt64.ofNat_toNat]
    rfl
  have hunit : (1000000000 : Int64).toInt = 1000000000 := by decide
  rw [durationLimit, Int64.toInt_mul, hseconds, hunit, Int.bmod_mul_bmod]

/-- A limit whose nanoseconds fit is compared as it is configured. -/
theorem durationLimitReached_iff {startTime now : ℤ} {durationSec : UInt64}
    (hpos : durationSec ≠ 0) (hfits : durationSec.toNat < 9223372037) :
    durationLimitReached startTime now durationSec = true ↔
      durationSec.toNat * 1000000000 ≤ now - startTime := by
  have hlimit : (durationLimit durationSec).toInt = durationSec.toNat * 1000000000 := by
    rw [toInt_durationLimit]
    exact Int.bmod_eq_of_le (by omega) (by omega)
  rw [durationLimitReached, hlimit, bne_iff_ne.mpr hpos, Bool.true_and, decide_eq_true_eq]

/-- A limit within that distance of `2 ^ 64` is negative, and is reached at once. -/
theorem durationLimitReached_of_negative {startTime now : ℤ} {durationSec : UInt64}
    (h : 2 ^ 64 < durationSec.toNat + 9223372037) (hclock : startTime ≤ now) :
    durationLimitReached startTime now durationSec = true := by
  have hlt := durationSec.toNat_lt
  have hpos : durationSec ≠ 0 := by
    rintro rfl
    exact absurd h (by decide)
  have hwrap : ((durationSec.toNat : ℤ) * 1000000000).bmod (2 ^ 64)
      = ((durationSec.toNat : ℤ) - 2 ^ 64) * 1000000000 := by
    have hshift := Int.sub_mul_bmod_self_left ((durationSec.toNat : ℤ) * 1000000000) (2 ^ 64)
      1000000000
    rw [← hshift]
    refine (Int.bmod_eq_of_le (by omega) (by omega)).trans ?_
    omega
  rw [durationLimitReached, toInt_durationLimit, hwrap, bne_iff_ne.mpr hpos, Bool.true_and,
    decide_eq_true_eq]
  omega

/-! ## The loop follows its control flow -/

variable (capture : CaptureOptions) (config : PolicyConfig) (clock : SystemClock)
  (env : Environment)

/-- The locals in front of iteration `k`, if the loop gets there. -/
def localsAt (k : ℕ) : RunLocals where
  recording := (initialRecording capture env).consumeAll config (writerOf capture env) clock
    (packetsBefore clock env k)

/-- The counter holds the number of packets, up to its width. -/
theorem packetsTotal_localsAt (k : ℕ) :
    (localsAt capture config clock env k).recording.stats.packetsTotal
      = UInt64.ofNat (received env k) := by
  have htotal := (Recording.stats_consumeAll config (writerOf capture env) clock
    (initialRecording capture env) (packetsBefore clock env k)).1
  rw [localsAt, htotal, length_packetsBefore, initialRecording, UInt64.zero_add]

/-- An iteration that does not leave the loop consumes its packet, or nothing. -/
theorem localsAt_succ (k : ℕ) :
    localsAt capture config clock env (k + 1)
      = match packetAt clock env k with
        | none => localsAt capture config clock env k
        | some packet =>
          { localsAt capture config clock env k with
            recording := (localsAt capture config clock env k).recording.consumed config
              (writerOf capture env) clock packet } := by
  rw [localsAt, packetsBefore_succ]
  cases packetAt clock env k with
  | none => rw [Option.toList_none, List.append_nil]; rfl
  | some packet =>
    rw [Option.toList_some, Recording.consumeAll, List.foldl_concat]
    rfl

/-- An iteration that goes on reaches the locals of the next one. -/
theorem eq_localsAt_of_next {k : ℕ} {l : RunLocals}
    (h : loopBody capture config (writerOf capture env) clock env k
      (localsAt capture config clock env k) = .next l) :
    l = localsAt capture config clock env (k + 1) := by
  rw [localsAt_succ]
  obtain ⟨-, ⟨hnone, rfl⟩ | ⟨packet, hpacket, rfl⟩⟩ := loopBody_next h
  · rw [hnone]
  · rw [hpacket]

/-- **One iteration of the loop** goes on or ends as `endReason` says. -/
theorem loopBody_localsAt (k : ℕ) :
    match endReason capture env k with
    | none =>
      loopBody capture config (writerOf capture env) clock env k
        (localsAt capture config clock env k)
          = .next (localsAt capture config clock env (k + 1))
    | some reason =>
      ∃ e, loopBody capture config (writerOf capture env) clock env k
          (localsAt capture config clock env k) = .exit e ∧
        (finish env k e).terminationReason = reason := by
  have htotal := packetsTotal_localsAt capture config clock env k
  have hdelivers := isSome_packetAt clock env k
  -- a reason other than a stop request is reported as it is
  have hkept : ∀ e : RunLocals, e.terminationReason ≠ .stopped →
      (finish env k e).terminationReason = e.terminationReason := fun e he => by simp [finish, he]
  rw [endReason, loopBody, htotal]
  by_cases hstop : env.stopRequested k = true
  · rw [if_pos hstop, if_pos hstop]
    refine ⟨_, rfl, ?_⟩
    simp [finish, localsAt, env.stop_mono (Nat.le_succ k) hstop]
  rw [if_neg hstop, if_neg hstop]
  by_cases hlimit : capture.maxPackets ≠ 0 ∧ UInt64.ofNat (received env k) ≥ capture.maxPackets
  · rw [if_pos hlimit, if_pos hlimit]
    exact ⟨_, rfl, hkept _ (ne_of_beq_false rfl)⟩
  rw [if_neg hlimit, if_neg hlimit]
  by_cases hduration :
      durationLimitReached env.startTime (env.now k) capture.durationSec = true
  · rw [if_pos hduration, if_pos hduration]
    exact ⟨_, rfl, hkept _ (ne_of_beq_false rfl)⟩
  rw [if_neg hduration, if_neg hduration]
  dsimp only
  by_cases htimeout : (env.nextEx k).status = 0
  · have hnone : packetAt clock env k = none := if_pos (by omega)
    rw [if_pos htimeout, if_pos htimeout, localsAt_succ, hnone]
  rw [if_neg htimeout, if_neg htimeout]
  by_cases hbreak : (env.nextEx k).status = PCAP_ERROR_BREAK
  · rw [if_pos hbreak, if_pos hbreak]
    exact ⟨_, rfl, hkept _ (ne_of_beq_false rfl)⟩
  rw [if_neg hbreak, if_neg hbreak]
  by_cases hfailed : (env.nextEx k).status < 0
  · have hnothing : delivers env k = false := by simp [delivers, hfailed.le]
    rw [if_pos hfailed, hnothing, if_neg Bool.false_ne_true]
    exact ⟨_, rfl, hkept _ (ne_of_beq_false rfl)⟩
  rw [if_neg hfailed, localsAt_succ]
  have hpositive : 0 < (env.nextEx k).status := by omega
  cases hheader : (env.nextEx k).header with
  | none =>
    rw [delivers, hheader, Option.isSome_none, Bool.and_false, Bool.false_and,
      if_neg Bool.false_ne_true]
    exact ⟨_, rfl, hkept _ (ne_of_beq_false rfl)⟩
  | some header =>
    cases hbytes : (env.nextEx k).bytes with
    | none =>
      rw [delivers, hbytes, Option.isSome_none, Bool.and_false, if_neg Bool.false_ne_true]
      exact ⟨_, rfl, hkept _ (ne_of_beq_false rfl)⟩
    | some bytes =>
      have hsome : packetAt clock env k
          = some (capturedPacket clock env.linkType header bytes) := by
        rw [packetAt, if_neg (Int.not_le.mpr hpositive), hheader, hbytes]
      rw [hsome, Option.isSome_some] at hdelivers
      rw [if_pos hdelivers.symm, hsome]
      dsimp only
      rw [Recording.consume_eq]

/-- What the loop leaves when iteration `n` ends it. -/
def exitAt (n : ℕ) : RunLocals :=
  match loopBody capture config (writerOf capture env) clock env n
    (localsAt capture config clock env n) with
  | .next l => l
  | .exit e => e

/-- The result of a run that iteration `n` ends. -/
def resultAt (n : ℕ) : NpcapCaptureRunResult := finish env n (exitAt capture config clock env n)

/-- The output file of a run that iteration `n` ends. -/
def outputAt (n : ℕ) : Bytes :=
  (writerOf capture env).globalHeader
    ++ (Recording.records config clock {} (packetsBefore clock env n)).flatten

variable {capture env}

/-- The loop is left where there is a reason to, with that reason. -/
theorem loopBody_exitAt {n : ℕ} {reason : LiveCaptureTerminationReason}
    (h : endReason capture env n = some reason) :
    loopBody capture config (writerOf capture env) clock env n
        (localsAt capture config clock env n) = .exit (exitAt capture config clock env n) ∧
      (resultAt capture config clock env n).terminationReason = reason := by
  have hbody := loopBody_localsAt capture config clock env n
  rw [h] at hbody
  obtain ⟨e, hexit, hreason⟩ := hbody
  have he : exitAt capture config clock env n = e := by rw [exitAt, hexit]
  rw [resultAt, he]
  exact ⟨hexit, hreason⟩

/-- The loop goes on where there is no reason to leave it. -/
theorem endReason_eq_none_iff {n : ℕ} :
    endReason capture env n = none ↔
      loopBody capture config (writerOf capture env) clock env n
        (localsAt capture config clock env n)
          = .next (localsAt capture config clock env (n + 1)) := by
  have hbody := loopBody_localsAt capture config clock env n
  cases hreason : endReason capture env n with
  | none =>
    rw [hreason] at hbody
    exact ⟨fun _ => hbody, fun _ => rfl⟩
  | some reason =>
    rw [hreason] at hbody
    obtain ⟨e, hexit, -⟩ := hbody
    exact ⟨nofun, fun hnext => by cases hnext.symm.trans hexit⟩

/-- The invariant holds as long as no reason to leave has come up. -/
theorem atIteration_localsAt {n : ℕ} (hfirst : ∀ j < n, endReason capture env j = none) :
    AtIteration capture config (writerOf capture env) clock env (initialRecording capture env) n
      (localsAt capture config clock env n) := by
  induction n with
  | zero => exact ⟨rfl, rfl, rfl, fun _ => Nat.zero_le _⟩
  | succ n ih =>
    have hbody := loopBody_localsAt capture config clock env n
    rw [hfirst n (Nat.lt_succ_self n)] at hbody
    exact atIteration_next rfl (ih fun j hj => hfirst j (Nat.lt_succ_of_lt hj)) hbody

/-- The loop leaves the file as it is. -/
theorem output_exitAt {n : ℕ} {reason : LiveCaptureTerminationReason}
    (h : EndsAt capture env n reason) :
    (exitAt capture config clock env n).recording.written.output
      = outputAt capture config clock env n := by
  have hexit := (loopBody_exitAt config clock h.reason).1
  rw [(exit_cases (atIteration_localsAt config clock h.first) hexit).1]
  exact output_consumeAll ..

/-- The counters of a run are those of its packets, but for a failed read. -/
theorem stats_resultAt {n : ℕ} {reason : LiveCaptureTerminationReason}
    (h : EndsAt capture env n reason) :
    let stats := (localsAt capture config clock env n).recording.stats
    { (resultAt capture config clock env n).stats with receiveErrors := 0 }
      = { stats with bytesSaved := stats.bytesInput - stats.bytesOutput } := by
  intro stats
  have hexit := (loopBody_exitAt config clock h.reason).1
  have herrors : stats.receiveErrors = 0 := (Recording.stats_consumeAll_frame ..).1
  have hstats : { stats with receiveErrors := 0 } = stats := by rw [← herrors]
  rw [resultAt]
  generalize exitAt capture config clock env n = e at hexit ⊢
  rcases loopBody_exit hexit with ⟨-, rfl⟩ | ⟨-, rfl⟩ | rfl | ⟨-, rfl⟩ | ⟨-, message, -, rfl⟩ <;>
    exact congrArg (fun stats : CaptureStats =>
      { stats with bytesSaved := stats.bytesInput - stats.bytesOutput }) hstats

/-- A run returns when its loop exits. -/
theorem run_eq_map (fuel : ℕ) :
    run capture config clock env fuel
      = (Loop.run (loopBody capture config (writerOf capture env) clock env) fuel 0
          (localsAt capture config clock env 0)).map
        fun exit => (finish env exit.1 exit.2, exit.2.recording.written.output) := by
  have hinitial : localsAt capture config clock env 0
      = { recording := { written := (writerOf capture env).writeGlobalHeader {} } } := rfl
  rw [run, hinitial]
  cases Loop.run (loopBody capture config (writerOf capture env) clock env) fuel 0
      { recording := { written := (writerOf capture env).writeGlobalHeader {} } } <;> rfl

/-- A run that returns is a run of the loop that exits. -/
theorem run_eq_some_iff_loop {fuel : ℕ} {result : NpcapCaptureRunResult} {output : Bytes} :
    run capture config clock env fuel = some (result, output) ↔ ∃ n e,
      Loop.run (loopBody capture config (writerOf capture env) clock env) fuel 0
        (localsAt capture config clock env 0) = some (n, e) ∧
      result = finish env n e ∧ output = e.recording.written.output := by
  rw [run_eq_map, Option.map_eq_some_iff]
  constructor
  · rintro ⟨⟨n, e⟩, hexit, heq⟩
    obtain ⟨rfl, rfl⟩ := Prod.mk.inj heq
    exact ⟨n, e, hexit, rfl, rfl⟩
  · rintro ⟨n, e, hexit, rfl, rfl⟩
    exact ⟨(n, e), hexit, rfl⟩

/-- **A run is determined by its first end.** -/
theorem run_eq_some_iff {fuel : ℕ} {result : NpcapCaptureRunResult} {output : Bytes} :
    run capture config clock env fuel = some (result, output) ↔
      ∃ n < fuel, ∃ reason, EndsAt capture env n reason ∧
        result = resultAt capture config clock env n ∧
        output = outputAt capture config clock env n := by
  have hloop := Loop.run_trajectory (localsAt capture config clock env)
    (fun _ _ => eq_localsAt_of_next capture config clock env) fuel 0
  rw [run_eq_some_iff_loop]
  constructor
  · rintro ⟨n, e, hexits, rfl, rfl⟩
    obtain ⟨-, hlt, hexit, hnext⟩ := (hloop n e).mp hexits
    obtain ⟨reason, hreason⟩ : ∃ reason, endReason capture env n = some reason := by
      rw [← Option.ne_none_iff_exists', ne_eq, endReason_eq_none_iff config clock]
      exact fun hgo => by cases hgo.symm.trans hexit
    have hends : EndsAt capture env n reason :=
      ⟨hreason, fun j hj => (endReason_eq_none_iff config clock).mpr (hnext j (Nat.zero_le j) hj)⟩
    have he : exitAt capture config clock env n = e :=
      Iteration.exit.inj ((loopBody_exitAt config clock hreason).1.symm.trans hexit)
    refine ⟨n, by omega, reason, hends, ?_, ?_⟩
    · rw [resultAt, he]
    · rw [← output_exitAt config clock hends, he]
  · rintro ⟨n, hlt, reason, hends, rfl, rfl⟩
    refine ⟨n, exitAt capture config clock env n, (hloop n _).mpr ⟨Nat.zero_le n, by omega,
      (loopBody_exitAt config clock hends.reason).1,
      fun j _ hj => (endReason_eq_none_iff config clock).mp (hends.first j hj)⟩,
      rfl, (output_exitAt config clock hends).symm⟩

/-- A run returns as soon as some iteration ends the loop. -/
theorem exists_run_of_endReason {k : ℕ} (h : (endReason capture env k).isSome) :
    ∃ result output, run capture config clock env (k + 1) = some (result, output) := by
  obtain ⟨n, hle, reason, hends⟩ := exists_endsAt h
  exact ⟨_, _, (run_eq_some_iff config clock).mpr
    ⟨n, Nat.lt_succ_of_le hle, reason, hends, rfl, rfl⟩⟩

/-- **When a live capture ends**, and why. The reason it reports is that of the first iteration that
has one, and the file holds the packets delivered before; a stop request, or the last packet that
`max_packets` allows, is not passed over. The duration limit is the configured one as long as it
fits the clock; from `2 ^ 64` down to that distance it is negative, and the capture ends at once. -/
theorem run_ends_iff (capture : CaptureOptions) (config : PolicyConfig) (clock : SystemClock)
    (env : Environment) :
    (∀ fuel reason output,
      (∃ result, run capture config clock env fuel = some (result, output) ∧
          result.terminationReason = reason) ↔
        ∃ n < fuel, EndsAt capture env n reason ∧
          output = (writerOf capture env).globalHeader
            ++ (Recording.records config clock {} (packetsBefore clock env n)).flatten) ∧
    (∀ k, env.stopRequested k = true → (run capture config clock env (k + 1)).isSome) ∧
    (∀ k, capture.maxPackets ≠ 0 → capture.maxPackets.toNat ≤ received env k →
      (run capture config clock env (k + 1)).isSome) ∧
    (∀ k, capture.durationSec ≠ 0 → capture.durationSec.toNat < 9223372037 →
      (durationLimitReached env.startTime (env.now k) capture.durationSec = true ↔
        capture.durationSec.toNat * 1000000000 ≤ env.now k - env.startTime)) ∧
    (2 ^ 64 < capture.durationSec.toNat + 9223372037 → env.startTime ≤ env.now 0 →
      (run capture config clock env 1).isSome) := by
  -- a reason at `k` ends the run at `k` or earlier
  have hisSome : ∀ k, (endReason capture env k).isSome →
      (run capture config clock env (k + 1)).isSome := by
    intro k hk
    obtain ⟨result, output, hrun⟩ := exists_run_of_endReason config clock hk
    rw [hrun]
    rfl
  refine ⟨fun fuel reason output => ?_, fun k hstop => ?_, fun k hmax hreceived => ?_,
    fun k hpos hfits => durationLimitReached_iff hpos hfits, fun hnegative hclock => ?_⟩
  · constructor
    · rintro ⟨result, hrun, rfl⟩
      obtain ⟨n, hlt, reason, hends, rfl, rfl⟩ := (run_eq_some_iff config clock).mp hrun
      rw [(loopBody_exitAt config clock hends.reason).2]
      exact ⟨n, hlt, hends, rfl⟩
    · rintro ⟨n, hlt, hends, rfl⟩
      exact ⟨_, (run_eq_some_iff config clock).mpr ⟨n, hlt, reason, hends, rfl, rfl⟩,
        (loopBody_exitAt config clock hends.reason).2⟩
  · refine hisSome k ?_
    rw [endReason, if_pos hstop]
    rfl
  · -- the counter meets the limit at an iteration not behind `k`
    obtain ⟨j, hle, heq⟩ := exists_received_eq env hreceived
    have hsome : (endReason capture env j).isSome := by
      unfold endReason
      split
      · rfl
      rw [if_pos ⟨hmax, by rw [heq, UInt64.ofNat_toNat]; exact UInt64.le_refl _⟩]
      rfl
    obtain ⟨n, hn, reason, hends⟩ := exists_endsAt hsome
    rw [(run_eq_some_iff config clock).mpr ⟨n, by omega, reason, hends, rfl, rfl⟩]
    rfl
  · refine hisSome 0 ?_
    unfold endReason
    split
    · rfl
    split
    · rfl
    -- a negative limit is exceeded before the first packet
    rw [if_pos (durationLimitReached_of_negative hnegative hclock)]
    rfl

end PcapConstrictor.NpcapCapture
