import PcapConstrictor.Capture.NpcapCapture

/-!
# The loop of the live capture

An iteration that goes on has consumed the packet delivered to it, if any (`loopBody_next`), and one
that leaves the loop does so for one of five reasons (`loopBody_exit`). Hence what is recorded in
front of an iteration is a function of the packets delivered before it (`AtIteration`).
-/

namespace PcapConstrictor.NpcapCapture

open ByteString Loop

variable (capture : CaptureOptions) (config : PolicyConfig) (writer : PcapWriter)
  (clock : SystemClock) (env : Environment)

/-- The packet that the `k`-th call of `pcap_next_ex` delivers. -/
def packetAt (k : ℕ) : Option CapturedPacket :=
  if (env.nextEx k).status ≤ 0 then none
  else
    match (env.nextEx k).header, (env.nextEx k).bytes with
    | some header, some bytes => some (capturedPacket clock env.linkType header bytes)
    | _, _ => none

/-- The packets delivered in front of iteration `k`, in order. -/
def packetsBefore (k : ℕ) : List CapturedPacket := (List.range k).filterMap (packetAt clock env)

/-- Iteration `k` adds its packet, if it receives one. -/
theorem packetsBefore_succ (k : ℕ) :
    packetsBefore clock env (k + 1)
      = packetsBefore clock env k ++ (packetAt clock env k).toList := by
  rw [packetsBefore, List.range_succ, List.filterMap_append]
  cases h : packetAt clock env k <;> simp [packetsBefore, h]

/-- Packets are only added. -/
theorem packetsBefore_mono {k k' : ℕ} (h : k ≤ k') :
    packetsBefore clock env k <+: packetsBefore clock env k' := by
  induction h with
  | refl => exact List.prefix_rfl
  | step _ ih =>
    rw [packetsBefore_succ]
    exact ih.trans (List.prefix_append ..)

/-- The limit on the number of packets is reached. -/
def LimitReached (l : RunLocals) : Prop :=
  capture.maxPackets ≠ 0 ∧ l.recording.stats.packetsTotal ≥ capture.maxPackets

variable {capture config writer clock env}

/-- **An iteration that goes on** has consumed the packet delivered to it, if any. -/
theorem loopBody_next {k : ℕ} {l l' : RunLocals}
    (h : loopBody capture config writer clock env k l = .next l') :
    ¬ LimitReached capture l ∧
      ((packetAt clock env k = none ∧ l' = l) ∨
        ∃ packet, packetAt clock env k = some packet ∧
          l' = { l with recording := l.recording.consumed config writer clock packet }) := by
  unfold loopBody at h
  split at h
  · cases h
  split at h
  · cases h
  next hlimit =>
  refine ⟨hlimit, ?_⟩
  split at h
  · cases h
  dsimp only at h
  split at h
  · next hstatus =>
    -- a time-out delivers nothing
    refine Or.inl ⟨?_, (Iteration.next.inj h).symm⟩
    rw [packetAt, if_pos (by omega)]
  next hstatus =>
  split at h
  · cases h
  split at h
  · cases h
  next hnonneg =>
  split at h
  · next header bytes hheader hbytes =>
    rw [Recording.consume_eq] at h
    refine Or.inr ⟨_, ?_, (Iteration.next.inj h).symm⟩
    rw [packetAt, if_neg (by omega), hheader, hbytes]
  · cases h

/-- A delivered packet is consumed, unless the loop ends before. -/
theorem loopBody_of_packetAt {k : ℕ} {l : RunLocals} {packet : CapturedPacket}
    (hstop : env.stopRequested k = false) (hlimit : ¬ LimitReached capture l)
    (hduration : durationLimitReached env.startTime (env.now k) capture.durationSec = false)
    (hpacket : packetAt clock env k = some packet) :
    loopBody capture config writer clock env k l
      = .next { l with recording := l.recording.consumed config writer clock packet } := by
  unfold packetAt at hpacket
  split at hpacket
  · cases hpacket
  next hstatus =>
  split at hpacket
  · next header bytes hheader hbytes =>
    obtain rfl := Option.some.inj hpacket
    have hbreak : (env.nextEx k).status ≠ PCAP_ERROR_BREAK := by
      unfold PCAP_ERROR_BREAK
      omega
    unfold LimitReached at hlimit
    rw [loopBody, hstop, hduration, if_neg Bool.false_ne_true, if_neg hlimit,
      if_neg Bool.false_ne_true]
    dsimp only
    rw [if_neg (by omega), if_neg hbreak, if_neg (by omega), hheader, hbytes]
    dsimp only
    rw [Recording.consume_eq]
  · cases hpacket

/-- A failed call always leaves a message. -/
theorem handleError_getD_ne (errorText : Option String) {default : String} (h : default ≠ "") :
    (handleError errorText).getD default ≠ "" := by
  unfold handleError
  cases hfilter : errorText.filter (· ≠ "") with
  | none => exact h
  | some text => simpa using (Option.filter_eq_some_iff.mp hfilter).2

/-- **An iteration that leaves the loop** does so for one of five reasons. -/
theorem loopBody_exit {k : ℕ} {l e : RunLocals}
    (h : loopBody capture config writer clock env k l = .exit e) :
    (env.stopRequested k = true ∧ e = l) ∨
    (LimitReached capture l ∧ e = { l with terminationReason := .maxPacketsReached }) ∨
    e = { l with terminationReason := .durationReached } ∨
    (packetAt clock env k = none ∧ e = { l with terminationReason := .captureLoopEnded }) ∨
    (packetAt clock env k = none ∧ ∃ message, message ≠ "" ∧ e = l.receiveError message) := by
  unfold loopBody at h
  split at h
  · next hstop => exact Or.inl ⟨hstop, (Iteration.exit.inj h).symm⟩
  refine Or.inr ?_
  split at h
  · next hlimit => exact Or.inl ⟨hlimit, (Iteration.exit.inj h).symm⟩
  refine Or.inr ?_
  split at h
  · exact Or.inl (Iteration.exit.inj h).symm
  refine Or.inr ?_
  dsimp only at h
  split at h
  · cases h
  next hstatus =>
  split at h
  · next hbreak =>
    -- the driver ends the loop: its status is negative, so no packet is delivered
    refine Or.inl ⟨?_, (Iteration.exit.inj h).symm⟩
    rw [packetAt, if_pos (by rw [hbreak]; decide)]
  refine Or.inr ?_
  split at h
  · next hneg =>
    refine ⟨?_, _, handleError_getD_ne _ (by decide), (Iteration.exit.inj h).symm⟩
    rw [packetAt, if_pos (by omega)]
  next hnonneg =>
  split at h
  · rw [Recording.consume_eq] at h
    cases h
  · -- a null pointer in spite of a positive status
    next hnull =>
    refine ⟨?_, _, by decide, (Iteration.exit.inj h).symm⟩
    rw [packetAt, if_neg (by omega)]
    split
    · next header bytes hheader hbytes => exact absurd hbytes (hnull header bytes hheader)
    · rfl

variable (capture config writer clock env) in
/-- The locals in front of iteration `k`. -/
structure AtIteration (initial : Recording) (k : ℕ) (l : RunLocals) : Prop where
  recording : l.recording
    = initial.consumeAll config writer clock (packetsBefore clock env k)
  error : l.error = ""
  terminationReason : l.terminationReason = .stopped
  limit : capture.maxPackets ≠ 0 →
    (packetsBefore clock env k).length ≤ capture.maxPackets.toNat

/-- The counter of packets, as long as it does not wrap. -/
theorem toNat_packetsTotal {initial : Recording} (hinitial : initial.stats = {}) {k : ℕ}
    {l : RunLocals} (h : AtIteration capture config writer clock env initial k l)
    (hlt : (packetsBefore clock env k).length < 2 ^ 64) :
    l.recording.stats.packetsTotal.toNat = (packetsBefore clock env k).length := by
  have htotal := (Recording.stats_consumeAll config writer clock initial
    (packetsBefore clock env k)).1
  rw [h.recording, htotal, hinitial, UInt64.zero_add, UInt64.toNat_ofNat']
  exact Nat.mod_eq_of_lt hlt

/-- One iteration keeps the description of the locals. -/
theorem atIteration_next {initial : Recording} (hinitial : initial.stats = {}) {k : ℕ}
    {l l' : RunLocals} (h : AtIteration capture config writer clock env initial k l)
    (hbody : loopBody capture config writer clock env k l = .next l') :
    AtIteration capture config writer clock env initial (k + 1) l' := by
  obtain ⟨hlimit, ⟨hnone, rfl⟩ | ⟨packet, hpacket, rfl⟩⟩ := loopBody_next hbody
  · have hbefore : packetsBefore clock env (k + 1) = packetsBefore clock env k := by
      rw [packetsBefore_succ, hnone]
      exact List.append_nil _
    exact ⟨hbefore ▸ h.recording, h.error, h.terminationReason, hbefore ▸ h.limit⟩
  · have hbefore : packetsBefore clock env (k + 1) = packetsBefore clock env k ++ [packet] := by
      rw [packetsBefore_succ, hpacket]
      rfl
    refine ⟨?_, h.error, h.terminationReason, ?_⟩
    · rw [hbefore, Recording.consumeAll, List.foldl_concat, ← Recording.consumeAll, h.recording]
    · intro hmax
      have hle := h.limit hmax
      have hlt := capture.maxPackets.toNat_lt
      have htotal := toNat_packetsTotal hinitial h (Nat.lt_of_le_of_lt hle hlt)
      have hbelow : l.recording.stats.packetsTotal.toNat < capture.maxPackets.toNat :=
        UInt64.lt_iff_toNat_lt.mp (UInt64.not_le.mp fun hge => hlimit ⟨hmax, hge⟩)
      rw [hbefore, List.length_append, List.length_singleton]
      omega

/-- How the loop ends: what is recorded does not change any more, and the reason fits the error
text. -/
theorem exit_cases {initial : Recording} {k : ℕ} {l e : RunLocals}
    (h : AtIteration capture config writer clock env initial k l)
    (hbody : loopBody capture config writer clock env k l = .exit e) :
    e.recording.written = l.recording.written ∧
      e.recording.stats.packetsTotal = l.recording.stats.packetsTotal ∧
      e.recording.stats.packetsWritten = l.recording.stats.packetsWritten ∧
      e.recording.stats.bytesInput = l.recording.stats.bytesInput ∧
      e.recording.stats.bytesOutput = l.recording.stats.bytesOutput ∧
      (e.error ≠ "" ↔ e.terminationReason = .error) ∧
      (e.terminationReason = .stopped → env.stopRequested k = true) ∧
      (e.terminationReason = .maxPacketsReached → LimitReached capture l) ∧
      (e.terminationReason = .captureLoopEnded ∨ e.terminationReason = .error →
        packetAt clock env k = none) ∧
      e.terminationReason ≠ .interrupted := by
  have herror := h.error
  have hreason := h.terminationReason
  rcases loopBody_exit hbody with
    ⟨hstop, rfl⟩ | ⟨hlimit, rfl⟩ | rfl | ⟨hnone, rfl⟩ | ⟨hnone, message, hmessage, rfl⟩
  · refine ⟨rfl, rfl, rfl, rfl, rfl, ?_, fun _ => hstop, ?_, ?_, ?_⟩ <;> simp [herror, hreason]
  · exact ⟨rfl, rfl, rfl, rfl, rfl, by simp [herror], nofun, fun _ => hlimit, by simp, nofun⟩
  · exact ⟨rfl, rfl, rfl, rfl, rfl, by simp [herror], nofun, nofun, by simp, nofun⟩
  · exact ⟨rfl, rfl, rfl, rfl, rfl, by simp [herror], nofun, nofun, fun _ => hnone, nofun⟩
  · exact ⟨rfl, rfl, rfl, rfl, rfl, ⟨fun _ => rfl, fun _ => hmessage⟩, nofun, nofun,
      fun _ => hnone, nofun⟩

/-- What `Run` records into: an empty recording behind the global header. -/
def initialRecording (capture : CaptureOptions) (env : Environment) : Recording where
  written := (writerOf capture env).writeGlobalHeader {}

/-- What is written while packets are consumed: the header, and their records. -/
theorem output_consumeAll (capture : CaptureOptions) (config : PolicyConfig) (clock : SystemClock)
    (env : Environment) (packets : List CapturedPacket) :
    ((initialRecording capture env).consumeAll config (writerOf capture env) clock
        packets).written.output
      = (writerOf capture env).globalHeader
        ++ (Recording.records config clock {} packets).flatten := by
  by_cases hnil : packets = []
  · subst hnil
    exact (List.append_nil _).symm
  · rw [Recording.written_consumeAll _ _ _ _ hnil]
    rfl

end PcapConstrictor.NpcapCapture
