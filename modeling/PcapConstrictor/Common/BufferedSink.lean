import Mathlib.Data.List.Infix
import Mathlib.Data.Nat.Notation

/-!
# Buffered output to a device that may be full

A sink queues what its write calls bring, and hands it over to a device in pieces of its own
choosing, with no more than a buffer's length waiting. The device may have room for a limited number
of elements; from there on it refuses everything.

A write call fails when the device refuses a part of what that call hands over. So the device holds
the beginning of what was written (`writeAll_cases`), but a refused element may have been written by
an earlier call that succeeded, as long as it waited in the buffer. What waits when the sink is
closed is handed over then, and nothing tells whether the device took it.
-/

/-- A sink in front of a device. In its `k`-th write call, with a queue of `n` elements, it hands
over the first `handsOver k n` of them, and at most `buffer` wait for a later call. -/
structure BufferedDevice where
  capacity : Option ℕ
  buffer : ℕ
  handsOver : ℕ → ℕ → ℕ
  le_handsOver (k n : ℕ) : n ≤ handsOver k n + buffer

namespace BufferedDevice

variable {α : Type*} (device : BufferedDevice)

/-- What the device takes of everything that is handed over to it. -/
def keeps (l : List α) : List α :=
  match device.capacity with
  | none => l
  | some room => l.take room

variable {device} {l l' : List α}

/-- The device takes a beginning. -/
theorem keeps_prefix_self (l : List α) : device.keeps l <+: l := by
  unfold keeps
  split
  · exact List.prefix_rfl
  · exact List.take_prefix ..

/-- What is taken stays taken when more is handed over. -/
theorem keeps_mono (h : l <+: l') : device.keeps l <+: device.keeps l' := by
  unfold keeps
  split
  · exact h
  · exact h.take _

/-- A device that has refused something takes nothing any more. -/
theorem keeps_eq_of_ne (h : device.keeps l ≠ l) (hfront : l <+: l') :
    device.keeps l' = device.keeps l := by
  obtain ⟨rest, rfl⟩ := hfront
  unfold keeps at h ⊢
  split at h
  · exact absurd rfl h
  · next room _ =>
    -- the device is full within `l`
    have hroom : room ≤ l.length := by
      by_contra hlt
      exact h (List.take_of_length_le (by omega))
    exact List.take_append_of_le_length hroom

/-- A device that takes everything takes every beginning. -/
theorem keeps_eq_self_of_longer (h : device.keeps l' = l') (hfront : l <+: l') :
    device.keeps l = l := by
  by_contra hne
  have heq := (keeps_eq_of_ne hne hfront).symm.trans h
  have hle := hfront.length_le
  rw [← heq] at hle
  exact hne ((keeps_prefix_self l).eq_of_length_le hle)

/-- Handing over more to a full device changes nothing. -/
theorem keeps_keeps_append (h : device.keeps l ≠ l) (rest : List α) :
    device.keeps (device.keeps l ++ rest) = device.keeps l := by
  unfold keeps at h ⊢
  split at h
  · exact absurd rfl h
  · next room _ =>
    have hroom : room ≤ l.length := by
      by_contra hlt
      exact h (List.take_of_length_le (by omega))
    have hlength : (l.take room).length = room := by rw [List.length_take, Nat.min_eq_left hroom]
    exact List.take_left' hlength

end BufferedDevice

/-- What the device has taken, what waits in the buffer, and the number of write calls so far. -/
structure BufferedSink (α : Type*) where
  stored : List α := []
  pending : List α := []
  calls : ℕ := 0
deriving DecidableEq, Repr

namespace BufferedSink

open BufferedDevice

variable {α : Type*} (device : BufferedDevice)

/-- What the calls have brought so far, as long as none of them has failed. -/
def written (s : BufferedSink α) : List α := s.stored ++ s.pending

/-- A write call: the sink behind it, and whether the device has taken all that was handed over. -/
def write (s : BufferedSink α) (chunk : List α) : BufferedSink α × Bool :=
  let queue := s.pending ++ chunk
  let handed := s.stored ++ queue.take (device.handsOver s.calls queue.length)
  let stored := device.keeps handed
  ({ stored, pending := (s.stored ++ queue).drop stored.length, calls := s.calls + 1 },
    stored.length == handed.length)

/-- Write calls up to the first one that fails. -/
def writeAll (s : BufferedSink α) : List (List α) → BufferedSink α × Bool
  | [] => (s, true)
  | chunk :: chunks =>
    match s.write device chunk with
    | (s, true) => writeAll s chunks
    | (s, false) => (s, false)

/-- What the device holds once the sink is closed. -/
def close (s : BufferedSink α) : List α := device.keeps (s.stored ++ s.pending)

/-- No call has failed: the device has taken what was handed over to it. -/
structure Flows (s : BufferedSink α) : Prop where
  stored : device.keeps s.stored = s.stored
  pending : s.pending.length ≤ device.buffer

/-- A call has failed within `target`. Its beginning `before` was written by earlier calls; no more
than a buffer's length of that is lost. -/
structure Refused (before target : List α) (s : BufferedSink α) : Prop where
  full : device.keeps target ≠ target
  stored : s.stored = device.keeps target
  lost : before.length ≤ (device.keeps target).length + device.buffer

variable {device} {before target : List α} {s : BufferedSink α}

/-- Nothing is written to a new sink. -/
theorem flows_empty : Flows device ({} : BufferedSink α) where
  stored := List.prefix_nil.mp (keeps_prefix_self [])
  pending := Nat.zero_le _

/-- **What is lost at closing**: the device holds what it has room for, and what it refuses has
waited in the buffer. -/
theorem Flows.close (h : Flows device s) :
    s.close device = device.keeps s.written ∧
      s.written.length ≤ (device.keeps s.written).length + device.buffer := by
  refine ⟨rfl, ?_⟩
  have hstored : (device.keeps s.stored).length ≤ (device.keeps s.written).length :=
    (keeps_mono (List.prefix_append ..)).length_le
  have hpending := h.pending
  have hlength : s.written.length = s.stored.length + s.pending.length := List.length_append
  rw [h.stored] at hstored
  omega

/-- Closing a sink whose device is full changes nothing. -/
theorem Refused.close (h : Refused device before target s) :
    s.close device = device.keeps target := by
  rw [BufferedSink.close, h.stored, keeps_keeps_append h.full]

/-- More that was to be written behind the failure makes no difference. -/
theorem Refused.extend {target' : List α} (h : Refused device before target s)
    (hfront : target <+: target') : Refused device before target' s := by
  have hkeeps := keeps_eq_of_ne h.full hfront
  refine ⟨fun hall => h.full (keeps_eq_self_of_longer hall hfront), ?_, ?_⟩
  · rw [hkeeps, h.stored]
  · rw [hkeeps]
    exact h.lost

/-- What fails behind `before'` fails behind every beginning of it. -/
theorem Refused.weaken {before' : List α} (h : Refused device before' target s)
    (hfront : before <+: before') : Refused device before target s :=
  ⟨h.full, h.stored, hfront.length_le.trans h.lost⟩

/-- **What a call does**: the device takes what is handed over to it, or the call fails within its
chunk or what waited in front of it. -/
theorem write_cases (h : Flows device s) (chunk : List α) :
    (∃ s', write device s chunk = (s', true) ∧ s'.written = s.written ++ chunk ∧
      Flows device s') ∨
    ∃ s', write device s chunk = (s', false) ∧
      Refused device s.written (s.written ++ chunk) s' := by
  rw [write, written, List.append_assoc]
  generalize hqueue : s.pending ++ chunk = queue
  have hhands := device.le_handsOver s.calls queue.length
  generalize hhanded : s.stored ++ queue.take (device.handsOver s.calls queue.length) = handed
  have hfront : handed <+: s.stored ++ queue := by
    rw [← hhanded]
    exact (List.prefix_append_right_inj _).mpr (List.take_prefix ..)
  by_cases hkeeps : device.keeps handed = handed
  · rw [hkeeps, beq_self_eq_true]
    refine Or.inl ⟨_, rfl, List.prefix_iff_eq_append.mp hfront, hkeeps, ?_⟩
    rw [List.length_drop, ← hhanded, List.length_append, List.length_append, List.length_take]
    omega
  · have hshort : (device.keeps handed).length ≠ handed.length :=
      fun heq => hkeeps ((keeps_prefix_self _).eq_of_length heq)
    rw [beq_eq_false_iff_ne.mpr hshort]
    refine Or.inr ⟨_, rfl, Refused.extend ⟨hkeeps, rfl, ?_⟩ hfront⟩
    -- what the device already held it still holds
    have hheld : (device.keeps s.stored).length ≤ (device.keeps handed).length :=
      (keeps_mono (hhanded ▸ List.prefix_append ..)).length_le
    have hpending := h.pending
    rw [h.stored] at hheld
    rw [List.length_append]
    omega

/-- **What a sequence of calls does**: it writes all chunks, or it fails within them. -/
theorem writeAll_cases (h : Flows device s) (chunks : List (List α)) :
    (∃ s', writeAll device s chunks = (s', true) ∧ s'.written = s.written ++ chunks.flatten ∧
      Flows device s') ∨
    ∃ s', writeAll device s chunks = (s', false) ∧
      Refused device s.written (s.written ++ chunks.flatten) s' := by
  induction chunks generalizing s with
  | nil => exact Or.inl ⟨s, rfl, (List.append_nil _).symm, h⟩
  | cons chunk chunks ih =>
    rw [writeAll, List.flatten_cons, ← List.append_assoc]
    rcases write_cases h chunk with ⟨s', heq, hwritten, hs'⟩ | ⟨s', heq, hs'⟩
    · rw [heq, ← hwritten]
      rcases ih hs' with hall | ⟨s'', heq', hs''⟩
      · exact Or.inl hall
      · exact Or.inr ⟨s'', heq', hs''.weaken (hwritten ▸ List.prefix_append ..)⟩
    · rw [heq]
      exact Or.inr ⟨s', rfl, hs'.extend (List.prefix_append ..)⟩

end BufferedSink
