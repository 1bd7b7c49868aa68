import PcapConstrictor.Offline.PcapGrammar
import PcapConstrictor.Offline.ReadBack

/-!
# Any sequence of calls on a writer

The writer emits its global header with the first call that writes, and a call that is rejected
writes nothing. So the stream is the header followed by the accepted packets whatever the calls
(`state_run`), and the reader finds exactly these packets in it.
-/

namespace PcapConstrictor

open ByteString PcapReader

/-! ## Time stamps -/

namespace SystemClock

/-- The ticks in a microsecond. -/
def ticksPerMicrosecond (clock : SystemClock) : ℕ := 1000 / clock.nsPerTick

/-- A time point whose seconds fit the 32-bit field of a record. -/
def InRange (clock : SystemClock) (timestamp : ℤ) : Prop :=
  0 ≤ timestamp ∧ timestamp * clock.nsPerTick < 2 ^ 32 * 1000000000

/-- A time point truncated to whole microseconds. -/
def truncate (clock : SystemClock) (timestamp : ℤ) : ℤ :=
  timestamp - timestamp % clock.ticksPerMicrosecond

instance (clock : SystemClock) (timestamp : ℤ) : Decidable (clock.InRange timestamp) :=
  inferInstanceAs (Decidable (_ ∧ _))

theorem nsPerTick_mul (clock : SystemClock) :
    clock.nsPerTick * clock.ticksPerMicrosecond = 1000 := Nat.mul_div_cancel' clock.nsPerTick_dvd

/-- The microseconds of a time point in range. -/
theorem microseconds_of_inRange {clock : SystemClock} {timestamp : ℤ}
    (h : clock.InRange timestamp) :
    ∃ us : ℕ, clock.microseconds timestamp = us ∧ us < 2 ^ 32 * 1000000 ∧
      clock.truncate timestamp = us * clock.ticksPerMicrosecond := by
  obtain ⟨hnonneg, hlt⟩ := h
  obtain ⟨ticks, rfl⟩ := Int.eq_ofNat_of_zero_le hnonneg
  have hmul := clock.nsPerTick_mul
  have hmicros : ticks * clock.nsPerTick / 1000 = ticks / clock.ticksPerMicrosecond := by
    rw [← hmul, Nat.mul_comm clock.nsPerTick, Nat.mul_div_mul_right _ _ clock.nsPerTick_pos]
  refine ⟨ticks / clock.ticksPerMicrosecond, ?_, ?_, ?_⟩
  · rw [← hmicros]
    rfl
  · have hticks : ticks * clock.nsPerTick < 2 ^ 32 * 1000000000 := by exact_mod_cast hlt
    rw [← hmicros]
    omega
  · rw [truncate]
    have hdiv := Int.mul_ediv_add_emod (ticks : ℤ) clock.ticksPerMicrosecond
    have hcast : ((ticks / clock.ticksPerMicrosecond : ℕ) : ℤ)
        = (ticks : ℤ) / clock.ticksPerMicrosecond := Int.natCast_ediv _ _
    rw [hcast, mul_comm]
    linarith

end SystemClock

namespace PcapWriter

/-- A record of the writer has the time of its packet, in whole microseconds. -/
theorem ReadsBack.timestamp {clock : SystemClock} {packet : CapturedPacket} {inclLen : UInt32}
    {record : PcapPacketRecord} (h : ReadsBack clock packet inclLen record)
    (hrange : clock.InRange packet.timestamp) :
    record.timestamp clock .microsecond = clock.truncate packet.timestamp := by
  obtain ⟨us, hus, hlt, htruncate⟩ := SystemClock.microseconds_of_inRange hrange
  have hsec : (UInt32.ofNat (us / 1000000)).toNat = us / 1000000 := by
    rw [UInt32.toNat_ofNat']
    exact Nat.mod_eq_of_lt (by omega)
  have hsplit : clock.microseconds packet.timestamp
      = ((UInt32.ofNat (us / 1000000)).toNat * 1000000 + us % 1000000 : ℕ) := by
    rw [hus, hsec]
    congr 1
    omega
  obtain ⟨hseconds, hmicros⟩ :=
    tsSec_tsUsec_of_microseconds packet hsplit (Nat.mod_lt _ (by decide))
  have htotal : (us / 1000000 : ℕ) * 1000000 + (us % 1000000 : ℕ) = (us : ℤ) := by omega
  rw [PcapPacketRecord.timestamp, h.tsSec, h.tsFraction, hseconds, hmicros, hsec, htotal,
    htruncate]
  rfl

/-! ## Calls -/

/-- A call of the public interface. -/
inductive Call
  | writeGlobalHeader
  /-- `WritePacket(packet)`. -/
  | writePacket (packet : CapturedPacket)
  /-- `WritePacket(packet, incl_len)`. -/
  | writePacketPrefix (packet : CapturedPacket) (inclLen : UInt32)
deriving DecidableEq, Repr

/-- `WritePacket(packet, incl_len)` with the state it leaves behind also when it throws. -/
def tryWritePacket (writer : PcapWriter) (clock : SystemClock) (state : State)
    (packet : CapturedPacket) (inclLen : UInt32) : State × Option String :=
  if inclLen > packet.packet.safeCapturedLen then
    (state, some "incl_len exceeds available packet bytes")
  else
    let state := writer.writeGlobalHeader state
    ({ state with output := state.output ++ record clock packet inclLen }, none)

/-- A call: the state it leaves, and the message of the exception if it throws. -/
def perform (writer : PcapWriter) (clock : SystemClock) (state : State) :
    Call → State × Option String
  | .writeGlobalHeader => (writer.writeGlobalHeader state, none)
  | .writePacket packet =>
    writer.tryWritePacket clock state packet packet.packet.safeCapturedLen
  | .writePacketPrefix packet inclLen => writer.tryWritePacket clock state packet inclLen

/-- The state after a sequence of calls on a new writer. -/
def run (writer : PcapWriter) (clock : SystemClock) (calls : List Call) : State :=
  Transducer.after (writer.perform clock) {} calls

/-- The call asks for more bytes than the packet has. -/
def Call.Rejected : Call → Prop
  | .writePacketPrefix packet inclLen => packet.packet.safeCapturedLen < inclLen
  | _ => False

instance : DecidablePred Call.Rejected
  | .writeGlobalHeader => isFalse id
  | .writePacket _ => isFalse id
  | .writePacketPrefix _ _ => inferInstanceAs (Decidable (_ < _))

/-- The packet a call writes, with its length. -/
def Call.written : Call → Option Written
  | .writeGlobalHeader => none
  | .writePacket packet => some (packet, packet.packet.safeCapturedLen)
  | .writePacketPrefix packet inclLen =>
    if inclLen ≤ packet.packet.safeCapturedLen then some (packet, inclLen) else none

/-- The packets a sequence of calls writes. -/
def written (calls : List Call) : List Written := calls.filterMap Call.written

/-- The header is written once it was asked for. -/
theorem globalHeaderWritten_writeGlobalHeader (writer : PcapWriter) (state : State) :
    (writer.writeGlobalHeader state).globalHeaderWritten = true := by
  unfold writeGlobalHeader
  split
  · next h => exact h
  · rfl

/-- A call that the writer accepts appends a record, behind a header. -/
theorem tryWritePacket_of_le (writer : PcapWriter) (clock : SystemClock) (state : State)
    {packet : CapturedPacket} {inclLen : UInt32} (h : inclLen ≤ packet.packet.safeCapturedLen) :
    writer.tryWritePacket clock state packet inclLen
      = ({ output := (writer.writeGlobalHeader state).output
            ++ recordBytes clock [(packet, inclLen)]
           globalHeaderWritten := true }, none) := by
  unfold tryWritePacket
  rw [if_neg (UInt32.not_lt.mpr h), recordBytes, List.flatMap_singleton,
    ← globalHeaderWritten_writeGlobalHeader writer state]

/-- **What a call does**: nothing when it is rejected; else it writes its packet, if it has one,
behind the global header. -/
theorem perform_cases (writer : PcapWriter) (clock : SystemClock) (state : State) (call : Call) :
    (call.Rejected ∧ call.written = none ∧
      writer.perform clock state call
        = (state, some "incl_len exceeds available packet bytes")) ∨
    (¬ call.Rejected ∧
      writer.perform clock state call
        = ({ output := (writer.writeGlobalHeader state).output
              ++ recordBytes clock call.written.toList
             globalHeaderWritten := true }, none)) := by
  cases call with
  | writeGlobalHeader =>
    refine Or.inr ⟨id, ?_⟩
    have hwritten := globalHeaderWritten_writeGlobalHeader writer state
    rw [perform, Call.written, ← hwritten]
    simp [recordBytes]
  | writePacket packet =>
    exact Or.inr ⟨id, tryWritePacket_of_le writer clock state (UInt32.le_refl _)⟩
  | writePacketPrefix packet inclLen =>
    by_cases hle : inclLen ≤ packet.packet.safeCapturedLen
    · refine Or.inr ⟨UInt32.not_lt.mpr hle, ?_⟩
      rw [Call.written, if_pos hle]
      exact tryWritePacket_of_le writer clock state hle
    · have hlt := UInt32.not_le.mp hle
      refine Or.inl ⟨hlt, if_neg hle, ?_⟩
      rw [perform, tryWritePacket, if_pos hlt]

/-- **The state after any sequence of calls**: untouched while every call is rejected, else the
global header and the accepted packets in order. -/
theorem state_run (writer : PcapWriter) (clock : SystemClock) (calls : List Call) :
    writer.run clock calls = if ∀ call ∈ calls, call.Rejected then {}
      else
        { output := writer.globalHeader ++ recordBytes clock (written calls)
          globalHeaderWritten := true } := by
  induction calls using List.reverseRecOn with
  | nil => rfl
  | append_singleton calls call ih =>
    have hstep : writer.run clock (calls ++ [call])
        = (writer.perform clock (writer.run clock calls) call).1 := Transducer.after_concat ..
    have hrecords : recordBytes clock (written (calls ++ [call]))
        = recordBytes clock (written calls) ++ recordBytes clock call.written.toList := by
      rw [written, List.filterMap_append, recordBytes, List.flatMap_append]
      cases hwritten : call.written <;> simp [hwritten, recordBytes, written]
    rw [hstep]
    rcases perform_cases writer clock (writer.run clock calls) call with
      ⟨hrejected, hnone, heq⟩ | ⟨haccepted, heq⟩
    · have hsame : written (calls ++ [call]) = written calls := by
        simp [written, hnone]
      rw [heq, ih, hsame]
      simp [or_imp, forall_and, hrejected]
    · have hnot : ¬ ∀ c ∈ calls ++ [call], c.Rejected :=
        fun h => haccepted (h call (by simp))
      rw [heq, if_neg hnot, hrecords, ih, ← List.append_assoc]
      -- the header is there already, or this call writes it
      split
      · next hall =>
        have hnil : written calls = [] := by
          rw [written, List.filterMap_eq_nil_iff]
          intro c hc
          rcases perform_cases writer clock {} c with ⟨-, hnone, -⟩ | ⟨hnot, -⟩
          · exact hnone
          · exact absurd (hall c hc) hnot
        rw [hnil]
        simp [writeGlobalHeader, recordBytes]
      · rfl

/-- The writer accepts the lengths it writes. -/
theorem written_le (calls : List Call) :
    ∀ w ∈ written calls, w.2 ≤ w.1.packet.safeCapturedLen := by
  intro w hw
  obtain ⟨call, -, hcall⟩ := List.mem_filterMap.mp hw
  cases call with
  | writeGlobalHeader => cases hcall
  | writePacket packet =>
    rw [← Option.some.inj hcall]
    exact UInt32.le_refl _
  | writePacketPrefix packet inclLen =>
    rw [Call.written, Option.ite_none_right_eq_some] at hcall
    rw [← Option.some.inj hcall.2]
    exact hcall.1

/-- `record` is the packet `packet`, written with the length `inclLen`. -/
structure Agrees (clock : SystemClock) (precision : PcapTimePrecision) (w : Written)
    (record : PcapPacketRecord) : Prop where
  capturedLength : record.capturedLength = w.2
  originalLength : record.originalLength = max w.1.originalLen w.2
  bytes : record.bytes = w.1.data.take w.2.toNat
  timestamp : record.timestamp clock precision = clock.truncate w.1.timestamp

/-- **Writer and reader agree.** Whatever the calls, as long as one of them writes: a rejected call
changes nothing, the stream is one global header and the accepted packets in the order of the calls,
and the reader finds these packets in it without an error. -/
theorem calls_read_back (writer : PcapWriter) (hsnaplen : writer.snaplen ≠ 0)
    (hlink : writer.linkType = .ethernet) (clock : SystemClock) (calls : List Call)
    (hwrites : ∃ call ∈ calls, ¬ call.Rejected)
    (hrange : ∀ w ∈ written calls, clock.InRange w.1.timestamp)
    (file : FileContent) (hfile : file.bytes = (writer.run clock calls).output)
    (reader : PcapReader) :
    (∀ call ∈ calls, call.Rejected → ∀ state, writer.perform clock state call
      = (state, some "incl_len exceeds available packet bytes")) ∧
    file.bytes = writer.globalHeader ++ recordBytes clock (written calls) ∧
    ∃ opened, reader.openFile (.readable file.bytes) = (opened, true) ∧
      opened.readAll.2.hasError = false ∧
      List.Forall₂ (Agrees clock opened.globalHeader.timePrecision) (written calls)
        opened.readAll.1 := by
  have hbytes : file.bytes = writer.globalHeader ++ recordBytes clock (written calls) := by
    rw [hfile, state_run, if_neg (by push Not; exact hwrites)]
  refine ⟨?_, hbytes, ?_⟩
  · intro call _ hrejected state
    -- a rejected call changes nothing
    rcases perform_cases writer clock state call with ⟨-, -, heq⟩ | ⟨hnot, -⟩
    · exact heq
    · exact absurd hrejected hnot
  · have hsize := file.size_lt
    rw [hbytes] at hsize ⊢
    obtain ⟨hopen, hok, hread⟩ :=
      readAll_written writer hsnaplen hlink (written_le calls) hsize reader
    refine ⟨_, hopen, hok, ?_⟩
    refine List.forall₂_iff_get.mpr ⟨hread.length_eq, ?_⟩
    intro i hi hi'
    have hrecord := (List.forall₂_iff_get.mp hread).2 i hi hi'
    exact ⟨hrecord.capturedLength, hrecord.originalLength, hrecord.bytes,
      hrecord.timestamp (hrange _ (List.get_mem _ _))⟩

/-- Four bytes of a nine-byte packet. -/
def cutPacket : CapturedPacket where
  packet := { data := [1, 2, 3, 4], capturedLen := 4, originalLen := 9 }
  timestamp := 12345678

/-- A rejected call, a packet, a late request for the header, and the packet again. -/
def mixedCalls : List Call :=
  [.writePacketPrefix cutPacket 9, .writePacketPrefix cutPacket 2, .writeGlobalHeader,
    .writePacket cutPacket]

/-- Two of the calls store the packet, at two lengths. -/
theorem calls_read_back_mixed :
    ∃ opened, PcapReader.openFile {} (.readable (({} : PcapWriter).run .windows mixedCalls).output)
        = (opened, true) ∧ opened.readAll.2.hasError = false ∧
      List.Forall₂ (Agrees .windows opened.globalHeader.timePrecision)
        [(cutPacket, 2), (cutPacket, 4)] opened.readAll.1 :=
  (calls_read_back {} (by decide) rfl .windows mixedCalls
    ⟨.writeGlobalHeader, by decide, by decide⟩ (by decide) ⟨_, by decide⟩ rfl {}).2.2

end PcapWriter

end PcapConstrictor
