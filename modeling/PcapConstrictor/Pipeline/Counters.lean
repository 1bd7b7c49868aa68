import Mathlib.Algebra.BigOperators.Group.Finset.Piecewise
import Mathlib.Data.Fintype.Basic
import PcapConstrictor.Pipeline.Recording

/-!
# What the counters count

Each of the six decision counters of `CaptureStats` counts the decisions with certain reasons, no
decision is counted twice, and what is saved in total is at least the configured minimum for each
packet counted as constricted.
-/

namespace PcapConstrictor

/-- The decision counters of `CaptureStats`. -/
inductive Counter
  | tlsAppdataConstricted
  | tlsFallback
  | quicLongHeader
  | quicShortMatched
  | quicShortConstricted
  | quicFallback
deriving DecidableEq, Repr

instance : Fintype Counter where
  elems := {.tlsAppdataConstricted, .tlsFallback, .quicLongHeader, .quicShortMatched,
    .quicShortConstricted, .quicFallback}
  complete := fun counter => by cases counter <;> decide

/-- The value of a decision counter. -/
def CaptureStats.counter (stats : CaptureStats) : Counter → UInt64
  | .tlsAppdataConstricted => stats.tlsAppdataConstricted
  | .tlsFallback => stats.tlsFallback
  | .quicLongHeader => stats.quicLongHeader
  | .quicShortMatched => stats.quicShortMatched
  | .quicShortConstricted => stats.quicShortConstricted
  | .quicFallback => stats.quicFallback

/-- The counter a reason belongs to. -/
def DecisionReason.counter : DecisionReason → Option Counter
  | .tlsApplicationDataConstricted => some .tlsAppdataConstricted
  | .tlsMalformedFallback => some .tlsFallback
  | .tlsNoRecordFallback => some .tlsFallback
  | .quicLongHeader => some .quicLongHeader
  | .quicShortHeaderMatched => some .quicShortMatched
  | .quicShortHeaderConstricted => some .quicShortConstricted
  | .quicShortHeaderUnknownCidFallback => some .quicFallback
  | .quicShortHeaderDcidMismatchFallback => some .quicFallback
  | .quicMalformedFallback => some .quicFallback
  | _ => none

/-- A decision counts for the counter of its reason and for no other. -/
theorem CaptureStats.counter_accumulateDecisionStats (stats : CaptureStats)
    (reason : DecisionReason) (counter : Counter) :
    (stats.accumulateDecisionStats reason).counter counter
      = stats.counter counter + if reason.counter = some counter then 1 else 0 := by
  cases reason <;> cases counter <;>
    simp [CaptureStats.accumulateDecisionStats, CaptureStats.counter, DecisionReason.counter]

/-- The frame condition: counting a packet changes no counter of errors and no saved bytes. -/
theorem CaptureStats.count_frame (stats : CaptureStats) (packet : CapturedPacket)
    (decision : LiveCaptureDecision) :
    (stats.count packet decision).receiveErrors = stats.receiveErrors ∧
      (stats.count packet decision).bytesSaved = stats.bytesSaved := by
  unfold CaptureStats.count
  cases decision.reason <;> exact ⟨rfl, rfl⟩

/-- Keys given to the elements of a list are not given more often than there are elements. -/
theorem sum_countP_le_length {α κ : Type*} [Fintype κ] [DecidableEq κ] (key : α → Option κ)
    (l : List α) : ∑ k, l.countP (fun x => key x = some k) ≤ l.length := by
  induction l with
  | nil => simp
  | cons x l ih =>
    have hone : (∑ k, if key x = some k then 1 else 0) ≤ 1 := by
      cases key x with
      | none => simp
      | some k => simp [Finset.sum_ite_eq]
    simp only [List.countP_cons, decide_eq_true_eq, Finset.sum_add_distrib, List.length_cons]
    omega

namespace Recording

variable (config : PolicyConfig) (writer : PcapWriter) (clock : SystemClock)

/-- The number of decisions for a list of packets that a counter counts. -/
def counted (policy : LiveCapturePolicy.State) (packets : List CapturedPacket)
    (counter : Counter) : ℕ :=
  (decisions config policy packets).countP fun decision => decision.reason.counter = some counter

/-- The counters do not depend on the writer: they fold over packets and decisions. -/
theorem stats_consumeAll_eq_foldl (s : Recording) (packets : List CapturedPacket) :
    (consumeAll config writer clock s packets).stats
      = (packets.zip (decisions config s.policy packets)).foldl
          (fun stats p => stats.count p.1 p.2) s.stats := by
  induction packets generalizing s with
  | nil => rfl
  | cons packet packets ih =>
    rw [decisions, Transducer.outputs_cons, List.zip_cons_cons, List.foldl_cons]
    exact ih (consumed config writer clock s packet)

/-- **Each decision counter counts its decisions.** -/
theorem counter_consumeAll (s : Recording) (packets : List CapturedPacket) (counter : Counter) :
    (consumeAll config writer clock s packets).stats.counter counter
      = s.stats.counter counter + UInt64.ofNat (counted config s.policy packets counter) := by
  induction packets generalizing s with
  | nil => exact (UInt64.add_zero _).symm
  | cons packet packets ih =>
    have hrest := ih (consumed config writer clock s packet)
    have hfirst : (consumed config writer clock s packet).stats.counter counter
        = s.stats.counter counter
          + if (LiveCapturePolicy.evaluate config s.policy packet).2.reason.counter = some counter
            then 1 else 0 := by
      rw [consumed, CaptureStats.count, CaptureStats.counter_accumulateDecisionStats]
      cases counter <;> rfl
    rw [hfirst] at hrest
    refine hrest.trans ?_
    rw [UInt64.add_assoc, counted, counted, decisions, decisions, Transducer.outputs_cons,
      List.countP_cons, Nat.add_comm, UInt64.ofNat_add]
    congr 2
    by_cases h : (LiveCapturePolicy.evaluate config s.policy packet).2.reason.counter
        = some counter <;> simp [h]

/-- No call counts an error or computes the saved bytes. -/
theorem stats_consumeAll_frame (s : Recording) (packets : List CapturedPacket) :
    (consumeAll config writer clock s packets).stats.receiveErrors = s.stats.receiveErrors ∧
      (consumeAll config writer clock s packets).stats.bytesSaved = s.stats.bytesSaved := by
  induction packets generalizing s with
  | nil => exact ⟨rfl, rfl⟩
  | cons packet packets ih =>
    obtain ⟨herrors, hsaved⟩ := ih (consumed config writer clock s packet)
    obtain ⟨herrors', hsaved'⟩ := CaptureStats.count_frame s.stats packet
      (LiveCapturePolicy.evaluate config s.policy packet).2
    exact ⟨herrors.trans herrors', hsaved.trans hsaved'⟩

/-- The decisions are counted at most once each. -/
theorem sum_counted_le (policy : LiveCapturePolicy.State) (packets : List CapturedPacket) :
    ∑ counter, counted config policy packets counter ≤ packets.length := by
  have hlength : (decisions config policy packets).length = packets.length :=
    Transducer.length_outputs ..
  rw [← hlength]
  exact sum_countP_le_length (fun decision : LiveCaptureDecision => decision.reason.counter) _

/-- No counter exceeds the number of packets. -/
theorem counted_le (policy : LiveCapturePolicy.State) (packets : List CapturedPacket)
    (counter : Counter) : counted config policy packets counter ≤ packets.length :=
  List.countP_le_length.trans_eq (Transducer.length_outputs ..)

/-- The decision constricts its packet. -/
def Constricts (decision : LiveCaptureDecision) : Bool :=
  decision.reason.counter = some .tlsAppdataConstricted ||
    decision.reason.counter = some .quicShortConstricted

/-- The number of packets counted as constricted. -/
def constricted (policy : LiveCapturePolicy.State) (packets : List CapturedPacket) : ℕ :=
  counted config policy packets .tlsAppdataConstricted
    + counted config policy packets .quicShortConstricted

/-- The two counters of constricted packets count different packets. -/
theorem constricted_eq (policy : LiveCapturePolicy.State) (packets : List CapturedPacket) :
    constricted config policy packets = (decisions config policy packets).countP Constricts := by
  unfold constricted counted
  induction decisions config policy packets with
  | nil => rfl
  | cons decision decisions ih =>
    rw [List.countP_cons, List.countP_cons, List.countP_cons, ← ih, Constricts]
    cases decision.reason.counter with
    | none => simp
    | some counter => cases counter <;> simp <;> omega

/-- A decision that cuts nothing is not counted as constricting. -/
theorem constricts_of_uncut {decision : LiveCaptureDecision}
    (h : LiveCapturePolicy.Uncut decision.reason) : Constricts decision = false := by
  obtain ⟨htls, hquic⟩ := h
  unfold Constricts
  generalize decision.reason = reason at htls hquic
  cases reason <;> simp_all [DecisionReason.counter]

/-- A packet that is constricted saves at least the configured minimum, and at least one byte. -/
theorem outputLen_add_le (policy : LiveCapturePolicy.State) (packet : CapturedPacket) :
    let decision := (LiveCapturePolicy.evaluate config policy packet).2
    decision.outputLen.toNat
        + (if Constricts decision then max 1 config.general.minSavedBytesPerPacket.toNat else 0)
      ≤ packet.capturedLen.toNat := by
  have hbase : (LiveCapturePolicy.baseOutputLen config packet).toNat
      ≤ packet.capturedLen.toNat := by
    have hle := UInt32.le_iff_toNat_le.mp (LiveCapturePolicy.baseOutputLen_le config packet).1
    rw [PacketView.toNat_safeCapturedLen] at hle
    exact hle.trans (Nat.min_le_left _ _)
  have hcases := LiveCapturePolicy.evaluate_length config policy packet
  dsimp only at hcases ⊢
  generalize (LiveCapturePolicy.evaluate config policy packet).2 = decision at hcases ⊢
  rcases hcases with ⟨heq, huncut⟩ | ⟨hlt, -, hcut⟩ | ⟨hlt, -, hcut⟩
  · have hnot : Constricts decision = false := constricts_of_uncut huncut
    rw [hnot, if_neg Bool.false_ne_true, Nat.add_zero]
    exact (congrArg UInt32.toNat heq).trans_le hbase
  · have hsaved := hcut.saved
    have hbelow := UInt32.lt_iff_toNat_lt.mp hlt
    split <;> omega
  · have hsaved := hcut.saved
    have hbelow := UInt32.lt_iff_toNat_lt.mp hlt
    split <;> omega

/-- **Every packet counted as constricted saves** at least the configured minimum. -/
theorem keptBytes_add_le (policy : LiveCapturePolicy.State) (packets : List CapturedPacket) :
    keptBytes config policy packets
        + constricted config policy packets * max 1 config.general.minSavedBytesPerPacket.toNat
      ≤ capturedBytes packets := by
  rw [constricted_eq]
  induction packets generalizing policy with
  | nil => simp [keptBytes, decisions, capturedBytes]
  | cons packet packets ih =>
    have hfirst := outputLen_add_le config policy packet
    have hrest := ih (LiveCapturePolicy.evaluate config policy packet).1
    unfold keptBytes decisions capturedBytes at hrest ⊢
    rw [Transducer.outputs_cons, List.map_cons, List.sum_cons, List.countP_cons, List.map_cons,
      List.sum_cons, Nat.add_mul, ite_mul, Nat.one_mul, Nat.zero_mul]
    dsimp only at hfirst
    omega

end Recording

end PcapConstrictor
