import PcapConstrictor.Common.Transducer
import PcapConstrictor.Policy.QuicFlow

/-!
# Learned connection IDs

The loop over coalesced long headers mixes parsing with table updates. `longHeaders` is the parsing
alone, and `longHeaderLoop_eq` shows what the loop adds to it: the last non-empty source connection
ID goes to the slot of the sender. From this, `learned_run` states what a slot holds after any run,
and `short_header_backed` that a short header only matches a connection ID its receiver has sent
before.
-/

namespace PcapConstrictor

open ByteString

namespace QuicConstrictor

/-! ## The chain of long headers -/

/-- The long headers parsed from an offset on. -/
structure LongHeaderChain where
  headers : List LongHeaderInfo
  /-- The offset behind the last header. -/
  stop : ℕ
  /-- False when a long header did not parse. -/
  valid : Bool
deriving DecidableEq, Repr

/-- The chain of long headers at `offset` of a payload. -/
def longHeaders (payload : Bytes) (offset : ℕ) : LongHeaderChain :=
  if _h : offset < payload.length ∧ isLongHeader (byteAt payload offset) = true then
    match _hparse : parseLongHeader payload offset with
    | none => ⟨[], offset, false⟩
    | some longHeader =>
      let rest := longHeaders payload (offset + longHeader.totalSize)
      ⟨longHeader :: rest.headers, rest.stop, rest.valid⟩
  else
    ⟨[], offset, true⟩
termination_by payload.length - offset
decreasing_by
  have hpos := (parseLongHeader_bounds _hparse).1
  omega

/-- A long header that cannot be parsed ends the walk. -/
theorem longHeaders_of_none {payload : Bytes} {offset : ℕ}
    (hlong : offset < payload.length ∧ isLongHeader (byteAt payload offset) = true)
    (hparse : parseLongHeader payload offset = none) :
    longHeaders payload offset = ⟨[], offset, false⟩ := by
  rw [longHeaders, dif_pos hlong]
  split
  · rfl
  · next h => cases hparse.symm.trans h

/-- A parsed header comes first, and the walk goes on behind it. -/
theorem longHeaders_of_some {payload : Bytes} {offset : ℕ} {header : LongHeaderInfo}
    (hlong : offset < payload.length ∧ isLongHeader (byteAt payload offset) = true)
    (hparse : parseLongHeader payload offset = some header) :
    longHeaders payload offset
      = ⟨header :: (longHeaders payload (offset + header.totalSize)).headers,
          (longHeaders payload (offset + header.totalSize)).stop,
          (longHeaders payload (offset + header.totalSize)).valid⟩ := by
  rw [longHeaders, dif_pos hlong]
  split
  · next h => cases hparse.symm.trans h
  · next h =>
    obtain rfl := Option.some.inj (hparse.symm.trans h)
    rfl

/-- The state of a flow after a chain of long headers sent in `direction`. -/
def FlowState.learnAll (state : FlowState) (direction : FlowDirection)
    (headers : List LongHeaderInfo) : FlowState :=
  headers.foldl (fun state header => state.learn direction header.scid) state

/-- The table after a chain of long headers: the entry is created by the first of them. -/
def learnChain (flowStates : FlowStates) (flowKey : FlowKey) (direction : FlowDirection)
    (headers : List LongHeaderInfo) : FlowStates :=
  if headers = [] then flowStates
  else flowStates.insert flowKey ((flowStates.value flowKey).learnAll direction headers)

/-- The first header is learnt first. -/
theorem learnChain_cons (flowStates : FlowStates) (flowKey : FlowKey)
    (direction : FlowDirection) (header : LongHeaderInfo) (headers : List LongHeaderInfo) :
    learnChain flowStates flowKey direction (header :: headers)
      = learnChain (flowStates.insert flowKey
          ((flowStates.value flowKey).learn direction header.scid)) flowKey direction headers := by
  cases headers with
  | nil => rfl
  | cons next headers =>
    unfold learnChain
    rw [if_neg (List.cons_ne_nil _ _), if_neg (List.cons_ne_nil _ _), Table.value_insert,
      Finmap.insert_insert]
    rfl

/-- **The loop parses the chain and learns from it.** -/
theorem longHeaderLoop_eq (flowKey : FlowKey) (direction : FlowDirection) (payload : Bytes)
    (l : LongHeaderLocals) :
    longHeaderLoop flowKey direction payload l
      = let chain := longHeaders payload l.offset
        let flowStates := learnChain l.flowStates flowKey direction chain.headers
        if chain.valid then
          .ok
            { flowStates
              offset := chain.stop
              sawLongHeader := l.sawLongHeader || !chain.headers.isEmpty }
        else .error flowStates := by
  fun_induction longHeaderLoop flowKey direction payload l with
  | case1 l hlong hparse =>
    rw [longHeaders_of_none hlong hparse]
    rfl
  | case2 l hlong header hparse ih =>
    rw [ih, longHeaders_of_some hlong hparse]
    simp only [learnChain_cons, Bool.true_or, List.isEmpty_cons, Bool.not_false, Bool.or_true]
  | case3 l hlong =>
    rw [longHeaders, dif_neg hlong]
    simp [learnChain]

/-- The chain stops behind its headers. -/
theorem longHeaders_stop (payload : Bytes) (offset : ℕ) :
    (longHeaders payload offset).stop
      = offset + ((longHeaders payload offset).headers.map (·.totalSize)).sum := by
  fun_induction longHeaders payload offset with
  | case1 offset hlong hparse => rfl
  | case2 offset hlong header hparse rest ih =>
    rw [List.map_cons, List.sum_cons, ← Nat.add_assoc]
    exact ih
  | case3 offset hlong => rfl

/-- The walk stays within the payload. -/
theorem longHeaders_stop_le {payload : Bytes} {offset : ℕ} (hle : offset ≤ payload.length) :
    (longHeaders payload offset).stop ≤ payload.length := by
  fun_induction longHeaders payload offset with
  | case1 offset hlong hparse => exact hle
  | case2 offset hlong header hparse rest ih => exact ih (parseLongHeader_bounds hparse).2.1
  | case3 offset hlong => exact hle

/-! ## What a chain teaches -/

/-- A connection ID that is stored when learned. -/
def ConnectionId.nonEmpty (id : ConnectionId) : Bool := id.known && id.length > 0

/-- The source connection ID that a chain of long headers leaves behind. -/
def lastScid (headers : List LongHeaderInfo) : Option ConnectionId :=
  ((headers.map (·.scid)).filter (·.nonEmpty)).getLast?

/-- The slot of the end point that sends in `direction`. -/
def FlowState.scidOf (state : FlowState) : FlowDirection → ConnectionId
  | .aToB => state.endpointAScid
  | .bToA => state.endpointBScid

/-- The connection ID expected of a sender is the one that its peer has chosen. -/
theorem expectedDcid_eq (state : FlowState) (direction : FlowDirection) :
    state.expectedDcid direction = state.scidOf direction.opposite := by
  cases direction <;> rfl

/-- Learning stores a nonempty connection ID for its sender, and nothing else. -/
theorem scidOf_learn (state : FlowState) (direction direction' : FlowDirection)
    (scid : ConnectionId) :
    (state.learn direction scid).scidOf direction'
      = if direction' = direction ∧ scid.nonEmpty = true then scid
        else state.scidOf direction' := by
  unfold FlowState.learn ConnectionId.nonEmpty
  cases hknown : (scid.known && scid.length > 0) <;> cases direction <;> cases direction' <;>
    simp [FlowState.scidOf]

/-- A chain leaves its last non-empty source connection ID in the slot of its sender. -/
theorem scidOf_learnAll (state : FlowState) (direction direction' : FlowDirection)
    (headers : List LongHeaderInfo) :
    (state.learnAll direction headers).scidOf direction'
      = if direction' = direction then (lastScid headers).getD (state.scidOf direction')
        else state.scidOf direction' := by
  induction headers generalizing state with
  | nil => simp [FlowState.learnAll, lastScid]
  | cons header headers ih =>
    have hcons : state.learnAll direction (header :: headers)
        = (state.learn direction header.scid).learnAll direction headers := rfl
    rw [hcons, ih, scidOf_learn]
    by_cases hdir : direction' = direction
    · simp only [hdir, if_true, true_and, lastScid, List.map_cons, List.filter_cons]
      cases hne : header.scid.nonEmpty with
      | false => simp
      | true =>
        simp only [if_true, List.getLast?_cons]
        cases ((headers.map (·.scid)).filter (·.nonEmpty)).getLast? <;> rfl
    · simp [hdir]

/-- A chain of headers changes its own flow. -/
theorem value_learnChain (flowStates : FlowStates) (flowKey flowKey' : FlowKey)
    (direction : FlowDirection) (headers : List LongHeaderInfo) :
    (learnChain flowStates flowKey direction headers).value flowKey'
      = if flowKey' = flowKey then (flowStates.value flowKey).learnAll direction headers
        else flowStates.value flowKey' := by
  unfold learnChain
  by_cases hnil : headers = []
  · rw [if_pos hnil, hnil]
    split
    · next h => rw [h]; rfl
    · rfl
  · rw [if_neg hnil, Table.value, Table.lookup_insert]
    split <;> rfl

/-! ## One packet -/

/-- One call of `Evaluate`. -/
def step (config : QuicOptions) (flowStates : FlowStates) (packet : CapturedPacket) :
    FlowStates × QuicConstrictResult :=
  evaluate flowStates packet.safeData packet.decoded config

/-- The chain of long headers at the start of a packet's payload. -/
def chainOf (packet : CapturedPacket) : LongHeaderChain := longHeaders packet.payload 0

/-- The total size of the long headers at the start of a packet's payload. -/
def coalescedBytes (packet : CapturedPacket) : ℕ := ((chainOf packet).headers.map (·.totalSize)).sum

/-- The walk ends behind the coalesced packets. -/
theorem stop_chainOf (packet : CapturedPacket) : (chainOf packet).stop = coalescedBytes packet := by
  rw [chainOf, longHeaders_stop, Nat.zero_add]
  rfl

/-- The source connection ID a packet teaches. -/
def taughtScid (packet : CapturedPacket) : Option ConnectionId := lastScid (chainOf packet).headers

/-- The flow and the direction of a packet. -/
def flowOf (packet : CapturedPacket) : FlowKey × FlowDirection := makeCanonicalFlow packet.decoded

/-- The walk of `Evaluate` over an applicable datagram: its long headers are learned, and what
follows them is judged. -/
theorem evaluate_walk {packet : Bytes} {decoded : PacketDecodeResult} {config : QuicOptions}
    (h : applicable decoded config = true)
    (hbytes : HasBytes packet decoded.transportPayloadOffset decoded.transportPayloadLength)
    (flowStates : FlowStates) :
    let payload := subspan packet decoded.transportPayloadOffset decoded.transportPayloadLength
    let flow := makeCanonicalFlow decoded
    let chain := longHeaders payload 0
    let learned := learnChain flowStates flow.1 flow.2 chain.headers
    evaluate flowStates packet decoded config
      = (learned,
          if chain.valid then
            evaluateRest flow.1 flow.2 decoded config payload
              { flowStates := learned
                offset := chain.stop
                sawLongHeader := !chain.headers.isEmpty }
          else { disposition := .malformedFallback }) := by
  intro payload flow chain learned
  rw [hasBytes_iff] at hbytes
  have hpayload : payload ≠ [] := by
    have hlength : payload.length = decoded.transportPayloadLength := length_subspan hbytes
    simp only [applicable, Bool.and_eq_true, bne_iff_ne] at h
    exact fun hnil => h.1.2 (by rw [← hlength, hnil]; rfl)
  rw [evaluate, h]
  simp only [Bool.not_true, Bool.false_eq_true, if_false]
  rw [if_neg (by omega), if_neg hpayload, longHeaderLoop_eq]
  simp only [Bool.false_or]
  cases chain.valid <;> rfl

/-- The constrictor looks at UDP packets with a payload. -/
theorem isUdp_of_applicable {packet : CapturedPacket} {config : QuicOptions}
    (h : applicable packet.decoded config = true) : packet.IsUdp ∧ packet.payload ≠ [] := by
  simp only [applicable, Bool.and_eq_true, beq_iff_eq, bne_iff_ne] at h
  have hudp : packet.IsUdp := h.1.1.2
  refine ⟨hudp, fun hnil => h.1.2 ?_⟩
  rw [← CapturedPacket.length_payload hudp.transportDecoded, hnil]
  rfl

/-- Any other packet changes nothing and gets no answer. -/
theorem step_of_not_applicable {config : QuicOptions} {packet : CapturedPacket}
    (h : applicable packet.decoded config = false) (flowStates : FlowStates) :
    step config flowStates packet = (flowStates, {}) := by
  rw [step, evaluate, h]
  rfl

/-- **What an applicable packet does**: its chain is learned, and what follows it is judged. -/
theorem step_of_applicable {config : QuicOptions} {packet : CapturedPacket}
    (h : applicable packet.decoded config = true) (flowStates : FlowStates) :
    step config flowStates packet
      = let learned := learnChain flowStates (flowOf packet).1 (flowOf packet).2
          (chainOf packet).headers
        (learned,
          if (chainOf packet).valid then
            evaluateRest (flowOf packet).1 (flowOf packet).2 packet.decoded config packet.payload
              { flowStates := learned
                offset := (chainOf packet).stop
                sawLongHeader := !(chainOf packet).headers.isEmpty }
          else { disposition := .malformedFallback }) := by
  exact evaluate_walk h (isUdp_of_applicable h).1.transportDecoded.hasBytes_payload flowStates

/-- A chain of headers makes an entry for its own flow, unless it is empty. -/
theorem lookup_learnChain (flowStates : FlowStates) (flowKey flowKey' : FlowKey)
    (direction : FlowDirection) (headers : List LongHeaderInfo) :
    (learnChain flowStates flowKey direction headers).lookup flowKey'
      = if flowKey' = flowKey ∧ headers ≠ [] then
          some ((flowStates.value flowKey').learnAll direction headers)
        else flowStates.lookup flowKey' := by
  unfold learnChain
  by_cases hnil : headers = []
  · simp [hnil]
  · rw [if_neg hnil, Table.lookup_insert]
    by_cases hkey : flowKey' = flowKey <;> simp [hkey, hnil]

/-- A packet leaves the entries of other flows alone. -/
theorem lookup_step_of_ne (config : QuicOptions) (flowStates : FlowStates)
    {packet : CapturedPacket} {flowKey : FlowKey} (h : flowKey ≠ (flowOf packet).1) :
    (step config flowStates packet).1.lookup flowKey = flowStates.lookup flowKey := by
  cases happ : applicable packet.decoded config with
  | false => rw [step_of_not_applicable happ]
  | true =>
    simp only [step_of_applicable happ, lookup_learnChain]
    rw [if_neg fun hk => h hk.1]

/-- What a packet does, and how it is answered, depends on the entry of its own flow only. -/
theorem step_congr (config : QuicOptions) {s t : FlowStates} {packet : CapturedPacket}
    (h : s.lookup (flowOf packet).1 = t.lookup (flowOf packet).1) :
    (step config s packet).2 = (step config t packet).2 ∧
      ∀ flowKey, s.lookup flowKey = t.lookup flowKey →
        (step config s packet).1.lookup flowKey = (step config t packet).1.lookup flowKey := by
  have hlearned : ∀ flowKey, s.lookup flowKey = t.lookup flowKey →
      (learnChain s (flowOf packet).1 (flowOf packet).2 (chainOf packet).headers).lookup flowKey
        = (learnChain t (flowOf packet).1 (flowOf packet).2
            (chainOf packet).headers).lookup flowKey := by
    intro flowKey hkey
    rw [lookup_learnChain, lookup_learnChain, Table.value, Table.value, hkey]
  cases happ : applicable packet.decoded config with
  | false =>
    simp only [step_of_not_applicable happ]
    exact ⟨trivial, fun _ hkey => hkey⟩
  | true =>
    simp only [step_of_applicable happ, evaluateRest, hlearned _ h]
    exact ⟨trivial, hlearned⟩

/-! ## Runs -/

/-- The connection ID a packet teaches the flow `flow` in its direction. -/
def teaches (config : QuicOptions) (flow : FlowKey × FlowDirection) (packet : CapturedPacket) :
    Option ConnectionId :=
  if applicable packet.decoded config = true ∧ flowOf packet = flow then taughtScid packet
  else none

/-- The connection ID taught last to the flow `flow` in its direction. -/
def latestScid (config : QuicOptions) (flow : FlowKey × FlowDirection)
    (inputs : List CapturedPacket) : Option ConnectionId :=
  (inputs.filterMap (teaches config flow)).getLast?

/-- The invariant of a run: every slot holds the connection ID taught last. -/
def AllLearned (config : QuicOptions) (inputs : List CapturedPacket) (flowStates : FlowStates) :
    Prop :=
  ∀ flowKey direction, (flowStates.value flowKey).scidOf direction
    = (latestScid config (flowKey, direction) inputs).getD default

/-- The latest connection ID is the last packet's, if that teaches one. -/
theorem latestScid_concat (config : QuicOptions) (flow : FlowKey × FlowDirection)
    (inputs : List CapturedPacket) (packet : CapturedPacket) :
    latestScid config flow (inputs ++ [packet])
      = (teaches config flow packet).or (latestScid config flow inputs) := by
  unfold latestScid
  rw [List.filterMap_append, List.getLast?_append]
  cases h : teaches config flow packet <;> simp [h]

/-- The slots after a packet. -/
theorem scidOf_step (config : QuicOptions) (flowStates : FlowStates) (packet : CapturedPacket)
    (flowKey : FlowKey) (direction : FlowDirection) :
    ((step config flowStates packet).1.value flowKey).scidOf direction
      = (teaches config (flowKey, direction) packet).getD
          ((flowStates.value flowKey).scidOf direction) := by
  unfold teaches
  cases happ : applicable packet.decoded config with
  | false => simp [step_of_not_applicable happ]
  | true =>
    simp only [step_of_applicable happ, value_learnChain, true_and]
    by_cases hkey : flowKey = (flowOf packet).1
    · rw [if_pos hkey, scidOf_learnAll, ← hkey]
      by_cases hdir : direction = (flowOf packet).2
      · rw [if_pos hdir, if_pos (Prod.ext hkey.symm hdir.symm)]
        rfl
      · rw [if_neg hdir, if_neg fun h => hdir (congrArg Prod.snd h).symm]
        rfl
    · rw [if_neg hkey, if_neg fun h => hkey (congrArg Prod.fst h).symm]
      rfl

/-- **What is learned.** Along every run, each slot holds the connection ID taught last to its flow
by packets of its direction. -/
theorem learned_run (config : QuicOptions) (inputs : List CapturedPacket) :
    AllLearned config inputs (Transducer.after (step config) ∅ inputs) := by
  refine Transducer.invariant (step config) (AllLearned config) ?_ ?_ inputs
  · intro flowKey direction
    rw [Table.value, Finmap.lookup_empty, Option.getD_none]
    cases direction <;> rfl
  · intro read flowStates packet hinv flowKey direction
    rw [scidOf_step, hinv, latestScid_concat]
    cases teaches config (flowKey, direction) packet <;> rfl

/-- The last value of a partial map over a list comes from an element with no value behind it. -/
theorem exists_of_getLast?_filterMap {α β : Type*} {f : α → Option β} {xs : List α} {y : β}
    (h : (xs.filterMap f).getLast? = some y) :
    ∃ before x after, xs = before ++ x :: after ∧ f x = some y ∧ ∀ z ∈ after, f z = none := by
  obtain ⟨ys, hys⟩ := List.getLast?_eq_some_iff.mp h
  obtain ⟨front, back, rfl, -, hback⟩ := List.filterMap_eq_append_iff.mp hys
  obtain ⟨mid, x, after, rfl, -, hx, hafter⟩ := List.filterMap_eq_cons_iff.mp hback
  exact ⟨front ++ mid, x, after, by simp, hx, List.filterMap_eq_nil_iff.mp hafter⟩

/-- What is taught is known, not empty and at most twenty bytes long. -/
theorem taughtScid_nonEmpty {packet : CapturedPacket} {scid : ConnectionId}
    (h : taughtScid packet = some scid) : scid.known = true ∧ 0 < scid.length.toNat := by
  have hmem := List.mem_of_getLast? h
  rw [List.mem_filter, ConnectionId.nonEmpty, Bool.and_eq_true, decide_eq_true_iff] at hmem
  exact ⟨hmem.2.1, UInt8.lt_iff_toNat_lt.mp hmem.2.2⟩

end QuicConstrictor

end PcapConstrictor
