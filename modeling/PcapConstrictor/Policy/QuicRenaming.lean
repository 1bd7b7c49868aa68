import Mathlib.Logic.Equiv.Basic
import PcapConstrictor.Policy.QuicMatching
import PcapConstrictor.Policy.QuicOutcome

/-!
# QUIC decisions depend on the equality of end points only

The flow key orders the two end points of a packet by their addresses, so the slots of an entry swap
their roles when a renaming of the end points reverses that order. Seen from the sender of a packet
(`slots`), an entry does not show the order any more, and a run over renamed packets keeps the same
slots for the renamed conversations. So it gives the same answers (`decisions_renamed`).
-/

namespace PcapConstrictor

open ByteString

/-- The number of address bytes. -/
def IpVersion.addressLength : IpVersion → UInt8
  | .none => 0
  | .ipv4 => 4
  | .ipv6 => 16

namespace QuicConstrictor

/-! ## Conversations -/

/-- An end point of the given IP version: an address, zero behind its last byte, and a port. -/
@[ext] structure Host (version : IpVersion) where
  address : IpAddress
  port : UInt16
  padded : ∀ i : Fin 16, version.addressLength.toNat ≤ i → address.get i = 0
deriving DecidableEq

/-- The end point as the constrictor stores it. -/
def Host.endpoint {version : IpVersion} (host : Host version) : Endpoint where
  address := host.address
  addressLength := version.addressLength
  port := host.port

/-- A host's address is padded with zeros. -/
theorem Host.padded_endpoint {version : IpVersion} (host : Host version) :
    host.endpoint.Padded := by
  refine ⟨?_, host.padded⟩
  change version.addressLength.toNat ≤ 16
  cases version <;> decide

/-- Hosts differ in their endpoints. -/
theorem Host.endpoint_injective {version : IpVersion} :
    Function.Injective (Host.endpoint : Host version → Endpoint) := by
  intro host host' h
  exact Host.ext (congrArg Endpoint.address h) (congrArg Endpoint.port h)

/-- The source and the destination of a packet. -/
abbrev Conversation (version : IpVersion) := Host version × Host version

section Conversation

variable {version : IpVersion}

/-- The flow key and the direction of a conversation. -/
def flowBetween (c : Conversation version) : FlowKey × FlowDirection :=
  orderedKey version c.1.endpoint c.2.endpoint

/-- Turning around twice gives the direction again. -/
theorem FlowDirection.opposite_opposite (direction : FlowDirection) :
    direction.opposite.opposite = direction := by
  cases direction <;> rfl

/-- Both directions of a conversation have one key, and opposite directions. -/
theorem flowBetween_swap (c : Conversation version) :
    (flowBetween c.swap).1 = (flowBetween c).1 ∧
      (c.1 ≠ c.2 → (flowBetween c.swap).2 = (flowBetween c).2.opposite) := by
  obtain ⟨hkey, hdirection⟩ := orderedKey_swap version c.1.padded_endpoint c.2.padded_endpoint
  exact ⟨hkey, fun hne => hdirection fun h => hne (Host.endpoint_injective h)⟩

/-- Two conversations share a flow key only if they are equal or opposite. -/
theorem eq_or_swap_of_flowBetween {c d : Conversation version}
    (h : (flowBetween c).1 = (flowBetween d).1) : c = d ∨ c = d.swap := by
  obtain ⟨-, hends⟩ := orderedKey_endpoints version c.1.endpoint c.2.endpoint
  obtain ⟨-, hends'⟩ := orderedKey_endpoints version d.1.endpoint d.2.endpoint
  have hpair : s(c.1.endpoint, c.2.endpoint) = s(d.1.endpoint, d.2.endpoint) := by
    rw [← hends, ← hends']
    exact congrArg (fun key : FlowKey => s(key.endpointA, key.endpointB)) h
  rcases Sym2.eq_iff.mp hpair with ⟨hs, hd⟩ | ⟨hs, hd⟩
  · exact Or.inl (Prod.ext (Host.endpoint_injective hs) (Host.endpoint_injective hd))
  · exact Or.inr (Prod.ext (Host.endpoint_injective hs) (Host.endpoint_injective hd))

/-- Conversations of different IP versions have different keys. -/
theorem flowBetween_version (c : Conversation version) : (flowBetween c).1.ipVersion = version :=
  (orderedKey_endpoints version c.1.endpoint c.2.endpoint).1

/-! ## Slots, seen from the sender -/

/-- The connection IDs stored for a conversation: that of the sender and that of the receiver. -/
def slots (flowStates : FlowStates) (c : Conversation version) :
    Option (ConnectionId × ConnectionId) :=
  (flowStates.lookup (flowBetween c).1).map fun state =>
    (state.scidOf (flowBetween c).2, state.scidOf (flowBetween c).2.opposite)

/-- The connection IDs of a conversation after its sender has sent long headers. -/
def learnSlots (slots : Option (ConnectionId × ConnectionId)) (headers : List LongHeaderInfo) :
    Option (ConnectionId × ConnectionId) :=
  if headers = [] then slots
  else some ((lastScid headers).getD (slots.getD default).1, (slots.getD default).2)

/-- The opposite conversation has the slots the other way round. -/
theorem slots_swap (flowStates : FlowStates) {c : Conversation version} (h : c.1 ≠ c.2) :
    slots flowStates c.swap = (slots flowStates c).map Prod.swap := by
  obtain ⟨hkey, hdirection⟩ := flowBetween_swap c
  rw [slots, slots, hkey, hdirection h, FlowDirection.opposite_opposite, Option.map_map]
  rfl

/-- What a conversation has learnt depends on its own slots. -/
theorem slots_learnChain (flowStates : FlowStates) (c : Conversation version)
    (headers : List LongHeaderInfo) :
    slots (learnChain flowStates (flowBetween c).1 (flowBetween c).2 headers) c
      = learnSlots (slots flowStates c) headers := by
  have hopposite : (flowBetween c).2.opposite ≠ (flowBetween c).2 := by
    cases (flowBetween c).2 <;> decide
  unfold slots learnSlots
  rw [lookup_learnChain]
  by_cases hnil : headers = []
  · rw [if_neg (fun h => h.2 hnil), if_pos hnil]
  · rw [if_pos ⟨rfl, hnil⟩, if_neg hnil, Option.map_some, scidOf_learnAll, scidOf_learnAll,
      if_pos rfl, if_neg hopposite, Table.value]
    cases flowStates.lookup (flowBetween c).1 with
    | none => cases (flowBetween c).2 <;> rfl
    | some state => rfl

/-- Learning in one conversation leaves the others. -/
theorem slots_learnChain_of_ne {version' : IpVersion} (flowStates : FlowStates)
    {c : Conversation version} {d : Conversation version'}
    (h : (flowBetween d).1 ≠ (flowBetween c).1) (headers : List LongHeaderInfo) :
    slots (learnChain flowStates (flowBetween c).1 (flowBetween c).2 headers) d
      = slots flowStates d := by
  rw [slots, lookup_learnChain, if_neg fun hkey => h hkey.1, slots]

/-- The connection ID expected in a conversation is the one of its receiver. -/
theorem expected_eq_slots (flowStates : FlowStates) (c : Conversation version) :
    (flowStates.lookup (flowBetween c).1).map (·.expectedDcid (flowBetween c).2)
      = (slots flowStates c).map Prod.snd := by
  rw [slots, Option.map_map]
  refine congrArg (Option.map · _) (funext fun state => ?_)
  exact expectedDcid_eq state _

/-- What `Evaluate` does with an applicable datagram of a conversation. -/
theorem evaluate_of_flow {packet payload : Bytes} {decoded : PacketDecodeResult}
    {config : QuicOptions} {c : Conversation version} (h : applicable decoded config = true)
    (hbytes : HasBytes packet decoded.transportPayloadOffset decoded.transportPayloadLength)
    (hpayload : subspan packet decoded.transportPayloadOffset decoded.transportPayloadLength
      = payload)
    (hflow : makeCanonicalFlow decoded = flowBetween c) (flowStates : FlowStates) :
    let learned := learnChain flowStates (flowBetween c).1 (flowBetween c).2
      (longHeaders payload 0).headers
    evaluate flowStates packet decoded config
      = (learned, (datagramOutcome ((slots learned c).map Prod.snd) config payload).result
          decoded.transportPayloadOffset) := by
  intro learned
  have heval := evaluate_of_applicable h hbytes flowStates
  dsimp only at heval
  rw [hpayload, hflow, expected_eq_slots] at heval
  exact heval

end Conversation

/-! ## Renaming -/

/-- The end point with the given address and port; bytes behind the address do not count. -/
def hostOf (version : IpVersion) (address : IpAddress) (port : UInt16) : Host version where
  address := Vector.ofFn fun i => if i.val < version.addressLength.toNat then address.get i else 0
  port := port
  padded := by
    intro i hle
    change (Vector.ofFn _)[i.val] = 0
    rw [Vector.getElem_ofFn]
    exact if_neg (Nat.not_lt.mpr hle)

/-- The conversation that a packet belongs to. -/
def conversationOf (decoded : PacketDecodeResult) : Conversation decoded.ipVersion :=
  (hostOf decoded.ipVersion decoded.srcAddress decoded.srcPort,
    hostOf decoded.ipVersion decoded.dstAddress decoded.dstPort)

/-- The decode result of a packet that belongs to the conversation `c` instead. -/
def redirect (decoded : PacketDecodeResult) (c : Conversation decoded.ipVersion) :
    PacketDecodeResult :=
  { decoded with
    srcAddress := c.1.address
    srcPort := c.1.port
    dstAddress := c.2.address
    dstPort := c.2.port }

/-- A renaming of conversations: different ones stay different, and opposite ones stay opposite. -/
structure ConversationRenaming where
  map : (version : IpVersion) → Conversation version → Conversation version
  injective : ∀ version, Function.Injective (map version)
  map_swap : ∀ version c, map version c.swap = (map version c).swap

namespace ConversationRenaming

/-- The renaming of the end points. -/
def ofHosts (rename : (version : IpVersion) → Host version → Host version)
    (h : ∀ version, Function.Injective (rename version)) : ConversationRenaming where
  map version := Prod.map (rename version) (rename version)
  injective version := (h version).prodMap (h version)
  map_swap _ _ := rfl

/-- The renaming that swaps the end points of one flow, and of no other. -/
def ofFlow (flowKey : FlowKey) : ConversationRenaming where
  map version c := if (flowBetween c).1 = flowKey then c.swap else c
  injective := by
    intro version c d h
    have hc := (flowBetween_swap c).1
    have hd := (flowBetween_swap d).1
    dsimp only at h
    split at h <;> split at h
    · exact Prod.swap_injective h
    · next hyes hno => exact absurd (by rw [← h, hc, hyes]) hno
    · next hno hyes => exact absurd (by rw [h, hd, hyes]) hno
    · exact h
  map_swap := by
    intro version c
    rw [(flowBetween_swap c).1]
    split <;> rfl

end ConversationRenaming

/-- The decode result of the renamed packet. -/
def ConversationRenaming.decoded (rename : ConversationRenaming) (decoded : PacketDecodeResult) :
    PacketDecodeResult :=
  redirect decoded (rename.map decoded.ipVersion (conversationOf decoded))

section Decoded

variable {packet : Bytes} {decoded : PacketDecodeResult} (h : TransportDecoded packet decoded)
include h

/-- The length of an address is that of its version. -/
theorem addressLength_eq : decoded.addressLength = decoded.ipVersion.addressLength := by
  rcases h.addressLength with ⟨hversion, hlength⟩ | ⟨hversion, hlength⟩
  · rw [hversion, hlength]
    rfl
  · rw [hversion, hlength]
    rfl

/-- The end point of a decode result. -/
theorem endpoint_hostOf {address : IpAddress}
    (hpadded : ∀ i : Fin 16, decoded.addressLength.toNat ≤ i → address.get i = 0) (port : UInt16) :
    (hostOf decoded.ipVersion address port).endpoint
      = ⟨address, decoded.addressLength, port⟩ := by
  have haddress : (hostOf decoded.ipVersion address port).address = address := by
    refine Vector.ext fun i hi => ?_
    have hget : (hostOf decoded.ipVersion address port).address.get ⟨i, hi⟩
        = if i < decoded.ipVersion.addressLength.toNat then address.get ⟨i, hi⟩ else 0 :=
      Vector.getElem_ofFn ..
    refine hget.trans ?_
    split
    · rfl
    · next hge =>
      rw [← addressLength_eq h] at hge
      exact (hpadded ⟨i, hi⟩ (Nat.not_lt.mp hge)).symm
  rw [Host.endpoint, haddress, ← addressLength_eq h]
  rfl

/-- The flow key of a packet is that of its conversation. -/
theorem makeCanonicalFlow_conversationOf :
    makeCanonicalFlow decoded = flowBetween (conversationOf decoded) := by
  rw [makeCanonicalFlow_eq, flowBetween, conversationOf, endpoint_hostOf h h.srcPadded,
    endpoint_hostOf h h.dstPadded]
  rfl

/-- A redirected packet belongs to the conversation that it was redirected to. -/
theorem makeCanonicalFlow_redirect (c : Conversation decoded.ipVersion) :
    makeCanonicalFlow (redirect decoded c) = flowBetween c := by
  rw [makeCanonicalFlow_eq, sourceOf, destinationOf]
  change orderedKey decoded.ipVersion ⟨_, decoded.addressLength, _⟩
    ⟨_, decoded.addressLength, _⟩ = _
  rw [addressLength_eq h]
  rfl

end Decoded

/-! ## Runs -/

/-- `t` holds the slots of `s` for the renamed conversations. -/
def Renamed (rename : ConversationRenaming) (s t : FlowStates) : Prop :=
  ∀ version (c : Conversation version), slots t (rename.map version c) = slots s c

namespace ConversationRenaming

variable (rename : ConversationRenaming) {version : IpVersion}

/-- Renaming keeps the two hosts of a conversation apart. -/
theorem map_ne {c : Conversation version} (h : c.1 ≠ c.2) :
    (rename.map version c).1 ≠ (rename.map version c).2 := by
  intro heq
  have hswap : (rename.map version c).swap = rename.map version c := Prod.ext heq.symm heq
  rw [← rename.map_swap] at hswap
  exact h (congrArg Prod.snd (rename.injective version hswap))

/-- Renamed conversations share a flow key only if the original ones do. -/
theorem flowBetween_map_ne {version' : IpVersion} {c : Conversation version}
    {d : Conversation version'} (h : (flowBetween d).1 ≠ (flowBetween c).1) :
    (flowBetween (rename.map version' d)).1 ≠ (flowBetween (rename.map version c)).1 := by
  intro hkey
  have hversion := congrArg FlowKey.ipVersion hkey
  rw [flowBetween_version, flowBetween_version] at hversion
  subst hversion
  rcases eq_or_swap_of_flowBetween hkey with heq | heq
  · exact h (by rw [rename.injective _ heq])
  · rw [← rename.map_swap] at heq
    rw [rename.injective _ heq, (flowBetween_swap c).1] at h
    exact h rfl

end ConversationRenaming

section Run

variable {rename : ConversationRenaming} {s t : FlowStates}

/-- Learning in a conversation and in the renamed one. -/
theorem Renamed.learn (h : Renamed rename s t) {version : IpVersion} (c : Conversation version)
    (headers : List LongHeaderInfo) :
    Renamed rename (learnChain s (flowBetween c).1 (flowBetween c).2 headers)
      (learnChain t (flowBetween (rename.map version c)).1 (flowBetween (rename.map version c)).2
        headers) := by
  have hself : slots (learnChain t (flowBetween (rename.map version c)).1
        (flowBetween (rename.map version c)).2 headers) (rename.map version c)
      = slots (learnChain s (flowBetween c).1 (flowBetween c).2 headers) c := by
    rw [slots_learnChain, slots_learnChain, h]
  intro version' d
  by_cases hkey : (flowBetween d).1 = (flowBetween c).1
  · have hversion := congrArg FlowKey.ipVersion hkey
    rw [flowBetween_version, flowBetween_version] at hversion
    subst hversion
    rcases eq_or_swap_of_flowBetween hkey with rfl | rfl
    · exact hself
    by_cases hends : c.1 = c.2
    · -- a conversation of an end point with itself is its own opposite
      have hswap : c.swap = c := Prod.ext hends.symm hends
      rw [hswap]
      exact hself
    · rw [rename.map_swap, slots_swap _ (rename.map_ne hends), slots_swap _ hends, hself]
  · rw [slots_learnChain_of_ne _ (rename.flowBetween_map_ne hkey), slots_learnChain_of_ne _ hkey, h]

/-- One call of `Evaluate` on a packet and its decode result. -/
def stepDecoded (config : QuicOptions) (flowStates : FlowStates)
    (input : Bytes × PacketDecodeResult) : FlowStates × QuicConstrictResult :=
  evaluate flowStates input.1 input.2 config

/-- A packet whose end points are renamed and whose payload is kept. -/
structure Rewritten (rename : ConversationRenaming) (packet : CapturedPacket)
    (input : Bytes × PacketDecodeResult) : Prop where
  decoded : input.2 = rename.decoded packet.decoded
  hasBytes : HasBytes input.1 packet.decoded.transportPayloadOffset
    packet.decoded.transportPayloadLength
  payload : subspan input.1 packet.decoded.transportPayloadOffset
    packet.decoded.transportPayloadLength = packet.payload

/-- One of the two ports is configured. -/
def Configured (config : QuicOptions) (decoded : PacketDecodeResult) : Bool :=
  portConfigured config.ports decoded.srcPort || portConfigured config.ports decoded.dstPort

/-- Renaming keeps a packet applicable, if the configured ports stay configured. -/
theorem applicable_decoded (config : QuicOptions) (rename : ConversationRenaming)
    {decoded : PacketDecodeResult}
    (h : Configured config (rename.decoded decoded) = Configured config decoded) :
    applicable (rename.decoded decoded) config = applicable decoded config :=
  congrArg (config.enabled && decoded.transportProtocol == .udp &&
    decoded.transportPayloadLength != 0 && ·) h

/-- **Step lemma.** A packet and the renamed packet are answered alike, and learned from alike. -/
theorem step_renamed (h : Renamed rename s t) {config : QuicOptions} {packet : CapturedPacket}
    {input : Bytes × PacketDecodeResult} (hinput : Rewritten rename packet input)
    (hports : Configured config (rename.decoded packet.decoded)
      = Configured config packet.decoded) :
    Renamed rename (step config s packet).1 (stepDecoded config t input).1 ∧
      (step config s packet).2 = (stepDecoded config t input).2 := by
  obtain ⟨bytes, decoded⟩ := input
  obtain ⟨rfl, hbytes, hpayload⟩ := hinput
  have hsame := applicable_decoded config rename hports
  cases happ : applicable packet.decoded config with
  | false =>
    have hstep : stepDecoded config t (bytes, rename.decoded packet.decoded) = (t, {}) := by
      rw [stepDecoded, evaluate, hsame, happ]
      rfl
    rw [step_of_not_applicable happ, hstep]
    exact ⟨h, rfl⟩
  | true =>
    have hdecoded := (isUdp_of_applicable happ).1.transportDecoded
    -- both steps in terms of the conversation and the payload, which is the same
    have hs := evaluate_of_flow happ hdecoded.hasBytes_payload rfl
      (makeCanonicalFlow_conversationOf hdecoded) s
    have ht := evaluate_of_flow (hsame.trans happ) hbytes hpayload
      (makeCanonicalFlow_redirect hdecoded _) t
    have hlearned := h.learn (conversationOf packet.decoded)
      (longHeaders packet.payload 0).headers
    rw [step, stepDecoded, hs, ht]
    refine ⟨hlearned, ?_⟩
    dsimp only
    rw [hlearned]
    rfl

/-- Over a run, the answers to renamed packets are the same. -/
theorem outputs_renamed {config : QuicOptions} {packets : List CapturedPacket}
    {inputs : List (Bytes × PacketDecodeResult)}
    (hinputs : List.Forall₂ (Rewritten rename) packets inputs)
    (hports : ∀ packet ∈ packets, Configured config (rename.decoded packet.decoded)
      = Configured config packet.decoded) :
    Transducer.outputs (stepDecoded config) ∅ inputs
      = Transducer.outputs (step config) ∅ packets := by
  have hboth := (List.forall₂_and_left _ _).mpr ⟨hports, hinputs⟩
  have hfresh : Renamed rename ∅ ∅ := fun _ _ => rfl
  have houtputs : List.Forall₂ Eq (Transducer.outputs (step config) ∅ packets)
      (Transducer.outputs (stepDecoded config) ∅ inputs) :=
    Transducer.outputs_simulation (step config) (Renamed rename)
      (fun _ _ _ _ hrel hin => step_renamed hrel hin.2 hin.1) hfresh hboth
  rw [List.forall₂_eq_eq_eq] at houtputs
  exact houtputs.symm

end Run

/-- Swapping the end points of a flow keeps the ports of its packets. -/
theorem configured_ofFlow (config : QuicOptions) (flowKey : FlowKey)
    (decoded : PacketDecodeResult) :
    Configured config ((ConversationRenaming.ofFlow flowKey).decoded decoded)
      = Configured config decoded := by
  unfold ConversationRenaming.decoded ConversationRenaming.ofFlow
  dsimp only
  split
  · exact Bool.or_comm _ _
  · rfl

/-- **QUIC decisions depend on the equality of end points only.** Renaming the end points of all
packets injectively, within their IP version and without changing whether one of the two ports of a
packet is configured, leaves every answer as it is; and so does swapping the end points of one flow
in all its packets. -/
theorem decisions_renamed (config : QuicOptions) (packets : List CapturedPacket)
    (inputs : List (Bytes × PacketDecodeResult)) :
    (∀ (rename : (version : IpVersion) → Host version → Host version)
      (hinjective : ∀ version, Function.Injective (rename version)),
      List.Forall₂ (Rewritten (.ofHosts rename hinjective)) packets inputs →
      (∀ packet ∈ packets,
        Configured config ((ConversationRenaming.ofHosts rename hinjective).decoded packet.decoded)
          = Configured config packet.decoded) →
      Transducer.outputs (stepDecoded config) ∅ inputs
        = Transducer.outputs (step config) ∅ packets) ∧
    ∀ flowKey, List.Forall₂ (Rewritten (.ofFlow flowKey)) packets inputs →
      Transducer.outputs (stepDecoded config) ∅ inputs
        = Transducer.outputs (step config) ∅ packets :=
  ⟨fun _ _ hinputs hports => outputs_renamed hinputs hports,
    fun flowKey hinputs => outputs_renamed hinputs fun packet _ =>
      configured_ofFlow config flowKey packet.decoded⟩

/-- The renaming that moves the server of the example to the address 10.0.0.3, behind that of the
client. -/
def moveServer (version : IpVersion) : Host version → Host version :=
  Equiv.swap (hostOf version (ipv4Address exampleEnds.srcIp) exampleEnds.srcPort)
    (hostOf version (ipv4Address 0x0A000003) exampleEnds.srcPort)

theorem moveServer_injective (version : IpVersion) : Function.Injective (moveServer version) :=
  (Equiv.swap _ _).injective

/-- The packet with the decode result that the renaming gives it. -/
def renamedInput (rename : ConversationRenaming) (packet : CapturedPacket) :
    Bytes × PacketDecodeResult :=
  (packet.safeData, rename.decoded packet.decoded)

/-- A packet is rewritten by renaming its endpoints. -/
theorem rewritten_renamedInput {rename : ConversationRenaming} {packet : CapturedPacket}
    (h : packet.IsUdp) : Rewritten rename packet (renamedInput rename packet) :=
  ⟨rfl, h.transportDecoded.hasBytes_payload, rfl⟩

/-- A connection ID is matched after the server has moved. -/
theorem decisions_renamed_move :
    let rename := ConversationRenaming.ofHosts moveServer moveServer_injective
    Transducer.outputs (stepDecoded {}) ∅
        [renamedInput rename serverHandshake, renamedInput rename clientShort]
      = Transducer.outputs (step {}) ∅ [serverHandshake, clientShort] := by
  intro rename
  have hserver : Rewritten rename serverHandshake (renamedInput rename serverHandshake) :=
    rewritten_renamedInput (by decide +kernel)
  have hclient : Rewritten rename clientShort (renamedInput rename clientShort) :=
    rewritten_renamedInput (by decide +kernel)
  refine (decisions_renamed {} _ _).1 moveServer moveServer_injective
    (.cons hserver (.cons hclient .nil)) ?_
  decide +kernel

end QuicConstrictor

end PcapConstrictor
