import PcapConstrictor.Policy.PolicyRun

/-!
# Connections do not influence each other

A connection is a transport protocol, an IP version and an unordered pair of end points.
`connections_isolated` shows that the decisions for the packets of one connection are those a fresh
policy gives when it sees nothing else. The proof is the unwinding rule for transducers: packets of
other connections leave the entries of this one alone (`related_other`), and packets of this one
read no other entry (`related_mine`). Both come down to the keys of the two tables: a direction key,
or a flow key, identifies the connection of a packet.
-/

namespace PcapConstrictor

open QuicConstrictor (Endpoint sourceOf destinationOf endpointsOf flowOf)
open TlsConstrictor (directionOf reverseOf OnConnection)

/-- A TCP or UDP connection. -/
structure Connection where
  transportProtocol : TransportProtocol
  ipVersion : IpVersion
  endpoints : Sym2 Endpoint
deriving DecidableEq

/-- The connection a packet decodes to. -/
def CapturedPacket.connection (packet : CapturedPacket) : Option Connection :=
  if packet.decoded.transportProtocol = .none then none
  else
    some
      { transportProtocol := packet.decoded.transportProtocol
        ipVersion := packet.decoded.ipVersion
        endpoints := endpointsOf packet.decoded }

namespace LiveCapturePolicy

/-- The packet belongs to the connection. -/
def mine (connection : Connection) (packet : CapturedPacket) : Bool :=
  packet.connection == some connection

/-- The address length tells the IP version. -/
theorem ipVersion_eq_of_addressLength {p q : CapturedPacket}
    (hp : TransportDecoded p.safeData p.decoded) (hq : TransportDecoded q.safeData q.decoded)
    (h : p.decoded.addressLength = q.decoded.addressLength) :
    p.decoded.ipVersion = q.decoded.ipVersion := by
  rcases hp.addressLength with ⟨hv, hl⟩ | ⟨hv, hl⟩ <;>
    rcases hq.addressLength with ⟨hv', hl'⟩ | ⟨hv', hl'⟩ <;> simp_all

/-- The unordered end points of a direction key. -/
def keyEndpoints (key : TlsConstrictor.DirectionKey) : Sym2 Endpoint :=
  s(⟨key.srcIp, key.addressLength, key.srcPort⟩, ⟨key.dstIp, key.addressLength, key.dstPort⟩)

/-- A key of a packet's connection has its end points. -/
theorem keyEndpoints_of_onConnection {key : TlsConstrictor.DirectionKey} {packet : CapturedPacket}
    (h : OnConnection key packet) :
    keyEndpoints key = endpointsOf packet.decoded ∧
      key.addressLength = packet.decoded.addressLength := by
  rcases h.2 with rfl | rfl
  · exact ⟨rfl, rfl⟩
  · exact ⟨Sym2.eq_swap, rfl⟩

/-- TCP packets that share a direction key, in either direction, are of one connection. -/
theorem connection_eq_of_onConnection {key : TlsConstrictor.DirectionKey} {p q : CapturedPacket}
    (hp : OnConnection key p) (hq : OnConnection key q) : p.connection = q.connection := by
  obtain ⟨hends, hlength⟩ := keyEndpoints_of_onConnection hp
  obtain ⟨hends', hlength'⟩ := keyEndpoints_of_onConnection hq
  have hversion := ipVersion_eq_of_addressLength hp.1.transportDecoded hq.1.transportDecoded
    (hlength.symm.trans hlength')
  have hproto : p.decoded.transportProtocol = q.decoded.transportProtocol := hp.1.trans hq.1.symm
  unfold CapturedPacket.connection
  rw [hproto, hversion, ← hends, ← hends']

/-- UDP packets that share a flow key are of one connection. -/
theorem connection_eq_of_flowOf {p q : CapturedPacket} (hp : p.IsUdp) (hq : q.IsUdp)
    (h : (flowOf p).1 = (flowOf q).1) : p.connection = q.connection := by
  obtain ⟨hversion, hends⟩ := (QuicConstrictor.flowKey_eq_iff hp.transportDecoded).mp h
  have hproto : p.decoded.transportProtocol = q.decoded.transportProtocol := hp.trans hq.symm
  unfold CapturedPacket.connection
  rw [hproto, hversion, hends]

/-- Two states that agree on the entries of a connection. -/
def Related (connection : Connection) (s t : State) : Prop :=
  ∀ packet : CapturedPacket, packet.connection = some connection →
    (packet.IsTcp →
      s.tlsConstrictor.lookup (directionOf packet) = t.tlsConstrictor.lookup (directionOf packet) ∧
      s.tlsConstrictor.lookup (reverseOf packet) = t.tlsConstrictor.lookup (reverseOf packet)) ∧
    (packet.IsUdp →
      s.quicConstrictor.lookup (flowOf packet).1 = t.quicConstrictor.lookup (flowOf packet).1)

/-- A packet of another connection leaves the entries of this one alone. -/
theorem related_other {config : PolicyConfig} {connection : Connection} {s t : State}
    {packet : CapturedPacket} (hst : Related connection s t)
    (hother : mine connection packet = false) :
    Related connection (evaluate config s packet).1 t := by
  have hne : packet.connection ≠ some connection := by simpa [mine] using hother
  rcases evaluate_cases config s packet with ⟨hgate, heq⟩ | ⟨-, hgate, heq⟩ | ⟨-, -, heq⟩ <;>
    rw [heq]
  · intro p hp
    obtain ⟨htcp, hudp⟩ := hst p hp
    refine ⟨?_, hudp⟩
    intro hptcp
    have hkeep : ∀ key, OnConnection key p → ¬ OnConnection key packet := fun key hkey hkey' =>
      hne ((connection_eq_of_onConnection hkey hkey').symm.trans hp)
    rw [TlsConstrictor.lookup_step_of_not_onConnection _ _ (hkeep _ ⟨hptcp, Or.inl rfl⟩),
      TlsConstrictor.lookup_step_of_not_onConnection _ _ (hkeep _ ⟨hptcp, Or.inr rfl⟩)]
    exact htcp hptcp
  · intro p hp
    obtain ⟨htcp, hudp⟩ := hst p hp
    refine ⟨htcp, ?_⟩
    intro hpudp
    have hkey : (flowOf p).1 ≠ (flowOf packet).1 := fun hkey =>
      hne ((connection_eq_of_flowOf hpudp (isUdp_of_quicGate hgate) hkey).symm.trans hp)
    rw [QuicConstrictor.lookup_step_of_ne _ _ hkey]
    exact hudp hpudp
  · exact hst

/-- A packet of this connection is answered alike in related states, and keeps them related. -/
theorem related_mine {config : PolicyConfig} {connection : Connection} {s t : State}
    {packet : CapturedPacket} (hst : Related connection s t)
    (hmine : mine connection packet = true) :
    (evaluate config s packet).2 = (evaluate config t packet).2 ∧
      Related connection (evaluate config s packet).1 (evaluate config t packet).1 := by
  have hpacket : packet.connection = some connection := by simpa [mine] using hmine
  obtain ⟨hpTcp, hpUdp⟩ := hst packet hpacket
  cases htls : tlsGate config packet with
  | true =>
    have hcongr := TlsConstrictor.step_congr config.tls (hpTcp (isTcp_of_tlsGate htls)).1
    rw [evaluate_of_tls htls, evaluate_of_tls htls, hcongr.1]
    refine ⟨rfl, ?_⟩
    intro p hp
    refine ⟨?_, (hst p hp).2⟩
    intro htcp
    obtain ⟨hdir, hrev⟩ := (hst p hp).1 htcp
    exact ⟨hcongr.2 _ hdir, hcongr.2 _ hrev⟩
  | false =>
    cases hquic : quicGate config packet with
    | true =>
      have hcongr := QuicConstrictor.step_congr config.quic (hpUdp (isUdp_of_quicGate hquic))
      rw [evaluate_of_quic htls hquic, evaluate_of_quic htls hquic, hcongr.1]
      exact ⟨rfl, fun p hp => ⟨(hst p hp).1, fun hudp => hcongr.2 _ ((hst p hp).2 hudp)⟩⟩
    | false =>
      rw [evaluate_of_neither htls hquic, evaluate_of_neither htls hquic]
      exact ⟨rfl, hst⟩

/-- The decisions a fresh policy gives for the packets of a connection among its inputs. -/
def decisionsFor (config : PolicyConfig) (connection : Connection)
    (inputs : List CapturedPacket) : List LiveCaptureDecision :=
  ((inputs.zip (Transducer.outputs (evaluate config) {} inputs)).filter
    fun p => mine connection p.1).map Prod.snd

/-- **Connections do not influence each other.** The decisions for the packets of a connection are
those of a fresh policy that is given only these packets; hence any two interleavings of the packets
of several connections give every packet the same decision. -/
theorem connections_isolated (config : PolicyConfig) (connection : Connection) :
    (∀ inputs, decisionsFor config connection inputs
      = Transducer.outputs (evaluate config) {} (inputs.filter (mine connection))) ∧
    ∀ inputs inputs' : List CapturedPacket,
      inputs.filter (mine connection) = inputs'.filter (mine connection) →
      decisionsFor config connection inputs = decisionsFor config connection inputs' := by
  have hisolated : ∀ inputs, decisionsFor config connection inputs
      = Transducer.outputs (evaluate config) {} (inputs.filter (mine connection)) :=
    Transducer.outputs_filter (evaluate config) (Related connection)
      (fun _ _ _ hst hother => related_other hst hother)
      (fun _ _ _ hst hmine => related_mine hst hmine)
      (fun _ _ => ⟨fun _ => ⟨rfl, rfl⟩, fun _ => rfl⟩)
  refine ⟨hisolated, ?_⟩
  intro inputs inputs' h
  rw [hisolated, hisolated, h]

end LiveCapturePolicy

end PcapConstrictor
