import PcapConstrictor.Decode.Frames
import PcapConstrictor.Policy.Isolation

/-!
# A connection that starts again

A SYN or RST makes the policy forget a TCP connection. From that packet on it decides about the
connection as a policy that has seen nothing before, whatever it has learned of an earlier
connection between the same end points (`reset_forgets`).
-/

namespace PcapConstrictor

open TlsConstrictor (directionOf reverseOf OnConnection Resets entryAtPayload)

namespace LiveCapturePolicy

/-- The direction key from one end point to another. -/
def keyBetween (source destination : QuicConstrictor.Endpoint) : TlsConstrictor.DirectionKey where
  srcIp := source.address
  dstIp := destination.address
  addressLength := source.addressLength
  srcPort := source.port
  dstPort := destination.port

/-- The two keys of a packet are between its endpoints, in either order. -/
theorem directionOf_eq_keyBetween (packet : CapturedPacket) :
    directionOf packet
        = keyBetween (QuicConstrictor.sourceOf packet.decoded)
            (QuicConstrictor.destinationOf packet.decoded) ∧
      reverseOf packet
        = keyBetween (QuicConstrictor.destinationOf packet.decoded)
            (QuicConstrictor.sourceOf packet.decoded) := ⟨rfl, rfl⟩

/-- The direction keys of a connection are those of any of its TCP packets. -/
theorem onConnection_of_connection {p q : CapturedPacket} (hp : p.IsTcp) (hq : q.IsTcp)
    (h : p.connection = q.connection) :
    OnConnection (directionOf p) q ∧ OnConnection (reverseOf p) q := by
  unfold CapturedPacket.connection at h
  rw [if_neg (by rw [hp]; decide), if_neg (by rw [hq]; decide), Option.some.injEq,
    Connection.mk.injEq] at h
  obtain ⟨-, -, hends⟩ := h
  obtain ⟨hdirP, hrevP⟩ := directionOf_eq_keyBetween p
  obtain ⟨hdirQ, hrevQ⟩ := directionOf_eq_keyBetween q
  rcases Sym2.eq_iff.mp hends with ⟨hsrc, hdst⟩ | ⟨hsrc, hdst⟩
  · rw [hdirP, hrevP, hsrc, hdst, ← hdirQ, ← hrevQ]
    exact ⟨⟨hq, Or.inl rfl⟩, ⟨hq, Or.inr rfl⟩⟩
  · rw [hdirP, hrevP, hsrc, hdst, ← hdirQ, ← hrevQ]
    exact ⟨⟨hq, Or.inr rfl⟩, ⟨hq, Or.inl rfl⟩⟩

/-- Behind a packet that resets its connection, nothing of the state before is left in the entries
of the connection. -/
theorem related_reset {config : PolicyConfig} {connection : Connection} {packet : CapturedPacket}
    (hgate : tlsGate config packet = true) (hreset : packet.HasSynRst)
    (hmine : packet.connection = some connection) (s t : State) :
    (evaluate config s packet).2 = (evaluate config t packet).2 ∧
      Related connection (evaluate config s packet).1 (evaluate config t packet).1 := by
  have htcp := isTcp_of_tlsGate hgate
  have hforgets : ∀ key, OnConnection key packet → ∀ directions,
      entryAtPayload directions key packet = none := fun key hkey _ => if_pos ⟨hkey, hreset⟩
  obtain ⟨hanswer, hlookup⟩ := TlsConstrictor.step_congr_entry config.tls (s := s.tlsConstrictor)
    (t := t.tlsConstrictor) htcp (by
      rw [hforgets _ ⟨htcp, Or.inl rfl⟩, hforgets _ ⟨htcp, Or.inl rfl⟩])
  rw [evaluate_of_tls hgate, evaluate_of_tls hgate, hanswer]
  refine ⟨rfl, fun p hp => ⟨fun hptcp => ?_, fun hpudp => ?_⟩⟩
  · obtain ⟨hdir, hrev⟩ := onConnection_of_connection hptcp htcp (hp.trans hmine.symm)
    exact ⟨hlookup _ (by rw [hforgets _ hdir, hforgets _ hdir]),
      hlookup _ (by rw [hforgets _ hrev, hforgets _ hrev])⟩
  · -- a UDP packet is not of a TCP connection
    have hproto := congrArg (Option.map Connection.transportProtocol) (hp.trans hmine.symm)
    unfold CapturedPacket.connection at hproto
    rw [if_neg (by rw [hpudp]; decide), if_neg (by rw [htcp]; decide), Option.map_some,
      Option.map_some, Option.some.injEq] at hproto
    exact absurd (hpudp.symm.trans (hproto.trans htcp)) (by decide)

/-- **A reset forgets the connection.** -/
theorem reset_forgets {config : PolicyConfig} {connection : Connection} {packet : CapturedPacket}
    (hgate : tlsGate config packet = true) (hreset : packet.HasSynRst)
    (hmine : packet.connection = some connection) (s : State) (after : List CapturedPacket) :
    (((packet :: after).zip (Transducer.outputs (evaluate config) s (packet :: after))).filter
        fun p => mine connection p.1).map Prod.snd
      = Transducer.outputs (evaluate config) {} ((packet :: after).filter (mine connection)) := by
  obtain ⟨hanswer, hrelated⟩ := related_reset hgate hreset hmine s {}
  have hother : ∀ s t p, Related connection s t → mine connection p = false →
      Related connection (evaluate config s p).1 t := fun _ _ _ hst hother =>
    related_other hst hother
  have hafter := Transducer.outputs_filter (evaluate config) (Related connection) hother
    (fun _ _ _ hst hmine => related_mine hst hmine) hrelated after
  have hpacket : mine connection packet = true := by simp [mine, hmine]
  simp only [Transducer.outputs_cons, List.zip_cons_cons, List.filter_cons, hpacket, if_true,
    List.map_cons, hanswer, hafter]

/-- The SYN of a later connection between the end points of the examples. -/
def synPacket : CapturedPacket := .ofFrame (exampleEnds.tcpFrame 1000 0x02 [])

/-- The connection was confirmed; from its SYN on it is treated like a new one. -/
theorem reset_forgets_syn :
    let s := Transducer.after (evaluate {}) {} [plainPacket]
    let after := [examplePacket 1001 [0x17, 3, 3, 0, 4, 1, 2, 3, 4]]
    ∃ connection, synPacket.connection = some connection ∧
      (((synPacket :: after).zip (Transducer.outputs (evaluate {}) s (synPacket :: after))).filter
          fun p => mine connection p.1).map Prod.snd
        = Transducer.outputs (evaluate {}) {} ((synPacket :: after).filter (mine connection)) := by
  intro s after
  have hsome : synPacket.connection.isSome = true := by decide +kernel
  obtain ⟨connection, hmine⟩ := Option.isSome_iff_exists.mp hsome
  exact ⟨connection, hmine, reset_forgets (by decide +kernel) (by decide +kernel) hmine s after⟩

end LiveCapturePolicy

end PcapConstrictor
