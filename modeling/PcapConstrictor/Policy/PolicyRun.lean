import PcapConstrictor.Policy.LiveCapturePolicy
import PcapConstrictor.Policy.QuicLearning
import PcapConstrictor.Policy.TlsConfirmation

/-!
# Runs of the policy

The policy is two independent machines behind two gates: along every run, each constrictor is in
the state it reaches on the packets that pass its gate. Invariants of the constrictors hold in the
policy through `tls_run` and `quic_run`.
-/

namespace PcapConstrictor.LiveCapturePolicy

open ByteString

/-- The flag mask of the gate is the one the constrictor tests. -/
theorem synRst_flags (packet : CapturedPacket) :
    (packet.decoded.tcpFlags &&& kTcpSynOrRstFlags != 0) = true ↔ packet.HasSynRst := by
  rw [bne_iff_ne]
  rfl

/-- Behind the TLS gate a packet is settled by the TLS constrictor's answer. -/
theorem evaluate_of_tls {config : PolicyConfig} {packet : CapturedPacket}
    (h : tlsGate config packet = true) (state : State) :
    evaluate config state packet
      = ({ state with
            tlsConstrictor := (TlsConstrictor.step config.tls state.tlsConstrictor packet).1 },
          decision config packet (applyTls config (baseOutputLen config packet)
            (initialReason config packet)
            (TlsConstrictor.step config.tls state.tlsConstrictor packet).2)) := by
  rw [evaluate, if_pos h]
  rfl

/-- Behind the QUIC gate a packet is settled by the QUIC constrictor's answer. -/
theorem evaluate_of_quic {config : PolicyConfig} {packet : CapturedPacket}
    (htls : tlsGate config packet = false) (h : quicGate config packet = true) (state : State) :
    evaluate config state packet
      = ({ state with
            quicConstrictor := (QuicConstrictor.step config.quic state.quicConstrictor packet).1 },
          decision config packet (applyQuic config (baseOutputLen config packet)
            (initialReason config packet)
            (QuicConstrictor.step config.quic state.quicConstrictor packet).2)) := by
  rw [evaluate, htls, if_neg Bool.false_ne_true, if_pos h]
  rfl

/-- Any other packet keeps its first reason and changes no state. -/
theorem evaluate_of_neither {config : PolicyConfig} {packet : CapturedPacket}
    (htls : tlsGate config packet = false) (hquic : quicGate config packet = false)
    (state : State) :
    evaluate config state packet
      = (state, decision config packet (baseOutputLen config packet,
          initialReason config packet)) := by
  rw [evaluate, htls, hquic]
  rfl

/-- Behind the TLS gate are TCP packets. -/
theorem isTcp_of_tlsGate {config : PolicyConfig} {packet : CapturedPacket}
    (h : tlsGate config packet = true) : packet.IsTcp := by
  simp only [tlsGate, Bool.and_eq_true, beq_iff_eq] at h
  have hreason := h.1.2
  unfold initialReason at hreason
  dsimp only at hreason
  split_ifs at hreason with _ _ _ htcp
  exact htcp

theorem isUdp_of_quicGate {config : PolicyConfig} {packet : CapturedPacket}
    (h : quicGate config packet = true) : packet.IsUdp := by
  simp only [quicGate, Bool.and_eq_true, beq_iff_eq] at h
  have hreason := h.1.2
  unfold initialReason at hreason
  dsimp only at hreason
  split_ifs at hreason with _ _ _ _ _ hudp
  exact hudp

/-- The gates exclude each other. -/
theorem tlsGate_of_quicGate {config : PolicyConfig} {packet : CapturedPacket}
    (h : quicGate config packet = true) : tlsGate config packet = false := by
  simp only [quicGate, Bool.and_eq_true, beq_iff_eq] at h
  simp [tlsGate, h.1.2]

/-- The reason of a decision that cuts nothing. -/
def Uncut (reason : DecisionReason) : Prop :=
  reason ≠ .tlsApplicationDataConstricted ∧ reason ≠ .quicShortHeaderConstricted

/-- The first reason never stands for a cut. -/
theorem uncut_initialReason (config : PolicyConfig) (packet : CapturedPacket) :
    Uncut (initialReason config packet) := by
  unfold initialReason
  dsimp only
  split_ifs <;> exact ⟨nofun, nofun⟩

/-- **What a packet does to the policy.** -/
theorem evaluate_cases (config : PolicyConfig) (state : State) (packet : CapturedPacket) :
    let tls := TlsConstrictor.step config.tls state.tlsConstrictor packet
    let quic := QuicConstrictor.step config.quic state.quicConstrictor packet
    let base := baseOutputLen config packet
    let reason := initialReason config packet
    (tlsGate config packet = true ∧ evaluate config state packet
      = ({ state with tlsConstrictor := tls.1 },
          decision config packet (applyTls config base reason tls.2))) ∨
    (tlsGate config packet = false ∧ quicGate config packet = true ∧
      evaluate config state packet
        = ({ state with quicConstrictor := quic.1 },
            decision config packet (applyQuic config base reason quic.2))) ∨
    (tlsGate config packet = false ∧ quicGate config packet = false ∧
      evaluate config state packet = (state, decision config packet (base, reason))) := by
  cases htls : tlsGate config packet with
  | true => exact Or.inl ⟨rfl, evaluate_of_tls htls state⟩
  | false =>
    cases hquic : quicGate config packet with
    | true => exact Or.inr (Or.inl ⟨rfl, rfl, evaluate_of_quic htls hquic state⟩)
    | false => exact Or.inr (Or.inr ⟨rfl, rfl, evaluate_of_neither htls hquic state⟩)

/-- **The TLS constrictor of a run** has seen the packets that pass its gate. -/
theorem tls_run (config : PolicyConfig) (state : State) (inputs : List CapturedPacket) :
    (Transducer.after (evaluate config) state inputs).tlsConstrictor
      = Transducer.after (TlsConstrictor.step config.tls) state.tlsConstrictor
          (inputs.filter (tlsGate config)) := by
  apply Transducer.after_component (evaluate config) State.tlsConstrictor
  intro state packet
  rcases evaluate_cases config state packet with
    ⟨htls, heq⟩ | ⟨htls, -, heq⟩ | ⟨htls, -, heq⟩ <;> simp only [heq, htls] <;> rfl

/-- **The QUIC constrictor of a run** has seen the packets that pass its gate. -/
theorem quic_run (config : PolicyConfig) (state : State) (inputs : List CapturedPacket) :
    (Transducer.after (evaluate config) state inputs).quicConstrictor
      = Transducer.after (QuicConstrictor.step config.quic) state.quicConstrictor
          (inputs.filter (quicGate config)) := by
  apply Transducer.after_component (evaluate config) State.quicConstrictor
  intro state packet
  rcases evaluate_cases config state packet with
    ⟨htls, heq⟩ | ⟨htls, hquic, heq⟩ | ⟨htls, hquic, heq⟩
  · cases hquic : quicGate config packet with
    | true => rw [tlsGate_of_quicGate hquic] at htls; cases htls
    | false => simp only [heq]; rfl
  · simp only [heq, hquic]; rfl
  · simp only [heq, hquic]; rfl

end PcapConstrictor.LiveCapturePolicy
