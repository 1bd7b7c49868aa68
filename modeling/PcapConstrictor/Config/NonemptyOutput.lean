import PcapConstrictor.Config.LineGrammar
import PcapConstrictor.Config.PortList
import PcapConstrictor.Decode.Recognition
import PcapConstrictor.Policy.LengthDecision

/-!
# No accepted configuration blanks a capture

What the loader accepts is `Usable`: every line that it reads assigns a value that the option may
have, and the two lengths are checked behind the last line. Under a usable configuration the policy
keeps something of every packet. The base length is positive, and a cut keeps all headers, of which
there is at least one byte in front of the payload.
-/

namespace PcapConstrictor

/-- A configuration under which a capture is not blank. -/
structure PolicyConfig.Usable (config : PolicyConfig) : Prop where
  defaultSnaplen : 0 < config.capture.defaultSnaplen.toNat
  maxCaptureLen : 0 < config.capture.maxCaptureLen.toNat
  output : config.capture.output ≠ ""
  tlsPorts : config.tls.ports ≠ []
  quicPorts : config.quic.ports ≠ []
  appDataContinuationPolicy : config.tls.appDataContinuationPolicy = .finalOnly

/-! ## The options -/

namespace Setting

/-- The values that `AssignValue` lets an option have. -/
def Assignable : (s : Setting) → s.Value → Prop
  | output, path => path ≠ ""
  | tlsPorts, ports => ports ≠ []
  | quicPorts, ports => ports ≠ []
  | appDataContinuationPolicy, policy => policy = .finalOnly
  | _, _ => True

/-- A parsed port list has a port: an empty piece is refused. -/
theorem parsePortsLoop_ne_nil {text : Text} {ports : List UInt16}
    (h : parsePortsLoop text 0 [] = some ports) : ports ≠ [] := by
  have hparse : parsePorts text [] = (true, ports) := by
    rw [parsePorts, h]
  have hdenotes := parsePorts_eq_true.mp hparse
  rintro rfl
  exact List.splitOn_ne_nil ',' text (List.forall₂_nil_right_iff.mp hdenotes)

/-- Every parser gives values that its option may have. -/
theorem assignable_of_parse {s : Setting} {text : Text} {value : s.Value}
    (h : s.parse text = some value) : s.Assignable value := by
  cases s
  case output =>
    simp only [parse, Option.ite_none_left_eq_some] at h
    obtain ⟨houtput, hvalue⟩ := h
    obtain rfl := Option.some.inj hvalue
    exact mt String.ofList_eq_empty_iff.mp houtput
  case tlsPorts => exact parsePortsLoop_ne_nil h
  case quicPorts => exact parsePortsLoop_ne_nil h
  case appDataContinuationPolicy => exact (parseSupportedPolicy_eq_some.mp h).2
  all_goals trivial

/-- Every default is a value that its option may have. -/
theorem assignable_default (s : Setting) : s.Assignable (s.get {}) := by
  cases s
  case output => exact (by decide : "output.pcap" ≠ "")
  case tlsPorts => exact List.cons_ne_nil _ _
  case quicPorts => exact List.cons_ne_nil _ _
  case appDataContinuationPolicy => rfl
  all_goals trivial

end Setting

/-- The lines assign values that their options may have. -/
theorem Reads.assignable {current last : Text} {lines : List Text}
    {writes : List (Fields.Write Setting.Value)} (h : Reads current lines writes last) :
    ∀ write ∈ writes, write.1.Assignable write.2 := by
  induction h with
  | nil => exact nofun
  | blank _ _ ih => exact ih
  | header _ _ ih => exact ih
  | assignment _ _ _ hvalue _ ih =>
    exact List.forall_mem_cons.mpr ⟨Setting.assignable_of_parse hvalue, ih⟩

theorem toNat_pos32 {n : UInt32} (h : n ≠ 0) : 0 < n.toNat :=
  Nat.pos_of_ne_zero fun hzero => h (UInt32.toNat_inj.mp hzero)

/-- **What the loader accepts is usable.** -/
theorem ConfigLoader.usable_of_ok {text : Text} {sourceName : String}
    (hok : (loadFromString text sourceName).ok = true) :
    (loadFromString text sourceName).config.Usable := by
  obtain ⟨writes, last, hreads, hconfig, hsnaplen, hmax⟩ := loadFromString_ok_iff.mp ⟨hok, rfl⟩
  have hassignable : ∀ s : Setting,
      s.Assignable (s.get (loadFromString text sourceName).config) := by
    rw [hconfig]
    exact PolicyConfig.fields.forall_get_writeAll Setting.assignable_default hreads.assignable
  exact
    { defaultSnaplen := toNat_pos32 hsnaplen
      maxCaptureLen := toNat_pos32 hmax
      output := hassignable .output
      tlsPorts := hassignable .tlsPorts
      quicPorts := hassignable .quicPorts
      appDataContinuationPolicy := hassignable .appDataContinuationPolicy }

/-! ## The policy -/

namespace LiveCapturePolicy

/-- A cut keeps something, whatever the constrictors are told to keep. -/
theorem Cut.outputLen_pos {config : PolicyConfig} {packet : CapturedPacket}
    {protocol : TransportProtocol} {enabled : Bool} {ports : List UInt16} {outputLen : UInt32}
    (h : Cut config packet protocol enabled ports outputLen) (hprotocol : protocol ≠ .none) :
    0 < outputLen.toNat := by
  have hheaders : 0 < packet.decoded.transportPayloadOffset :=
    payloadOffset_pos (h.transportProtocol.trans_ne hprotocol)
  exact Nat.lt_of_lt_of_le hheaders h.headers

/-- Under a usable configuration, what is kept of a packet is not empty, in whatever state. -/
theorem outputLen_pos {config : PolicyConfig} (hconfig : config.Usable) (state : State)
    {packet : CapturedPacket} (hcaptured : 0 < packet.capturedLen.toNat) (hdata : packet.data ≠ [])
    (horiginal : 0 < packet.originalLen.toNat) :
    0 < (evaluate config state packet).2.outputLen.toNat := by
  rcases evaluate_length config state packet with ⟨hbase, -⟩ | ⟨-, -, hcut⟩ | ⟨-, -, hcut⟩
  · have hlength : 0 < packet.data.length := List.length_pos_of_ne_nil hdata
    have hsnaplen := hconfig.defaultSnaplen
    have hmax := hconfig.maxCaptureLen
    rw [CapturedPacket.capturedLen] at hcaptured
    rw [CapturedPacket.data] at hlength
    rw [hbase, toNat_baseOutputLen, PacketView.toNat_safeCapturedLen]
    omega
  · exact hcut.outputLen_pos (by decide)
  · exact hcut.outputLen_pos (by decide)

end LiveCapturePolicy

namespace ConfigLoader

/-- **No accepted configuration can blank a capture.** Its lengths are positive, its output and its
ports are not empty, and every packet of a trace of which there is something to keep gets a record
that is not empty. -/
theorem accepted_never_blank {text : Text} {sourceName : String}
    (hok : (loadFromString text sourceName).ok = true) (trace : List CapturedPacket) :
    let config := (loadFromString text sourceName).config
    config.Usable ∧
    List.Forall₂
      (fun packet d => 0 < packet.capturedLen.toNat → packet.data ≠ [] →
        0 < packet.originalLen.toNat → 0 < d.outputLen.toNat)
      trace (Transducer.outputs (LiveCapturePolicy.evaluate config) {} trace) := by
  intro config
  have hconfig : config.Usable := usable_of_ok hok
  refine ⟨hconfig, Transducer.forall₂_outputs (LiveCapturePolicy.evaluate config) ?_ _ trace⟩
  intro state packet hcaptured hdata horiginal
  exact LiveCapturePolicy.outputLen_pos hconfig state hcaptured hdata horiginal

/-- A configuration that keeps nothing of a TLS record. -/
def tightText : Text :=
  "[general]\nmin_saved_bytes_per_packet=0\n[tls]\napp_data_keep_record_bytes=0".toList

/-- Nothing of a record is kept, but something of the packet is. -/
theorem accepted_never_blank_tight :
    let config := (loadFromString tightText).config
    config.tls.appDataKeepRecordBytes = 0 ∧
      0 < (LiveCapturePolicy.evaluate config {} plainPacket).2.outputLen.toNat := by
  obtain ⟨-, houtputs⟩ :=
    @accepted_never_blank tightText "<memory>" (by decide +kernel) [plainPacket]
  obtain ⟨hfirst, -⟩ := List.forall₂_cons.mp houtputs
  exact ⟨by decide +kernel, hfirst (by decide) (by decide) (by decide)⟩

end ConfigLoader

end PcapConstrictor
