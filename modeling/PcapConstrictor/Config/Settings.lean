import PcapConstrictor.Common.Fields
import PcapConstrictor.Config.ConfigLoader

/-!
# The options of a configuration

`Setting` names the options that a configuration file can assign. Each has a type, a place in
`PolicyConfig`, a section and a key, and a parser, and `AssignValue` does nothing but parse a value
for one of them and put it in its place (`assignNormalized_eq_ok`).
-/

namespace PcapConstrictor

/-- The options of a configuration file. -/
inductive Setting
  | backend
  | interface
  | promiscuous
  | output
  | maxPackets
  | durationSec
  | defaultSnaplen
  | maxCaptureLen
  | readTimeoutMs
  | minSavedBytesPerPacket
  | tlsEnabled
  | tlsPorts
  | appDataContinuationPolicy
  | appDataKeepRecordBytes
  | appDataContinuationKeepBytes
  | quicEnabled
  | requireDcidMatch
  | allowShortHeaderWithoutKnownDcid
  | quicPorts
  | shortHeaderKeepPacketBytes
  | statsEnabled
deriving DecidableEq, Repr

namespace Setting

/-- The section and the key, in lower case. -/
def name : Setting → String × String
  | backend => ("capture", "backend")
  | interface => ("capture", "interface")
  | promiscuous => ("capture", "promiscuous")
  | output => ("capture", "output")
  | maxPackets => ("capture", "max_packets")
  | durationSec => ("capture", "duration_sec")
  | defaultSnaplen => ("capture", "default_snaplen")
  | maxCaptureLen => ("capture", "max_capture_len")
  | readTimeoutMs => ("capture", "read_timeout_ms")
  | minSavedBytesPerPacket => ("general", "min_saved_bytes_per_packet")
  | tlsEnabled => ("tls", "enabled")
  | tlsPorts => ("tls", "ports")
  | appDataContinuationPolicy => ("tls", "app_data_continuation_policy")
  | appDataKeepRecordBytes => ("tls", "app_data_keep_record_bytes")
  | appDataContinuationKeepBytes => ("tls", "app_data_continuation_keep_bytes")
  | quicEnabled => ("quic", "enabled")
  | requireDcidMatch => ("quic", "require_dcid_match")
  | allowShortHeaderWithoutKnownDcid => ("quic", "allow_short_header_without_known_dcid")
  | quicPorts => ("quic", "ports")
  | shortHeaderKeepPacketBytes => ("quic", "short_header_keep_packet_bytes")
  | statsEnabled => ("stats", "enabled")

/-- The type of an option. -/
def Value : Setting → Type
  | backend => CaptureBackend
  | interface | output => String
  | promiscuous | tlsEnabled | quicEnabled | requireDcidMatch
  | allowShortHeaderWithoutKnownDcid | statsEnabled => Bool
  | maxPackets | durationSec => UInt64
  | defaultSnaplen | maxCaptureLen | readTimeoutMs | minSavedBytesPerPacket
  | appDataKeepRecordBytes | appDataContinuationKeepBytes | shortHeaderKeepPacketBytes => UInt32
  | tlsPorts | quicPorts => List UInt16
  | appDataContinuationPolicy => TlsAppDataContinuationPolicy

/-- The value of an option in a configuration. -/
def get : (s : Setting) → PolicyConfig → s.Value
  | backend, config => config.capture.backend
  | interface, config => config.capture.interface
  | promiscuous, config => config.capture.promiscuous
  | output, config => config.capture.output
  | maxPackets, config => config.capture.maxPackets
  | durationSec, config => config.capture.durationSec
  | defaultSnaplen, config => config.capture.defaultSnaplen
  | maxCaptureLen, config => config.capture.maxCaptureLen
  | readTimeoutMs, config => config.capture.readTimeoutMs
  | minSavedBytesPerPacket, config => config.general.minSavedBytesPerPacket
  | tlsEnabled, config => config.tls.enabled
  | tlsPorts, config => config.tls.ports
  | appDataContinuationPolicy, config => config.tls.appDataContinuationPolicy
  | appDataKeepRecordBytes, config => config.tls.appDataKeepRecordBytes
  | appDataContinuationKeepBytes, config => config.tls.appDataContinuationKeepBytes
  | quicEnabled, config => config.quic.enabled
  | requireDcidMatch, config => config.quic.requireDcidMatch
  | allowShortHeaderWithoutKnownDcid, config => config.quic.allowShortHeaderWithoutKnownDcid
  | quicPorts, config => config.quic.ports
  | shortHeaderKeepPacketBytes, config => config.quic.shortHeaderKeepPacketBytes
  | statsEnabled, config => config.stats.enabled

/-- The configuration with another value for an option. -/
def set : (s : Setting) → s.Value → PolicyConfig → PolicyConfig
  | backend, value, config => { config with capture.backend := value }
  | interface, value, config => { config with capture.interface := value }
  | promiscuous, value, config => { config with capture.promiscuous := value }
  | output, value, config => { config with capture.output := value }
  | maxPackets, value, config => { config with capture.maxPackets := value }
  | durationSec, value, config => { config with capture.durationSec := value }
  | defaultSnaplen, value, config => { config with capture.defaultSnaplen := value }
  | maxCaptureLen, value, config => { config with capture.maxCaptureLen := value }
  | readTimeoutMs, value, config => { config with capture.readTimeoutMs := value }
  | minSavedBytesPerPacket, value, config => { config with general.minSavedBytesPerPacket := value }
  | tlsEnabled, value, config => { config with tls.enabled := value }
  | tlsPorts, value, config => { config with tls.ports := value }
  | appDataContinuationPolicy, value, config =>
    { config with tls.appDataContinuationPolicy := value }
  | appDataKeepRecordBytes, value, config => { config with tls.appDataKeepRecordBytes := value }
  | appDataContinuationKeepBytes, value, config =>
    { config with tls.appDataContinuationKeepBytes := value }
  | quicEnabled, value, config => { config with quic.enabled := value }
  | requireDcidMatch, value, config => { config with quic.requireDcidMatch := value }
  | allowShortHeaderWithoutKnownDcid, value, config =>
    { config with quic.allowShortHeaderWithoutKnownDcid := value }
  | quicPorts, value, config => { config with quic.ports := value }
  | shortHeaderKeepPacketBytes, value, config =>
    { config with quic.shortHeaderKeepPacketBytes := value }
  | statsEnabled, value, config => { config with stats.enabled := value }

/-- The continuation policy that a text denotes, if it is supported. -/
def parseSupportedPolicy (text : Text) : Option TlsAppDataContinuationPolicy :=
  (parseTlsAppDataContinuationPolicy text).filter (· == .finalOnly)

/-- The value that a text denotes for an option. -/
def parse : (s : Setting) → Text → Option s.Value
  | backend, text => if String.ofList (toLower (trim text)) = "npcap" then some .npcap else none
  | interface, text => some (String.ofList (trim text))
  | output, text => if trim text = [] then none else some (String.ofList (trim text))
  | promiscuous, text => parseBool text
  | tlsEnabled, text => parseBool text
  | quicEnabled, text => parseBool text
  | requireDcidMatch, text => parseBool text
  | allowShortHeaderWithoutKnownDcid, text => parseBool text
  | statsEnabled, text => parseBool text
  | maxPackets, text => parseUint64 text
  | durationSec, text => parseUint64 text
  | defaultSnaplen, text => parseUint32 text
  | maxCaptureLen, text => parseUint32 text
  | readTimeoutMs, text => parseUint32 text
  | minSavedBytesPerPacket, text => parseUint32 text
  | appDataKeepRecordBytes, text => parseUint32 text
  | appDataContinuationKeepBytes, text => parseUint32 text
  | shortHeaderKeepPacketBytes, text => parseUint32 text
  | tlsPorts, text => parsePortsLoop text 0 []
  | quicPorts, text => parsePortsLoop text 0 []
  | appDataContinuationPolicy, text => parseSupportedPolicy text

/-- A setting that was set has that value. -/
theorem get_set (s : Setting) (value : s.Value) (config : PolicyConfig) :
    s.get (s.set value config) = value := by
  cases s <;> rfl

/-- Setting one field leaves the others. -/
theorem get_set_of_ne {s t : Setting} (h : s ≠ t) (value : s.Value) (config : PolicyConfig) :
    t.get (s.set value config) = t.get config := by
  cases s <;> cases t <;> first | rfl | exact absurd rfl h

/-- There is nothing in a configuration but its options. -/
theorem ext {a b : PolicyConfig} (h : ∀ s : Setting, s.get a = s.get b) : a = b := by
  have hgeneral : a.general = b.general :=
    (GeneralOptions.mk.injEq ..).mpr (h minSavedBytesPerPacket)
  have hcapture : a.capture = b.capture :=
    (CaptureOptions.mk.injEq ..).mpr ⟨h backend, h interface, h output, h promiscuous,
      h defaultSnaplen, h maxCaptureLen, h maxPackets, h durationSec, h readTimeoutMs⟩
  have htls : a.tls = b.tls :=
    (TlsOptions.mk.injEq ..).mpr ⟨h tlsEnabled, h tlsPorts, h appDataKeepRecordBytes,
      h appDataContinuationKeepBytes, h appDataContinuationPolicy⟩
  have hquic : a.quic = b.quic :=
    (QuicOptions.mk.injEq ..).mpr ⟨h quicEnabled, h quicPorts, h shortHeaderKeepPacketBytes,
      h requireDcidMatch, h allowShortHeaderWithoutKnownDcid⟩
  have hstats : a.stats = b.stats := (StatsOptions.mk.injEq ..).mpr (h statsEnabled)
  exact (PolicyConfig.mk.injEq ..).mpr ⟨hgeneral, hcapture, htls, hquic, hstats⟩

end Setting

/-- The options are the fields of a configuration. -/
def PolicyConfig.fields : Fields PolicyConfig Setting Setting.Value where
  get := Setting.get
  set := Setting.set
  get_set := Setting.get_set
  get_set_of_ne := Setting.get_set_of_ne
  ext := Setting.ext

/-! ## AssignValue -/

namespace Setting

/-- Of the policies that can be parsed, only one is supported. -/
theorem parseSupportedPolicy_eq_some {text : Text} {policy : TlsAppDataContinuationPolicy} :
    parseSupportedPolicy text = some policy
      ↔ parseTlsAppDataContinuationPolicy text = some policy ∧ policy = .finalOnly := by
  rw [parseSupportedPolicy, Option.filter_eq_some_iff, beq_iff_eq]

/-- A value that is parsed for an option is put in its place. -/
theorem assignNormalized_of_parse {s : Setting} {text : Text} {value : s.Value}
    (h : s.parse text = some value) (config : PolicyConfig) :
    assignNormalized config s.name.1 s.name.2 text = .ok (s.set value config) := by
  cases s
  case backend =>
    simp only [parse, Option.ite_none_right_eq_some] at h
    obtain ⟨hbackend, hvalue⟩ := h
    obtain rfl := Option.some.inj hvalue
    simp [assignNormalized, assignCapture, name, hbackend, set]
  case output =>
    simp only [parse, Option.ite_none_left_eq_some] at h
    obtain ⟨houtput, hvalue⟩ := h
    obtain rfl := Option.some.inj hvalue
    simp [assignNormalized, assignCapture, name, houtput, set]
  case interface =>
    obtain rfl := Option.some.inj h
    rfl
  case appDataContinuationPolicy =>
    obtain ⟨hpolicy, rfl⟩ := parseSupportedPolicy_eq_some.mp h
    simp [assignNormalized, assignTls, name, hpolicy, set]
  -- the other options have a parser of their own
  all_goals
    simp only [parse] at h
    simp [assignNormalized, assignCapture, assignGeneral, assignTls, assignQuic, assignStats,
      parsePorts, name, h, set]

/-- `config'` is `config` with the value that `text` denotes for the option of that name. -/
def Assigned (name : String × String) (text : Text) (config config' : PolicyConfig) : Prop :=
  ∃ s : Setting, s.name = name ∧ ∃ value, s.parse text = some value ∧ config' = s.set value config

variable {config config' : PolicyConfig} {key : String} {text : Text}

/-- `assignCapture` assigns settings of its section. -/
theorem assigned_of_capture (h : assignCapture config key text = .ok config') :
    Assigned ("capture", key) text config config' := by
  unfold assignCapture at h
  split at h
  · next hkey =>
    subst hkey
    split at h
    · next hbackend =>
      cases h
      exact ⟨backend, rfl, .npcap, if_pos hbackend, rfl⟩
    · cases h
  split at h
  · next hkey =>
    subst hkey
    cases h
    exact ⟨interface, rfl, _, rfl, rfl⟩
  split at h
  · next hkey =>
    subst hkey
    split at h
    · cases h
    · next parsed hparsed =>
      cases h
      exact ⟨promiscuous, rfl, parsed, hparsed, rfl⟩
  split at h
  · next hkey =>
    subst hkey
    split at h
    · cases h
    · next houtput =>
      cases h
      exact ⟨output, rfl, _, if_neg houtput, rfl⟩
  split at h
  · next hkey =>
    split at h
    · cases h
    next parsed hparsed =>
    split at h
    · next hmax =>
      subst hmax
      cases h
      exact ⟨maxPackets, rfl, parsed, hparsed, rfl⟩
    · next hmax =>
      obtain rfl := hkey.resolve_left hmax
      cases h
      exact ⟨durationSec, rfl, parsed, hparsed, rfl⟩
  split at h
  · cases h
  next parsed hparsed =>
  split at h
  · next hkey =>
    subst hkey
    cases h
    exact ⟨defaultSnaplen, rfl, parsed, hparsed, rfl⟩
  split at h
  · next hkey =>
    subst hkey
    cases h
    exact ⟨maxCaptureLen, rfl, parsed, hparsed, rfl⟩
  split at h
  · next hkey =>
    subst hkey
    cases h
    exact ⟨readTimeoutMs, rfl, parsed, hparsed, rfl⟩
  · cases h

theorem assigned_of_general (h : assignGeneral config key text = .ok config') :
    Assigned ("general", key) text config config' := by
  unfold assignGeneral at h
  split at h
  · cases h
  next parsed hparsed =>
  split at h
  · next hkey =>
    subst hkey
    cases h
    exact ⟨minSavedBytesPerPacket, rfl, parsed, hparsed, rfl⟩
  · cases h

/-- A port list that is accepted was read to its end. -/
theorem parsePortsLoop_of_parsePorts {ports result : List UInt16}
    (h : parsePorts text ports = (true, result)) : parsePortsLoop text 0 [] = some result := by
  unfold parsePorts at h
  split at h
  · cases h
  · next hloop =>
    cases h
    exact hloop

theorem assigned_of_tls (h : assignTls config key text = .ok config') :
    Assigned ("tls", key) text config config' := by
  unfold assignTls at h
  split at h
  · next hkey =>
    subst hkey
    split at h
    · cases h
    · next parsed hparsed =>
      cases h
      exact ⟨tlsEnabled, rfl, parsed, hparsed, rfl⟩
  split at h
  · next hkey =>
    subst hkey
    split at h
    · cases h
    · next ports hports =>
      cases h
      exact ⟨tlsPorts, rfl, ports, parsePortsLoop_of_parsePorts hports, rfl⟩
  split at h
  · next hkey =>
    subst hkey
    split at h
    · cases h
    next parsed hparsed =>
    split at h
    · cases h
    · next hpolicy =>
      cases h
      exact ⟨appDataContinuationPolicy, rfl, parsed,
        parseSupportedPolicy_eq_some.mpr ⟨hparsed, not_not.mp hpolicy⟩, rfl⟩
  split at h
  · cases h
  next parsed hparsed =>
  split at h
  · next hkey =>
    subst hkey
    cases h
    exact ⟨appDataKeepRecordBytes, rfl, parsed, hparsed, rfl⟩
  split at h
  · next hkey =>
    subst hkey
    cases h
    exact ⟨appDataContinuationKeepBytes, rfl, parsed, hparsed, rfl⟩
  · cases h

theorem assigned_of_quic (h : assignQuic config key text = .ok config') :
    Assigned ("quic", key) text config config' := by
  unfold assignQuic at h
  split at h
  · next hkey =>
    split at h
    · cases h
    next parsed hparsed =>
    split at h
    · next henabled =>
      subst henabled
      cases h
      exact ⟨quicEnabled, rfl, parsed, hparsed, rfl⟩
    next henabled =>
    split at h
    · next hrequire =>
      subst hrequire
      cases h
      exact ⟨requireDcidMatch, rfl, parsed, hparsed, rfl⟩
    · next hrequire =>
      obtain rfl := (hkey.resolve_left henabled).resolve_left hrequire
      cases h
      exact ⟨allowShortHeaderWithoutKnownDcid, rfl, parsed, hparsed, rfl⟩
  split at h
  · next hkey =>
    subst hkey
    split at h
    · cases h
    · next ports hports =>
      cases h
      exact ⟨quicPorts, rfl, ports, parsePortsLoop_of_parsePorts hports, rfl⟩
  split at h
  · cases h
  next parsed hparsed =>
  split at h
  · next hkey =>
    subst hkey
    cases h
    exact ⟨shortHeaderKeepPacketBytes, rfl, parsed, hparsed, rfl⟩
  · cases h

theorem assigned_of_stats (h : assignStats config key text = .ok config') :
    Assigned ("stats", key) text config config' := by
  unfold assignStats at h
  split at h
  · cases h
  next hkey =>
  obtain rfl := not_not.mp hkey
  split at h
  · cases h
  · next parsed hparsed =>
    cases h
    exact ⟨statsEnabled, rfl, parsed, hparsed, rfl⟩

/-- **`AssignValue` sets one option**: the one that section and key name, to the value that is
parsed for it. Every other pair of names and every other value is an error. -/
theorem assignNormalized_eq_ok {name : String × String} :
    assignNormalized config name.1 name.2 text = .ok config'
      ↔ Assigned name text config config' := by
  constructor
  · obtain ⟨sectionName, key⟩ := name
    intro h
    unfold assignNormalized at h
    dsimp only at h
    split at h
    · next hsection => exact hsection ▸ assigned_of_capture h
    split at h
    · next hsection => exact hsection ▸ assigned_of_general h
    split at h
    · next hsection => exact hsection ▸ assigned_of_tls h
    split at h
    · next hsection => exact hsection ▸ assigned_of_quic h
    split at h
    · next hsection => exact hsection ▸ assigned_of_stats h
    · cases h
  · rintro ⟨s, rfl, value, hvalue, rfl⟩
    exact assignNormalized_of_parse hvalue config

end Setting

end PcapConstrictor
