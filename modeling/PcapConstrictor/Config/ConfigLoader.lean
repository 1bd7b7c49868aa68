import PcapConstrictor.Basic
import PcapConstrictor.Common.Scanning

/-!
# The configuration loader

Reference: `config/ConfigLoader.hpp`, `config/ConfigLoader.cpp`.

A `std::string` is a list of characters, one for each byte. `std::isspace` and `std::tolower` are
those of the C locale, which the program never changes. Where the source writes through a reference
and returns whether it did, the model returns an `Option`, and an `Except` where there is an error
text.
-/

namespace PcapConstrictor

/-- The characters of a `std::string` or a `std::string_view`. -/
abbrev Text := List Char

/-- `std::isspace`. -/
def isSpace (ch : Char) : Bool := ch == ' ' || ('\t' ≤ ch && ch ≤ '\r')

/-- `std::string_view::substr`. -/
def substr (text : Text) (position count : ℕ) : Text := (text.drop position).take count

/-- `std::string_view::find`. -/
def find (text : Text) (ch : Char) (position : ℕ) : Option ℕ :=
  ((text.drop position).findIdx? (· == ch)).map (position + ·)

/-- The lines that `std::getline` reads until it fails. -/
def getlines (text : Text) : List Text := Scanning.terminated '\n' text

/-! ## Parsing values -/

/-- `Trim`. -/
def trim (text : Text) : Text := Scanning.trim isSpace text

/-- `ToLower`. -/
def toLower (text : Text) : Text := text.map Char.toLower

/-- The loop of `StripInlineComment` from `index` on, where `rest` is left of `text`. -/
def stripInlineCommentFrom (text : Text) (index : ℕ) : Text → Text
  | [] => trim text
  | ch :: rest =>
    if (ch = ';' ∨ ch = '#') ∧ (index = 0 ∨ (text[index - 1]?.any isSpace)) then
      trim (substr text 0 index)
    else
      stripInlineCommentFrom text (index + 1) rest

/-- `StripInlineComment`. -/
def stripInlineComment (text : Text) : Text := stripInlineCommentFrom text 0 text

/-- `ParseBool`. -/
def parseBool (value : Text) : Option Bool :=
  let lowered := String.ofList (toLower (trim value))
  if lowered = "true" ∨ lowered = "1" then some true
  else if lowered = "false" ∨ lowered = "0" then some false
  else none

/-- `ParseTlsAppDataContinuationPolicy`. -/
def parseTlsAppDataContinuationPolicy (value : Text) : Option TlsAppDataContinuationPolicy :=
  let lowered := String.ofList (toLower (trim value))
  if lowered = "final_only" then some .finalOnly
  else if lowered = "stream" then some .stream
  else if lowered = "bulk" then some .bulk
  else none

/-- The error codes of `std::from_chars`. -/
inductive Errc
  | invalidArgument
  | resultOutOfRange
deriving DecidableEq, Repr

/-- `std::from_chars_result`, with the value written and the text from `ptr` on. -/
structure FromCharsResult where
  value : ℕ := 0
  ec : Option Errc := none
  ptr : Text
deriving DecidableEq, Repr

/-- `std::from_chars` in base ten for an unsigned type with `size` values. It takes no sign and no
white space. -/
def fromChars (size : ℕ) (text : Text) : FromCharsResult :=
  let digits := text.takeWhile Char.isDigit
  let ptr := text.dropWhile Char.isDigit
  if digits = [] then { ec := some .invalidArgument, ptr := text }
  else if Nat.ofDigitChars 10 digits 0 < size then { value := Nat.ofDigitChars 10 digits 0, ptr }
  else { ec := some .resultOutOfRange, ptr }

/-- The common body of `ParseUint32` and `ParseUint64`. -/
def parseUint (size : ℕ) (value : Text) : Option ℕ :=
  let trimmed := trim value
  if trimmed = [] then none
  else
    let result := fromChars size trimmed
    if result.ec ≠ none ∨ result.ptr ≠ [] then none else some result.value

/-- `ParseUint32`. -/
def parseUint32 (value : Text) : Option UInt32 := (parseUint UInt32.size value).map UInt32.ofNat

/-- `ParseUint64`. -/
def parseUint64 (value : Text) : Option UInt64 := (parseUint UInt64.size value).map UInt64.ofNat

/-- The loop of `ParsePorts`. -/
def parsePortsLoop (value : Text) (start : ℕ) (parsedPorts : List UInt16) :
    Option (List UInt16) :=
  if start ≤ value.length then
    let comma := find value ',' start
    let token := trim (substr value start
      (match comma with
        | none => value.length - start
        | some comma => comma - start))
    if token = [] then none
    else
      match parseUint32 token with
      | none => none
      | some parsedPort =>
        if parsedPort > 65535 then none
        else
          let parsedPorts := parsedPorts ++ [parsedPort.toUInt16]
          match _hcomma : comma with
          | none => some parsedPorts
          | some comma => parsePortsLoop value (comma + 1) parsedPorts
  else
    some parsedPorts
termination_by value.length + 1 - start
decreasing_by
  obtain ⟨index, -, rfl⟩ := Option.map_eq_some_iff.mp _hcomma
  omega

/-- `ParsePorts`: the result and the content of `ports` afterwards. -/
def parsePorts (value : Text) (ports : List UInt16) : Bool × List UInt16 :=
  match parsePortsLoop value 0 [] with
  | none => (false, ports)
  | some parsedPorts => (true, parsedPorts)

/-! ## Assigning values -/

/-- `FormatError`. -/
def formatError (sourceName : String) (lineNumber : ℕ) (message : String) : String :=
  sourceName ++ ":" ++ toString lineNumber ++ ": " ++ message

/-- The branch of `AssignValue` for the section `capture`. -/
def assignCapture (config : PolicyConfig) (key : String) (value : Text) :
    Except String PolicyConfig :=
  if key = "backend" then
    if String.ofList (toLower (trim value)) = "npcap" then
      .ok { config with capture.backend := .npcap }
    else
      .error "unknown capture.backend value; expected npcap"
  else if key = "interface" then
    .ok { config with capture.interface := String.ofList (trim value) }
  else if key = "promiscuous" then
    match parseBool value with
    | none => .error "invalid boolean for capture.promiscuous"
    | some parsed => .ok { config with capture.promiscuous := parsed }
  else if key = "output" then
    if trim value = [] then .error "capture.output must not be empty"
    else .ok { config with capture.output := String.ofList (trim value) }
  else if key = "max_packets" ∨ key = "duration_sec" then
    match parseUint64 value with
    | none => .error "invalid unsigned integer for capture option"
    | some parsed =>
      if key = "max_packets" then .ok { config with capture.maxPackets := parsed }
      else .ok { config with capture.durationSec := parsed }
  else
    match parseUint32 value with
    | none => .error "invalid unsigned integer for capture option"
    | some parsed =>
      if key = "default_snaplen" then .ok { config with capture.defaultSnaplen := parsed }
      else if key = "max_capture_len" then .ok { config with capture.maxCaptureLen := parsed }
      else if key = "read_timeout_ms" then .ok { config with capture.readTimeoutMs := parsed }
      else .error "unknown key in [capture]"

/-- The branch of `AssignValue` for the section `general`. -/
def assignGeneral (config : PolicyConfig) (key : String) (value : Text) :
    Except String PolicyConfig :=
  match parseUint32 value with
  | none => .error "invalid unsigned integer for [general]"
  | some parsed =>
    if key = "min_saved_bytes_per_packet" then
      .ok { config with general.minSavedBytesPerPacket := parsed }
    else
      .error "unknown key in [general]"

/-- The branch of `AssignValue` for the section `tls`. -/
def assignTls (config : PolicyConfig) (key : String) (value : Text) :
    Except String PolicyConfig :=
  if key = "enabled" then
    match parseBool value with
    | none => .error "invalid boolean for tls.enabled"
    | some parsed => .ok { config with tls.enabled := parsed }
  else if key = "ports" then
    match parsePorts value config.tls.ports with
    | (false, _) => .error "invalid port list for tls.ports"
    | (true, ports) => .ok { config with tls.ports := ports }
  else if key = "app_data_continuation_policy" then
    match parseTlsAppDataContinuationPolicy value with
    | none =>
      .error ("invalid value for tls.app_data_continuation_policy; " ++
        "expected final_only, stream, or bulk")
    | some parsed =>
      if parsed ≠ .finalOnly then
        .error ("tls.app_data_continuation_policy values stream and bulk are not supported in " ++
          "PcapConstrictorWinPacket yet")
      else
        .ok { config with tls.appDataContinuationPolicy := parsed }
  else
    match parseUint32 value with
    | none => .error "invalid unsigned integer for [tls]"
    | some parsed =>
      if key = "app_data_keep_record_bytes" then
        .ok { config with tls.appDataKeepRecordBytes := parsed }
      else if key = "app_data_continuation_keep_bytes" then
        .ok { config with tls.appDataContinuationKeepBytes := parsed }
      else
        .error "unknown key in [tls]"

/-- The branch of `AssignValue` for the section `quic`. -/
def assignQuic (config : PolicyConfig) (key : String) (value : Text) :
    Except String PolicyConfig :=
  if key = "enabled" ∨ key = "require_dcid_match" ∨
      key = "allow_short_header_without_known_dcid" then
    match parseBool value with
    | none => .error "invalid boolean for [quic]"
    | some parsed =>
      if key = "enabled" then .ok { config with quic.enabled := parsed }
      else if key = "require_dcid_match" then .ok { config with quic.requireDcidMatch := parsed }
      else .ok { config with quic.allowShortHeaderWithoutKnownDcid := parsed }
  else if key = "ports" then
    match parsePorts value config.quic.ports with
    | (false, _) => .error "invalid port list for quic.ports"
    | (true, ports) => .ok { config with quic.ports := ports }
  else
    match parseUint32 value with
    | none => .error "invalid unsigned integer for [quic]"
    | some parsed =>
      if key = "short_header_keep_packet_bytes" then
        .ok { config with quic.shortHeaderKeepPacketBytes := parsed }
      else
        .error "unknown key in [quic]"

/-- The branch of `AssignValue` for the section `stats`. -/
def assignStats (config : PolicyConfig) (key : String) (value : Text) :
    Except String PolicyConfig :=
  if key ≠ "enabled" then .error "unknown key in [stats]"
  else
    match parseBool value with
    | none => .error "invalid boolean for stats.enabled"
    | some parsed => .ok { config with stats.enabled := parsed }

/-- `AssignValue` behind `ToLower`: the new configuration, or the details of the error. -/
def assignNormalized (config : PolicyConfig) (normalizedSection normalizedKey : String)
    (value : Text) : Except String PolicyConfig :=
  if normalizedSection = "capture" then assignCapture config normalizedKey value
  else if normalizedSection = "general" then assignGeneral config normalizedKey value
  else if normalizedSection = "tls" then assignTls config normalizedKey value
  else if normalizedSection = "quic" then assignQuic config normalizedKey value
  else if normalizedSection = "stats" then assignStats config normalizedKey value
  else .error "unknown section"

/-- `AssignValue`: the new configuration, or the error text. -/
def assignValue (config : PolicyConfig) (sourceName : String) (lineNumber : ℕ)
    (currentSection key value : Text) : Except String PolicyConfig :=
  (assignNormalized config (String.ofList (toLower currentSection)) (String.ofList (toLower key))
    value).mapError (formatError sourceName lineNumber)

/-! ## Loading -/

/-- `ConfigLoadResult`. -/
structure ConfigLoadResult where
  config : PolicyConfig := {}
  error : String := ""
deriving DecidableEq, Repr

/-- `ConfigLoadResult::ok`. -/
def ConfigLoadResult.ok (result : ConfigLoadResult) : Bool := result.error == ""

namespace ConfigLoader

/-- The locals of `LoadFromString`. -/
structure LoadLocals where
  config : PolicyConfig := {}
  currentSection : Text := []
  lineNumber : ℕ := 0
deriving DecidableEq, Repr

/-- The loop body of `LoadFromString`; an early return is an `error`. -/
def loadLine (sourceName : String) (l : LoadLocals) (line : Text) :
    Except ConfigLoadResult LoadLocals :=
  let l := { l with lineNumber := l.lineNumber + 1 }
  let fail (message : String) : Except ConfigLoadResult LoadLocals :=
    .error { config := l.config, error := formatError sourceName l.lineNumber message }
  let cleaned := stripInlineComment line
  if cleaned = [] then .ok l
  else if cleaned.head? = some '[' then
    if cleaned.getLast? ≠ some ']' then fail "unterminated section header"
    else
      let currentSection := trim (substr cleaned 1 (cleaned.length - 2))
      if currentSection = [] then fail "empty section name" else .ok { l with currentSection }
  else
    match find cleaned '=' 0 with
    | none => fail "expected key = value"
    | some equals =>
      if l.currentSection = [] then fail "key/value found before any section"
      else
        let key := trim (substr cleaned 0 equals)
        let value := trim (cleaned.drop (equals + 1))
        if key = [] then fail "empty key"
        else
          match assignValue l.config sourceName l.lineNumber l.currentSection key value with
          | .error error => .error { config := l.config, error }
          | .ok config => .ok { l with config }

/-- `ConfigLoader::LoadFromString`. -/
def loadFromString (text : Text) (sourceName : String := "<memory>") : ConfigLoadResult :=
  match (getlines text).foldlM (loadLine sourceName) {} with
  | .error result => result
  | .ok l =>
    if l.config.capture.defaultSnaplen = 0 then
      { config := l.config
        error := formatError sourceName 0 "capture.default_snaplen must be greater than 0" }
    else if l.config.capture.maxCaptureLen = 0 then
      { config := l.config
        error := formatError sourceName 0 "capture.max_capture_len must be greater than 0" }
    else
      { config := l.config }

end ConfigLoader

end PcapConstrictor
