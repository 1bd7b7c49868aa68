import PcapConstrictor.Config.LineGrammar

/-!
# The first error of a configuration

A text that the loader does not accept is refused at its first bad line: `Complains` says which
lines are bad in which section, and what is said of them. What stands in front of the line is read
and assigned, and what stands behind it plays no part (`load_error_iff`). A text without a bad line
is refused only for the two lengths that must not be zero.

In the sections of numbers `AssignValue` reads the value before it knows the key, so it calls a key
unknown there only if the value is a number.
-/

namespace PcapConstrictor

open Scanning

/-! ## Values -/

namespace Setting

/-- What is said of a text that denotes no value of an option. Every text denotes an interface. -/
def complaint : Setting → Text → String
  | backend, _ => "unknown capture.backend value; expected npcap"
  | interface, _ => ""
  | promiscuous, _ => "invalid boolean for capture.promiscuous"
  | output, _ => "capture.output must not be empty"
  | maxPackets, _ | durationSec, _ | defaultSnaplen, _ | maxCaptureLen, _ | readTimeoutMs, _ =>
    "invalid unsigned integer for capture option"
  | minSavedBytesPerPacket, _ => "invalid unsigned integer for [general]"
  | tlsEnabled, _ => "invalid boolean for tls.enabled"
  | tlsPorts, _ => "invalid port list for tls.ports"
  | appDataContinuationPolicy, text =>
    if parseTlsAppDataContinuationPolicy text = none then
      "invalid value for tls.app_data_continuation_policy; " ++
        "expected final_only, stream, or bulk"
    else
      "tls.app_data_continuation_policy values stream and bulk are not supported in " ++
        "PcapConstrictorWinPacket yet"
  | appDataKeepRecordBytes, _ | appDataContinuationKeepBytes, _ =>
    "invalid unsigned integer for [tls]"
  | quicEnabled, _ | requireDcidMatch, _ | allowShortHeaderWithoutKnownDcid, _ =>
    "invalid boolean for [quic]"
  | quicPorts, _ => "invalid port list for quic.ports"
  | shortHeaderKeepPacketBytes, _ => "invalid unsigned integer for [quic]"
  | statsEnabled, _ => "invalid boolean for stats.enabled"

/-- What is said of a value for a key that is no option's, in the section `sectionName`. -/
def unknownComplaint (sectionName : String) (text : Text) : String :=
  if sectionName ∉ ["capture", "general", "tls", "quic", "stats"] then "unknown section"
  else if sectionName ≠ "stats" ∧ parseUint32 text = none then
    if sectionName = "capture" then "invalid unsigned integer for capture option"
    else "invalid unsigned integer for [" ++ sectionName ++ "]"
  else "unknown key in [" ++ sectionName ++ "]"

/-- **What is refused**: the section and the key in lower case, the value and the message. -/
inductive Refuses : String × String → Text → String → Prop
  | value (s : Setting) {text : Text} : s.parse text = none → Refuses s.name text (s.complaint text)
  | unknown {name : String × String} {text : Text} : (∀ s : Setting, s.name ≠ name) →
      Refuses name text (unknownComplaint name.1 text)

variable {text : Text} {message : String}

/-- A text that denotes no value of an option is refused with its complaint. -/
theorem assignNormalized_of_parse_none {s : Setting} (h : s.parse text = none)
    (config : PolicyConfig) :
    assignNormalized config s.name.1 s.name.2 text = .error (s.complaint text) := by
  cases s
  case interface => cases h
  case appDataContinuationPolicy =>
    simp only [parse, parseSupportedPolicy] at h
    cases hpolicy : parseTlsAppDataContinuationPolicy text with
    | none => simp [assignNormalized, assignTls, name, complaint, hpolicy]
    | some policy =>
      have hother : policy ≠ .finalOnly := by
        rintro rfl
        rw [hpolicy] at h
        cases h
      simp [assignNormalized, assignTls, name, complaint, hpolicy, hother]
  all_goals
    simp only [parse] at h
    simp_all [assignNormalized, assignCapture, assignGeneral, assignTls, assignQuic, assignStats,
      parsePorts, name, complaint]

/-- A key that is no option's is refused. -/
theorem assignNormalized_of_unknown {name : String × String} (h : ∀ s : Setting, s.name ≠ name)
    (config : PolicyConfig) :
    assignNormalized config name.1 name.2 text = .error (unknownComplaint name.1 text) := by
  obtain ⟨sectionName, key⟩ := name
  have hne : ∀ s : Setting, s.name.1 = sectionName → key ≠ s.name.2 :=
    fun s hsection hkey => h s (Prod.ext hsection hkey.symm)
  by_cases hsection : sectionName ∈ ["capture", "general", "tls", "quic", "stats"]
  · simp only [List.mem_cons, List.not_mem_nil, or_false] at hsection
    rcases hsection with rfl | rfl | rfl | rfl | rfl
    · have hflags : key ≠ "backend" ∧ key ≠ "interface" ∧ key ≠ "promiscuous" ∧ key ≠ "output" :=
        ⟨hne backend rfl, hne interface rfl, hne promiscuous rfl, hne output rfl⟩
      have hcounts : key ≠ "max_packets" ∧ key ≠ "duration_sec" :=
        ⟨hne maxPackets rfl, hne durationSec rfl⟩
      have hlengths : key ≠ "default_snaplen" ∧ key ≠ "max_capture_len" ∧ key ≠ "read_timeout_ms" :=
        ⟨hne defaultSnaplen rfl, hne maxCaptureLen rfl, hne readTimeoutMs rfl⟩
      -- the numeric keys share one parse, whose failure comes before the name is looked at
      cases hparse : parseUint32 text <;>
        simp [assignNormalized, assignCapture, unknownComplaint, hflags, hcounts, hlengths, hparse]
    · have hkey : key ≠ "min_saved_bytes_per_packet" := hne minSavedBytesPerPacket rfl
      cases hparse : parseUint32 text <;>
        simp [assignNormalized, assignGeneral, unknownComplaint, hkey, hparse]
    · have hflags : key ≠ "enabled" ∧ key ≠ "ports" ∧ key ≠ "app_data_continuation_policy" :=
        ⟨hne tlsEnabled rfl, hne tlsPorts rfl, hne appDataContinuationPolicy rfl⟩
      have hlengths : key ≠ "app_data_keep_record_bytes" ∧
          key ≠ "app_data_continuation_keep_bytes" :=
        ⟨hne appDataKeepRecordBytes rfl, hne appDataContinuationKeepBytes rfl⟩
      cases hparse : parseUint32 text <;>
        simp [assignNormalized, assignTls, unknownComplaint, hflags, hlengths, hparse]
    · have hflags : key ≠ "enabled" ∧ key ≠ "require_dcid_match" ∧
          key ≠ "allow_short_header_without_known_dcid" ∧ key ≠ "ports" :=
        ⟨hne quicEnabled rfl, hne requireDcidMatch rfl, hne allowShortHeaderWithoutKnownDcid rfl,
          hne quicPorts rfl⟩
      have hlength : key ≠ "short_header_keep_packet_bytes" := hne shortHeaderKeepPacketBytes rfl
      cases hparse : parseUint32 text <;>
        simp [assignNormalized, assignQuic, unknownComplaint, hflags, hlength, hparse]
    · have hkey : key ≠ "enabled" := hne statsEnabled rfl
      simp [assignNormalized, assignStats, unknownComplaint, hkey]
  · have hsections : sectionName ≠ "capture" ∧ sectionName ≠ "general" ∧ sectionName ≠ "tls" ∧
        sectionName ≠ "quic" ∧ sectionName ≠ "stats" := by
      simpa only [List.mem_cons, List.not_mem_nil, or_false, not_or] using hsection
    simp [assignNormalized, unknownComplaint, hsections]

/-- **`AssignValue` refuses exactly this.** -/
theorem assignNormalized_eq_error {config : PolicyConfig} {name : String × String} :
    assignNormalized config name.1 name.2 text = .error message ↔ Refuses name text message := by
  constructor
  · intro h
    by_cases hknown : ∃ s : Setting, s.name = name
    · obtain ⟨s, rfl⟩ := hknown
      cases hparse : s.parse text with
      | none =>
        rw [assignNormalized_of_parse_none hparse] at h
        exact Except.error.inj h ▸ .value s hparse
      | some value =>
        rw [assignNormalized_of_parse hparse] at h
        cases h
    · have hunknown : ∀ s : Setting, s.name ≠ name := fun s hs => hknown ⟨s, hs⟩
      rw [assignNormalized_of_unknown hunknown] at h
      exact Except.error.inj h ▸ .unknown hunknown
  · intro h
    cases h with
    | value s hparse => exact assignNormalized_of_parse_none hparse config
    | unknown hunknown => exact assignNormalized_of_unknown hunknown config

end Setting

/-! ## Lines -/

/-- **What is wrong with a line** in the section `current`. -/
inductive Complains (current line : Text) : String → Prop
  | unterminated {rest : Text} : Cleaned line ('[' :: rest) → ('[' :: rest).getLast? ≠ some ']' →
      Complains current line "unterminated section header"
  | unnamed {inner : Text} : Cleaned line ('[' :: (inner ++ [']'])) → TrimsTo isSpace inner [] →
      Complains current line "empty section name"
  | noEquals {content : Text} : Cleaned line content → content ≠ [] → content.head? ≠ some '[' →
      '=' ∉ content → Complains current line "expected key = value"
  | noSection {left right : Text} : Cleaned line (left ++ '=' :: right) → left.head? ≠ some '[' →
      '=' ∉ left → current = [] → Complains current line "key/value found before any section"
  | noKey {left right : Text} : Cleaned line (left ++ '=' :: right) → '=' ∉ left →
      TrimsTo isSpace left [] → current ≠ [] → Complains current line "empty key"
  | refused {key text : Text} {message : String} : KeyValue line key text → current ≠ [] →
      Setting.Refuses (lowered current, lowered key) text message → Complains current line message

namespace ConfigLoader

variable {sourceName : String} {l : LoadLocals} {line : Text}

/-- The result of `LoadFromString` when it stops at the line behind `l`. -/
def LoadLocals.fail (l : LoadLocals) (sourceName message : String) : ConfigLoadResult where
  config := l.config
  error := formatError sourceName (l.lineNumber + 1) message

/-- A refused assignment is one that its setting refuses, with the message formatted. -/
theorem assignValue_eq_error {config : PolicyConfig} {lineNumber : ℕ} {current key text : Text}
    {error : String} :
    assignValue config sourceName lineNumber current key text = .error error
      ↔ ∃ message, Setting.Refuses (lowered current, lowered key) text message ∧
          error = formatError sourceName lineNumber message := by
  simp only [← @Setting.assignNormalized_eq_error _ _ config, assignValue]
  change (assignNormalized config (lowered current) (lowered key) text).mapError _ = _ ↔ _
  cases assignNormalized config (lowered current) (lowered key) text with
  | error details =>
    constructor
    · intro h
      exact ⟨details, rfl, (Except.error.inj h).symm⟩
    · rintro ⟨message, hmessage, rfl⟩
      rw [Except.error.inj hmessage]
      rfl
  | ok config =>
    refine iff_of_false (fun h => ?_) ?_
    · cases h
    · rintro ⟨message, hmessage, -⟩
      cases hmessage

/-- `find` fails when the character does not occur. -/
theorem find_eq_none {cleaned : Text} {ch : Char} : find cleaned ch 0 = none ↔ ch ∉ cleaned := by
  rw [find, List.drop_zero, Option.map_eq_none_iff, List.findIdx?_eq_none_iff]
  constructor
  · intro h hmem
    exact absurd (h ch hmem) (by simp)
  · intro h x hx
    exact beq_eq_false_iff_ne.mpr (ne_of_mem_of_not_mem hx h)

/-- White space does not open a header. -/
theorem head?_of_blank {text : Text} (h : TrimsTo isSpace text []) : text.head? ≠ some '[' := by
  obtain ⟨front, back, rfl, hfront, hback⟩ := h.padded
  intro hhead
  rcases List.mem_append.mp (List.mem_of_mem_head? hhead) with hmem | hmem
  · exact absurd (hfront _ hmem) (by decide)
  · exact absurd (hback _ hmem) (by decide)

/-- A line that stops the loader is bad. -/
theorem complains_of_loadLine {result : ConfigLoadResult}
    (h : loadLine sourceName l line = .error result) :
    ∃ message, Complains l.currentSection line message ∧ result = l.fail sourceName message := by
  unfold loadLine at h
  dsimp only at h
  have hcleaned : Cleaned line (stripInlineComment line) := cleaned_iff.mpr rfl
  generalize stripInlineComment line = cleaned at h hcleaned
  split at h
  · cases h
  next hne =>
  split at h
  · next hhead =>
    obtain ⟨rest, rfl⟩ := List.head?_eq_some_iff.mp hhead
    split at h
    · next hlast => exact ⟨_, .unterminated hcleaned hlast, (Except.error.inj h).symm⟩
    next hlast =>
    -- brackets at both ends: a header, unless its name is blank
    obtain ⟨inner, hinner⟩ := exists_header hhead (not_not.mp hlast)
    rw [hinner] at h hcleaned
    rw [substr_header] at h
    split at h
    · next hempty =>
      exact ⟨_, .unnamed hcleaned (trimsTo_iff.mpr hempty), (Except.error.inj h).symm⟩
    · cases h
  next hhead =>
  split at h
  · next hequals =>
    exact ⟨_, .noEquals hcleaned hne hhead (find_eq_none.mp hequals), (Except.error.inj h).symm⟩
  next equals hequals =>
  -- an assignment: the checks come in the order section, key, value
  obtain ⟨left, right, rfl, hnot, rfl⟩ := find_eq_some.mp hequals
  have hleft := (head?_append_equals left right).mp hhead
  rw [substr_left, drop_left_succ] at h
  split at h
  · next hcurrent => exact ⟨_, .noSection hcleaned hleft hnot hcurrent, (Except.error.inj h).symm⟩
  next hcurrent =>
  split at h
  · next hkey =>
    exact ⟨_, .noKey hcleaned hnot (trimsTo_iff.mpr hkey) hcurrent, (Except.error.inj h).symm⟩
  next hkey =>
  split at h
  · next error hassign =>
    obtain ⟨message, hrefuses, rfl⟩ := assignValue_eq_error.mp hassign
    refine ⟨message, .refused ?_ hcurrent hrefuses, (Except.error.inj h).symm⟩
    exact ⟨left, right, hcleaned, hleft, hnot, trimsTo_trim left, trimsTo_trim right, hkey⟩
  · cases h

/-- A bad line stops the loader. -/
theorem loadLine_of_complains {message : String} (h : Complains l.currentSection line message) :
    loadLine sourceName l line = .error (l.fail sourceName message) := by
  cases h with
  | @unterminated rest hcleaned hlast =>
    unfold loadLine
    dsimp only
    rw [cleaned_iff.mp hcleaned, if_neg (List.cons_ne_nil _ _), List.head?_cons, if_pos rfl,
      if_pos hlast]
    rfl
  | @unnamed inner hcleaned hempty =>
    have hlast : ('[' :: (inner ++ [']'])).getLast? = some ']' := by
      rw [← List.cons_append, List.getLast?_concat]
    unfold loadLine
    dsimp only
    rw [cleaned_iff.mp hcleaned, if_neg (List.cons_ne_nil _ _), List.head?_cons, if_pos rfl, hlast,
      if_neg (not_not.mpr rfl), substr_header, show trim inner = [] from trimsTo_iff.mp hempty,
      if_pos rfl]
    rfl
  | @noEquals content hcleaned hne hhead hnot =>
    unfold loadLine
    dsimp only
    rw [cleaned_iff.mp hcleaned, if_neg hne, if_neg hhead, find_eq_none.mpr hnot]
    rfl
  | @noSection left right hcleaned hhead hnot hcurrent =>
    have hequals : find (left ++ '=' :: right) '=' 0 = some left.length :=
      find_eq_some.mpr ⟨left, right, rfl, hnot, rfl⟩
    unfold loadLine
    dsimp only
    rw [cleaned_iff.mp hcleaned, if_neg (List.append_ne_nil_of_right_ne_nil _
      (List.cons_ne_nil _ _)), if_neg ((head?_append_equals left right).mpr hhead), hequals]
    dsimp only
    rw [if_pos hcurrent]
    rfl
  | @noKey left right hcleaned hnot hempty hcurrent =>
    have hequals : find (left ++ '=' :: right) '=' 0 = some left.length :=
      find_eq_some.mpr ⟨left, right, rfl, hnot, rfl⟩
    unfold loadLine
    dsimp only
    rw [cleaned_iff.mp hcleaned, if_neg (List.append_ne_nil_of_right_ne_nil _
      (List.cons_ne_nil _ _)),
      if_neg ((head?_append_equals left right).mpr (head?_of_blank hempty)), hequals]
    dsimp only
    rw [if_neg hcurrent, substr_left, if_pos (show trim left = [] from trimsTo_iff.mp hempty)]
    rfl
  | refused hpair hcurrent hrefuses =>
    rw [loadLine_of_keyValue hpair hcurrent, assignValue_eq_error.mpr ⟨_, hrefuses, rfl⟩]
    rfl

/-! ## Texts -/

/-- A fold that may fail stops at the first element that fails. -/
theorem foldlM_eq_error {ε α β : Type} {f : β → α → Except ε β} {xs : List α} {b : β} {e : ε} :
    xs.foldlM f b = .error e ↔ ∃ before x after b', xs = before ++ x :: after ∧
      before.foldlM f b = .ok b' ∧ f b' x = .error e := by
  induction xs generalizing b with
  | nil =>
    refine iff_of_false nofun ?_
    rintro ⟨before, x, after, -, hsplit, -⟩
    exact absurd hsplit.symm (List.append_ne_nil_of_right_ne_nil _ (List.cons_ne_nil _ _))
  | cons head xs ih =>
    rw [List.foldlM_cons]
    cases hhead : f b head with
    | error e' =>
      constructor
      · intro h
        exact ⟨[], head, xs, b, rfl, rfl, hhead.trans h⟩
      · -- the head fails already, so nothing can stand in front of the failing element
        rintro ⟨before, x, after, b', hsplit, hbefore, hx⟩
        cases before with
        | nil =>
          obtain ⟨rfl, -⟩ := List.cons.inj hsplit
          obtain rfl := Except.ok.inj hbefore
          exact hhead.symm.trans hx
        | cons first before =>
          obtain ⟨rfl, -⟩ := List.cons.inj hsplit
          rw [List.foldlM_cons, hhead] at hbefore
          cases hbefore
    | ok middle =>
      rw [show (Except.ok middle >>= fun b => xs.foldlM f b) = xs.foldlM f middle from rfl, ih]
      constructor
      · rintro ⟨before, x, after, b', rfl, hbefore, hx⟩
        refine ⟨head :: before, x, after, b', rfl, ?_, hx⟩
        rw [List.foldlM_cons, hhead]
        exact hbefore
      · rintro ⟨before, x, after, b', hsplit, hbefore, hx⟩
        cases before with
        | nil =>
          obtain ⟨rfl, -⟩ := List.cons.inj hsplit
          obtain rfl := Except.ok.inj hbefore
          cases hhead.symm.trans hx
        | cons first before =>
          obtain ⟨rfl, rfl⟩ := List.cons.inj hsplit
          rw [List.foldlM_cons, hhead] at hbefore
          exact ⟨before, x, after, b', rfl, hbefore, hx⟩

/-- The loop fails exactly at the first bad line. -/
theorem foldlM_loadLine_eq_error {lines : List Text} {result : ConfigLoadResult} :
    lines.foldlM (loadLine sourceName) {} = .error result
      ↔ ∃ before line after writes current message, lines = before ++ line :: after ∧
          Reads [] before writes current ∧ Complains current line message ∧
          result = { config := PolicyConfig.fields.writeAll {} writes
                     error := formatError sourceName (before.length + 1) message } := by
  rw [foldlM_eq_error]
  constructor
  · rintro ⟨before, line, after, l, rfl, hbefore, hline⟩
    obtain ⟨writes, hreads, hconfig, hnumber⟩ := foldlM_loadLine.mp hbefore
    obtain ⟨message, hcomplains, rfl⟩ := complains_of_loadLine hline
    refine ⟨before, line, after, writes, _, message, rfl, hreads, hcomplains, ?_⟩
    rw [LoadLocals.fail, hconfig, hnumber, Nat.zero_add]
  · rintro ⟨before, line, after, writes, current, message, rfl, hreads, hcomplains, rfl⟩
    have hbefore : before.foldlM (loadLine sourceName) {}
        = .ok ⟨PolicyConfig.fields.writeAll {} writes, current, before.length⟩ :=
      foldlM_loadLine.mpr ⟨writes, hreads, rfl, (Nat.zero_add _).symm⟩
    exact ⟨before, line, after, _, rfl, hbefore, loadLine_of_complains hcomplains⟩

/-- What is said of a configuration in which a length is zero. -/
inductive ZeroLength (config : PolicyConfig) : String → Prop
  | defaultSnaplen : config.capture.defaultSnaplen = 0 →
      ZeroLength config "capture.default_snaplen must be greater than 0"
  | maxCaptureLen : config.capture.defaultSnaplen ≠ 0 → config.capture.maxCaptureLen = 0 →
      ZeroLength config "capture.max_capture_len must be greater than 0"

/-- **The first error of a configuration.** A text is refused at its first bad line: the error names
this line and what is wrong with it, and the configuration is what the lines before it assign. A
text without a bad line is refused only if it leaves one of the two lengths zero, which is reported
for line 0. -/
theorem load_error_iff {text : Text} {config : PolicyConfig} {error : String} :
    loadFromString text sourceName = { config, error } ∧ error ≠ "" ↔
      (∃ before line after writes current message, getlines text = before ++ line :: after ∧
        Reads [] before writes current ∧ Complains current line message ∧
        config = PolicyConfig.fields.writeAll {} writes ∧
        error = formatError sourceName (before.length + 1) message) ∨
      ∃ writes last message, Reads [] (getlines text) writes last ∧
        config = PolicyConfig.fields.writeAll {} writes ∧ ZeroLength config message ∧
        error = formatError sourceName 0 message := by
  unfold loadFromString
  cases hload : (getlines text).foldlM (loadLine sourceName) {} with
  | error result =>
    have hbad := foldlM_loadLine_eq_error.mp hload
    constructor
    · rintro ⟨rfl, -⟩
      obtain ⟨before, line, after, writes, current, message, hsplit, hreads, hbad, heq⟩ := hbad
      obtain ⟨rfl, rfl⟩ := (ConfigLoadResult.mk.injEq ..).mp heq
      exact Or.inl ⟨before, line, after, writes, current, message, hsplit, hreads, hbad, rfl, rfl⟩
    · rintro (⟨before, line, after, writes, current, message, hsplit, hreads, hbad, rfl, rfl⟩ |
        ⟨writes, last, message, hreads, -⟩)
      · have heq := hload.symm.trans (foldlM_loadLine_eq_error.mpr
          ⟨before, line, after, writes, current, message, hsplit, hreads, hbad, rfl⟩)
        exact ⟨Except.error.inj heq, formatError_ne_empty _ _ _⟩
      · have hok : (getlines text).foldlM (loadLine sourceName) {} = .ok ⟨_, last, _⟩ :=
          foldlM_loadLine.mpr ⟨writes, hreads, rfl, rfl⟩
        cases hload.symm.trans hok
  | ok l =>
    -- every line was accepted, so the error is one of the two checks behind the loop
    obtain ⟨writes, hreads, hconfig, -⟩ := foldlM_loadLine.mp hload
    dsimp only
    constructor
    · intro h
      refine Or.inr ⟨writes, l.currentSection, ?_⟩
      split at h
      · next hsnaplen =>
        obtain ⟨rfl, rfl⟩ := (ConfigLoadResult.mk.injEq ..).mp h.1
        exact ⟨_, hreads, hconfig, .defaultSnaplen hsnaplen, rfl⟩
      next hsnaplen =>
      split at h
      · next hmax =>
        obtain ⟨rfl, rfl⟩ := (ConfigLoadResult.mk.injEq ..).mp h.1
        exact ⟨_, hreads, hconfig, .maxCaptureLen hsnaplen hmax, rfl⟩
      · obtain ⟨-, rfl⟩ := (ConfigLoadResult.mk.injEq ..).mp h.1
        exact absurd rfl h.2
    · rintro (⟨before, line, after, writes', current, message, hsplit, hreads', hbad, -⟩ |
        ⟨writes', last, message, hreads', rfl, hzero, rfl⟩)
      · cases hload.symm.trans (foldlM_loadLine_eq_error.mpr
          ⟨before, line, after, writes', current, message, hsplit, hreads', hbad, rfl⟩)
      · have hok : (getlines text).foldlM (loadLine sourceName) {} = .ok ⟨_, last, _⟩ :=
          foldlM_loadLine.mpr ⟨writes', hreads', rfl, rfl⟩
        obtain rfl := Except.ok.inj (hload.symm.trans hok)
        refine ⟨?_, formatError_ne_empty _ _ _⟩
        cases hzero with
        | defaultSnaplen hsnaplen => exact if_pos hsnaplen
        | maxCaptureLen hsnaplen hmax => exact (if_neg hsnaplen).trans (if_pos hmax)

end ConfigLoader

end PcapConstrictor
