import PcapConstrictor.Config.NonemptyOutput

/-!
# Configurations and their texts

`PolicyConfig.render` writes a configuration down, option by option, and the loader reads it back
(`load_render`). The configurations that can be written down are exactly those that a text can give
(`expressible_iff`): the usable ones whose two free texts are such as a line can hold.
-/

namespace PcapConstrictor

open Scanning

/-! ## Texts in a line -/

/-- A text that a line can assign: it has no white space at its ends, no line feed, and behind its
white space nothing that starts a comment. -/
structure Inline (text : Text) : Prop where
  trimmed : trim text = text
  oneLine : '\n' ∉ text
  uncommented : ∀ n, 0 < n → ¬ CommentAt text n

/-- A text without white space fits into a line. -/
theorem inline_of_solid {text : Text} (h : ∀ ch ∈ text, isSpace ch = false) : Inline text where
  trimmed := trim_of_clean (fun ch hch => h ch (List.mem_of_mem_head? hch))
    (fun ch hch => h ch (List.mem_of_mem_getLast? hch))
  oneLine hmem := absurd (h _ hmem) (by decide)
  uncommented := by
    rintro n hn ⟨-, hstart⟩
    obtain ⟨ch, hch, hspace⟩ := hstart.resolve_left (Nat.ne_of_gt hn)
    rw [h ch (List.mem_of_getElem? hch)] at hspace
    cases hspace

/-- A text without spaces survives comment stripping and trimming. -/
theorem inline_of_all {text : Text} (h : text.all (!isSpace ·)) : Inline text :=
  inline_of_solid (by simpa using h)

/-- The comment in a part of a text is one of the text. -/
theorem commentAt_middle {front text back : Text} {n : ℕ} (hn : 0 < n) (h : CommentAt text n) :
    CommentAt (front ++ (text ++ back)) (front.length + n) := by
  obtain ⟨hmark, hstart⟩ := h
  obtain ⟨ch, hch, hspace⟩ := hstart.resolve_left (Nat.ne_of_gt hn)
  have hget : ∀ m x, text[m]? = some x → (front ++ (text ++ back))[front.length + m]? = some x := by
    intro m x hx
    have hm : m < text.length := (List.getElem?_eq_some_iff.mp hx).1
    rw [List.getElem?_append_right (Nat.le_add_right _ _), Nat.add_sub_cancel_left,
      List.getElem?_append_left hm, hx]
  refine ⟨hmark.imp (hget n _) (hget n _), Or.inr ⟨ch, ?_, hspace⟩⟩
  rw [Nat.add_sub_assoc hn]
  exact hget (n - 1) ch hch

/-- What a line without a line feed assigns fits into a line. -/
theorem KeyValue.inline {line key text : Text} (h : KeyValue line key text) (hline : '\n' ∉ line) :
    Inline text := by
  obtain ⟨left, right, ⟨body, ⟨n, hn, rfl, hbefore, -⟩, hbody⟩, -, -, -, hright, -⟩ := h
  obtain ⟨front, back, hpadded, -, -⟩ := hbody.padded
  obtain ⟨front', back', rfl, -, -⟩ := hright.padded
  obtain ⟨before, after, hsplit⟩ : ∃ before after, line.take n = before ++ (text ++ after) :=
    ⟨front ++ (left ++ '=' :: front'), back' ++ back, by simpa using hpadded⟩
  refine ⟨?_, ?_, ?_⟩
  · rw [← trimsTo_iff.mp hright]
    exact Scanning.trim_trim _
  · intro hmem
    refine hline (List.mem_of_mem_take (i := n) ?_)
    rw [hsplit]
    exact List.mem_append_right _ (List.mem_append_left _ hmem)
  · intro m hm hcomment
    have hlength := congrArg List.length hsplit
    have hlt : m < text.length := by
      rcases hcomment.1 with h | h <;> exact (List.getElem?_eq_some_iff.mp h).1
    rw [List.length_append, List.length_append, List.length_take, Nat.min_eq_left hn] at hlength
    refine hbefore (before.length + m) (by omega) ?_
    rw [← List.take_append_drop n line, hsplit, List.append_assoc, List.append_assoc]
    exact commentAt_middle hm hcomment

/-! ## Writing values -/

/-- A flag as it is written in a file. -/
def renderBool : Bool → Text
  | true => "true".toList
  | false => "false".toList

/-- Ports as they are written in a file. -/
def renderPortList (ports : List UInt16) : Text :=
  [','].intercalate (ports.map fun port => Nat.toDigits 10 port.toNat)

theorem isDigit_of_mem_toDigits {n : ℕ} {ch : Char} (h : ch ∈ Nat.toDigits 10 n) : ch.isDigit :=
  Nat.isDigit_of_mem_toDigits (by decide) (by decide) h

/-- Decimal notation denotes its number. -/
theorem numeral_toDigits (n : ℕ) : Numeral (Nat.toDigits 10 n) n := by
  refine ⟨_, trimsTo_iff.mpr (trim_of_clean ?_ ?_), ?_, fun ch => isDigit_of_mem_toDigits,
    Nat.ofDigitChars_ten_toDigits⟩
  · exact fun ch hch =>
      not_isSpace_of_isDigit (isDigit_of_mem_toDigits (List.mem_of_mem_head? hch))
  · exact fun ch hch =>
      not_isSpace_of_isDigit (isDigit_of_mem_toDigits (List.mem_of_mem_getLast? hch))
  · exact List.ne_nil_of_length_pos Nat.length_toDigits_pos

theorem parseBool_renderBool (flag : Bool) : parseBool (renderBool flag) = some flag := by
  cases flag <;> decide

theorem parseUint32_toDigits (n : UInt32) : parseUint32 (Nat.toDigits 10 n.toNat) = some n :=
  parseUint32_eq_some.mpr (numeral_toDigits n.toNat)

theorem parseUint64_toDigits (n : UInt64) : parseUint64 (Nat.toDigits 10 n.toNat) = some n := by
  rw [parseUint64, Option.map_eq_some_iff]
  exact ⟨n.toNat, parseUint_eq_some.mpr ⟨numeral_toDigits n.toNat, n.toNat_lt⟩, UInt64.ofNat_toNat⟩

/-- A nonempty port list is read back. -/
theorem parsePortsLoop_renderPortList {ports : List UInt16} (h : ports ≠ []) :
    parsePortsLoop (renderPortList ports) 0 [] = some ports := by
  refine @Setting.parsePortsLoop_of_parsePorts _ [] _ (parsePorts_eq_true.mpr ?_)
  rw [renderPortList, List.splitOn_intercalate ',' ?_ (mt List.map_eq_nil_iff.mp h),
    List.forall₂_map_left_iff, List.forall₂_same]
  · exact fun port _ => numeral_toDigits port.toNat
  · intro piece hpiece
    obtain ⟨port, -, rfl⟩ := List.mem_map.mp hpiece
    exact fun hmem => absurd (isDigit_of_mem_toDigits hmem) (by decide)

theorem solid_toDigits (n : ℕ) : ∀ ch ∈ Nat.toDigits 10 n, isSpace ch = false :=
  fun _ hch => not_isSpace_of_isDigit (isDigit_of_mem_toDigits hch)

/-- Commas between pieces without spaces bring no space. -/
theorem solid_intercalate {pieces : List Text}
    (h : ∀ piece ∈ pieces, ∀ ch ∈ piece, isSpace ch = false) :
    ∀ ch ∈ [','].intercalate pieces, isSpace ch = false := by
  induction pieces with
  | nil => exact nofun
  | cons piece pieces ih =>
    rw [List.forall_mem_cons] at h
    cases pieces with
    | nil =>
      rw [List.intercalate_singleton]
      exact h.1
    | cons next pieces =>
      rw [List.intercalate_cons_cons]
      intro ch hch
      simp only [List.mem_append, List.mem_singleton] at hch
      rcases hch with (hch | rfl) | hch
      · exact h.1 ch hch
      · rfl
      · exact ih h.2 ch hch

/-- There is no space in a rendered port list. -/
theorem solid_renderPortList (ports : List UInt16) :
    ∀ ch ∈ renderPortList ports, isSpace ch = false := by
  refine solid_intercalate fun piece hpiece => ?_
  obtain ⟨port, -, rfl⟩ := List.mem_map.mp hpiece
  exact solid_toDigits port.toNat

namespace Setting

/-- The free texts are such as a line can hold. -/
def Written : (s : Setting) → s.Value → Prop
  | interface, name => Inline (String.toList name)
  | output, path => Inline (String.toList path)
  | _, _ => True

/-- A value as it is written in a file. -/
def render : (s : Setting) → s.Value → Text
  | backend, _ => "npcap".toList
  | interface, name => String.toList name
  | output, path => String.toList path
  | promiscuous, flag => renderBool flag
  | tlsEnabled, flag => renderBool flag
  | quicEnabled, flag => renderBool flag
  | requireDcidMatch, flag => renderBool flag
  | allowShortHeaderWithoutKnownDcid, flag => renderBool flag
  | statsEnabled, flag => renderBool flag
  | maxPackets, n => Nat.toDigits 10 (UInt64.toNat n)
  | durationSec, n => Nat.toDigits 10 (UInt64.toNat n)
  | defaultSnaplen, n => Nat.toDigits 10 (UInt32.toNat n)
  | maxCaptureLen, n => Nat.toDigits 10 (UInt32.toNat n)
  | readTimeoutMs, n => Nat.toDigits 10 (UInt32.toNat n)
  | minSavedBytesPerPacket, n => Nat.toDigits 10 (UInt32.toNat n)
  | appDataKeepRecordBytes, n => Nat.toDigits 10 (UInt32.toNat n)
  | appDataContinuationKeepBytes, n => Nat.toDigits 10 (UInt32.toNat n)
  | shortHeaderKeepPacketBytes, n => Nat.toDigits 10 (UInt32.toNat n)
  | tlsPorts, ports => renderPortList ports
  | quicPorts, ports => renderPortList ports
  | appDataContinuationPolicy, _ => "final_only".toList

/-- What is written is read back. -/
theorem parse_render {s : Setting} {value : s.Value} (h : s.Assignable value)
    (hwritten : s.Written value) : s.parse (s.render value) = some value := by
  cases s
  case backend =>
    have hbackend : String.ofList (toLower (trim "npcap".toList)) = "npcap" := by
      decide +kernel
    have hparse : backend.parse "npcap".toList = some .npcap := by
      simp only [parse, hbackend, if_true]
    cases value
    exact hparse
  case interface =>
    exact congrArg some ((congrArg _ hwritten.trimmed).trans String.ofList_toList)
  case output =>
    have hne : trim (String.toList value) ≠ [] := by
      rw [hwritten.trimmed]
      exact mt String.toList_eq_nil_iff.mp h
    exact (if_neg hne).trans
      (congrArg some ((congrArg _ hwritten.trimmed).trans String.ofList_toList))
  case appDataContinuationPolicy =>
    obtain rfl : value = .finalOnly := h
    have hparse : parseTlsAppDataContinuationPolicy "final_only".toList = some .finalOnly := by
      decide +kernel
    exact parseSupportedPolicy_eq_some.mpr ⟨hparse, rfl⟩
  case tlsPorts => exact parsePortsLoop_renderPortList h
  case quicPorts => exact parsePortsLoop_renderPortList h
  -- flags and numbers
  all_goals
    first
    | exact parseBool_renderBool value
    | exact parseUint32_toDigits value
    | exact parseUint64_toDigits value

/-- What is written fits into a line. -/
theorem inline_render {s : Setting} {value : s.Value} (hwritten : s.Written value) :
    Inline (s.render value) := by
  cases s
  case interface => exact hwritten
  case output => exact hwritten
  case backend =>
    exact inline_of_all (show "npcap".toList.all (!isSpace ·) by decide)
  case appDataContinuationPolicy =>
    exact inline_of_all (show "final_only".toList.all (!isSpace ·) by decide)
  case tlsPorts => exact inline_of_solid (solid_renderPortList _)
  case quicPorts => exact inline_of_solid (solid_renderPortList _)
  all_goals
    first
    | exact inline_of_solid (solid_toDigits _)
    | cases value <;> exact inline_of_all (by decide)

end Setting

/-! ## Writing lines -/

/-- The header of the section `name`. -/
def headerLine (name : String) : Text := '[' :: (name.toList ++ [']'])

/-- The line that assigns `value` to `key`. -/
def assignmentLine (key : String) (value : Text) : Text := key.toList ++ '=' :: value

/-- A word can stand in front of an assignment and in a header. -/
structure Word (word : String) : Prop where
  nonempty : word.toList ≠ []
  plain : ∀ ch ∈ word.toList, isSpace ch = false ∧ ch ≠ ';' ∧ ch ≠ '#' ∧ ch ≠ '=' ∧ ch ≠ '['

/-- The names of the options are words in lower case. -/
theorem Setting.name_words (s : Setting) :
    Word s.name.1 ∧ Word s.name.2 ∧ lowered s.name.1.toList = s.name.1 ∧
      lowered s.name.2.toList = s.name.2 := by
  cases s <;>
    refine ⟨⟨?_, List.forall_iff_forall_mem.mp ?_⟩, ⟨?_, List.forall_iff_forall_mem.mp ?_⟩, ?_, ?_⟩
  all_goals decide +kernel

/-- A word is what is left of it between white space. -/
theorem Word.trimsTo {word : String} (h : Word word) :
    TrimsTo isSpace word.toList word.toList :=
  trimsTo_iff.mpr (inline_of_solid fun ch hch => (h.plain ch hch).1).trimmed

/-- A line without a comment and without white space at its ends stays as it is. -/
theorem cleaned_self {line : Text} (hcomment : ∀ n, ¬ CommentAt line n) (htrim : trim line = line) :
    Cleaned line line :=
  ⟨line, ⟨line.length, le_rfl, List.take_length.symm, fun j _ => hcomment j, Or.inl rfl⟩,
    trimsTo_iff.mpr htrim⟩

/-- The header line of a section is read as that header. -/
theorem sectionHeader_headerLine {name : String} (h : Word name) :
    SectionHeader (headerLine name) name.toList := by
  have hsolid : ∀ ch ∈ headerLine name, isSpace ch = false := by
    intro ch hch
    rcases List.mem_cons.mp hch with rfl | hch
    · rfl
    rcases List.mem_append.mp hch with hch | hch
    · exact (h.plain ch hch).1
    · rw [List.mem_singleton.mp hch]
      rfl
  have hinline := inline_of_solid hsolid
  refine ⟨name.toList, cleaned_self ?_ hinline.trimmed, h.trimsTo, h.nonempty⟩
  intro n
  cases n with
  | zero => exact fun hcomment => absurd hcomment.1 (by simp [headerLine])
  | succ n => exact hinline.uncommented _ (Nat.succ_pos n)

/-- There is no comment in an assignment: a comment behind the key would stand in the value. -/
theorem not_commentAt_assignmentLine {key : String} {value : Text} (hkey : Word key)
    (hvalue : Inline value) (n : ℕ) : ¬ CommentAt (assignmentLine key value) n := by
  rintro ⟨hmark, hstart⟩
  -- a word and the equals sign hold no comment mark
  have hfront : ∀ m ch, m < key.toList.length + 1 → (assignmentLine key value)[m]? = some ch →
      isSpace ch = false ∧ ch ≠ ';' ∧ ch ≠ '#' := by
    intro m ch hm hch
    rw [assignmentLine] at hch
    by_cases hlt : m < key.toList.length
    · rw [List.getElem?_append_left hlt] at hch
      obtain ⟨hspace, hsemicolon, hhash, -⟩ := hkey.plain ch (List.mem_of_getElem? hch)
      exact ⟨hspace, hsemicolon, hhash⟩
    · obtain rfl : m = key.toList.length := by omega
      rw [List.getElem?_append_right le_rfl, Nat.sub_self] at hch
      obtain rfl := Option.some.inj hch
      decide
  rcases Nat.lt_or_ge n (key.toList.length + 1) with hlt | hge
  · rcases hmark with h | h
    · exact (hfront n _ hlt h).2.1 rfl
    · exact (hfront n _ hlt h).2.2 rfl
  · obtain ⟨ch, hch, hspace⟩ := hstart.resolve_left (by omega)
    have hbehind : ∀ m, (assignmentLine key value)[key.toList.length + 1 + m]? = value[m]? := by
      intro m
      rw [assignmentLine, List.getElem?_append_right (by omega), Nat.add_assoc,
        Nat.add_sub_cancel_left, Nat.add_comm 1 m, List.getElem?_cons_succ]
    obtain ⟨m, rfl⟩ := Nat.exists_eq_add_of_le hge
    rcases Nat.eq_zero_or_pos m with rfl | hm
    · -- the value's first character stands behind the equals sign, not behind a space
      have hsolid := (hfront _ ch (by omega) hch).1
      rw [hsolid] at hspace
      cases hspace
    · rw [Nat.add_sub_assoc hm, hbehind] at hch
      rw [hbehind] at hmark
      exact hvalue.uncommented m hm ⟨hmark, Or.inr ⟨ch, hch, hspace⟩⟩

/-- An assignment line has nothing to trim. -/
theorem trim_assignmentLine {key : String} {value : Text} (hkey : Word key)
    (hvalue : Inline value) : trim (assignmentLine key value) = assignmentLine key value := by
  refine trim_of_clean ?_ ?_
  · intro ch hch
    rw [assignmentLine, List.head?_append_of_ne_nil _ hkey.nonempty] at hch
    exact (hkey.plain ch (List.mem_of_mem_head? hch)).1
  · intro ch hch
    rw [assignmentLine, List.getLast?_append_of_ne_nil _ (List.cons_ne_nil _ _),
      List.getLast?_cons] at hch
    obtain rfl := Option.some.inj hch
    cases hlast : value.getLast? with
    | none => rfl
    | some last => exact (trimsTo_iff.mpr hvalue.trimmed).last last hlast

/-- An assignment line is read as that assignment. -/
theorem keyValue_assignmentLine {key : String} {value : Text} (hkey : Word key)
    (hvalue : Inline value) : KeyValue (assignmentLine key value) key.toList value := by
  refine ⟨key.toList, value, cleaned_self (not_commentAt_assignmentLine hkey hvalue)
    (trim_assignmentLine hkey hvalue), ?_, ?_, hkey.trimsTo, trimsTo_iff.mpr hvalue.trimmed,
    hkey.nonempty⟩
  · intro hhead
    exact (hkey.plain _ (List.mem_of_mem_head? hhead)).2.2.2.2 rfl
  · intro hmem
    exact (hkey.plain _ hmem).2.2.2.1 rfl

/-- A word stays on its line. -/
theorem lineFeed_not_mem_word {word : String} (h : Word word) : '\n' ∉ word.toList :=
  fun hmem => absurd (h.plain _ hmem).1 (by decide)

/-! ## Writing configurations -/

/-- A configuration that a text can give. -/
structure PolicyConfig.Expressible (config : PolicyConfig) : Prop extends config.Usable where
  interface : Inline config.capture.interface.toList
  output_inline : Inline config.capture.output.toList

namespace Setting

/-- The options of a configuration file, in order. -/
def all : List Setting :=
  [backend, interface, promiscuous, output, maxPackets, durationSec, defaultSnaplen, maxCaptureLen,
    readTimeoutMs, minSavedBytesPerPacket, tlsEnabled, tlsPorts, appDataContinuationPolicy,
    appDataKeepRecordBytes, appDataContinuationKeepBytes, quicEnabled, requireDcidMatch,
    allowShortHeaderWithoutKnownDcid, quicPorts, shortHeaderKeepPacketBytes, statsEnabled]

/-- The list of settings is complete. -/
theorem mem_all (s : Setting) : s ∈ all := by
  cases s <;> decide

/-- The lines that give an option its value. -/
def lines (write : Fields.Write Value) : List Text :=
  [headerLine write.1.name.1, assignmentLine write.1.name.2 (write.1.render write.2)]

/-- The values of an expressible configuration can be written. -/
theorem written_of_expressible {config : PolicyConfig} (h : config.Expressible) (s : Setting) :
    s.Assignable (s.get config) ∧ s.Written (s.get config) := by
  cases s
  case interface => exact ⟨trivial, h.interface⟩
  case output => exact ⟨h.output, h.output_inline⟩
  case tlsPorts => exact ⟨h.tlsPorts, trivial⟩
  case quicPorts => exact ⟨h.quicPorts, trivial⟩
  case appDataContinuationPolicy => exact ⟨h.appDataContinuationPolicy, trivial⟩
  all_goals exact ⟨trivial, trivial⟩

end Setting

/-- A configuration as a text. -/
def PolicyConfig.render (config : PolicyConfig) : Text :=
  ((Setting.all.map fun s => ⟨s, s.get config⟩).flatMap Setting.lines).flatMap (· ++ ['\n'])

/-- The lines of the options are read as their values. -/
theorem reads_lines (current : Text) {writes : List (Fields.Write Setting.Value)}
    (h : ∀ write ∈ writes, write.1.Assignable write.2 ∧ write.1.Written write.2) :
    ∃ last, Reads current (writes.flatMap Setting.lines) writes last := by
  induction writes generalizing current with
  | nil => exact ⟨current, .nil current⟩
  | cons write writes ih =>
    rw [List.forall_mem_cons] at h
    obtain ⟨⟨hassignable, hwritten⟩, hwrites⟩ := h
    obtain ⟨hsection, hkey, hsectionName, hkeyName⟩ := write.1.name_words
    obtain ⟨last, hreads⟩ := ih write.1.name.1.toList hwrites
    have hname : write.1.name = (lowered write.1.name.1.toList, lowered write.1.name.2.toList) := by
      rw [hsectionName, hkeyName]
    exact ⟨last, .header (sectionHeader_headerLine hsection)
      (.assignment (keyValue_assignmentLine hkey (Setting.inline_render hwritten)) hsection.nonempty
        hname (Setting.parse_render hassignable hwritten) hreads)⟩

/-- The lines of the options are lines. -/
theorem lineFeed_not_mem_lines {writes : List (Fields.Write Setting.Value)}
    (h : ∀ write ∈ writes, write.1.Written write.2) :
    ∀ line ∈ writes.flatMap Setting.lines, '\n' ∉ line := by
  intro line hline
  obtain ⟨write, hwrite, hline⟩ := List.mem_flatMap.mp hline
  obtain ⟨hsection, hkey, -⟩ := write.1.name_words
  have hvalue := (Setting.inline_render (h write hwrite)).oneLine
  rcases List.mem_pair.mp hline with rfl | rfl
  · simp [headerLine, lineFeed_not_mem_word hsection]
  · simp [assignmentLine, lineFeed_not_mem_word hkey, hvalue]

/-- A line assigns what a line can hold. -/
theorem Setting.written_of_parse {s : Setting} {text : Text} {value : s.Value}
    (h : s.parse text = some value) (htext : Inline text) : s.Written value := by
  cases s
  case interface =>
    obtain rfl := Option.some.inj h
    change Inline (String.ofList (trim text)).toList
    rwa [String.toList_ofList, htext.trimmed]
  case output =>
    simp only [parse, Option.ite_none_left_eq_some] at h
    obtain rfl := Option.some.inj h.2
    change Inline (String.ofList (trim text)).toList
    rwa [String.toList_ofList, htext.trimmed]
  all_goals trivial

/-- The values that are read from lines fit on a line. -/
theorem Reads.written {current last : Text} {lines : List Text}
    {writes : List (Fields.Write Setting.Value)} (h : Reads current lines writes last)
    (hlines : ∀ line ∈ lines, '\n' ∉ line) : ∀ write ∈ writes, write.1.Written write.2 := by
  induction h with
  | nil => exact nofun
  | blank _ _ ih => exact ih (List.forall_mem_cons.mp hlines).2
  | header _ _ ih => exact ih (List.forall_mem_cons.mp hlines).2
  | assignment hline _ _ hvalue _ ih =>
    obtain ⟨hfirst, hrest⟩ := List.forall_mem_cons.mp hlines
    exact List.forall_mem_cons.mpr
      ⟨Setting.written_of_parse hvalue (hline.inline hfirst), ih hrest⟩

/-- The defaults can be written. -/
theorem Setting.written_default (s : Setting) : s.Written (s.get {}) := by
  cases s
  case interface => exact inline_of_all (show "".toList.all (!isSpace ·) by decide)
  case output =>
    exact inline_of_all (show "output.pcap".toList.all (!isSpace ·) by decide)
  all_goals trivial

namespace ConfigLoader

/-- A result without an error is its configuration. -/
theorem eq_of_ok {text : Text} {sourceName : String} {config : PolicyConfig}
    (hok : (loadFromString text sourceName).ok = true)
    (hconfig : (loadFromString text sourceName).config = config) :
    loadFromString text sourceName = { config } := by
  have herror : (loadFromString text sourceName).error = "" := beq_iff_eq.mp hok
  rw [← hconfig, ← herror]

/-- **What is rendered is read back.** -/
theorem load_render {config : PolicyConfig} (h : config.Expressible) (sourceName : String) :
    loadFromString config.render sourceName = { config } := by
  have hwritten : ∀ write ∈ Setting.all.map fun s => (⟨s, s.get config⟩ : Fields.Write _),
      write.1.Assignable write.2 ∧ write.1.Written write.2 := by
    intro write hwrite
    obtain ⟨s, -, rfl⟩ := List.mem_map.mp hwrite
    exact Setting.written_of_expressible h s
  have hlines := terminated_flatMap (lineFeed_not_mem_lines fun write hwrite =>
    (hwritten write hwrite).2)
  obtain ⟨last, hreads⟩ := reads_lines [] hwritten
  have hcopy : PolicyConfig.fields.writeAll {} (Setting.all.map fun s => ⟨s, s.get config⟩)
      = config := PolicyConfig.fields.writeAll_copy Setting.mem_all {} config
  have hload := (@loadFromString_ok_iff sourceName config.render config).mpr
    ⟨_, last, by rwa [PolicyConfig.render, getlines, hlines], hcopy.symm,
      fun hzero => absurd h.defaultSnaplen (by rw [hzero]; decide),
      fun hzero => absurd h.maxCaptureLen (by rw [hzero]; decide)⟩
  exact eq_of_ok hload.1 hload.2

/-- **Which configurations a text can give.** The expressible ones: what the loader accepts is
expressible, and every expressible configuration is read back from its rendering. -/
theorem expressible_iff (config : PolicyConfig) (sourceName : String) :
    ((∃ text, loadFromString text sourceName = { config }) ↔ config.Expressible) ∧
    (loadFromString config.render sourceName = { config } ↔ config.Expressible) := by
  have hexpressible : ∀ text, loadFromString text sourceName = { config } →
      config.Expressible := by
    intro text hload
    have hok : (loadFromString text sourceName).ok = true := by
      rw [hload]
      rfl
    have husable := usable_of_ok hok
    obtain ⟨writes, last, hreads, rfl, -, -⟩ :=
      loadFromString_ok_iff.mp ⟨hok, congrArg ConfigLoadResult.config hload⟩
    rw [hload] at husable
    have hwritten : ∀ s : Setting,
        s.Written (s.get (PolicyConfig.fields.writeAll {} writes)) :=
      PolicyConfig.fields.forall_get_writeAll Setting.written_default
        (hreads.written fun _ hline => (subset_of_mem_terminated hline).1)
    exact ⟨husable, hwritten .interface, hwritten .output⟩
  refine ⟨⟨fun ⟨text, hload⟩ => hexpressible text hload, fun h => ⟨config.render, ?_⟩⟩,
    hexpressible config.render, ?_⟩
  · exact load_render h sourceName
  · exact fun h => load_render h sourceName

end ConfigLoader

end PcapConstrictor
