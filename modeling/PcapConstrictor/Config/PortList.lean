import Mathlib.Data.List.Forall2
import PcapConstrictor.Config.ConfigLoader

/-!
# Port lists

`ParsePorts` accepts the lists of decimal port numbers that commas separate and white space may
surround, and leaves the ports alone otherwise (`parsePorts_grammar`).
-/

namespace PcapConstrictor

open Scanning

/-! ## Numbers -/

/-- The text is a number in decimal digits with white space around it. -/
def Numeral (text : Text) (number : ℕ) : Prop :=
  ∃ digits, TrimsTo isSpace text digits ∧ digits ≠ [] ∧ (∀ ch ∈ digits, ch.isDigit) ∧
    Nat.ofDigitChars 10 digits 0 = number

/-- A text of digits is read to its end, and fits or is out of range. -/
theorem fromChars_of_digits {size : ℕ} {digits : Text} (hne : digits ≠ [])
    (hdigits : ∀ ch ∈ digits, ch.isDigit) :
    fromChars size digits =
      if Nat.ofDigitChars 10 digits 0 < size then
        { value := Nat.ofDigitChars 10 digits 0, ptr := [] }
      else
        { ec := some .resultOutOfRange, ptr := [] } := by
  unfold fromChars
  dsimp only
  rw [List.takeWhile_eq_self_iff.mpr hdigits, List.dropWhile_eq_nil_iff.mpr hdigits, if_neg hne]

/-- `std::from_chars` reads a text to its end without an error only if it is made of digits. -/
theorem digits_of_fromChars {size : ℕ} {text : Text} (hec : (fromChars size text).ec = none)
    (hptr : (fromChars size text).ptr = []) : text ≠ [] ∧ ∀ ch ∈ text, ch.isDigit := by
  unfold fromChars at hec hptr
  dsimp only at hec hptr
  split at hec
  · cases hec
  next hne =>
  have hdrop : text.dropWhile Char.isDigit = [] := by
    rw [if_neg hne] at hptr
    split at hptr <;> exact hptr
  refine ⟨?_, List.dropWhile_eq_nil_iff.mp hdrop⟩
  rintro rfl
  exact hne rfl

/-- **Unsigned integers are parsed exactly**: signs, trailing text and overflow are refused. -/
theorem parseUint_eq_some {size : ℕ} {value : Text} {number : ℕ} :
    parseUint size value = some number ↔ Numeral value number ∧ number < size := by
  unfold parseUint
  dsimp only
  constructor
  · intro h
    split at h
    · cases h
    split at h
    · cases h
    next hresult =>
    simp only [not_or, not_not] at hresult
    obtain ⟨hne, hdigits⟩ := digits_of_fromChars hresult.1 hresult.2
    rw [fromChars_of_digits hne hdigits] at h hresult
    split at h
    · next hlt =>
      obtain rfl := Option.some.inj h
      exact ⟨⟨trim value, trimsTo_trim value, hne, hdigits, rfl⟩, hlt⟩
    · next hlt =>
      rw [if_neg hlt] at hresult
      cases hresult.1
  · rintro ⟨⟨digits, htrim, hne, hdigits, rfl⟩, hlt⟩
    obtain rfl : trim value = digits := trimsTo_iff.mp htrim
    rw [if_neg hne, fromChars_of_digits hne hdigits, if_pos hlt]
    exact if_neg (by simp)

/-- `parseUint32` reads exactly the numerals of 32-bit numbers. -/
theorem parseUint32_eq_some {value : Text} {number : UInt32} :
    parseUint32 value = some number ↔ Numeral value number.toNat := by
  rw [parseUint32, Option.map_eq_some_iff]
  constructor
  · rintro ⟨n, hn, rfl⟩
    obtain ⟨hnumeral, hlt⟩ := parseUint_eq_some.mp hn
    rw [UInt32.toNat_ofNat', Nat.mod_eq_of_lt hlt]
    exact hnumeral
  · intro h
    exact ⟨number.toNat, parseUint_eq_some.mpr ⟨h, number.toNat_lt⟩, UInt32.ofNat_toNat⟩

/-! ## Pieces -/

/-- The piece of a port list denotes the port. -/
def Denotes (piece : Text) (port : UInt16) : Prop := Numeral piece port.toNat

/-- What the loop of `ParsePorts` makes of one piece. -/
def parsePort (piece : Text) : Option UInt16 :=
  let token := trim piece
  if token = [] then none
  else
    match parseUint32 token with
    | none => none
    | some parsedPort => if parsedPort > 65535 then none else some parsedPort.toUInt16

/-- Spaces around a numeral do not matter. -/
theorem numeral_trim {text : Text} {number : ℕ} :
    Numeral (trim text) number ↔ Numeral text number := by
  simp only [Numeral, trimsTo_iff, trim, Scanning.trim_trim]

/-- `parsePort` reads exactly the pieces that denote a port. -/
theorem parsePort_eq_some {piece : Text} {port : UInt16} :
    parsePort piece = some port ↔ Denotes piece port := by
  unfold parsePort Denotes
  dsimp only
  constructor
  · intro h
    split at h
    · cases h
    split at h
    · cases h
    next parsedPort hparsed =>
    split at h
    · cases h
    next hle =>
    obtain rfl := Option.some.inj h
    -- the narrowing to 16 bits is behind the comparison
    rw [gt_iff_lt, UInt32.lt_iff_toNat_lt, show (65535 : UInt32).toNat = 65535 from rfl] at hle
    rw [UInt32.toNat_toUInt16, Nat.mod_eq_of_lt (by omega)]
    exact numeral_trim.mp (parseUint32_eq_some.mp hparsed)
  · intro h
    have hne : trim piece ≠ [] := by
      obtain ⟨digits, htrim, hne, -⟩ := h
      rw [trim, trimsTo_iff.mp htrim]
      exact hne
    have hlt := port.toNat_lt
    have hparsed : parseUint32 (trim piece) = some port.toUInt32 :=
      parseUint32_eq_some.mpr (numeral_trim.mpr (by rwa [UInt16.toNat_toUInt32]))
    rw [if_neg hne, hparsed]
    dsimp only
    rw [if_neg, UInt16.toUInt16_toUInt32]
    rw [gt_iff_lt, UInt32.lt_iff_toNat_lt, UInt16.toNat_toUInt32,
      show (65535 : UInt32).toNat = 65535 from rfl]
    omega

/-! ## The loop -/

section Loop

variable {value : Text} {start : ℕ} (hstart : start ≤ value.length) (parsedPorts : List UInt16)
include hstart

/-- Without a comma ahead, the loop ends behind the piece. -/
theorem parsePortsLoop_of_none (hcomma : find value ',' start = none) :
    parsePortsLoop value start parsedPorts
      = (parsePort (value.drop start)).map (parsedPorts ++ [·]) := by
  have hpiece : substr value start (value.length - start) = value.drop start :=
    List.take_of_length_le (List.length_drop ..).le
  rw [parsePortsLoop, if_pos hstart]
  unfold parsePort
  simp only [hcomma, hpiece]
  by_cases hempty : trim (value.drop start) = []
  · rw [if_pos hempty, if_pos hempty]
    rfl
  rw [if_neg hempty, if_neg hempty]
  cases parseUint32 (trim (value.drop start)) with
  | none => rfl
  | some parsedPort =>
    by_cases hlarge : parsedPort > 65535
    · simp only [if_pos hlarge]
      rfl
    · simp only [if_neg hlarge]
      split
      · rfl
      · next heq =>
        rw [hcomma] at heq
        cases heq

/-- Up to a comma, the loop reads one piece and goes on behind it. -/
theorem parsePortsLoop_of_some {comma : ℕ} (hcomma : find value ',' start = some comma) :
    parsePortsLoop value start parsedPorts
      = (parsePort (substr value start (comma - start))).bind fun port =>
          parsePortsLoop value (comma + 1) (parsedPorts ++ [port]) := by
  rw [parsePortsLoop, if_pos hstart]
  unfold parsePort
  simp only [hcomma]
  by_cases hempty : trim (substr value start (comma - start)) = []
  · rw [if_pos hempty, if_pos hempty]
    rfl
  rw [if_neg hempty, if_neg hempty]
  cases parseUint32 (trim (substr value start (comma - start))) with
  | none => rfl
  | some parsedPort =>
    by_cases hlarge : parsedPort > 65535
    · simp only [if_pos hlarge]
      rfl
    · simp only [if_neg hlarge]
      split
      · next heq =>
        rw [hcomma] at heq
        cases heq
      · next heq =>
        rw [hcomma] at heq
        cases heq
        rfl

end Loop

/-- **The loop reads the pieces between the commas**, one after the other. -/
theorem parsePortsLoop_eq {value : Text} {start : ℕ} (hstart : start ≤ value.length)
    (parsedPorts : List UInt16) :
    parsePortsLoop value start parsedPorts
      = (((value.drop start).splitOn ',').mapM parsePort).map (parsedPorts ++ ·) := by
  -- what is left of the text shrinks with each piece
  induction hn : value.length - start using Nat.strong_induction_on
    generalizing start parsedPorts with
  | _ n ih =>
    rw [splitOn_of_findIdx?]
    cases hindex : (value.drop start).findIdx? (· == ',') with
    | none =>
      have hcomma : find value ',' start = none := by
        rw [find, hindex]
        rfl
      rw [parsePortsLoop_of_none hstart parsedPorts hcomma]
      cases h : parsePort (value.drop start) <;> simp [h]
    | some index =>
      have hcomma : find value ',' start = some (start + index) := by
        rw [find, hindex]
        rfl
      have hlt : start + index < value.length := by
        have hlt := (List.findIdx?_eq_some_iff_getElem.mp hindex).1
        rw [List.length_drop] at hlt
        omega
      -- one piece up to the comma, and the text behind it
      have hpiece : substr value start (start + index - start) = (value.drop start).take index := by
        rw [substr, Nat.add_sub_cancel_left]
      have hrest : (value.drop start).drop (index + 1) = value.drop (start + index + 1) :=
        List.drop_drop
      dsimp only
      rw [parsePortsLoop_of_some hstart parsedPorts hcomma, hpiece, hrest]
      cases h : parsePort ((value.drop start).take index) with
      | none => simp [h]
      | some port =>
        rw [Option.bind_some, ih _ (by omega) hlt _ rfl]
        cases hports : ((value.drop (start + index + 1)).splitOn ',').mapM parsePort <;>
          simp [h, hports]

/-- A list of pieces is read when each piece is. -/
theorem mapM_parsePort_eq_some {pieces : List Text} {ports : List UInt16} :
    pieces.mapM parsePort = some ports ↔ List.Forall₂ Denotes pieces ports := by
  induction pieces generalizing ports with
  | nil =>
    rw [List.mapM_nil, List.forall₂_nil_left_iff]
    exact ⟨fun h => (Option.some.inj h).symm, fun h => congrArg some h.symm⟩
  | cons piece pieces ih =>
    rw [List.mapM_cons, List.forall₂_cons_left_iff]
    simp only [Option.bind_eq_bind, Option.bind_eq_some_iff, parsePort_eq_some, ih,
      Option.pure_def, Option.some.injEq]
    constructor
    · rintro ⟨port, hport, rest, hrest, rfl⟩
      exact ⟨port, rest, hport, hrest, rfl⟩
    · rintro ⟨port, rest, hport, hrest, rfl⟩
      exact ⟨port, hport, rest, hrest, rfl⟩

/-- Pieces that all denote some port denote a list of ports. -/
theorem exists_forall₂_iff {pieces : List Text} :
    (∀ piece ∈ pieces, ∃ port, Denotes piece port)
      ↔ ∃ ports, List.Forall₂ Denotes pieces ports := by
  induction pieces with
  | nil => exact iff_of_true nofun ⟨[], .nil⟩
  | cons piece pieces ih =>
    rw [List.forall_mem_cons, ih]
    constructor
    · rintro ⟨⟨port, hport⟩, ports, hports⟩
      exact ⟨port :: ports, .cons hport hports⟩
    · rintro ⟨_, hall⟩
      obtain ⟨port, ports, hport, hports, -⟩ := List.forall₂_cons_left_iff.mp hall
      exact ⟨⟨port, hport⟩, ports, hports⟩

/-- `ParsePorts` succeeds with the ports that the pieces denote. -/
theorem parsePorts_eq_true {value : Text} {ports result : List UInt16} :
    parsePorts value ports = (true, result)
      ↔ List.Forall₂ Denotes (value.splitOn ',') result := by
  rw [parsePorts, parsePortsLoop_eq (Nat.zero_le _), List.drop_zero, ← mapM_parsePort_eq_some]
  cases (value.splitOn ',').mapM parsePort with
  | none => simp
  | some parsedPorts => simp

/-! ## Rendering -/

/-- White space. -/
abbrev Blanks := { text : Text // ∀ ch ∈ text, isSpace ch }

/-- A port as it is written in a list, with white space around it. -/
structure PortItem where
  before : Blanks
  port : UInt16
  after : Blanks

def PortItem.render (item : PortItem) : Text :=
  item.before.val ++ (Nat.toDigits 10 item.port.toNat ++ item.after.val)

/-- A nonempty port list. -/
def renderPorts (item : PortItem) (items : List PortItem) : Text :=
  [','].intercalate ((item :: items).map (·.render))

theorem not_isSpace_of_isDigit {ch : Char} (h : ch.isDigit) : isSpace ch = false := by
  obtain ⟨hlow, -⟩ := Char.isDigit_iff_toNat.mp h
  have hblank : ¬ ch = ' ' := by
    rintro rfl
    exact absurd hlow (by decide)
  have hcontrol : ¬ ch ≤ '\r' := by
    intro hle
    exact absurd (Nat.le_trans hlow (UInt32.le_iff_toNat_le.mp hle)) (by decide)
  rw [isSpace, beq_eq_false_iff_ne.mpr hblank, decide_eq_false hcontrol, Bool.and_false]
  rfl

/-- A rendered item denotes its port. -/
theorem PortItem.denotes_render (item : PortItem) : Denotes item.render item.port := by
  have hdigits : ∀ ch ∈ Nat.toDigits 10 item.port.toNat, ch.isDigit := fun ch hch =>
    Nat.isDigit_of_mem_toDigits (by decide) (by decide) hch
  refine ⟨Nat.toDigits 10 item.port.toNat, ⟨⟨_, _, rfl, item.before.2, item.after.2⟩, ?_, ?_⟩, ?_,
    hdigits, Nat.ofDigitChars_ten_toDigits⟩
  · intro ch hch
    exact not_isSpace_of_isDigit (hdigits ch (List.mem_of_mem_head? hch))
  · intro ch hch
    exact not_isSpace_of_isDigit (hdigits ch (List.mem_of_mem_getLast? hch))
  · exact List.ne_nil_of_length_pos Nat.length_toDigits_pos

/-- A rendered item has no comma, so it stays one piece. -/
theorem PortItem.comma_not_mem_render (item : PortItem) : ',' ∉ item.render := by
  intro hmem
  rcases List.mem_append.mp hmem with hmem | hmem
  · exact absurd (item.before.2 _ hmem) (by decide)
  rcases List.mem_append.mp hmem with hmem | hmem
  · exact absurd (Nat.isDigit_of_mem_toDigits (by decide) (by decide) hmem) (by decide)
  · exact absurd (item.after.2 _ hmem) (by decide)

/-- Splitting a rendered list at its commas gives the rendered items. -/
theorem splitOn_renderPorts (item : PortItem) (items : List PortItem) :
    (renderPorts item items).splitOn ',' = (item :: items).map (·.render) := by
  refine List.splitOn_intercalate ',' ?_ (List.cons_ne_nil _ _)
  intro piece hpiece
  obtain ⟨item, -, rfl⟩ := List.mem_map.mp hpiece
  exact item.comma_not_mem_render

/-- **`ParsePorts` accepts exactly the port lists**, and touches the ports only if it does. What is
rendered is parsed back. -/
theorem parsePorts_grammar (value : Text) (ports : List UInt16) :
    ((parsePorts value ports).1 = true
      ↔ ∀ piece ∈ value.splitOn ',', ∃ port, Denotes piece port) ∧
    ((parsePorts value ports).1 = true →
      List.Forall₂ Denotes (value.splitOn ',') (parsePorts value ports).2) ∧
    ((parsePorts value ports).1 = false → (parsePorts value ports).2 = ports) ∧
    ∀ item items, parsePorts (renderPorts item items) ports
      = (true, (item :: items).map (·.port)) := by
  have hiff : (parsePorts value ports).1 = true
      ↔ ∃ result, List.Forall₂ Denotes (value.splitOn ',') result := by
    constructor
    · intro h
      exact ⟨_, parsePorts_eq_true.mp (Prod.ext h rfl)⟩
    · rintro ⟨result, hresult⟩
      exact congrArg Prod.fst (parsePorts_eq_true.mpr hresult)
  refine ⟨hiff.trans exists_forall₂_iff.symm, ?_, ?_, ?_⟩
  · intro h
    exact parsePorts_eq_true.mp (Prod.ext h rfl)
  · intro h
    unfold parsePorts at h ⊢
    split at h
    · rfl
    · cases h
  · intro item items
    rw [parsePorts_eq_true, splitOn_renderPorts, List.forall₂_map_left_iff,
      List.forall₂_map_right_iff, List.forall₂_same]
    exact fun item _ => item.denotes_render

end PcapConstrictor
