import PcapConstrictor.Config.Settings

/-!
# The lines of a configuration

A line is blank, the header of a section, or an assignment, once the comment and the surrounding
white space are gone. `Reads` says what a list of lines assigns, and the loader accepts exactly the
texts it describes (`loadFromString_ok_iff`).
-/

namespace PcapConstrictor

open Scanning

/-! ## Comments -/

/-- A comment starts at position `n`: at the start of the line or behind white space. -/
def CommentAt (text : Text) (n : ℕ) : Prop :=
  (text[n]? = some ';' ∨ text[n]? = some '#') ∧
    (n = 0 ∨ ∃ ch, text[n - 1]? = some ch ∧ isSpace ch)

/-- `body` is what stands in front of the first comment. -/
def Uncommented (line body : Text) : Prop :=
  ∃ n ≤ line.length, body = line.take n ∧ (∀ j < n, ¬ CommentAt line j) ∧
    (n = line.length ∨ CommentAt line n)

/-- `content` is what is left of the line without its comment and the surrounding white space. -/
def Cleaned (line content : Text) : Prop :=
  ∃ body, Uncommented line body ∧ TrimsTo isSpace body content

/-- A line has one body: the first comment mark is the one that counts. -/
theorem Uncommented.unique {line body body' : Text} (h : Uncommented line body)
    (h' : Uncommented line body') : body = body' := by
  obtain ⟨n, hn, rfl, hbefore, hend⟩ := h
  obtain ⟨n', hn', rfl, hbefore', hend'⟩ := h'
  rcases Nat.lt_trichotomy n n' with hlt | rfl | hlt
  · rcases hend with rfl | hcomment
    · omega
    · exact absurd hcomment (hbefore' n hlt)
  · rfl
  · rcases hend' with rfl | hcomment
    · omega
    · exact absurd hcomment (hbefore n' hlt)

/-- The loop of `StripInlineComment` stops at the first comment. -/
theorem exists_stripInlineCommentFrom {text rest : Text} {index : ℕ}
    (hrest : text.drop index = rest) (hle : index ≤ text.length)
    (hbefore : ∀ j < index, ¬ CommentAt text j) :
    ∃ body, Uncommented text body ∧ stripInlineCommentFrom text index rest = trim body := by
  induction rest generalizing index with
  | nil =>
    have hlength : text.length ≤ index := List.drop_eq_nil_iff.mp hrest
    obtain rfl : index = text.length := Nat.le_antisymm hle hlength
    exact ⟨text, ⟨text.length, hle, List.take_length.symm, hbefore, Or.inl rfl⟩, rfl⟩
  | cons ch rest ih =>
    have hlt : index < text.length := by
      by_contra hge
      rw [List.drop_eq_nil_iff.mpr (Nat.not_lt.mp hge)] at hrest
      cases hrest
    have hch : text[index]? = some ch := by
      rw [← List.head?_drop, hrest]
      rfl
    -- the test of the loop is `CommentAt` at the index it has come to
    have hcomment : CommentAt text index
        ↔ (ch = ';' ∨ ch = '#') ∧ (index = 0 ∨ text[index - 1]?.any isSpace) := by
      rw [CommentAt, hch, Option.some.injEq, Option.some.injEq, Option.any_eq_true]
    rw [stripInlineCommentFrom]
    by_cases h : CommentAt text index
    · rw [if_pos (hcomment.mp h)]
      exact ⟨text.take index, ⟨index, hle, rfl, hbefore, Or.inr h⟩, rfl⟩
    · rw [if_neg (fun hif => h (hcomment.mpr hif))]
      refine ih ?_ hlt ?_
      · rw [← List.tail_drop, hrest]
        rfl
      · intro j hj
        rcases Nat.lt_succ_iff_lt_or_eq.mp hj with hj | rfl
        · exact hbefore j hj
        · exact h

/-- **`StripInlineComment` cleans a line.** -/
theorem cleaned_iff {line content : Text} :
    Cleaned line content ↔ stripInlineComment line = content := by
  obtain ⟨body, hbody, hstrip⟩ :=
    @exists_stripInlineCommentFrom line line 0 List.drop_zero (Nat.zero_le _) nofun
  rw [stripInlineComment, hstrip]
  constructor
  · rintro ⟨body', hbody', htrim⟩
    rw [hbody.unique hbody']
    exact trimsTo_iff.mp htrim
  · rintro rfl
    exact ⟨body, hbody, trimsTo_trim body⟩

/-! ## Headers and assignments -/

/-- The line opens the section `name`. -/
def SectionHeader (line name : Text) : Prop :=
  ∃ inner, Cleaned line ('[' :: (inner ++ [']'])) ∧ TrimsTo isSpace inner name ∧ name ≠ []

/-- The line assigns `value` to `key`. -/
def KeyValue (line key value : Text) : Prop :=
  ∃ left right, Cleaned line (left ++ '=' :: right) ∧ left.head? ≠ some '[' ∧ '=' ∉ left ∧
    TrimsTo isSpace left key ∧ TrimsTo isSpace right value ∧ key ≠ []

/-- The name in a header line. -/
def headerName (line : Text) : Option Text :=
  let cleaned := stripInlineComment line
  let name := trim (substr cleaned 1 (cleaned.length - 2))
  if cleaned.head? = some '[' ∧ cleaned.getLast? = some ']' ∧ name ≠ [] then some name else none

/-- The key and the value in an assignment line. -/
def keyValue (line : Text) : Option (Text × Text) :=
  let cleaned := stripInlineComment line
  match find cleaned '=' 0 with
  | none => none
  | some equals =>
    let key := trim (substr cleaned 0 equals)
    if cleaned.head? ≠ some '[' ∧ key ≠ [] then some (key, trim (cleaned.drop (equals + 1)))
    else none

/-- What `headerName` takes out of a bracketed text is what stands between the brackets. -/
theorem substr_header (inner : Text) :
    substr ('[' :: (inner ++ [']'])) 1 (('[' :: (inner ++ [']'])).length - 2) = inner := by
  rw [substr, List.drop_one, List.tail_cons]
  exact List.take_left' (by simp)

/-- The two characters that `headerName` asks for are brackets around a text. -/
theorem exists_header {cleaned : Text} (hhead : cleaned.head? = some '[')
    (hlast : cleaned.getLast? = some ']') : ∃ inner, cleaned = '[' :: (inner ++ [']']) := by
  obtain ⟨rest, rfl⟩ := List.head?_eq_some_iff.mp hhead
  cases rest with
  | nil => cases hlast
  | cons ch rest =>
    rw [List.getLast?_cons_cons] at hlast
    obtain ⟨inner, hinner⟩ := List.getLast?_eq_some_iff.mp hlast
    exact ⟨inner, congrArg _ hinner⟩

/-- `headerName` reads exactly the section headers. -/
theorem headerName_eq_some {line name : Text} :
    headerName line = some name ↔ SectionHeader line name := by
  unfold headerName
  dsimp only
  constructor
  · intro h
    rw [Option.ite_none_right_eq_some] at h
    obtain ⟨⟨hhead, hlast, hne⟩, hname⟩ := h
    obtain ⟨inner, hcleaned⟩ := exists_header hhead hlast
    rw [hcleaned, substr_header] at hname hne
    obtain rfl := Option.some.inj hname
    exact ⟨inner, cleaned_iff.mpr hcleaned, trimsTo_trim inner, hne⟩
  · rintro ⟨inner, hcleaned, htrim, hne⟩
    obtain rfl : trim inner = name := trimsTo_iff.mp htrim
    have hlast : ('[' :: (inner ++ [']'])).getLast? = some ']' := by
      rw [← List.cons_append, List.getLast?_concat]
    rw [cleaned_iff.mp hcleaned, substr_header, if_pos ⟨rfl, hlast, hne⟩]

/-- `find` gives the first occurrence. -/
theorem find_eq_some {cleaned : Text} {ch : Char} {position : ℕ} :
    find cleaned ch 0 = some position
      ↔ ∃ left right, cleaned = left ++ ch :: right ∧ ch ∉ left ∧ left.length = position := by
  rw [find, List.drop_zero, ← findIdx?_eq_some_iff_append]
  simp only [Nat.zero_add, Option.map_id']

theorem substr_left (left right : Text) (ch : Char) :
    substr (left ++ ch :: right) 0 left.length = left := by
  rw [substr, List.drop_zero, List.take_left]

theorem drop_left_succ (left right : Text) (ch : Char) :
    (left ++ ch :: right).drop (left.length + 1) = right := by
  rw [List.drop_append, List.drop_of_length_le (Nat.le_succ _), Nat.add_sub_cancel_left]
  rfl

/-- Whether an assignment opens with a bracket shows in front of its equals sign. -/
theorem head?_append_equals (left right : Text) :
    (left ++ '=' :: right).head? ≠ some '[' ↔ left.head? ≠ some '[' := by
  cases left with
  | nil => exact iff_of_true (by simp) nofun
  | cons ch left => exact Iff.rfl

/-- `keyValue` reads exactly the assignments. -/
theorem keyValue_eq_some {line key value : Text} :
    keyValue line = some (key, value) ↔ KeyValue line key value := by
  unfold keyValue
  dsimp only
  constructor
  · intro h
    split at h
    · cases h
    next equals hequals =>
    obtain ⟨left, right, hcleaned, hnot, rfl⟩ := find_eq_some.mp hequals
    rw [hcleaned, substr_left, drop_left_succ, Option.ite_none_right_eq_some] at h
    obtain ⟨⟨hleft, hne⟩, hpair⟩ := h
    obtain ⟨rfl, rfl⟩ := Prod.mk.inj (Option.some.inj hpair)
    exact ⟨left, right, cleaned_iff.mpr hcleaned, (head?_append_equals left right).mp hleft, hnot,
      trimsTo_trim left, trimsTo_trim right, hne⟩
  · rintro ⟨left, right, hcleaned, hleft, hnot, hkey, hvalue, hne⟩
    obtain rfl : trim left = key := trimsTo_iff.mp hkey
    obtain rfl : trim right = value := trimsTo_iff.mp hvalue
    have hequals : find (left ++ '=' :: right) '=' 0 = some left.length :=
      find_eq_some.mpr ⟨left, right, rfl, hnot, rfl⟩
    rw [cleaned_iff.mp hcleaned, hequals]
    dsimp only
    rw [substr_left, drop_left_succ, if_pos ⟨(head?_append_equals left right).mpr hleft, hne⟩]

/-! ## Lines -/

/-- The name of a section or of a key, in lower case. -/
def lowered (name : Text) : String := String.ofList (toLower name)

/-- What the lines assign, read in the section `current`, and the section in which they end. -/
inductive Reads : Text → List Text → List (Fields.Write Setting.Value) → Text → Prop
  | nil (current : Text) : Reads current [] [] current
  | blank {current line lines writes last} (hline : Cleaned line [])
      (hlines : Reads current lines writes last) : Reads current (line :: lines) writes last
  | header {current line name lines writes last} (hline : SectionHeader line name)
      (hlines : Reads name lines writes last) : Reads current (line :: lines) writes last
  | assignment {current line key text s value lines writes last} (hline : KeyValue line key text)
      (hcurrent : current ≠ []) (hname : Setting.name s = (lowered current, lowered key))
      (hvalue : s.parse text = some value) (hlines : Reads current lines writes last) :
      Reads current (line :: lines) (⟨s, value⟩ :: writes) last

namespace ConfigLoader

variable {sourceName : String} {l l' : LoadLocals} {line : Text}

/-- The locals behind a blank line. -/
def LoadLocals.next (l : LoadLocals) : LoadLocals := { l with lineNumber := l.lineNumber + 1 }

/-- A blank line is counted and changes nothing. -/
theorem loadLine_of_blank (h : Cleaned line []) : loadLine sourceName l line = .ok l.next := by
  unfold loadLine
  dsimp only
  rw [cleaned_iff.mp h, if_pos rfl]
  rfl

/-- A header changes the section in force and no field. -/
theorem loadLine_of_header {name : Text} (h : SectionHeader line name) :
    loadLine sourceName l line = .ok { l.next with currentSection := name } := by
  obtain ⟨inner, hcleaned, htrim, hne⟩ := h
  obtain rfl : trim inner = name := trimsTo_iff.mp htrim
  have hlast : ('[' :: (inner ++ [']'])).getLast? = some ']' := by
    rw [← List.cons_append, List.getLast?_concat]
  unfold loadLine
  dsimp only
  rw [cleaned_iff.mp hcleaned, if_neg (List.cons_ne_nil _ _), List.head?_cons, if_pos rfl, hlast,
    if_neg (not_not.mpr rfl), substr_header, if_neg hne]
  rfl

/-- An assignment in a section is left to `assignValue`, with the line's own number. -/
theorem loadLine_of_keyValue {key value : Text} (h : KeyValue line key value)
    (hcurrent : l.currentSection ≠ []) :
    loadLine sourceName l line =
      match assignValue l.config sourceName (l.lineNumber + 1) l.currentSection key value with
      | .error error => .error { config := l.config, error }
      | .ok config => .ok { l.next with config } := by
  obtain ⟨left, right, hcleaned, hhead, hnot, hkey, hvalue, hne⟩ := h
  obtain rfl : trim left = key := trimsTo_iff.mp hkey
  obtain rfl : trim right = value := trimsTo_iff.mp hvalue
  have hequals : find (left ++ '=' :: right) '=' 0 = some left.length :=
    find_eq_some.mpr ⟨left, right, rfl, hnot, rfl⟩
  have hopen : (left ++ '=' :: right).head? ≠ some '[' := (head?_append_equals left right).mpr hhead
  unfold loadLine
  dsimp only
  rw [cleaned_iff.mp hcleaned, if_neg (List.append_ne_nil_of_right_ne_nil _ (List.cons_ne_nil _ _)),
    if_neg hopen, hequals]
  dsimp only
  rw [if_neg hcurrent, substr_left, drop_left_succ, if_neg hne]
  rfl

/-- A line that is accepted is blank, a header, or an assignment in a section. -/
theorem loadLine_cases (h : loadLine sourceName l line = .ok l') :
    Cleaned line [] ∨ (∃ name, SectionHeader line name) ∨
      ∃ key value, KeyValue line key value ∧ l.currentSection ≠ [] := by
  unfold loadLine at h
  dsimp only at h
  split at h
  · next hblank => exact Or.inl (cleaned_iff.mpr hblank)
  split at h
  · next hhead =>
    split at h
    · cases h
    next hlast =>
    split at h
    · cases h
    next hne =>
    -- no complaint about the brackets, so `headerName` reads the line
    have hname : headerName line = some (trim (substr (stripInlineComment line) 1
        ((stripInlineComment line).length - 2))) := if_pos ⟨hhead, not_not.mp hlast, hne⟩
    exact Or.inr (Or.inl ⟨_, headerName_eq_some.mp hname⟩)
  next hhead =>
  split at h
  · cases h
  next equals hequals =>
  split at h
  · cases h
  next hcurrent =>
  split at h
  · cases h
  next hne =>
  -- no complaint about the key, so `keyValue` reads the line
  have hpair : keyValue line = some (trim (substr (stripInlineComment line) 0 equals),
      trim ((stripInlineComment line).drop (equals + 1))) := by
    unfold keyValue
    dsimp only
    rw [hequals]
    exact if_pos ⟨hhead, hne⟩
  exact Or.inr (Or.inr ⟨_, _, keyValue_eq_some.mp hpair, hcurrent⟩)

/-! ## Texts -/

/-- An accepted assignment is one of the settings', under names in lower case. -/
theorem assignValue_eq_ok {config config' : PolicyConfig} {lineNumber : ℕ}
    {current key text : Text} :
    assignValue config sourceName lineNumber current key text = .ok config'
      ↔ Setting.Assigned (lowered current, lowered key) text config config' := by
  rw [← Setting.assignNormalized_eq_ok, assignValue]
  change (assignNormalized config (lowered current) (lowered key) text).mapError _ = _ ↔ _
  cases assignNormalized config (lowered current) (lowered key) text with
  | error details => exact iff_of_false nofun nofun
  | ok config => exact Iff.rfl

/-- A sequence succeeds when both of its parts do. -/
theorem bind_eq_ok {ε α β : Type} {x : Except ε α} {f : α → Except ε β} {b : β} :
    x >>= f = .ok b ↔ ∃ a, x = .ok a ∧ f a = .ok b := by
  cases x with
  | error e => exact iff_of_false nofun (by rintro ⟨_, ⟨⟩, -⟩)
  | ok a => exact ⟨fun h => ⟨a, rfl, h⟩, by rintro ⟨_, ⟨⟩, h⟩; exact h⟩

/-- **The loop reads the lines** and writes what they assign, one option at a time. -/
theorem foldlM_loadLine {lines : List Text} {l l' : LoadLocals} :
    lines.foldlM (loadLine sourceName) l = .ok l'
      ↔ ∃ writes, Reads l.currentSection lines writes l'.currentSection ∧
          l'.config = PolicyConfig.fields.writeAll l.config writes ∧
          l'.lineNumber = l.lineNumber + lines.length := by
  obtain ⟨config', last, lineNumber'⟩ := l'
  induction lines generalizing l with
  | nil =>
    constructor
    · intro h
      obtain rfl := Except.ok.inj h
      exact ⟨[], .nil _, rfl, rfl⟩
    · rintro ⟨writes, hreads, rfl, rfl⟩
      cases hreads
      rfl
  | cons line lines ih =>
    -- the line number goes up with each line, blank or not
    have hnumber : l.next.lineNumber + lines.length = l.lineNumber + (line :: lines).length :=
      Nat.succ_add_eq_add_succ ..
    rw [List.foldlM_cons, bind_eq_ok]
    constructor
    · rintro ⟨middle, hline, hlines⟩
      obtain ⟨writes, hreads, rfl, rfl⟩ := ih.mp hlines
      rcases loadLine_cases hline with hblank | ⟨name, hname⟩ | ⟨key, text, hpair, hcurrent⟩
      · rw [loadLine_of_blank hblank] at hline
        cases hline
        exact ⟨writes, .blank hblank hreads, rfl, hnumber⟩
      · rw [loadLine_of_header hname] at hline
        cases hline
        exact ⟨writes, .header hname hreads, rfl, hnumber⟩
      · rw [loadLine_of_keyValue hpair hcurrent] at hline
        split at hline
        · cases hline
        next config hassign =>
        cases hline
        obtain ⟨s, hs, value, hvalue, rfl⟩ := assignValue_eq_ok.mp hassign
        exact ⟨⟨s, value⟩ :: writes, .assignment hpair hcurrent hs hvalue hreads, rfl, hnumber⟩
    · rintro ⟨writes, hreads, rfl, rfl⟩
      cases hreads with
      | blank hblank hlines =>
        exact ⟨_, loadLine_of_blank hblank, ih.mpr ⟨_, hlines, rfl, hnumber.symm⟩⟩
      | header hname hlines =>
        exact ⟨_, loadLine_of_header hname, ih.mpr ⟨_, hlines, rfl, hnumber.symm⟩⟩
      | assignment hpair hcurrent hs hvalue hlines =>
        have hline := @loadLine_of_keyValue sourceName l _ _ _ hpair hcurrent
        rw [assignValue_eq_ok.mpr ⟨_, hs, _, hvalue, rfl⟩] at hline
        exact ⟨_, hline, ih.mpr ⟨_, hlines, rfl, hnumber.symm⟩⟩

/-- Every error has a text. -/
theorem formatError_ne_empty (sourceName : String) (lineNumber : ℕ) (message : String) :
    formatError sourceName lineNumber message ≠ "" := by
  simp [formatError]

/-- A refused assignment has a message. -/
theorem assignValue_error {config : PolicyConfig} {lineNumber : ℕ} {current key text : Text}
    {error : String}
    (h : assignValue config sourceName lineNumber current key text = .error error) :
    error ≠ "" := by
  unfold assignValue at h
  generalize assignNormalized config _ _ text = result at h
  cases result with
  | error details =>
    obtain rfl := Except.error.inj h
    exact formatError_ne_empty _ _ _
  | ok config => cases h

theorem loadLine_error {result : ConfigLoadResult}
    (h : loadLine sourceName l line = .error result) : result.error ≠ "" := by
  unfold loadLine at h
  dsimp only at h
  split at h
  · cases h
  split at h
  · split at h
    · cases h
      exact formatError_ne_empty _ _ _
    split at h
    · cases h
      exact formatError_ne_empty _ _ _
    · cases h
  split at h
  · cases h
    exact formatError_ne_empty _ _ _
  split at h
  · cases h
    exact formatError_ne_empty _ _ _
  split at h
  · cases h
    exact formatError_ne_empty _ _ _
  split at h
  · next hassign =>
    cases h
    exact assignValue_error hassign
  · cases h

/-- A refused text has a message: that of its first refused line. -/
theorem foldlM_loadLine_error {lines : List Text} {result : ConfigLoadResult}
    (h : lines.foldlM (loadLine sourceName) l = .error result) : result.error ≠ "" := by
  induction lines generalizing l with
  | nil => cases h
  | cons line lines ih =>
    rw [List.foldlM_cons] at h
    cases hline : loadLine sourceName l line with
    | error result' =>
      rw [hline] at h
      obtain rfl := Except.error.inj h
      exact loadLine_error hline
    | ok middle =>
      rw [hline] at h
      exact ih h

/-- **The loader accepts exactly the grammar**, and the configuration is what the lines write into
the defaults. -/
theorem loadFromString_ok_iff {text : Text} {config : PolicyConfig} :
    (loadFromString text sourceName).ok = true ∧ (loadFromString text sourceName).config = config
      ↔ ∃ writes last, Reads [] (getlines text) writes last ∧
          config = PolicyConfig.fields.writeAll {} writes ∧
          config.capture.defaultSnaplen ≠ 0 ∧ config.capture.maxCaptureLen ≠ 0 := by
  -- the loop ends well exactly if the lines can be read
  have hreads : ∀ writes last, Reads [] (getlines text) writes last →
      ∃ l, (getlines text).foldlM (loadLine sourceName) {} = .ok l ∧
        l.config = PolicyConfig.fields.writeAll {} writes := by
    intro writes last hreads
    exact ⟨⟨_, last, _⟩, foldlM_loadLine.mpr ⟨writes, hreads, rfl, rfl⟩, rfl⟩
  unfold loadFromString ConfigLoadResult.ok
  cases hload : (getlines text).foldlM (loadLine sourceName) {} with
  | error result =>
    refine iff_of_false ?_ ?_
    · rintro ⟨hok, -⟩
      exact foldlM_loadLine_error hload (beq_iff_eq.mp hok)
    · rintro ⟨writes, last, hlines, -, -⟩
      obtain ⟨l, hl, -⟩ := hreads writes last hlines
      cases hload.symm.trans hl
  | ok l =>
    obtain ⟨writes, hlines, hconfig, -⟩ := foldlM_loadLine.mp hload
    have hunique : ∀ writes last, Reads [] (getlines text) writes last →
        PolicyConfig.fields.writeAll {} writes = l.config := by
      intro writes last hlines
      obtain ⟨l', hl', hconfig'⟩ := hreads writes last hlines
      cases hload.symm.trans hl'
      exact hconfig'.symm
    dsimp only
    split
    · next hsnaplen =>
      refine iff_of_false (fun h => formatError_ne_empty _ _ _ (beq_iff_eq.mp h.1)) ?_
      rintro ⟨writes, last, hlines, rfl, hpos, -⟩
      rw [hunique writes last hlines] at hpos
      exact hpos hsnaplen
    split
    · next hmax =>
      refine iff_of_false (fun h => formatError_ne_empty _ _ _ (beq_iff_eq.mp h.1)) ?_
      rintro ⟨writes, last, hlines, rfl, -, hpos⟩
      rw [hunique writes last hlines] at hpos
      exact hpos hmax
    · next hsnaplen hmax =>
      constructor
      · rintro ⟨-, rfl⟩
        exact ⟨writes, _, hlines, hconfig, hsnaplen, hmax⟩
      · rintro ⟨writes, last, hlines, rfl, -, -⟩
        exact ⟨rfl, (hunique writes last hlines).symm⟩

end ConfigLoader

end PcapConstrictor
