import Mathlib.Data.List.Basic

/-!
# Items laid out one behind the other

A list of items, each with a list of cells, is laid out by concatenation. `Occupies` says at which
position an item starts, and `Boundary` that a position lies between two items. Every cell belongs
to exactly one item, and two items never overlap.
-/

namespace Layout

variable {α β : Type*} (cells : α → List β)

/-- The cells of all items, in order. -/
def layout (items : List α) : List β := items.flatMap cells

/-- `item` starts at position `start`. -/
def Occupies (items : List α) (item : α) (start : ℕ) : Prop :=
  ∃ before after, items = before ++ item :: after ∧ start = (layout cells before).length

/-- An item starts, or the layout ends, at `position`. -/
def Boundary (items : List α) (position : ℕ) : Prop :=
  ∃ before after, items = before ++ after ∧ position = (layout cells before).length

variable {cells} {items : List α}

@[simp] theorem layout_nil : layout cells [] = [] := rfl

@[simp] theorem layout_cons (item : α) (items : List α) :
    layout cells (item :: items) = cells item ++ layout cells items := List.flatMap_cons

/-- Items laid out behind each other keep their order. -/
@[simp] theorem layout_append (xs ys : List α) :
    layout cells (xs ++ ys) = layout cells xs ++ layout cells ys := List.flatMap_append

/-- The start of a layout is a boundary. -/
theorem Boundary.zero : Boundary cells items 0 := ⟨[], items, rfl, rfl⟩

/-- Behind an item comes a boundary. -/
theorem Occupies.boundary_end {item : α} {start : ℕ} (h : Occupies cells items item start) :
    Boundary cells items (start + (cells item).length) := by
  obtain ⟨before, after, rfl, rfl⟩ := h
  exact ⟨before ++ [item], after, by simp, by simp⟩

/-- The layout around an item. -/
theorem Occupies.split {item : α} {start : ℕ} (h : Occupies cells items item start) :
    ∃ front back, layout cells items = front ++ cells item ++ back ∧ front.length = start := by
  obtain ⟨before, after, rfl, rfl⟩ := h
  exact ⟨layout cells before, layout cells after, by simp, rfl⟩

/-- At a boundary inside the layout an item starts. -/
theorem Boundary.occupies {position : ℕ} (h : Boundary cells items position)
    (hlt : position < (layout cells items).length) :
    ∃ item, Occupies cells items item position := by
  obtain ⟨before, after, rfl, rfl⟩ := h
  cases after with
  | nil => simp at hlt
  | cons item after => exact ⟨item, before, after, rfl, rfl⟩

/-- Every position of the layout belongs to an item. -/
theorem exists_occupies {position : ℕ} (hlt : position < (layout cells items).length) :
    ∃ item start, Occupies cells items item start ∧ start ≤ position ∧
      position < start + (cells item).length := by
  induction items generalizing position with
  | nil => simp at hlt
  | cons head items ih =>
    by_cases hhead : position < (cells head).length
    · exact ⟨head, 0, ⟨[], items, rfl, rfl⟩, Nat.zero_le _, by omega⟩
    · rw [layout_cons, List.length_append] at hlt
      obtain ⟨item, start, ⟨before, after, rfl, rfl⟩, hle, hlt⟩ :=
        ih (show position - (cells head).length < _ by omega)
      refine ⟨item, _, ⟨head :: before, after, rfl, rfl⟩, ?_, ?_⟩ <;>
        rw [layout_cons, List.length_append] <;> omega

/-- Two items are the same occurrence, or one ends before the other starts. -/
theorem Occupies.compare {a b : α} {s t : ℕ} (ha : Occupies cells items a s)
    (hb : Occupies cells items b t) :
    (a = b ∧ s = t) ∨ s + (cells a).length ≤ t ∨ t + (cells b).length ≤ s := by
  obtain ⟨before, after, rfl, rfl⟩ := ha
  obtain ⟨before', after', heq, rfl⟩ := hb
  rcases List.append_eq_append_iff.mp heq with ⟨mid, rfl, hmid⟩ | ⟨mid, rfl, hmid⟩
  · cases mid with
    | nil => exact Or.inl ⟨(List.cons.inj hmid).1, by simp⟩
    | cons x mid =>
      obtain ⟨rfl, -⟩ := List.cons.inj hmid
      exact Or.inr (Or.inl (by simp))
  · cases mid with
    | nil => exact Or.inl ⟨(List.cons.inj hmid).1.symm, by simp⟩
    | cons x mid =>
      obtain ⟨rfl, -⟩ := List.cons.inj hmid
      exact Or.inr (Or.inr (by simp))

/-- An item that starts before a boundary ends there or earlier. -/
theorem Boundary.behind {position : ℕ} (h : Boundary cells items position) {item : α} {start : ℕ}
    (hitem : Occupies cells items item start) (hlt : start < position) :
    start + (cells item).length ≤ position := by
  by_cases hinside : position < (layout cells items).length
  · obtain ⟨next, hnext⟩ := h.occupies hinside
    rcases hitem.compare hnext with ⟨-, heq⟩ | hle | hle
    · omega
    · exact hle
    · omega
  · obtain ⟨front, back, hlayout, hfront⟩ := hitem.split
    rw [hlayout, List.length_append, List.length_append] at hinside
    omega

/-- **Cutting a layout** leaves whole items and a proper prefix of the next one. -/
theorem exists_cut (items : List α) (n : ℕ) :
    ∃ whole rest tail, items = whole ++ rest ∧
      (layout cells items).take n = layout cells whole ++ tail ∧
      (rest = [] ∧ tail = [] ∨ ∃ next rest', rest = next :: rest' ∧
        tail.length < (cells next).length ∧ tail <+: cells next) := by
  induction items generalizing n with
  | nil => exact ⟨[], [], [], rfl, List.take_nil, Or.inl ⟨rfl, rfl⟩⟩
  | cons head items ih =>
    by_cases hlt : n < (cells head).length
    · refine ⟨[], head :: items, (cells head).take n, rfl, ?_,
        Or.inr ⟨head, items, rfl, ?_, List.take_prefix n _⟩⟩
      · rw [layout_cons, List.take_append_of_le_length (Nat.le_of_lt hlt)]
        rfl
      · rw [List.length_take]
        omega
    · obtain ⟨whole, rest, tail, rfl, htake, htail⟩ := ih (n - (cells head).length)
      refine ⟨head :: whole, rest, tail, rfl, ?_, htail⟩
      rw [layout_cons, List.take_append, List.take_of_length_le (Nat.not_lt.mp hlt), htake,
        layout_cons, List.append_assoc]

end Layout
