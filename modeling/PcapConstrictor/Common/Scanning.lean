import Mathlib.Data.List.DropRight

/-!
# Trimming and splitting

Lists are trimmed at both ends, cut at every delimiter, or cut into pieces that a delimiter ends.
Each operation is described by what stands in the list.
-/

namespace Scanning

variable {α : Type*}

/-! ## Trimming -/

section Trim

variable (p : α → Bool)

/-- The list without the elements at its two ends that satisfy `p`. -/
def trim (xs : List α) : List α := (xs.dropWhile p).rdropWhile p

/-- `core` stands in `xs` between elements that satisfy `p`, and starts and ends with others. -/
structure TrimsTo (xs core : List α) : Prop where
  padded : ∃ front back, xs = front ++ (core ++ back) ∧ (∀ x ∈ front, p x) ∧ ∀ x ∈ back, p x
  head : ∀ x ∈ core.head?, p x = false
  last : ∀ x ∈ core.getLast?, p x = false

variable {p} {xs core : List α}

/-- Dropping from the left stops where the padding does. -/
theorem dropWhile_padded {front : List α} (hfront : ∀ x ∈ front, p x)
    (hhead : ∀ x ∈ core.head?, p x = false) : (front ++ core).dropWhile p = core := by
  rw [List.dropWhile_append_of_pos hfront]
  cases core with
  | nil => rfl
  | cons x core => rw [List.dropWhile_cons_of_neg (Bool.eq_false_iff.mp (hhead x rfl))]

/-- Dropping from the right stops where the padding does. -/
theorem rdropWhile_padded {back : List α} (hback : ∀ x ∈ back, p x)
    (hlast : ∀ x ∈ core.getLast?, p x = false) : (core ++ back).rdropWhile p = core := by
  rw [List.rdropWhile, List.reverse_append, dropWhile_padded, List.reverse_reverse]
  · intro x hx
    exact hback x (List.mem_reverse.mp hx)
  · rw [List.head?_reverse]
    exact hlast

/-- **Trimming finds the core**, which is unique. -/
theorem trimsTo_iff : TrimsTo p xs core ↔ trim p xs = core := by
  constructor
  · rintro ⟨⟨front, back, rfl, hfront, hback⟩, hhead, hlast⟩
    -- an empty core leaves nothing to stop at, so both drops take everything
    cases core with
    | nil =>
      have hall : ∀ x ∈ front ++ ([] ++ back), p x := by
        intro x hx
        rcases List.mem_append.mp hx with hx | hx
        · exact hfront x hx
        · exact hback x hx
      rw [trim, List.dropWhile_eq_nil_iff.mpr hall]
      rfl
    | cons x core =>
      have hstart : (front ++ (x :: (core ++ back))).dropWhile p = x :: (core ++ back) :=
        dropWhile_padded hfront hhead
      rw [trim, List.cons_append, hstart, ← List.cons_append, rdropWhile_padded hback hlast]
  · rintro rfl
    refine ⟨⟨xs.takeWhile p, (xs.dropWhile p).rtakeWhile p, ?_, ?_, ?_⟩, ?_, ?_⟩
    · rw [trim, List.rdropWhile_append_rtakeWhile, List.takeWhile_append_dropWhile]
    · exact fun x hx => List.mem_takeWhile_imp hx
    · exact fun x hx => List.mem_rtakeWhile_imp hx
    · intro x hx
      obtain ⟨tail, htail⟩ := List.rdropWhile_prefix p (xs.dropWhile p)
      have hhead : x ∈ (xs.dropWhile p).head? := by
        rw [← htail, List.head?_append, ← trim, hx]
        rfl
      have hnot := List.head?_dropWhile_not p xs
      rw [hhead] at hnot
      exact hnot
    · intro x hx
      have hne : trim p xs ≠ [] := by
        intro hnil
        rw [hnil] at hx
        cases hx
      have hnot := List.rdropWhile_last_not p (xs.dropWhile p) hne
      rw [← Option.mem_unique (List.getLast?_eq_some_getLast hne) hx]
      exact Bool.eq_false_iff.mpr hnot

/-- The function computes a trimming of every list. -/
theorem trimsTo_trim (xs : List α) : TrimsTo p xs (trim p xs) := trimsTo_iff.mpr rfl

/-- What is trimmed already stays as it is. -/
theorem trim_of_clean (hhead : ∀ x ∈ core.head?, p x = false)
    (hlast : ∀ x ∈ core.getLast?, p x = false) : trim p core = core :=
  trimsTo_iff.mp ⟨⟨[], [], (List.append_nil core).symm, nofun, nofun⟩, hhead, hlast⟩

/-- What is trimmed has nothing left to trim. -/
@[simp] theorem trim_trim (xs : List α) : trim p (trim p xs) = trim p xs :=
  trim_of_clean (trimsTo_trim xs).head (trimsTo_trim xs).last

end Trim

/-! ## Splitting -/

variable [DecidableEq α]

/-- The first delimiter is where the list is cut in two. -/
theorem findIdx?_eq_some_iff_append {delim : α} {xs : List α} {n : ℕ} :
    xs.findIdx? (· == delim) = some n
      ↔ ∃ left right, xs = left ++ delim :: right ∧ delim ∉ left ∧ left.length = n := by
  constructor
  · intro h
    obtain ⟨hlt, hat, hbefore⟩ := List.findIdx?_eq_some_iff_getElem.mp h
    refine ⟨xs.take n, xs.drop (n + 1), ?_, ?_, List.length_take_of_le hlt.le⟩
    · rw [← beq_iff_eq.mp hat, ← List.drop_eq_getElem_cons hlt, List.take_append_drop]
    · intro hmem
      obtain ⟨j, hj, heq⟩ := List.mem_take_iff_getElem.mp hmem
      exact hbefore j (by omega) (beq_iff_eq.mpr heq)
  · rintro ⟨left, right, rfl, hnot, rfl⟩
    have hleft : left.findIdx? (· == delim) = none := by
      rw [List.findIdx?_eq_none_iff]
      intro x hx
      exact beq_eq_false_iff_ne.mpr (ne_of_mem_of_not_mem hx hnot)
    rw [List.findIdx?_append, hleft, List.findIdx?_cons, if_pos (beq_self_eq_true delim)]
    simp

/-- The pieces of a list are found by looking for the first delimiter. -/
theorem splitOn_of_findIdx? (delim : α) (xs : List α) :
    xs.splitOn delim = match xs.findIdx? (· == delim) with
      | none => [xs]
      | some k => xs.take k :: (xs.drop (k + 1)).splitOn delim := by
  induction xs with
  | nil => rfl
  | cons x xs ih =>
    rw [List.splitOn_cons_eq_if_modifyHead, List.findIdx?_cons]
    by_cases hx : (x == delim) = true
    · rw [if_pos hx, if_pos hx]
      rfl
    · rw [if_neg hx, if_neg hx, ih]
      cases xs.findIdx? (· == delim) <;> rfl

/-- The pieces of a list that `delim` or the end of the list ends. -/
def terminated (delim : α) : List α → List (List α)
  | [] => []
  | x :: xs =>
    if x = delim then [] :: terminated delim xs
    else
      match terminated delim xs with
      | [] => [[x]]
      | piece :: pieces => (x :: piece) :: pieces

/-- Behind a delimiter the pieces start anew. -/
theorem terminated_append (delim : α) (xs ys : List α) :
    terminated delim (xs ++ delim :: ys) = xs.splitOn delim ++ terminated delim ys := by
  induction xs with
  | nil => rw [List.nil_append, terminated, if_pos rfl]; rfl
  | cons x xs ih =>
    rw [List.cons_append, terminated, ih, List.splitOn_cons_eq_if_modifyHead]
    by_cases hx : x = delim
    · rw [if_pos hx, if_pos (beq_iff_eq.mpr hx)]
      rfl
    · rw [if_neg hx, if_neg (fun heq => hx (beq_iff_eq.mp heq))]
      have hne := List.splitOn_ne_nil delim xs
      cases hpieces : xs.splitOn delim with
      | nil => exact absurd hpieces hne
      | cons piece pieces => rfl

/-- Pieces between delimiters and pieces that a delimiter ends differ in an empty piece at most. -/
theorem splitOn_eq_terminated (delim : α) (xs : List α) :
    xs.splitOn delim = terminated delim xs ∨ xs.splitOn delim = terminated delim xs ++ [[]] := by
  induction xs with
  | nil => exact Or.inr rfl
  | cons x xs ih =>
    rw [List.splitOn_cons_eq_if_modifyHead, terminated]
    by_cases hx : x = delim
    · rw [if_pos hx, if_pos (beq_iff_eq.mpr hx)]
      rcases ih with h | h
      · exact Or.inl (congrArg _ h)
      · exact Or.inr (congrArg _ h)
    · rw [if_neg hx, if_neg (fun heq => hx (beq_iff_eq.mp heq))]
      cases hpieces : terminated delim xs with
      | nil =>
        rw [hpieces] at ih
        rcases ih with h | h
        · exact absurd h (List.splitOn_ne_nil delim xs)
        · rw [h]
          exact Or.inl rfl
      | cons piece pieces =>
        rw [hpieces] at ih
        rcases ih with h | h
        · rw [h]
          exact Or.inl rfl
        · rw [h]
          exact Or.inr rfl

/-- The pieces hold no delimiter, and nothing but what stands in the list. -/
theorem subset_of_mem_terminated {delim : α} {xs piece : List α}
    (h : piece ∈ terminated delim xs) : delim ∉ piece ∧ piece ⊆ xs := by
  induction xs generalizing piece with
  | nil => cases h
  | cons x xs ih =>
    rw [terminated] at h
    split at h
    · rcases List.mem_cons.mp h with rfl | h
      · exact ⟨List.not_mem_nil, List.nil_subset _⟩
      · exact ⟨(ih h).1, List.subset_cons_of_subset _ (ih h).2⟩
    next hx =>
    split at h
    · rw [List.mem_singleton.mp h]
      exact ⟨by simpa using Ne.symm hx, by simp⟩
    · next first pieces hpieces =>
      rcases List.mem_cons.mp h with rfl | h
      · obtain ⟨hnot, hsub⟩ := ih (hpieces ▸ List.mem_cons_self ..)
        refine ⟨?_, List.cons_subset_cons _ hsub⟩
        rw [List.mem_cons, not_or]
        exact ⟨Ne.symm hx, hnot⟩
      · obtain ⟨hnot, hsub⟩ := ih (hpieces ▸ List.mem_cons_of_mem _ h)
        exact ⟨hnot, List.subset_cons_of_subset _ hsub⟩

/-- **Pieces that are ended one by one** are found again. -/
theorem terminated_flatMap {delim : α} {pieces : List (List α)}
    (h : ∀ piece ∈ pieces, delim ∉ piece) :
    terminated delim (pieces.flatMap (· ++ [delim])) = pieces := by
  induction pieces with
  | nil => rfl
  | cons piece pieces ih =>
    rw [List.forall_mem_cons] at h
    have hone : piece.splitOn delim = [piece] := List.splitOn_eq_singleton h.1
    rw [List.flatMap_cons, List.append_assoc, List.singleton_append, terminated_append, ih h.2,
      hone]
    rfl

end Scanning
