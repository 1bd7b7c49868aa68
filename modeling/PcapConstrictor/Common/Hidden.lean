import PcapConstrictor.Common.ByteString

/-!
# Byte strings that agree outside hidden positions

Two byte strings of one length may differ, but only where the bytes are hidden. What is read from
other positions is then the same for both.
-/

namespace ByteString

/-- A read behind the end gives zero. -/
theorem byteAt_of_length_le {bytes : Bytes} {i : ℕ} (h : bytes.length ≤ i) :
    byteAt bytes i = 0 := by
  rw [byteAt, List.getD_eq_getElem?_getD, List.getElem?_eq_none h, Option.getD_none]

/-- Two byte strings of one length whose bytes agree wherever they are not hidden. -/
structure AgreeOutside (hidden : ℕ → Prop) (xs ys : Bytes) : Prop where
  length_eq : xs.length = ys.length
  byteAt_eq : ∀ i, ¬ hidden i → byteAt xs i = byteAt ys i

namespace AgreeOutside

variable {hidden : ℕ → Prop} {xs ys : Bytes}

/-- Buffers that agree outside a set agree outside a larger one. -/
theorem mono {hidden' : ℕ → Prop} (h : AgreeOutside hidden xs ys)
    (hsub : ∀ i < xs.length, hidden i → hidden' i) : AgreeOutside hidden' xs ys := by
  refine ⟨h.length_eq, fun i hi => ?_⟩
  by_cases hlt : i < xs.length
  · exact h.byteAt_eq i (mt (hsub i hlt) hi)
  · have hle := Nat.le_of_not_lt hlt
    rw [byteAt_of_length_le hle, byteAt_of_length_le (h.length_eq ▸ hle)]

/-- Bounds checks see the length only. -/
theorem hasBytes_iff (h : AgreeOutside hidden xs ys) (offset count : ℕ) :
    HasBytes xs offset count ↔ HasBytes ys offset count := by
  rw [ByteString.hasBytes_iff, ByteString.hasBytes_iff, h.length_eq]

/-- Byte strings that agree everywhere are equal. -/
theorem eq_of_visible (h : AgreeOutside hidden xs ys) (hvisible : ∀ i < xs.length, ¬ hidden i) :
    xs = ys := by
  refine List.ext_getElem h.length_eq fun i hx hy => ?_
  rw [List.getElem_eq_getD 0, List.getElem_eq_getD 0]
  exact h.byteAt_eq i (hvisible i hx)

/-- Parts of them agree outside the part of the hidden positions. -/
theorem span (h : AgreeOutside hidden xs ys) (offset count : ℕ) :
    AgreeOutside (fun i => hidden (offset + i)) (subspan xs offset count)
      (subspan ys offset count) := by
  have hlength : (subspan xs offset count).length = (subspan ys offset count).length := by
    simp only [subspan, List.length_take, List.length_drop, h.length_eq]
  refine ⟨hlength, fun i hi => ?_⟩
  by_cases hlt : i < count
  · rw [byteAt_subspan hlt, byteAt_subspan hlt]
    exact h.byteAt_eq _ hi
  · have hpast : ∀ bytes : Bytes, (subspan bytes offset count).length ≤ i := fun bytes =>
      (List.length_take_le _ _).trans (Nat.le_of_not_lt hlt)
    rw [byteAt_of_length_le (hpast xs), byteAt_of_length_le (hpast ys)]

/-- Cutting both buffers at one place keeps them in agreement. -/
theorem front (h : AgreeOutside hidden xs ys) (n : ℕ) :
    AgreeOutside hidden (xs.take n) (ys.take n) := by
  have hspan := h.span 0 n
  rw [subspan_zero, subspan_zero] at hspan
  exact hspan.mono fun i _ hi => Nat.zero_add i ▸ hi

/-- Parts without hidden positions are equal. -/
theorem subspan_eq (h : AgreeOutside hidden xs ys) {offset count : ℕ}
    (hvisible : ∀ i, offset ≤ i → i < offset + count → ¬ hidden i) :
    subspan xs offset count = subspan ys offset count := by
  refine (h.span offset count).eq_of_visible fun i hi => ?_
  have hlt : i < count := lt_of_lt_of_le hi (List.length_take_le _ _)
  exact hvisible _ (Nat.le_add_right _ _) (by omega)

/-- In front of everything hidden the buffers are equal. -/
theorem take_eq (h : AgreeOutside hidden xs ys) {n : ℕ} (hvisible : ∀ i < n, ¬ hidden i) :
    xs.take n = ys.take n := by
  rw [← subspan_zero, ← subspan_zero]
  exact h.subspan_eq fun i _ hi => hvisible i (by omega)

end AgreeOutside

end ByteString
