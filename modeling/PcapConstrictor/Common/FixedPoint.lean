import Mathlib.Algebra.BigOperators.Group.List.Basic
import Mathlib.Algebra.Ring.Nat
import Mathlib.Dynamics.FixedPoints.Basic
import Mathlib.Order.Basic

/-!
# Passes that come to rest

A pass that leaves its input alone or decreases a measure comes to rest: as many passes as the
measure allows lead to a fixed point, and further ones change nothing (`exists_settled`). For a pass
that treats a list element by element, the measure is a sum (`Forall₂.sum_lt`).
-/

namespace FixedPoint

variable {α : Type*} {f : α → α} {Inv : α → Prop} {measure : α → ℕ}

/-- Behind `k` passes, further ones change nothing. -/
def SettledAt (f : α → α) (x : α) (k : ℕ) : Prop := ∀ j, k ≤ j → f^[j] x = f^[k] x

/-- An orbit has settled once it reaches a fixed point. -/
theorem settledAt_of_isFixedPt {x : α} {k : ℕ} (h : Function.IsFixedPt f (f^[k] x)) :
    SettledAt f x k := by
  intro j hj
  obtain ⟨n, rfl⟩ := Nat.exists_eq_add_of_le hj
  rw [Nat.add_comm, Function.iterate_add_apply]
  exact h.iterate n

/-- What comes to rest behind the first pass comes to rest one pass later. -/
theorem SettledAt.succ {x : α} {k : ℕ} (h : SettledAt f (f x) k) : SettledAt f x (k + 1) := by
  intro j hj
  obtain ⟨n, rfl⟩ : ∃ n, j = n + 1 := ⟨j - 1, by omega⟩
  rw [Function.iterate_succ_apply, Function.iterate_succ_apply]
  exact h n (Nat.le_of_succ_le_succ hj)

/-- A pass keeps the invariant, and changes nothing or decreases the measure. -/
structure Decreasing (f : α → α) (Inv : α → Prop) (measure : α → ℕ) : Prop where
  keeps : ∀ x, Inv x → Inv (f x)
  decreases : ∀ x, Inv x → f x = x ∨ measure (f x) < measure x

/-- **Such passes come to rest** within the measure. -/
theorem Decreasing.exists_settled (h : Decreasing f Inv measure) {x : α} (hx : Inv x) :
    ∃ k ≤ measure x, SettledAt f x k := by
  induction hn : measure x using Nat.strong_induction_on generalizing x with
  | h n ih =>
    rcases h.decreases x hx with hfixed | hlt
    · exact ⟨0, Nat.zero_le n, settledAt_of_isFixedPt hfixed⟩
    · obtain ⟨k, hk, hsettled⟩ := ih (measure (f x)) (hn ▸ hlt) (h.keeps x hx) rfl
      exact ⟨k + 1, by omega, hsettled.succ⟩

/-- Element by element, a pass changes nothing or decreases the sum of the measures. -/
theorem Forall₂.sum_lt {xs ys : List α}
    (h : List.Forall₂ (fun x y => y = x ∨ measure y < measure x) xs ys) :
    ys = xs ∨ (ys.map measure).sum < (xs.map measure).sum := by
  induction h with
  | nil => exact Or.inl rfl
  | cons hhead _ ih =>
    rw [List.map_cons, List.map_cons, List.sum_cons, List.sum_cons]
    rcases hhead with rfl | hlt <;> rcases ih with rfl | hlt'
    · exact Or.inl rfl
    · exact Or.inr (by omega)
    · exact Or.inr (by omega)
    · exact Or.inr (by omega)

end FixedPoint
