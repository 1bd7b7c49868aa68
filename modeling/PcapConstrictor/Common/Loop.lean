import Mathlib.Data.Nat.Notation

/-!
# Loops with exits

A loop body is called with the number of the iteration and the locals, and either goes on or leaves
the loop. Nothing bounds the number of iterations, so a run is given fuel; a loop returns when some
amount of fuel suffices. The rules lead from one iteration to the exit.
-/

namespace Loop

/-- What an iteration does: go on with new locals, or leave the loop. -/
inductive Iteration (σ ε : Type*)
  | next (s : σ)
  | exit (e : ε)

variable {σ ε : Type*} (body : ℕ → σ → Iteration σ ε)

/-- The iteration that leaves the loop and what it leaves with, for a loop that starts with
iteration `k`. -/
def run : ℕ → ℕ → σ → Option (ℕ × ε)
  | 0, _, _ => none
  | fuel + 1, k, s =>
    match body k s with
    | .next s => run fuel (k + 1) s
    | .exit e => some (k, e)

/-- A loop that starts with iteration 0 and the locals `s` has the locals `t` in front of iteration
`k`. -/
inductive Reaches (s : σ) : ℕ → σ → Prop
  | start : Reaches s 0 s
  | next {k : ℕ} {t t' : σ} (h : Reaches s k t) (hbody : body k t = .next t') :
    Reaches s (k + 1) t'

/-- **Invariant rule.** A property kept by every iteration that goes on holds in front of the
iteration that leaves the loop. -/
theorem invariant {body : ℕ → σ → Iteration σ ε} (Inv : ℕ → σ → Prop)
    (hstep : ∀ k s s', Inv k s → body k s = .next s' → Inv (k + 1) s') {fuel k k' : ℕ} {s : σ}
    {e : ε} (hinit : Inv k s) (hrun : run body fuel k s = some (k', e)) :
    ∃ t, Inv k' t ∧ body k' t = .exit e := by
  induction fuel generalizing k s with
  | zero => cases hrun
  | succ fuel ih =>
    unfold run at hrun
    split at hrun
    · next s' hbody => exact ih (hstep k s s' hinit hbody) hrun
    · next e' hbody =>
      obtain ⟨rfl, rfl⟩ := Prod.mk.inj (Option.some.inj hrun)
      exact ⟨s, hinit, hbody⟩

/-- **Congruence rule.** Two loops whose bodies agree wherever the first one gets run alike. -/
theorem run_congr {body body' : ℕ → σ → Iteration σ ε} (Inv : ℕ → σ → Prop)
    (hstep : ∀ k s s', Inv k s → body k s = .next s' → Inv (k + 1) s')
    (hbody : ∀ k s, Inv k s → body' k s = body k s) (fuel : ℕ) {k : ℕ} {s : σ} (hinit : Inv k s) :
    run body' fuel k s = run body fuel k s := by
  induction fuel generalizing k s with
  | zero => rfl
  | succ fuel ih =>
    rw [run, run, hbody k s hinit]
    cases hnext : body k s with
    | next s' => exact ih (hstep k s s' hinit hnext)
    | exit e => rfl

/-- **Progress rule.** Iterations that go on can be run one after the other. -/
theorem run_add {n : ℕ} (fuel k : ℕ) (f : ℕ → σ)
    (hnext : ∀ j < n, body (k + j) (f j) = .next (f (j + 1))) :
    run body (n + fuel) k (f 0) = run body fuel (k + n) (f n) := by
  induction n generalizing k f with
  | zero => rw [Nat.zero_add, Nat.add_zero]
  | succ n ih =>
    have hfirst : body k (f 0) = .next (f 1) := hnext 0 (Nat.succ_pos n)
    have hrest := ih (k + 1) (fun j => f (j + 1)) fun j hj => by
      rw [Nat.add_right_comm]
      exact hnext (j + 1) (Nat.succ_lt_succ hj)
    rw [Nat.add_right_comm, run, hfirst]
    exact hrest.trans (by rw [Nat.add_right_comm, Nat.add_assoc])

/-- **Trajectory rule.** Where the locals in front of an iteration are a function of its number, a
run leaves with the first iteration that does not go on. -/
theorem run_trajectory {body : ℕ → σ → Iteration σ ε} (f : ℕ → σ)
    (hf : ∀ k s, body k (f k) = .next s → s = f (k + 1)) (fuel k n : ℕ) (e : ε) :
    run body fuel k (f k) = some (n, e) ↔
      k ≤ n ∧ n < k + fuel ∧ body n (f n) = .exit e ∧
        ∀ j, k ≤ j → j < n → body j (f j) = .next (f (j + 1)) := by
  induction fuel generalizing k with
  | zero =>
    rw [run]
    refine ⟨nofun, ?_⟩
    rintro ⟨hle, hlt, -⟩
    omega
  | succ fuel ih =>
    rw [run]
    cases hbody : body k (f k) with
    | next s =>
      obtain rfl := hf k s hbody
      dsimp only
      rw [ih]
      constructor
      · rintro ⟨hle, hlt, hexit, hnext⟩
        refine ⟨by omega, by omega, hexit, fun j hj hjn => ?_⟩
        rcases Nat.eq_or_lt_of_le hj with rfl | hj
        · exact hbody
        · exact hnext j hj hjn
      · rintro ⟨hle, hlt, hexit, hnext⟩
        -- iteration `k` goes on, so it is not the last one
        have hne : k ≠ n := by
          rintro rfl
          cases hbody.symm.trans hexit
        exact ⟨by omega, by omega, hexit, fun j hj => hnext j (by omega)⟩
    | exit e' =>
      dsimp only
      constructor
      · intro h
        obtain ⟨rfl, rfl⟩ := Prod.mk.inj (Option.some.inj h)
        exact ⟨Nat.le_refl k, by omega, hbody, fun j hj hjn => absurd hjn (Nat.not_lt.mpr hj)⟩
      · rintro ⟨hle, -, hexit, hnext⟩
        rcases Nat.eq_or_lt_of_le hle with rfl | hlt
        · rw [Iteration.exit.inj (hbody.symm.trans hexit)]
        · cases hbody.symm.trans (hnext k (Nat.le_refl k) hlt)

/-- **Simulation rule.** Let each iteration of one loop do what an iteration of another one does, or
leave the loop on its own account (`Broke`). Then so does the run as a whole. -/
theorem run_simulation {σ' ε' : Type*} {body : ℕ → σ → Iteration σ ε}
    {body' : ℕ → σ' → Iteration σ' ε'} (Rel : ℕ → σ → σ' → Prop) (Out : ε → ε' → Prop)
    (Broke : ℕ → ε' → Prop)
    (hstep : ∀ k s s', Rel k s s' →
      (∃ t t', body k s = .next t ∧ body' k s' = .next t' ∧ Rel (k + 1) t t') ∨
      (∃ e e', body k s = .exit e ∧ body' k s' = .exit e' ∧ Out e e') ∨
      ∃ e', body' k s' = .exit e' ∧ Broke k e')
    (fuel : ℕ) {k : ℕ} {s : σ} {s' : σ'} (hrel : Rel k s s') :
    (run body fuel k s = none ∧ run body' fuel k s' = none) ∨
      (∃ n e e', run body fuel k s = some (n, e) ∧ run body' fuel k s' = some (n, e') ∧ Out e e') ∨
      ∃ n e', run body' fuel k s' = some (n, e') ∧ Broke n e' := by
  induction fuel generalizing k s s' with
  | zero => exact Or.inl ⟨rfl, rfl⟩
  | succ fuel ih =>
    rw [run, run]
    rcases hstep k s s' hrel with
      ⟨t, t', hbody, hbody', hnext⟩ | ⟨e, e', hbody, hbody', hout⟩ | ⟨e', hbody', hbroke⟩
    · rw [hbody, hbody']
      exact ih hnext
    · rw [hbody, hbody']
      exact Or.inr (Or.inl ⟨k, e, e', rfl, rfl, hout⟩)
    · rw [hbody']
      exact Or.inr (Or.inr ⟨k, e', rfl, hbroke⟩)

end Loop
