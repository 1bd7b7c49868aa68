import Mathlib.Data.List.Forall2
import Mathlib.Data.List.Induction

/-!
# Deterministic transducers

A transducer is a step function from a state and an input to the next state and an output. This
file runs it over a list of inputs and gives the rules the later developments use: invariants
that mention the inputs read so far, and the unwinding rule for noninterference.
-/

namespace Transducer

variable {σ ι ο : Type*} (step : σ → ι → σ × ο)

/-- The state after reading `inputs` from `s`. -/
def after (s : σ) (inputs : List ι) : σ := inputs.foldl (fun s x => (step s x).1) s

/-- The outputs given while reading the inputs from `s`, in order. -/
def outputs (s : σ) : List ι → List ο
  | [] => []
  | x :: inputs => (step s x).2 :: outputs (step s x).1 inputs

@[simp] theorem after_nil (s : σ) : after step s [] = s := rfl

@[simp] theorem after_cons (s : σ) (x : ι) (inputs : List ι) :
    after step s (x :: inputs) = after step (step s x).1 inputs := rfl

/-- The state behind two stretches of inputs is reached through the one between them. -/
theorem after_append (s : σ) (xs ys : List ι) :
    after step s (xs ++ ys) = after step (after step s xs) ys := List.foldl_append

@[simp] theorem after_concat (s : σ) (xs : List ι) (x : ι) :
    after step s (xs ++ [x]) = (step (after step s xs) x).1 := by
  rw [after_append, after_cons, after_nil]

@[simp] theorem outputs_nil (s : σ) : outputs step s [] = [] := rfl

@[simp] theorem outputs_cons (s : σ) (x : ι) (inputs : List ι) :
    outputs step s (x :: inputs) = (step s x).2 :: outputs step (step s x).1 inputs := rfl

/-- The outputs of two stretches of inputs stand behind each other. -/
theorem outputs_append (s : σ) (xs ys : List ι) :
    outputs step s (xs ++ ys) = outputs step s xs ++ outputs step (after step s xs) ys := by
  induction xs generalizing s with
  | nil => rfl
  | cons x xs ih => rw [List.cons_append, outputs_cons, outputs_cons, ih, after_cons]; rfl

/-- There is one output for each input. -/
@[simp] theorem length_outputs (s : σ) (inputs : List ι) :
    (outputs step s inputs).length = inputs.length := by
  induction inputs generalizing s with
  | nil => rfl
  | cons x inputs ih => simp [ih]

/-- **Invariant rule.** A property of the inputs read so far and the state reached, kept by every
step, holds along every run. -/
theorem invariant {s : σ} (Inv : List ι → σ → Prop) (hinit : Inv [] s)
    (hstep : ∀ read t x, Inv read t → Inv (read ++ [x]) (step t x).1) (inputs : List ι) :
    Inv inputs (after step s inputs) := by
  induction inputs using List.reverseRecOn with
  | nil => exact hinit
  | append_singleton inputs x ih =>
    rw [after_concat]
    exact hstep inputs _ x ih

/-- **Component rule.** A component of the state that moves by its own step on the inputs that pass
a gate, and stays as it is on the others, runs on the inputs that pass the gate. -/
theorem after_component {τ ο' : Type*} {step' : τ → ι → τ × ο'} (component : σ → τ)
    {gate : ι → Bool} (h : ∀ s x, component (step s x).1
      = if gate x then (step' (component s) x).1 else component s) (s : σ) (inputs : List ι) :
    component (after step s inputs) = after step' (component s) (inputs.filter gate) := by
  induction inputs generalizing s with
  | nil => rfl
  | cons x inputs ih =>
    rw [after_cons, ih, h]
    cases hx : gate x <;> simp [hx]

/-- **Output rule.** What every step makes true of its input and output holds along every run. -/
theorem forall₂_outputs {R : ι → ο → Prop} (hstep : ∀ s x, R x (step s x).2) (s : σ)
    (inputs : List ι) : List.Forall₂ R inputs (outputs step s inputs) := by
  induction inputs generalizing s with
  | nil => exact .nil
  | cons x inputs ih => exact .cons (hstep s x) (ih _)

/-- **Unwinding rule.** If inputs outside `mine` keep two states related, and inputs inside `mine`
keep them related and give equal outputs, then the outputs at the inputs inside `mine` are those
of a run that reads nothing else. -/
theorem outputs_filter {mine : ι → Bool} (Rel : σ → σ → Prop)
    (hother : ∀ s t x, Rel s t → mine x = false → Rel (step s x).1 t)
    (hmine : ∀ s t x, Rel s t → mine x = true →
      (step s x).2 = (step t x).2 ∧ Rel (step s x).1 (step t x).1)
    {s t : σ} (hst : Rel s t) (inputs : List ι) :
    ((inputs.zip (outputs step s inputs)).filter fun p => mine p.1).map Prod.snd
      = outputs step t (inputs.filter mine) := by
  induction inputs generalizing s t with
  | nil => rfl
  | cons x inputs ih =>
    cases hx : mine x with
    | false =>
      have hrel := hother s t x hst hx
      simpa [hx] using ih hrel
    | true =>
      obtain ⟨hout, hrel⟩ := hmine s t x hst hx
      simpa [hx, hout] using ih hrel

/-- **Simulation rule.** Two transducers whose steps keep their states related, and give related
outputs, whenever their inputs are related, give related outputs along every pair of related
runs. -/
theorem outputs_simulation {σ' ι' ο' : Type*} {step' : σ' → ι' → σ' × ο'} (Rel : σ → σ' → Prop)
    {In : ι → ι' → Prop} {Out : ο → ο' → Prop}
    (hstep : ∀ s t x y, Rel s t → In x y →
      Rel (step s x).1 (step' t y).1 ∧ Out (step s x).2 (step' t y).2)
    {s : σ} {t : σ'} (hst : Rel s t) {xs : List ι} {ys : List ι'} (h : List.Forall₂ In xs ys) :
    List.Forall₂ Out (outputs step s xs) (outputs step' t ys) := by
  induction h generalizing s t with
  | nil => exact .nil
  | cons hxy _ ih =>
    obtain ⟨hrel, hout⟩ := hstep _ _ _ _ hst hxy
    exact .cons hout (ih hrel)

/-- The simulation rule for two readings of one trace and equal outputs. -/
theorem outputs_eq_of_simulation {α σ' ι' : Type*} {step' : σ' → ι' → σ' × ο} (f : α → ι)
    (g : α → ι') (Rel : σ → σ' → Prop)
    (hstep : ∀ s t x, Rel s t →
      Rel (step s (f x)).1 (step' t (g x)).1 ∧ (step s (f x)).2 = (step' t (g x)).2)
    {s : σ} {t : σ'} (hst : Rel s t) (trace : List α) :
    outputs step s (trace.map f) = outputs step' t (trace.map g) := by
  have hin : List.Forall₂ (fun x y => ∃ a, f a = x ∧ g a = y) (trace.map f) (trace.map g) := by
    rw [List.forall₂_map_left_iff, List.forall₂_map_right_iff, List.forall₂_same]
    exact fun x _ => ⟨x, rfl, rfl⟩
  have hout : List.Forall₂ Eq (outputs step s (trace.map f)) (outputs step' t (trace.map g)) := by
    refine outputs_simulation step Rel ?_ hst hin
    rintro s t _ _ hrel ⟨x, rfl, rfl⟩
    exact hstep s t x hrel
  rwa [List.forall₂_eq_eq_eq] at hout

/-- Two lists of inputs that are related item by item, by a relation that depends on the state in
which a run over the first list is. -/
inductive Along (R : σ → ι → ι → Prop) : σ → List ι → List ι → Prop
  | nil {s : σ} : Along R s [] []
  | cons {s : σ} {x y : ι} {xs ys : List ι} (h : R s x y) (hrest : Along R (step s x).1 xs ys) :
    Along R s (x :: xs) (y :: ys)

/-- What the relation says in every state holds item by item. -/
theorem Along.forall₂ {step : σ → ι → σ × ο} {R : σ → ι → ι → Prop} {R' : ι → ι → Prop}
    (hsub : ∀ s x y, R s x y → R' x y) {s : σ} {xs ys : List ι} (h : Along step R s xs ys) :
    List.Forall₂ R' xs ys := by
  induction h with
  | nil => exact .nil
  | cons hfirst _ ih => exact .cons (hsub _ _ _ hfirst) ih

end Transducer
