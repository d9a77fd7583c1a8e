import Mathlib.Data.List.Basic

/-!
# Runs of a deterministic machine

A machine steps on inputs, and a run is a list of inputs.

* `Along`: every step of a run meets a guard;
* `run_invariant`: what holds at the start and what guarded steps preserve holds at the end;
* `Until`: a property holds along a run up to the step that releases it, if there is one.
-/

namespace SnesModem.Lib.Run

variable {σ ι : Type*}

/-- The state after a run. -/
def run (step : σ → ι → σ) (s : σ) (inputs : List ι) : σ := inputs.foldl step s

/-- Every step of the run meets the guard. -/
def Along (step : σ → ι → σ) (guard : σ → ι → Prop) : σ → List ι → Prop
  | _, [] => True
  | s, i :: inputs => guard s i ∧ Along step guard (step s i) inputs

/-- The property holds at each state of the run, up to a step that releases it. -/
def Until (step : σ → ι → σ) (holds : σ → Prop) (releases : σ → ι → Prop) : σ → List ι → Prop
  | s, [] => holds s
  | s, i :: inputs => holds s ∧ (releases s i ∨ Until step holds releases (step s i) inputs)

variable {step : σ → ι → σ} {guard guard' : σ → ι → Prop} {s : σ} {i : ι} {inputs inputs' : List ι}

@[simp] lemma run_nil : run step s [] = s := rfl

@[simp] lemma run_cons : run step s (i :: inputs) = run step (step s i) inputs := rfl

lemma run_append : run step s (inputs ++ inputs') = run step (run step s inputs) inputs' := List.foldl_append

lemma along_append :
    Along step guard s (inputs ++ inputs') ↔ Along step guard s inputs ∧ Along step guard (run step s inputs) inputs' := by
  induction inputs generalizing s with
  | nil => simp [Along]
  | cons i inputs ih => simp [Along, ih, and_assoc]

lemma along_and :
    Along step (fun s i => guard s i ∧ guard' s i) s inputs ↔ Along step guard s inputs ∧ Along step guard' s inputs := by
  induction inputs generalizing s with
  | nil => simp [Along]
  | cons i inputs ih =>
    simp only [Along, ih]
    tauto

lemma along_mono (h : ∀ s i, guard s i → guard' s i) (hguard : Along step guard s inputs) :
    Along step guard' s inputs := by
  induction inputs generalizing s with
  | nil => trivial
  | cons i inputs ih => exact ⟨h s i hguard.1, ih hguard.2⟩

lemma along_of_forall (h : ∀ s i, guard s i) : Along step guard s inputs := by
  induction inputs generalizing s with
  | nil => trivial
  | cons i inputs ih => exact ⟨h s i, ih⟩

/-- **The rule of invariants.** -/
theorem run_invariant {invariant : σ → Prop}
    (hstep : ∀ s i, invariant s → guard s i → invariant (step s i)) (hs : invariant s)
    (hguard : Along step guard s inputs) : invariant (run step s inputs) := by
  induction inputs generalizing s with
  | nil => exact hs
  | cons i inputs ih => exact ih (hstep s i hs hguard.1) hguard.2

/-- What every step preserves, a run preserves. -/
theorem run_preserves {invariant : σ → Prop} (hstep : ∀ s i, invariant s → invariant (step s i))
    (hs : invariant s) : invariant (run step s inputs) := by
  induction inputs generalizing s with
  | nil => exact hs
  | cons i inputs ih => exact ih (hstep s i hs)

/-- **The rule of ghost state**: a machine that records more than another steps along where the other does. -/
theorem along_of_view {τ : Type*} {view : σ → τ} {step' : τ → ι → τ} {guard : τ → ι → Prop}
    (hview : ∀ s i, view (step s i) = step' (view s) i) (h : Along step' guard (view s) inputs) :
    Along step (fun s i => guard (view s) i) s inputs := by
  induction inputs generalizing s with
  | nil => trivial
  | cons i inputs ih =>
    refine ⟨h.1, ih ?_⟩
    rw [hview]
    exact h.2

/-- **The rule of indistinguishable machines**: guarded steps of one machine look like the steps of another, which
takes states that look the same to states that look the same; then so do the guarded runs. -/
theorem run_view_eq {τ : Type*} {view : σ → τ} {step' : σ → ι → σ}
    (hguarded : ∀ s i, guard s i → view (step s i) = view (step' s i))
    (hstep : ∀ s s' i, view s = view s' → view (step' s i) = view (step' s' i)) {s' : σ} (hs : view s = view s')
    (h : Along step guard s inputs) : view (run step s inputs) = view (run step' s' inputs) := by
  induction inputs generalizing s s' with
  | nil => exact hs
  | cons i inputs ih => exact ih ((hguarded s i h.1).trans (hstep s s' i hs)) h.2

/-- **The rule of weak until**: each guarded step releases the property or preserves it. -/
theorem until_of_step {holds : σ → Prop} {releases : σ → ι → Prop}
    (hstep : ∀ s i, holds s → guard s i → releases s i ∨ holds (step s i)) (hs : holds s)
    (hguard : Along step guard s inputs) : Until step holds releases s inputs := by
  induction inputs generalizing s with
  | nil => exact hs
  | cons i inputs ih =>
    refine ⟨hs, ?_⟩
    rcases hstep s i hs hguard.1 with h | h
    · exact Or.inl h
    · exact Or.inr (ih h hguard.2)

lemma Until.mono {holds holds' : σ → Prop} {releases : σ → ι → Prop} (himplies : ∀ s, holds s → holds' s)
    (h : Until step holds releases s inputs) : Until step holds' releases s inputs := by
  induction inputs generalizing s with
  | nil => exact himplies s h
  | cons i inputs ih => exact ⟨himplies s h.1, h.2.imp_right ih⟩

/-- A decidable guard can be checked along a run. -/
instance [∀ s i, Decidable (guard s i)] : Decidable (Along step guard s inputs) := by
  induction inputs generalizing s with
  | nil => exact inferInstanceAs (Decidable True)
  | cons i inputs ih => exact inferInstanceAs (Decidable (_ ∧ _))

end SnesModem.Lib.Run
