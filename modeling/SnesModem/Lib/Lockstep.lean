import SnesModem.Lib.Run

/-!
# Two machines in lockstep

A machine steps on inputs and shows something at each of them.  A second one steps on the same inputs, and may
fail.

* `trace`, `partialTrace`: what the machines show along a run;
* `partialTrace_eq`, `trace_eq`: a relation that guarded steps preserve, and under which they show the same, makes the
  second machine show along every guarded run what the first one does.
-/

namespace SnesModem.Lib.Lockstep

variable {σ τ ι ο : Type*}

/-- What a machine shows along a run. -/
def trace (step : σ → ι → σ × ο) : σ → List ι → List ο
  | _, [] => []
  | s, i :: inputs => (step s i).2 :: trace step (step s i).1 inputs

/-- What a machine that may fail shows along a run, unless it fails. -/
def partialTrace (step : τ → ι → Option (τ × ο)) : τ → List ι → Option (List ο)
  | _, [] => some []
  | t, i :: inputs =>
    match step t i with
    | none => none
    | some (t, shown) => (partialTrace step t inputs).map (shown :: ·)

variable {step : σ → ι → σ × ο} {step' : τ → ι → Option (τ × ο)} {related : σ → τ → Prop} {guard : σ → ι → Prop}

/-- **The rule of simulation.** -/
theorem partialTrace_eq
    (hstep : ∀ s t i, related s t → guard s i → ∃ t', step' t i = some (t', (step s i).2) ∧ related (step s i).1 t')
    {s : σ} {t : τ} (h : related s t) {inputs : List ι} (hguard : Run.Along (fun s i => (step s i).1) guard s inputs) :
    partialTrace step' t inputs = some (trace step s inputs) := by
  induction inputs generalizing s t with
  | nil => rfl
  | cons i inputs ih =>
    obtain ⟨t', hstep', h'⟩ := hstep s t i h hguard.1
    unfold partialTrace trace
    rw [hstep']
    dsimp only
    rw [ih h' hguard.2]
    rfl

/-- The rule of simulation for a second machine that does not fail. -/
theorem trace_eq {step₂ : τ → ι → τ × ο}
    (hstep : ∀ s t i, related s t → guard s i → (step₂ t i).2 = (step s i).2 ∧ related (step s i).1 (step₂ t i).1)
    {s : σ} {t : τ} (h : related s t) {inputs : List ι} (hguard : Run.Along (fun s i => (step s i).1) guard s inputs) :
    trace step₂ t inputs = trace step s inputs := by
  induction inputs generalizing s t with
  | nil => rfl
  | cons i inputs ih =>
    obtain ⟨hshown, h'⟩ := hstep s t i h hguard.1
    unfold trace
    rw [hshown, ih h' hguard.2]

/-- The rule of simulation where every step preserves the relation. -/
theorem partialTrace_eq_of_forall
    (hstep : ∀ s t i, related s t → ∃ t', step' t i = some (t', (step s i).2) ∧ related (step s i).1 t')
    {s : σ} {t : τ} (h : related s t) (inputs : List ι) :
    partialTrace step' t inputs = some (trace step s inputs) :=
  partialTrace_eq (fun s t i hrelated (_ : True) => hstep s t i hrelated) h (Run.along_of_forall fun _ _ => trivial)

end SnesModem.Lib.Lockstep
