import Mathlib.Algebra.BigOperators.Intervals
import Mathlib.Algebra.BigOperators.Ring.Finset
import Mathlib.Algebra.Order.BigOperators.Group.Finset

/-!
# Loops that take off units

The units are numbered from a start on, and each has its length.

* `loop`: turns of a step until it takes none, with the rule of variants `loop_halts`;
* `before`: the length of the units before one, and `before_add_inj`: a number determines the unit that it falls into;
* `loop_units`: a loop that takes off one unit after another stops at that unit.
-/

namespace SnesModem.Lib.Units

/-! ### Loops -/

section Loop

variable {σ : Type*} {step : σ → Option σ} {s : σ}

/-- The state in which the step takes no turn; the fuel counts the looks at the step. -/
def loop (step : σ → Option σ) : ℕ → σ → Option σ
  | 0, _ => none
  | fuel + 1, s =>
    match step s with
    | none => some s
    | some s' => loop step fuel s'

/-- **The rule of variants**: what every turn keeps and counts down makes the loop halt. -/
theorem loop_halts (invariant : σ → Prop) (variant : σ → ℕ)
    (hstep : ∀ s s', invariant s → step s = some s' → invariant s' ∧ variant s' < variant s) (hs : invariant s) :
    ∃ s', (∀ fuel, variant s < fuel → loop step fuel s = some s') ∧ invariant s' ∧ step s' = none := by
  induction hn : variant s using Nat.strong_induction_on generalizing s with
  | _ n ih =>
    cases hturn : step s with
    | none =>
      refine ⟨s, fun fuel hfuel => ?_, hs, hturn⟩
      obtain ⟨fuel, rfl⟩ : ∃ k, fuel = k + 1 := ⟨fuel - 1, by omega⟩
      simp [loop, hturn]
    | some t =>
      obtain ⟨ht, hless⟩ := hstep s t hs hturn
      obtain ⟨s', hloop, hs', hend⟩ := ih (variant t) (by omega) ht rfl
      refine ⟨s', fun fuel hfuel => ?_, hs', hend⟩
      obtain ⟨fuel, rfl⟩ : ∃ k, fuel = k + 1 := ⟨fuel - 1, by omega⟩
      simp only [loop, hturn]
      apply hloop
      omega

end Loop

/-! ### Units -/

section Units

variable {len : ℕ → ℕ} {start : ℕ}

/-- The length of the units from the start to one, without that one. -/
def before (len : ℕ → ℕ) (start unit : ℕ) : ℕ := ∑ i ∈ Finset.Ico start unit, len i

@[simp] lemma before_start : before len start start = 0 := by simp [before]

lemma before_succ {unit : ℕ} (h : start ≤ unit) : before len start (unit + 1) = before len start unit + len unit :=
  Finset.sum_Ico_succ_top h len

lemma before_mono {unit unit' : ℕ} (h : unit ≤ unit') : before len start unit ≤ before len start unit' := by
  apply Finset.sum_le_sum_of_subset
  exact Finset.Ico_subset_Ico le_rfl h

lemma before_mul (c unit : ℕ) : before (fun i => c * len i) start unit = c * before len start unit :=
  (Finset.mul_sum _ _ _).symm

lemma before_const (c unit : ℕ) : before (fun _ => c) start unit = c * (unit - start) := by
  rw [before, Finset.sum_const, Nat.card_Ico, nsmul_eq_mul, Nat.cast_id, Nat.mul_comm]

/-- **A number falls into one unit**, at one place. -/
lemma before_add_inj {unit unit' rest rest' : ℕ} (hunit : start ≤ unit) (hunit' : start ≤ unit')
    (hrest : rest < len unit) (hrest' : rest' < len unit')
    (h : before len start unit + rest = before len start unit' + rest') : unit = unit' ∧ rest = rest' := by
  -- The sum up to the later unit holds the earlier one as a whole.
  rcases Nat.lt_trichotomy unit unit' with hlt | rfl | hlt
  · have hmono : before len start (unit + 1) ≤ before len start unit' := before_mono hlt
    rw [before_succ hunit] at hmono
    omega
  · exact ⟨rfl, by omega⟩
  · have hmono : before len start (unit' + 1) ≤ before len start unit := before_mono hlt
    rw [before_succ hunit'] at hmono
    omega

/-- **A loop over the units** that takes off each one that fits: it stops in the unit into which the number falls. -/
theorem loop_units {σ : Type*} {step : σ → Option σ} (unit rest : σ → ℕ) (s : σ) {limit : ℕ}
    (hstep : ∀ s, start ≤ unit s → unit s < limit →
      if len (unit s) ≤ rest s then
        ∃ s', step s = some s' ∧ unit s' = unit s + 1 ∧ rest s' = rest s - len (unit s)
      else step s = none)
    (hs : unit s = start) (hlimit : rest s < before len start limit) :
    ∃ s', (∀ fuel, limit - start < fuel → loop step fuel s = some s') ∧ start ≤ unit s' ∧ unit s' < limit ∧
      before len start (unit s') + rest s' = rest s ∧ rest s' < len (unit s') := by
  -- What is left and what has been taken off make up the number, so the limit is not reached.
  have hbelow : ∀ t, start ≤ unit t → before len start (unit t) + rest t = rest s → unit t < limit := by
    intro t _ hsum
    by_contra hge
    have hmono : before len start limit ≤ before len start (unit t) := before_mono (not_lt.mp hge)
    omega
  have hturn : ∀ t t', (start ≤ unit t ∧ before len start (unit t) + rest t = rest s) → step t = some t' →
      (start ≤ unit t' ∧ before len start (unit t') + rest t' = rest s) ∧ limit - unit t' < limit - unit t := by
    rintro t t' ⟨hstart, hsum⟩ hturn
    have hlt := hbelow t hstart hsum
    have hcases := hstep t hstart hlt
    split_ifs at hcases with hfits
    · obtain ⟨u, hu, hunit, hrest⟩ := hcases
      rw [hturn] at hu
      cases hu
      refine ⟨⟨by omega, ?_⟩, by omega⟩
      rw [hunit, before_succ hstart]
      omega
    · rw [hturn] at hcases
      cases hcases
  obtain ⟨s', hloop, ⟨hstart, hsum⟩, hend⟩ := loop_halts _ (fun t => limit - unit t) hturn
    ⟨hs.ge, by rw [hs, before_start, Nat.zero_add]⟩
  have hlt := hbelow s' hstart hsum
  refine ⟨s', ?_, hstart, hlt, hsum, ?_⟩
  · rw [← hs]
    exact hloop
  · have hcases := hstep s' hstart hlt
    split_ifs at hcases with hfits
    · obtain ⟨u, hu, -⟩ := hcases
      rw [hend] at hu
      cases hu
    · omega

end Units

end SnesModem.Lib.Units
