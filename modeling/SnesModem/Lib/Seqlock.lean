import Mathlib.Data.Finset.Defs
import Mathlib.Data.List.GetD
import Mathlib.Data.Nat.Count
import Mathlib.Data.UInt

/-!
# Sequence locks

A writer advances a counter before and after it stores into a block of memory.  A reader, which samples the addresses
at times of their own, reads the counter, the block, and the counter again.

* `History`: a memory with what it held before each store; `Follows`: the stores that lead from one to another;
* `Read`, `Attempt`: the times of the samples;
* `Disciplined`: what a single store may change;
* `noReturn_of_advances`: a counter of octets that advances fewer than 256 times takes no value twice;
* `consistent_of_accepted`: an attempt that finds the counter unlocked and unchanged has read one memory.
-/

namespace SnesModem.Lib.Seqlock

/-! ### Histories -/

/-- What a memory held before each of the stores, the first one first, and what it holds. -/
structure History (μ : Type*) where
  past : List μ
  current : μ

namespace History

variable {μ : Type*}

/-- How many stores there have been. -/
def now (h : History μ) : ℕ := h.past.length

/-- What the memory held after so many stores. -/
def contents (h : History μ) (t : ℕ) : μ := h.past.getD t h.current

def store (h : History μ) (m : μ) : History μ := ⟨h.past ++ [h.current], m⟩

variable {h : History μ} {m : μ} {t : ℕ}

@[simp] lemma now_store : (h.store m).now = h.now + 1 := by simp [now, store]

@[simp] lemma current_store : (h.store m).current = m := rfl

@[simp] lemma contents_now : h.contents h.now = h.current := by simp [contents, now]

lemma contents_store (ht : t ≤ h.now) : (h.store m).contents t = h.contents t := by
  change (h.past ++ [h.current]).getD t m = h.past.getD t h.current
  rcases Nat.lt_or_eq_of_le ht with hlt | rfl
  · have hlt' : t < h.past.length := hlt
    rw [List.getD_append _ _ _ _ hlt', List.getD_eq_getElem _ _ hlt', List.getD_eq_getElem _ _ hlt']
  · simp [now]

end History

/-- One history goes on from another, and each of its stores is related. -/
structure Follows {μ : Type*} (related : μ → μ → Prop) (h h' : History μ) : Prop where
  now_le : h.now ≤ h'.now
  keeps : ∀ t ≤ h.now, h'.contents t = h.contents t
  step : ∀ t, h.now ≤ t → t < h'.now → related (h'.contents t) (h'.contents (t + 1))

namespace Follows

variable {μ : Type*} {related related' : μ → μ → Prop} {h h' h'' : History μ} {m : μ}

lemma refl (h : History μ) : Follows related h h where
  now_le := Nat.le_refl _
  keeps _ _ := rfl
  step t hle hlt := by omega

lemma store (hrelated : related h.current m) : Follows related h (h.store m) where
  now_le := by simp
  keeps _ ht := History.contents_store ht
  step t hle hlt := by
    have ht : t = h.now := by
      rw [History.now_store] at hlt
      omega
    subst ht
    have hlast : (h.store m).contents (h.now + 1) = m := by
      rw [← History.now_store (m := m), History.contents_now, History.current_store]
    rw [hlast, History.contents_store (Nat.le_refl _), History.contents_now]
    exact hrelated

lemma trans (hfirst : Follows related h h') (hsecond : Follows related h' h'') : Follows related h h'' where
  now_le := hfirst.now_le.trans hsecond.now_le
  keeps t ht := (hsecond.keeps t (ht.trans hfirst.now_le)).trans (hfirst.keeps t ht)
  step t hle hlt := by
    by_cases hsplit : t < h'.now
    · rw [hsecond.keeps t (by omega), hsecond.keeps (t + 1) (by omega)]
      exact hfirst.step t hle hsplit
    · exact hsecond.step t (by omega) hlt

lemma mono (hrelated : ∀ m m', related m m' → related' m m') (hfollows : Follows related h h') :
    Follows related' h h' where
  now_le := hfollows.now_le
  keeps := hfollows.keeps
  step t hle hlt := hrelated _ _ (hfollows.step t hle hlt)

/-- What each store preserves holds from the first one on. -/
lemma invariant {holds : μ → Prop} (hstep : ∀ m m', related m m' → holds m → holds m')
    (hfollows : Follows related h h') (hstart : holds h.current) {t : ℕ} (hle : h.now ≤ t) (hlt : t ≤ h'.now) :
    holds (h'.contents t) := by
  induction t, hle using Nat.le_induction with
  | base =>
    rw [hfollows.keeps _ (Nat.le_refl _), History.contents_now]
    exact hstart
  | succ t hle ih => exact hstep _ _ (hfollows.step t hle (by omega)) (ih (by omega))

/-- What each store preserves holds at the end. -/
lemma invariant_current {holds : μ → Prop} (hstep : ∀ m m', related m m' → holds m → holds m')
    (hfollows : Follows related h h') (hstart : holds h.current) : holds h'.current := by
  rw [← History.contents_now]
  exact hfollows.invariant hstep hstart hfollows.now_le (Nat.le_refl _)

/-- The stores may be told what each of them preserves. -/
lemma strengthen {holds : μ → Prop} (hstep : ∀ m m', related m m' → holds m → holds m')
    (hfollows : Follows related h h') (hstart : holds h.current) :
    Follows (fun m m' => holds m ∧ related m m') h h' where
  now_le := hfollows.now_le
  keeps := hfollows.keeps
  step t hle hlt := ⟨hfollows.invariant hstep hstart hle hlt.le, hfollows.step t hle hlt⟩

end Follows

/-! ### The reader -/

variable {ι α : Type*}

/-- A read samples each address within a stretch of time. -/
structure Read (ι : Type*) where
  begins : ℕ
  ends : ℕ
  time : ι → ℕ
  begins_le : ∀ i, begins ≤ time i
  le_ends : ∀ i, time i ≤ ends

/-- The counter, the block and the counter again. -/
structure Attempt (ι : Type*) where
  first : Read ι
  inner : Read ι
  last : Read ι
  first_le : first.ends ≤ inner.begins
  inner_le : inner.ends ≤ last.begins

/-- What a read finds. -/
def Read.sample (r : Read ι) (memory : ℕ → ι → α) : ι → α := fun i => memory (r.time i) i

/-! ### The writer -/

/-- What a store may change: the block while the lock is held, the counter, or the address that is exempt. -/
inductive Disciplined (counter : Finset ι) (locked : (ι → α) → Prop) (exempt : ι) (m m' : ι → α) : Prop where
  | inside (hlocked : locked m) (hcounter : ∀ i ∈ counter, m' i = m i)
  | advance (hcounter : ∃ i ∈ counter, m' i ≠ m i)
  | other (hsame : ∀ i ≠ exempt, m' i = m i)

/-- Between two times at which an address holds the same it holds nothing else. -/
def NoReturn (memory : ℕ → ι → α) (start stop : ℕ) (i : ι) : Prop :=
  ∀ a b c, start ≤ a → a ≤ b → b ≤ c → c ≤ stop → memory a i = memory c i → memory b i = memory a i

/-- How many stores change the counter. -/
def advances [DecidableEq α] (memory : ℕ → ι → α) (counter : Finset ι) (start stop : ℕ) : ℕ :=
  Nat.count (fun k => ∃ i ∈ counter, memory (start + k + 1) i ≠ memory (start + k) i) (stop - start)

section Consistent

variable {memory : ℕ → ι → α} {counter : Finset ι} {locked : (ι → α) → Prop} {exempt : ι} {start stop : ℕ}
  {a : Attempt ι}

/-- While the block is read, the counter holds what the reader has found in it. -/
lemma counter_during (hreturn : ∀ i ∈ counter, NoReturn memory start stop i) (hstart : start ≤ a.first.begins)
    (hstop : a.last.ends ≤ stop) (hlast : ∀ i ∈ counter, a.last.sample memory i = a.first.sample memory i) {t : ℕ}
    (hle : a.inner.begins ≤ t) (hge : t ≤ a.inner.ends) : ∀ i ∈ counter, memory t i = a.first.sample memory i := by
  intro i hi
  have hbegins := a.first.begins_le i
  have hfirst := a.first.le_ends i
  have hfirst' := a.first_le
  have hinner := a.inner_le
  have hends := a.last.begins_le i
  have hends' := a.last.le_ends i
  exact hreturn i hi (a.first.time i) t (a.last.time i) (by omega) (by omega) (by omega) (by omega) (hlast i hi).symm

/-- While the block is read, only the exempt address changes. -/
lemma quiet_during (hlocked : ∀ m m' : ι → α, (∀ i ∈ counter, m i = m' i) → locked m → locked m')
    (hsteps : ∀ t, start ≤ t → t < stop → Disciplined counter locked exempt (memory t) (memory (t + 1)))
    (hreturn : ∀ i ∈ counter, NoReturn memory start stop i) (hstart : start ≤ a.first.begins)
    (hstop : a.last.ends ≤ stop) (hlast : ∀ i ∈ counter, a.last.sample memory i = a.first.sample memory i)
    (hunlocked : ¬ locked (a.first.sample memory)) {i : ι} (hi : i ≠ exempt) {t : ℕ} (hle : a.inner.begins ≤ t)
    (hge : t ≤ a.inner.ends) : memory t i = memory a.inner.begins i := by
  have hduring := fun {t : ℕ} => counter_during (t := t) hreturn hstart hstop hlast
  have hbegins := a.first.begins_le exempt
  have hfirst := a.first.le_ends exempt
  have hfirst' := a.first_le
  have hinner := a.inner_le
  have hends := a.last.begins_le exempt
  have hends' := a.last.le_ends exempt
  induction t, hle using Nat.le_induction with
  | base => rfl
  | succ t hle ih =>
    rw [← ih (by omega)]
    cases hsteps t (by omega) (by omega) with
    | inside hheld _ => exact absurd (hlocked _ _ (hduring hle (by omega)) hheld) hunlocked
    | advance hcounter =>
      obtain ⟨j, hj, hne⟩ := hcounter
      exact absurd ((hduring (by omega) hge j hj).trans (hduring hle (by omega) j hj).symm) hne
    | other hsame => exact hsame i hi

/-- **What an accepted attempt has read** is what the memory held at one time during the read. -/
theorem consistent_of_accepted (hlocked : ∀ m m' : ι → α, (∀ i ∈ counter, m i = m' i) → locked m → locked m')
    (hsteps : ∀ t, start ≤ t → t < stop → Disciplined counter locked exempt (memory t) (memory (t + 1)))
    (hreturn : ∀ i ∈ counter, NoReturn memory start stop i) (hstart : start ≤ a.first.begins)
    (hstop : a.last.ends ≤ stop) (hlast : ∀ i ∈ counter, a.last.sample memory i = a.first.sample memory i)
    (hunlocked : ¬ locked (a.first.sample memory)) :
    ∃ t, a.inner.begins ≤ t ∧ t ≤ a.inner.ends ∧ a.inner.sample memory = memory t := by
  refine ⟨a.inner.time exempt, a.inner.begins_le _, a.inner.le_ends _, funext fun i => ?_⟩
  by_cases hi : i = exempt
  · rw [hi]
    rfl
  · have hquiet := fun {t : ℕ} => quiet_during (t := t) hlocked hsteps hreturn hstart hstop hlast hunlocked hi
    exact (hquiet (a.inner.begins_le i) (a.inner.le_ends i)).trans
      (hquiet (a.inner.begins_le exempt) (a.inner.le_ends exempt)).symm

end Consistent

/-! ### A counter of octets -/

section Octets

variable {memory : ℕ → ι → UInt8} {counter : Finset ι} {start stop : ℕ} {i : ι}

/-- An octet that each store leaves alone or advances has gone as far as there were changes. -/
lemma toNat_count (hsteps : ∀ t, start ≤ t → t < stop → memory (t + 1) i = memory t i ∨ memory (t + 1) i = memory t i + 1)
    {n : ℕ} (hn : start + n ≤ stop) :
    (memory (start + n) i).toNat =
      ((memory start i).toNat + Nat.count (fun k => memory (start + k + 1) i ≠ memory (start + k) i) n) % 256 := by
  induction n with
  | zero => exact (Nat.mod_eq_of_lt (UInt8.toNat_lt _)).symm
  | succ n ih =>
    have hprevious := ih (by omega)
    have hone : (1 : UInt8).toNat = 1 := rfl
    rw [Nat.count_succ, ← Nat.add_assoc start n 1]
    by_cases hsame : memory (start + n + 1) i = memory (start + n) i
    · rw [if_neg (by simpa using hsame), hsame]
      exact hprevious
    · rw [if_pos hsame]
      rcases hsteps (start + n) (by omega) (by omega) with h | h
      · exact absurd h hsame
      · rw [h, UInt8.toNat_add, hone, hprevious]
        omega

/-- **A counter that advances fewer than 256 times** takes no value twice. -/
theorem noReturn_of_advances
    (hsteps : ∀ t, start ≤ t → t < stop → memory (t + 1) i = memory t i ∨ memory (t + 1) i = memory t i + 1)
    (hi : i ∈ counter) (hadvances : advances memory counter start stop < 256) : NoReturn memory start stop i := by
  intro a b c ha hab hbc hc heq
  set changes := Nat.count (fun k => memory (start + k + 1) i ≠ memory (start + k) i) with hchanges
  have hcount := fun (t : ℕ) (hle : start ≤ t) (hge : t ≤ stop) =>
    toNat_count (n := t - start) hsteps (by omega : start + (t - start) ≤ stop)
  have hat : ∀ t, start ≤ t → t ≤ stop →
      (memory t i).toNat = ((memory start i).toNat + changes (t - start)) % 256 := by
    intro t hle hge
    have h := hcount t hle hge
    rwa [Nat.add_sub_cancel' hle] at h
  have hmono : Monotone changes := Nat.count_monotone _
  have hmono_ab : changes (a - start) ≤ changes (b - start) := hmono (by omega)
  have hmono_bc : changes (b - start) ≤ changes (c - start) := hmono (by omega)
  have hmono_c : changes (c - start) ≤ changes (stop - start) := hmono (by omega)
  have hbound : changes (stop - start) ≤ advances memory counter start stop :=
    Nat.count_mono_left fun k hk hchange => ⟨i, hi, hchange⟩
  have htoNat := congrArg UInt8.toNat heq
  rw [hat a ha (by omega), hat c (by omega) hc] at htoNat
  rw [← UInt8.toNat_inj, hat a ha (by omega), hat b (by omega) (by omega)]
  have hsame : changes (a - start) = changes (c - start) := by omega
  have hsame' : changes (b - start) = changes (a - start) := by omega
  rw [hsame']

end Octets

end SnesModem.Lib.Seqlock
