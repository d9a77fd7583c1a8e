import Mathlib.Data.Nat.Notation
import Mathlib.Logic.Function.Basic
import Mathlib.Tactic.SplitIfs

/-!
# Marks: where watched octets are

A mark says that a memory cell holds an octet that is watched.

* `wipe`, `store`: the marks after cells have been overwritten;
* `Between`: the slots of a ring of 256 that are in use, from the read index up to the write index;
* `Live`, `Confined`: some marked slot is in use, and all of them are; a ring is written at one end and cleared at the
  other.
-/

namespace SnesModem.Lib.Marks

/-! ### A buffer -/

/-- No cell is marked. -/
def clean : ℕ → Bool := fun _ => false

/-- The cells from `first` up to `last` are cleared. -/
def wipe (first last : ℕ) (marks : ℕ → Bool) : ℕ → Bool := fun k => if first ≤ k ∧ k < last then false else marks k

/-- The first cells are overwritten, with the marks of what is stored there. -/
def store (length : ℕ) (cells marks : ℕ → Bool) : ℕ → Bool := fun k => if k < length then cells k else marks k

section Buffer

variable {first last length k : ℕ} {cells marks : ℕ → Bool}

@[simp] lemma clean_apply : clean k = false := rfl

lemma wipe_eq_true : wipe first last marks k = true ↔ marks k = true ∧ ¬ (first ≤ k ∧ k < last) := by
  unfold wipe
  split_ifs with h
  · simp [h]
  · simp [h]

lemma store_eq_true :
    store length cells marks k = true ↔ k < length ∧ cells k = true ∨ length ≤ k ∧ marks k = true := by
  unfold store
  split_ifs with h
  · simp [h, Nat.not_le.mpr h]
  · simp [h, Nat.not_lt.mp h]

/-- A wipe leaves no mark where there was none. -/
lemma wipe_eq_false (hclean : marks k = false) : wipe first last marks k = false := by
  unfold wipe
  split_ifs
  · rfl
  · exact hclean

/-- A wipe of what was stored leaves what was there before behind it. -/
lemma wipe_store_eq_false (hclean : marks k = false) : wipe 0 length (store length cells marks) k = false := by
  by_contra hmarked
  rw [Bool.not_eq_false, wipe_eq_true, store_eq_true] at hmarked
  rcases hmarked with ⟨⟨hinside, -⟩ | ⟨-, hbefore⟩, houtside⟩
  · exact houtside ⟨Nat.zero_le k, hinside⟩
  · rw [hbefore] at hclean
    contradiction

end Buffer

/-! ### A ring -/

/-- The slot is in use: it lies between the read index and the write index. -/
def Between (first last k : UInt8) : Prop := k - first < last - first

instance (first last k : UInt8) : Decidable (Between first last k) := inferInstanceAs (Decidable (_ < _))

section Ring

variable {first last k : UInt8} {marks : UInt8 → Bool} {mark : Bool}

lemma between_iff : Between first last k ↔ (k - first).toNat < (last - first).toNat := UInt8.lt_iff_toNat_lt

lemma not_between_self : ¬ Between first first k := by
  rw [between_iff, UInt8.sub_self]
  exact Nat.not_lt_zero _

/-- A slot more is in use, unless the ring is full. -/
lemma between_succ_last (hroom : last + 1 ≠ first) : Between first (last + 1) k ↔ Between first last k ∨ k = last := by
  rw [between_iff, between_iff, ← UInt8.toNat_inj]
  rw [ne_eq, ← UInt8.toNat_inj, UInt8.toNat_add] at hroom
  have hone : (1 : UInt8).toNat = 1 := rfl
  have hfirst := first.toNat_lt
  have hlast := last.toNat_lt
  have hk := k.toNat_lt
  simp only [UInt8.toNat_sub, UInt8.toNat_add, hone] at hroom ⊢
  omega

/-- A slot less is in use, unless the ring is empty. -/
lemma between_succ_first (hsome : first ≠ last) : Between (first + 1) last k ↔ Between first last k ∧ k ≠ first := by
  rw [between_iff, between_iff, ne_eq, ← UInt8.toNat_inj]
  rw [ne_eq, ← UInt8.toNat_inj] at hsome
  have hone : (1 : UInt8).toNat = 1 := rfl
  have hfirst := first.toNat_lt
  have hlast := last.toNat_lt
  have hk := k.toNat_lt
  simp only [UInt8.toNat_sub, UInt8.toNat_add, hone] at hsome ⊢
  omega

/-- Some slot in use is marked. -/
def Live (first last : UInt8) (marks : UInt8 → Bool) : Prop := ∃ k, Between first last k ∧ marks k = true

/-- Every marked slot is in use. -/
def Confined (first last : UInt8) (marks : UInt8 → Bool) : Prop := ∀ k, marks k = true → Between first last k

lemma live_iff : Live first last marks ↔
    ∃ k < 256, Between first last (UInt8.ofNat k) ∧ marks (UInt8.ofNat k) = true := by
  constructor
  · rintro ⟨k, hbetween, hmarked⟩
    refine ⟨k.toNat, k.toNat_lt, ?_⟩
    rw [UInt8.ofNat_toNat]
    exact ⟨hbetween, hmarked⟩
  · rintro ⟨k, -, hbetween, hmarked⟩
    exact ⟨_, hbetween, hmarked⟩

instance : Decidable (Live first last marks) := decidable_of_iff _ live_iff.symm

/-- The slot in front is the first to leave. -/
lemma live_front (hsome : first ≠ last) (hmarked : marks first = true) : Live first last marks := by
  refine ⟨first, ?_, hmarked⟩
  rw [ne_eq, ← UInt8.toNat_inj] at hsome
  have hfirst := first.toNat_lt
  have hlast := last.toNat_lt
  rw [between_iff, UInt8.sub_self, UInt8.toNat_sub]
  change 0 < _
  omega

/-- **What is live after a push** was live before, or was pushed. -/
theorem live_push (hroom : last + 1 ≠ first) (h : Live first (last + 1) (Function.update marks last mark)) :
    mark = true ∨ Live first last marks := by
  obtain ⟨k, hbetween, hmarked⟩ := h
  by_cases hk : k = last
  · subst hk
    rw [Function.update_self] at hmarked
    exact Or.inl hmarked
  · rw [Function.update_of_ne hk] at hmarked
    exact Or.inr ⟨k, ((between_succ_last hroom).mp hbetween).resolve_right hk, hmarked⟩

/-- What is live after the first slot has been cleared was live before. -/
theorem live_pop (hsome : first ≠ last) (h : Live (first + 1) last (Function.update marks first false)) :
    Live first last marks := by
  obtain ⟨k, hbetween, hmarked⟩ := h
  obtain ⟨hbetween, hk⟩ := (between_succ_first hsome).mp hbetween
  rw [Function.update_of_ne hk] at hmarked
  exact ⟨k, hbetween, hmarked⟩

theorem confined_push (hroom : last + 1 ≠ first) (h : Confined first last marks) :
    Confined first (last + 1) (Function.update marks last mark) := by
  intro k hmarked
  rw [between_succ_last hroom]
  by_cases hk : k = last
  · exact Or.inr hk
  · rw [Function.update_of_ne hk] at hmarked
    exact Or.inl (h k hmarked)

/-- **A slot that is cleared when it leaves** keeps the marks confined. -/
theorem confined_pop (hsome : first ≠ last) (h : Confined first last marks) :
    Confined (first + 1) last (Function.update marks first false) := by
  intro k hmarked
  have hk : k ≠ first := by
    rintro rfl
    rw [Function.update_self] at hmarked
    contradiction
  rw [Function.update_of_ne hk] at hmarked
  exact (between_succ_first hsome).mpr ⟨h k hmarked, hk⟩

/-- Confined marks of an empty ring are none. -/
lemma Confined.of_empty (h : Confined first first marks) : marks k = false := by
  by_contra hmarked
  exact not_between_self (h k (by simpa using hmarked))

end Ring

end SnesModem.Lib.Marks
