import Mathlib.Data.List.Basic

/-!
# Streams in blocks

A state absorbs a list in blocks of `n` items; what does not fill a block is left over.

* `blocks`, `rest`: the blocks of a list, and what is left over;
* `absorb_append`, `rest_append`: a list that is continued is absorbed from what was left over;
* `absorb_block`: the first block is absorbed first.
-/

namespace SnesModem.Lib.Blocks

variable {σ α : Type*} {n : ℕ}

def blocks (n : ℕ) (items : List α) : List (List α) :=
  (List.range (items.length / n)).map fun i => (items.drop (n * i)).take n

/-- What does not fill a block. -/
def rest (n : ℕ) (items : List α) : List α := items.drop (n * (items.length / n))

def absorb (n : ℕ) (compress : σ → List α → σ) (s : σ) (items : List α) : σ := (blocks n items).foldl compress s

section Blocks

variable {items items' : List α}

lemma blocks_of_lt (h : items.length < n) : blocks n items = [] := by
  unfold blocks
  rw [Nat.div_eq_of_lt h]
  rfl

lemma rest_of_lt (h : items.length < n) : rest n items = items := by
  unfold rest
  rw [Nat.div_eq_of_lt h]
  rfl

lemma length_rest (items : List α) : (rest n items).length = items.length % n := by
  unfold rest
  rw [List.length_drop]
  have hdiv := Nat.div_add_mod items.length n
  omega

lemma length_div_succ (hn : 0 < n) (h : n ≤ items.length) :
    items.length / n = (items.drop n).length / n + 1 := by
  rw [List.length_drop, Nat.div_eq_sub_div hn h]

/-- The first block, and those behind it. -/
lemma blocks_cons (hn : 0 < n) (h : n ≤ items.length) : blocks n items = items.take n :: blocks n (items.drop n) := by
  unfold blocks
  rw [length_div_succ hn h, List.range_succ_eq_map, List.map_cons, List.map_map, Nat.mul_zero, List.drop_zero]
  congr 1
  refine List.map_congr_left fun i _ => ?_
  show (items.drop (n * (i + 1))).take n = ((items.drop n).drop (n * i)).take n
  rw [List.drop_drop, Nat.mul_add, Nat.mul_one, Nat.add_comm]

lemma rest_drop (hn : 0 < n) (h : n ≤ items.length) : rest n items = rest n (items.drop n) := by
  unfold rest
  rw [length_div_succ hn h, List.drop_drop, Nat.mul_add, Nat.mul_one, Nat.add_comm]

lemma rest_block (hn : 0 < n) (h : items.length = n) : rest n (items ++ items') = rest n items' := by
  have hle : n ≤ (items ++ items').length := by
    rw [List.length_append]
    omega
  rw [rest_drop hn hle, ← h, List.drop_left]

end Blocks

/-! ### Absorbing -/

section Absorb

variable {compress : σ → List α → σ} {items items' : List α}

@[simp] lemma absorb_of_lt (h : items.length < n) (s : σ) : absorb n compress s items = s := by
  unfold absorb
  rw [blocks_of_lt h]
  rfl

lemma absorb_of_le (hn : 0 < n) (h : n ≤ items.length) (s : σ) :
    absorb n compress s items = absorb n compress (compress s (items.take n)) (items.drop n) := by
  unfold absorb
  rw [blocks_cons hn h]
  rfl

/-- The first block is absorbed first. -/
lemma absorb_block (hn : 0 < n) (h : items.length = n) (s : σ) :
    absorb n compress s (items ++ items') = absorb n compress (compress s items) items' := by
  have hle : n ≤ (items ++ items').length := by
    rw [List.length_append]
    omega
  rw [absorb_of_le hn hle, ← h, List.take_left, List.drop_left]

/-- **A list that is continued** is absorbed from what was left over. -/
theorem absorb_append (hn : 0 < n) (s : σ) (items items' : List α) :
    absorb n compress s (items ++ items') = absorb n compress (absorb n compress s items) (rest n items ++ items') := by
  induction hlength : items.length using Nat.strongRecOn generalizing s items with
  | ind length ih =>
    by_cases hlt : items.length < n
    · rw [absorb_of_lt hlt, rest_of_lt hlt]
    · have hle := Nat.not_lt.mp hlt
      have hwhole : n ≤ (items ++ items').length := by
        rw [List.length_append]
        omega
      have hshorter : (items.drop n).length < length := by
        rw [List.length_drop]
        omega
      rw [absorb_of_le hn hwhole, List.take_append_of_le_length hle, List.drop_append_of_le_length hle,
        ih _ hshorter _ _ rfl, ← absorb_of_le hn hle, ← rest_drop hn hle]

theorem rest_append (hn : 0 < n) (items items' : List α) : rest n (items ++ items') = rest n (rest n items ++ items') := by
  induction hlength : items.length using Nat.strongRecOn generalizing items with
  | ind length ih =>
    by_cases hlt : items.length < n
    · rw [rest_of_lt hlt]
    · have hle := Nat.not_lt.mp hlt
      have hwhole : n ≤ (items ++ items').length := by
        rw [List.length_append]
        omega
      have hshorter : (items.drop n).length < length := by
        rw [List.length_drop]
        omega
      rw [rest_drop hn hwhole, List.drop_append_of_le_length hle, ih _ hshorter _ rfl, ← rest_drop hn hle]

end Absorb

end SnesModem.Lib.Blocks
