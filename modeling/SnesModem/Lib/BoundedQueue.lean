import SnesModem.Lib.Run

/-!
# Queues of bounded capacity

A component has the two operations of a queue; it represents a bounded queue if its state holds a list, to which an
enqueue appends while there is room and from which a dequeue takes the head.

* `Represents.conservation`: along a run, what the queue held at first and what it accepted is what it delivered and
  what it holds at the end;
* `Represents.prefix_of_empty`: a queue that starts empty delivers in the order in which it accepted;
* `Represents.next_of_empty`: what a dequeue finds is the first that was accepted and not yet delivered.
-/

namespace SnesModem.Lib.BoundedQueue

open SnesModem.Lib.Run

variable {σ α : Type*}

/-- An enqueue tells whether it is refused, a dequeue what it found. -/
structure Interface (σ α : Type*) where
  enqueue : σ → α → σ × Bool
  dequeue : σ → σ × Option α

inductive Call (α : Type*) where
  | enqueue (a : α)
  | dequeue

namespace Interface

variable (q : Interface σ α)

def step (s : σ) : Call α → σ
  | .enqueue a => (q.enqueue s a).1
  | .dequeue => (q.dequeue s).1

/-- What the call adds to the queue. -/
def accepts (s : σ) : Call α → List α
  | .enqueue a => if (q.enqueue s a).2 then [] else [a]
  | .dequeue => []

/-- What the call takes from the queue. -/
def delivers (s : σ) : Call α → List α
  | .enqueue _ => []
  | .dequeue => (q.dequeue s).2.toList

/-- What the queue accepts along a run. -/
def accepted : σ → List (Call α) → List α
  | _, [] => []
  | s, c :: calls => q.accepts s c ++ accepted (q.step s c) calls

/-- What the queue delivers along a run. -/
def delivered : σ → List (Call α) → List α
  | _, [] => []
  | s, c :: calls => q.delivers s c ++ delivered (q.step s c) calls

end Interface

/-- The state holds a list of bounded length, and the operations are those of a queue on it. -/
structure Represents (q : Interface σ α) (capacity : ℕ) (contents : σ → List α) : Prop where
  bounded : ∀ s, (contents s).length ≤ capacity
  enqueue_full : ∀ s a, (contents s).length = capacity → q.enqueue s a = (s, true)
  enqueue_room : ∀ s a, (contents s).length < capacity →
    (q.enqueue s a).2 = false ∧ contents (q.enqueue s a).1 = contents s ++ [a]
  dequeue_empty : ∀ s, contents s = [] → q.dequeue s = (s, none)
  dequeue_head : ∀ s, contents s ≠ [] →
    ∃ a, (q.dequeue s).2 = some a ∧ a :: contents (q.dequeue s).1 = contents s

namespace Represents

variable {q : Interface σ α} {capacity : ℕ} {contents : σ → List α}

/-- An enqueue is refused exactly when the queue is full. -/
lemma refused_iff (h : Represents q capacity contents) (s : σ) (a : α) :
    (q.enqueue s a).2 = true ↔ (contents s).length = capacity := by
  constructor
  · intro hrefused
    by_contra hroom
    have haccepted := (h.enqueue_room s a (Nat.lt_of_le_of_ne (h.bounded s) hroom)).1
    rw [haccepted] at hrefused
    exact Bool.false_ne_true hrefused
  · intro hfull
    rw [h.enqueue_full s a hfull]

/-- What one call adds and takes. -/
lemma balance (h : Represents q capacity contents) (s : σ) (c : Call α) :
    contents s ++ q.accepts s c = q.delivers s c ++ contents (q.step s c) := by
  cases c with
  | enqueue a =>
    simp only [Interface.accepts, Interface.delivers, Interface.step, List.nil_append]
    rcases Nat.eq_or_lt_of_le (h.bounded s) with hfull | hroom
    · simp [h.enqueue_full s a hfull]
    · obtain ⟨haccepted, hcontents⟩ := h.enqueue_room s a hroom
      simp [haccepted, hcontents]
  | dequeue =>
    simp only [Interface.accepts, Interface.delivers, Interface.step, List.append_nil]
    by_cases hempty : contents s = []
    · simp [h.dequeue_empty s hempty, hempty]
    · obtain ⟨a, hfound, hcontents⟩ := h.dequeue_head s hempty
      rw [hfound, ← hcontents]
      rfl

/-- A dequeue finds the head. -/
lemma dequeue_eq (h : Represents q capacity contents) (s : σ) : (q.dequeue s).2 = (contents s).head? := by
  by_cases hempty : contents s = []
  · rw [h.dequeue_empty s hempty, hempty]
    rfl
  · obtain ⟨a, hfound, hcontents⟩ := h.dequeue_head s hempty
    rw [hfound, ← hcontents]
    rfl

/-- **Conservation.** -/
theorem conservation (h : Represents q capacity contents) (s : σ) (calls : List (Call α)) :
    contents s ++ q.accepted s calls = q.delivered s calls ++ contents (run q.step s calls) := by
  induction calls generalizing s with
  | nil => simp [Interface.accepted, Interface.delivered]
  | cons c calls ih =>
    simp only [Interface.accepted, Interface.delivered, run_cons]
    rw [← List.append_assoc, h.balance, List.append_assoc, ih, List.append_assoc]

/-- **First in, first out.** -/
theorem prefix_of_empty (h : Represents q capacity contents) {s : σ} (hempty : contents s = [])
    (calls : List (Call α)) : q.delivered s calls <+: q.accepted s calls := by
  have hbalance := h.conservation s calls
  rw [hempty, List.nil_append] at hbalance
  exact ⟨_, hbalance.symm⟩

/-- **The next one**: a dequeue finds the first that was accepted and not yet delivered. -/
theorem next_of_empty (h : Represents q capacity contents) {s : σ} (hempty : contents s = [])
    (calls : List (Call α)) :
    (q.dequeue (run q.step s calls)).2 = (q.accepted s calls)[(q.delivered s calls).length]? := by
  have hbalance := h.conservation s calls
  rw [hempty, List.nil_append] at hbalance
  rw [h.dequeue_eq, hbalance, List.getElem?_append_right (Nat.le_refl _), Nat.sub_self, List.head?_eq_getElem?]

/-- What the queue holds is what it has accepted and not yet delivered. -/
lemma length_of_empty (h : Represents q capacity contents) {s : σ} (hempty : contents s = []) (calls : List (Call α)) :
    (q.accepted s calls).length = (q.delivered s calls).length + (contents (run q.step s calls)).length := by
  have hbalance := h.conservation s calls
  rw [hempty, List.nil_append] at hbalance
  rw [hbalance, List.length_append]

/-- An enqueue is refused exactly when the capacity is accepted and not yet delivered. -/
theorem refused_iff_of_empty (h : Represents q capacity contents) {s : σ} (hempty : contents s = [])
    (calls : List (Call α)) (a : α) :
    (q.enqueue (run q.step s calls) a).2 = true ↔
      (q.accepted s calls).length = (q.delivered s calls).length + capacity := by
  rw [h.refused_iff, h.length_of_empty hempty]
  exact (Nat.add_right_inj).symm

end Represents

end SnesModem.Lib.BoundedQueue
