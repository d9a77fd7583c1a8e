import SnesModem.Lib.Run
import Mathlib.Data.List.DropRight

/-!
# Queues that drop their oldest entries

A producer that is never refused, and a consumer that takes a number of entries at a time.

* `push`: the newest entries stay, as many as there is room for;
* `Traffic`, `step`: what is pending, what was taken, and how many entries were dropped;
* `conserves`: along a run, the entries leave in the order in which they came, taken or dropped;
* `Paced`, `taken_of_paced`: a consumer that keeps pace with the producer gets them all.
-/

namespace SnesModem.Lib.DroppingQueue

open SnesModem.Lib.Run

variable {α : Type*}

/-- The producer has an entry, or it is the turn of the consumer. -/
inductive Event (α : Type*) where
  | push (a : α)
  | take

/-- What is pending, and what became of the rest. -/
structure Traffic (α : Type*) where
  pending : List α
  taken : List α
  dropped : ℕ

namespace Traffic

/-- Nothing has happened. -/
def none : Traffic α := ⟨[], [], 0⟩

end Traffic

/-- The entries that the producer had. -/
def pushed : List (Event α) → List α
  | [] => []
  | .push a :: events => a :: pushed events
  | .take :: events => pushed events

section

variable (capacity budget : ℕ)

/-- The newest entries stay. -/
def push (pending : List α) (a : α) : List α := (pending ++ [a]).drop (pending.length + 1 - capacity)

def step (t : Traffic α) : Event α → Traffic α
  | .push a =>
    { t with pending := push capacity t.pending a, dropped := t.dropped + (t.pending.length + 1 - capacity) }
  | .take => { t with pending := t.pending.drop budget, taken := t.taken ++ t.pending.take budget }

/-- Between two turns of the consumer there are at most as many entries as it takes in one; so many are left now. -/
def Paced : ℕ → List (Event α) → Prop
  | _, [] => True
  | left, .push _ :: events => ∃ left', left = left' + 1 ∧ Paced left' events
  | _, .take :: events => Paced budget events

variable {capacity budget} {t : Traffic α} {events : List (Event α)}

@[simp] lemma taken_push (a : α) : (step capacity budget t (.push a)).taken = t.taken := rfl

lemma push_of_lt {pending : List α} (hroom : pending.length < capacity) (a : α) :
    push capacity pending a = pending ++ [a] := by
  rw [push, Nat.sub_eq_zero_of_le hroom, List.drop_zero]

lemma push_of_full {pending : List α} {first : α} (hfull : pending.length + 1 = capacity) (a : α) :
    push capacity (first :: pending) a = pending ++ [a] := by
  have hone : (first :: pending).length + 1 - capacity = 1 := by
    rw [List.length_cons]
    omega
  rw [push, hone]
  rfl

/-- **Entries leave in the order in which they came**, some taken and the others dropped. -/
theorem conserves (capacity budget : ℕ) (t : Traffic α) (events : List (Event α)) :
    ∃ removed newlyTaken, t.pending ++ pushed events = removed ++ (run (step capacity budget) t events).pending ∧
      (run (step capacity budget) t events).taken = t.taken ++ newlyTaken ∧ newlyTaken.Sublist removed ∧
      (run (step capacity budget) t events).dropped + newlyTaken.length = t.dropped + removed.length := by
  induction events generalizing t with
  | nil => exact ⟨[], [], by simp [pushed], by simp, List.Sublist.refl _, by simp⟩
  | cons event events ih =>
    obtain ⟨removed, newlyTaken, hpushed, htaken, hsublist, hdropped⟩ := ih (step capacity budget t event)
    rw [run_cons]
    cases event with
    | push a =>
      -- The entries that are dropped are the first of those that are pending.
      refine ⟨(t.pending ++ [a]).take (t.pending.length + 1 - capacity) ++ removed, newlyTaken, ?_, htaken,
        hsublist.trans (List.sublist_append_right _ _), ?_⟩
      · rw [List.append_assoc, ← hpushed, step, push, ← List.append_assoc, List.take_append_drop, pushed,
          List.append_assoc, List.singleton_append]
      · rw [hdropped, step, List.length_append, List.length_take, List.length_append, List.length_singleton]
        dsimp only
        omega
    | take =>
      refine ⟨t.pending.take budget ++ removed, t.pending.take budget ++ newlyTaken, ?_, ?_,
        hsublist.append_left _, ?_⟩
      · rw [List.append_assoc, ← hpushed, step, ← List.append_assoc, List.take_append_drop, pushed]
      · rw [htaken, step, List.append_assoc]
      · rw [List.length_append, List.length_append]
        simp only [step] at hdropped ⊢
        omega

/-- What is pending fits into one turn of the consumer, with what may still come before it. -/
lemma dropped_of_paced {left : ℕ} (hcapacity : budget ≤ capacity) (hpaced : Paced budget left events)
    (hfits : t.pending.length + left ≤ budget) :
    (run (step capacity budget) t events).dropped = t.dropped := by
  induction events generalizing t left with
  | nil => rfl
  | cons event events ih =>
    rw [run_cons]
    cases event with
    | push a =>
      obtain ⟨left', rfl, hpaced⟩ := hpaced
      have hroom : t.pending.length < capacity := by omega
      have hnone : t.pending.length + 1 - capacity = 0 := by omega
      rw [ih hpaced (by rw [step, push_of_lt hroom, List.length_append, List.length_singleton]; omega), step, hnone]
      rfl
    | take =>
      rw [ih hpaced (by rw [step, List.length_drop]; omega)]
      rfl

/-- **A consumer that keeps pace** gets every entry. -/
theorem taken_of_paced (capacity : ℕ) (hcapacity : budget ≤ capacity) (hpaced : Paced budget budget events) :
    (run (step capacity budget) Traffic.none events).dropped = 0 ∧
      pushed events = (run (step capacity budget) Traffic.none events).taken ++
        (run (step capacity budget) Traffic.none events).pending := by
  have hdropped : (run (step capacity budget) Traffic.none events).dropped = 0 :=
    dropped_of_paced hcapacity hpaced (Nat.le_of_eq (Nat.zero_add _))
  obtain ⟨removed, newlyTaken, hpushed, htaken, hsublist, hlength⟩ :=
    conserves capacity budget Traffic.none events
  refine ⟨hdropped, ?_⟩
  have heq : newlyTaken = removed := by
    refine hsublist.eq_of_length ?_
    rw [hdropped] at hlength
    simpa [Traffic.none] using hlength
  rw [htaken, heq]
  exact hpushed

end

end SnesModem.Lib.DroppingQueue
