import SnesModem.Lib.Run
import SnesModem.Lib.ShiftRegister

/-!
# A line that is sampled at clocks

A sender drives a line, and a listener samples it at every clock; a latch begins a frame.

* `Listener`: the level of the line, the frame that goes on, and the frames that are over;
* `octetOf`: a frame that carries an octet has a low start bit and eight bits, the most significant one first;
* `octets_run`: what is heard after a latch and with a high line is heard as it is from the beginning.
-/

namespace SnesModem.Lib.LatchedSerial

open SnesModem.Lib.Run SnesModem.Lib.ShiftRegister

inductive Signal where
  | latch
  | line (level : Bool)
  | clock
  deriving DecidableEq, Repr

structure Listener where
  level : Bool
  frame : List Bool
  frames : List (List Bool)
  deriving DecidableEq, Repr

def hear (l : Listener) : Signal → Listener
  | .latch => { l with frame := [], frames := l.frames ++ [l.frame] }
  | .line level => { l with level := level }
  | .clock => { l with frame := l.frame ++ [l.level] }

/-- The line is high while nobody drives it. -/
def quiet : Listener := ⟨true, [], []⟩

/-- The octet of a frame, if it carries one. -/
def octetOf : List Bool → Option UInt8
  | false :: bits => if bits.length = 8 then some (UInt8.ofNat (value bits)) else none
  | _ => none

def octets (l : Listener) : List UInt8 := l.frames.filterMap octetOf

/-- The octets of the frames that are over. -/
def heard (signals : List Signal) : List UInt8 := octets (run hear quiet signals)

/-- The listener is between two frames, and the line is high. -/
def Settled (l : Listener) : Prop := l.level = true ∧ l.frame = []

section Heard

variable {l : Listener} {signals : List Signal}

/-- What has been heard before does not matter. -/
lemma run_frames (before : List (List Bool)) :
    run hear { l with frames := before ++ l.frames } signals =
      { run hear l signals with frames := before ++ (run hear l signals).frames } := by
  induction signals generalizing l with
  | nil => rfl
  | cons signal signals ih =>
    rw [run_cons, run_cons, ← ih]
    congr 1
    cases signal <;> simp [hear]

lemma run_of_settled (h : Settled l) :
    run hear l signals = { run hear quiet signals with frames := l.frames ++ (run hear quiet signals).frames } := by
  obtain ⟨hlevel, hframe⟩ := h
  have heq : l = { quiet with frames := l.frames ++ quiet.frames } := by
    cases l
    simp_all [quiet]
  rw [heq, run_frames, ← heq]

/-- **What a listener at rest hears.** -/
theorem octets_run (h : Settled l) (signals : List Signal) :
    octets (run hear l signals) = octets l ++ heard signals := by
  unfold heard octets
  rw [run_of_settled h, List.filterMap_append]

lemma settled_run (h : Settled l) (h' : Settled (run hear quiet signals)) : Settled (run hear l signals) := by
  rw [run_of_settled h]
  exact h'

/-- Clocks sample the line as it stands. -/
lemma run_clocks (n : ℕ) : run hear l (List.replicate n .clock) = { l with frame := l.frame ++ List.replicate n l.level } := by
  induction n generalizing l with
  | zero => simp
  | succ n ih =>
    rw [List.replicate_succ, run_cons, ih]
    simp [hear, List.replicate_succ]

/-- The bits that are driven are sampled. -/
lemma run_bits (bits : List Bool) (hbits : bits ≠ []) :
    run hear l (bits.flatMap fun bit => [.line bit, .clock]) =
      { l with level := bits.getLast hbits, frame := l.frame ++ bits } := by
  induction bits generalizing l with
  | nil => exact absurd rfl hbits
  | cons bit bits ih =>
    rw [List.flatMap_cons, run_append]
    by_cases hrest : bits = []
    · subst hrest
      simp [hear]
    · rw [ih hrest, List.getLast_cons hrest]
      simp [hear]

end Heard

end SnesModem.Lib.LatchedSerial
