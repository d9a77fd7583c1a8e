import SnesModem.Lib.Md5
import Mathlib.Logic.Function.Iterate

/-!
# The pseudorandom octets of the host

* `Prbs16` of `prbs.rs`, and the octets that it gives one after the other;
* `PrbsOutcome`: what the host reads in the output of a speed test.
-/

namespace SnesModem.Rust.Prbs

open SnesModem.Lib.Md5 (leWord)

abbrev lfsrFeedback : UInt16 := 0xb400

structure Prbs16 where
  state : UInt16

namespace Prbs16

def new (seed : UInt16) : Except String Prbs16 :=
  if seed ≠ 0 then .ok ⟨seed⟩ else .error "PRBS seed must be non-zero"

def next (p : Prbs16) : Option UInt8 × Prbs16 :=
  let byte := p.state.toUInt8
  let lsb := p.state &&& 1
  let state := p.state >>> 1
  (some byte, ⟨if lsb ≠ 0 then state ^^^ lfsrFeedback else state⟩)

/-- `Iterator::take`. -/
def take : ℕ → Prbs16 → List UInt8
  | 0, _ => []
  | n + 1, p =>
    match p.next with
    | (none, _) => []
    | (some byte, p) => byte :: take n p

end Prbs16

def bytes (seed : UInt16) (length : ℕ) : Except String (List UInt8) := do
  let prbs ← Prbs16.new seed
  pure (prbs.take length)

structure PrbsOutcome where
  processed : UInt32
  mismatchCount : UInt32
  firstMismatch : Option UInt32
  expected : UInt8
  actual : UInt8
  startFrame : UInt32
  endFrame : UInt32
  deriving DecidableEq, Repr

def readU32 (bytes : List UInt8) (offset : ℕ) : UInt32 := leWord ((bytes.drop offset).take 4)

/-- An index below the length is in range. -/
def PrbsOutcome.decode (output : List UInt8) : Except String PrbsOutcome :=
  if 22 ≤ output.length then
    let first := readU32 output 8
    .ok {
      processed := readU32 output 0
      mismatchCount := readU32 output 4
      firstMismatch := if first ≠ 0xffffffff then some first else none
      expected := output.getD 12 0
      actual := output.getD 13 0
      startFrame := readU32 output 14
      endFrame := readU32 output 18 }
  else .error "PRBS mailbox output is truncated"

/-- The state behind an octet. -/
def advance (state : UInt16) : UInt16 := (Prbs16.next ⟨state⟩).2.state

namespace Prbs16

lemma take_succ (n : ℕ) (state : UInt16) :
    take (n + 1) ⟨state⟩ = take n ⟨state⟩ ++ [(advance^[n] state).toUInt8] := by
  induction n generalizing state with
  | zero => rfl
  | succ n ih =>
    have hfirst : ∀ k, take (k + 1) ⟨state⟩ = state.toUInt8 :: take k ⟨advance state⟩ := fun _ => rfl
    rw [hfirst, ih, hfirst, Function.iterate_succ_apply, List.cons_append]

@[simp] lemma length_take (n : ℕ) (p : Prbs16) : (take n p).length = n := by
  induction n generalizing p with
  | zero => rfl
  | succ n ih => exact congrArg (· + 1) (ih _)

end Prbs16

lemma bytes_of_ne {seed : UInt16} (h : seed ≠ 0) (length : ℕ) : bytes seed length = .ok (Prbs16.take length ⟨seed⟩) := by
  unfold bytes Prbs16.new
  rw [if_pos h]
  rfl

end SnesModem.Rust.Prbs
