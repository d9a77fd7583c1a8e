import SnesModem.Lib.Run
import SnesModem.Rust.NegotiationSteps

/-!
# Runs of the reference LCP machine

* `Call`: the calls of the machine, with their arguments;
* `actionsOf`: the actions that a run emits.
-/

namespace SnesModem.Rust.LcpRun

open SnesModem.Lib SnesModem.Rust.Negotiation SnesModem.Rust.NegotiationSteps

inductive Call where
  | doOpen (nowMs : ℕ)
  | doClose (nowMs : ℕ)
  | lowerDown
  | pollTimeout (nowMs : ℕ)
  | receive (input : List UInt8) (nowMs : ℕ) (policy : SfcPolicy)
  | rejectProtocol (protocol : UInt16) (information : List UInt8)

/-- The outcome of a call. -/
def Call.outcome (m : Machine) : Call → Machine.Outcome
  | .doOpen nowMs => m.doOpen nowMs
  | .doClose nowMs => m.doClose nowMs
  | .lowerDown => (m.lowerDown.1, .ok m.lowerDown.2)
  | .pollTimeout nowMs => m.pollTimeout nowMs
  | .receive input nowMs policy => m.receive input nowMs policy
  | .rejectProtocol protocol information => m.rejectProtocol protocol information

/-- The machine that a call leaves behind, with or without an error. -/
def step (m : Machine) (call : Call) : Machine := (call.outcome m).1

/-- The actions of a call; an error has none. -/
def actions (m : Machine) (call : Call) : List Action := emitted (call.outcome m).2

/-- The call returns `Ok`. -/
def Succeeds (m : Machine) (call : Call) : Prop := ∃ transition, (call.outcome m).2 = .ok transition

instance (m : Machine) (call : Call) : Decidable (Succeeds m call) :=
  match h : (call.outcome m).2 with
  | .ok transition => .isTrue ⟨transition, h⟩
  | .error _ => .isFalse fun ⟨_, hok⟩ => by
    rw [h] at hok
    cases hok

/-- The actions of a run. -/
def actionsOf : Machine → List Call → List Action
  | _, [] => []
  | m, call :: calls => actions m call ++ actionsOf (step m call) calls

lemma state_new {localOptions : List UInt8} {settings : Settings} {m : Machine}
    (h : Machine.new localOptions settings = .ok m) : m.state = .closed := by
  unfold Machine.new at h
  split at h
  · cases h
  · cases h
    rfl

end SnesModem.Rust.LcpRun
