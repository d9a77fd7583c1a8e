import SnesModem.Rust.Negotiation

/-!
# What an ignored LCP packet leaves behind

Every exit of the reference machine that reports an ignored packet comes before its first write.

* `Untouched`: an outcome that reports an ignored packet leaves the machine as it was, and emits nothing;
* `Heeds`: an outcome that reports none;
* `receive_untouched`: `receive`, at any packet and in any state.
-/

namespace SnesModem.Rust.LcpIgnored

open SnesModem.Lib SnesModem.Rust.ControlPacket SnesModem.Rust.Lcp SnesModem.Rust.Negotiation
open SnesModem.Rust.Negotiation.Machine

/-- If the outcome reports that the packet was ignored, then the machine is the one before it, and no action is
emitted. -/
def Untouched (m : Machine) (outcome : Outcome) : Prop :=
  ∀ transition reason, outcome.2 = .ok transition → transition.ignored = some reason →
    outcome.1 = m ∧ transition.actions = []

/-- The outcome does not report an ignored packet. -/
def Heeds (result : Except MachineError Transition) : Prop :=
  ∀ transition, result = .ok transition → transition.ignored = none

section Outcomes

variable {m m' : Machine} {result : Except MachineError Transition}

lemma untouched_of_heeds (h : Heeds result) : Untouched m (m', result) := by
  intro transition reason hok hignored
  rw [h transition hok] at hignored
  cases hignored

lemma untouched_ignore (reason : IgnoreReason) : Untouched m (m, .ok { ignored := some reason }) := by
  intro transition _ hok _
  cases hok
  exact ⟨rfl, rfl⟩

lemma heeds_ok (actions : List Action) : Heeds (.ok { actions := actions }) := by
  intro transition hok
  cases hok
  rfl

lemma heeds_error (error : MachineError) : Heeds (.error error) := by
  intro transition hok
  cases hok

lemma heeds_sending (actions : List Action) (packet : Except MachineError (List UInt8)) :
    Heeds (sending actions packet) := by
  cases packet with
  | error error => exact heeds_error error
  | ok packet => exact heeds_ok _

end Outcomes

/-! ### The handlers -/

section Handlers

variable (m : Machine) (packet : Packet) (nowMs : ℕ)

lemma receiveEchoRequest_untouched : Untouched m (m.receiveEchoRequest packet) := by
  unfold receiveEchoRequest
  split
  · exact untouched_ignore _
  split
  · exact untouched_ignore _
  extract_lets actual expected
  split
  · exact untouched_ignore _
  · exact untouched_of_heeds (heeds_sending _ _)

lemma receiveTerminateRequest_untouched : Untouched m (m.receiveTerminateRequest packet) := by
  unfold receiveTerminateRequest
  split
  · exact untouched_of_heeds (heeds_sending _ _)
  · refine untouched_of_heeds ?_
    cases encode .terminateAck packet.identifier [] with
    | error error => exact heeds_error error
    | ok octets => exact heeds_ok _

lemma receiveTerminateAck_untouched : Untouched m (m.receiveTerminateAck packet) := by
  unfold receiveTerminateAck
  split
  · exact untouched_of_heeds (heeds_ok _)
  split
  · exact untouched_ignore _
  · exact untouched_of_heeds (heeds_ok _)

lemma receiveUnknownCode_untouched (input : List UInt8) : Untouched m (m.receiveUnknownCode input packet) :=
  untouched_of_heeds (heeds_sending _ _)

/-- What answers a negative response is no packet ignored, whatever machine it is sent from. -/
lemma afterNegativeResponse_heeds : Heeds (m.afterNegativeResponse nowMs).2 := heeds_sending _ _

lemma receiveConfigureRequest_untouched (policy : SfcPolicy) :
    Untouched m (m.receiveConfigureRequest packet nowMs policy) := by
  unfold receiveConfigureRequest
  split
  · exact untouched_ignore _
  split
  · exact untouched_of_heeds (heeds_error _)
  extract_lets acceptable m1
  -- The request is evaluated and its answer encoded: what follows writes, and ignores nothing.
  cases m1.state with
  | requestSent | ackSent => exact untouched_of_heeds (heeds_ok _)
  | ackReceived =>
    dsimp only
    split <;> exact untouched_of_heeds (heeds_ok _)
  | opened =>
    dsimp only
    split
    · exact untouched_of_heeds (heeds_error _)
    · exact untouched_of_heeds (heeds_ok _)
  | closing | closed | stopped => exact untouched_of_heeds (heeds_ok _)

lemma receiveConfigureAck_untouched : Untouched m (m.receiveConfigureAck packet nowMs) := by
  unfold receiveConfigureAck
  split
  · exact untouched_ignore _
  extract_lets m1
  cases m1.state with
  | requestSent | ackSent => exact untouched_of_heeds (heeds_ok _)
  | ackReceived | opened => exact untouched_of_heeds (heeds_sending _ _)
  | closing | closed | stopped => exact untouched_of_heeds (heeds_ok _)

lemma receiveConfigureNak_untouched : Untouched m (m.receiveConfigureNak packet nowMs) := by
  unfold receiveConfigureNak
  split
  · exact untouched_ignore _
  split
  · exact untouched_ignore _
  split
  · exact untouched_ignore _
  · exact untouched_of_heeds (afterNegativeResponse_heeds _ _)

lemma receiveConfigureReject_untouched : Untouched m (m.receiveConfigureReject packet nowMs) := by
  unfold receiveConfigureReject
  split
  · exact untouched_ignore _
  split
  · exact untouched_ignore _
  split
  · exact untouched_ignore _
  · exact untouched_of_heeds (afterNegativeResponse_heeds _ _)

end Handlers

/-- **An ignored packet** leaves the whole machine as it was and emits no action. -/
theorem receive_untouched (m : Machine) (input : List UInt8) (nowMs : ℕ) (policy : SfcPolicy) :
    Untouched m (m.receive input nowMs policy) := by
  unfold receive
  split
  · exact untouched_ignore _
  split
  · exact untouched_ignore _
  rename_i packet _
  split
  · exact untouched_ignore _
  split
  · exact receiveConfigureRequest_untouched m packet nowMs policy
  · exact receiveConfigureAck_untouched m packet nowMs
  · exact receiveConfigureNak_untouched m packet nowMs
  · exact receiveConfigureReject_untouched m packet nowMs
  · exact receiveTerminateRequest_untouched m packet
  · exact receiveTerminateAck_untouched m packet
  · exact receiveEchoRequest_untouched m packet
  · split
    · exact untouched_of_heeds (heeds_ok _)
    · exact untouched_ignore _
  · split
    · exact untouched_of_heeds (heeds_ok _)
    · exact untouched_ignore _
  · exact receiveUnknownCode_untouched m packet input
  · exact untouched_ignore _

end SnesModem.Rust.LcpIgnored
