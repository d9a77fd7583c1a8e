import SnesModem.Lib.Edges
import SnesModem.Rust.LcpRun

/-!
# The layer above follows `Opened`

* `layerSignals`: `This-Layer-Up` and `This-Layer-Down` among actions;
* `call_follows`: a call emits the edge of `Opened` between the states before and after it;
* `layer_follows_opened`: so does a run, from a new machine.
-/

namespace SnesModem.Rust.LayerActions

open SnesModem.Lib SnesModem.Lib.Edges SnesModem.Rust.ControlPacket SnesModem.Rust.Lcp SnesModem.Rust.Negotiation
open SnesModem.Rust.NegotiationSteps SnesModem.Rust.LcpRun SnesModem.Rust.Negotiation.Machine

/-- `true` for each This-Layer-Up, and `false` for each This-Layer-Down. -/
def layerSignals (actions : List Action) : List Bool :=
  actions.filterMap fun
    | .thisLayerUp _ => some true
    | .thisLayerDown => some false
    | _ => none

def isOpened (m : Machine) : Bool := m.state = .opened

/-- The actions of a call report the change of `Opened` that it makes. -/
def Follows (m : Machine) (outcome : Outcome) : Prop :=
  ∀ transition, outcome.2 = .ok transition →
    layerSignals transition.actions = edge (isOpened m) (isOpened outcome.1)

section Signals

variable {m m' : Machine} {outcome : Outcome}

lemma layerSignals_append (actions actions' : List Action) :
    layerSignals (actions ++ actions') = layerSignals actions ++ layerSignals actions' := List.filterMap_append

lemma edge_of_state (h : m'.state = m.state) : edge (isOpened m) (isOpened m') = [] := by
  unfold isOpened
  rw [h]
  exact if_pos rfl

lemma edge_closed (h : m.state ≠ .opened) (h' : m'.state ≠ .opened) : edge (isOpened m) (isOpened m') = [] := by
  rw [show isOpened m = false from decide_eq_false h, show isOpened m' = false from decide_eq_false h']
  rfl

lemma edge_down (h : m.state = .opened) (h' : m'.state ≠ .opened) : edge (isOpened m) (isOpened m') = [false] := by
  rw [show isOpened m = true from decide_eq_true h, show isOpened m' = false from decide_eq_false h']
  rfl

lemma edge_up (h : m.state ≠ .opened) (h' : m'.state = .opened) : edge (isOpened m) (isOpened m') = [true] := by
  rw [show isOpened m = false from decide_eq_false h, show isOpened m' = true from decide_eq_true h']
  rfl

/-- The action of a call that leaves `Opened`, if it was there. -/
lemma layerSignals_down (hclosed : m'.state ≠ .opened) :
    layerSignals (if m.state = .opened then [.thisLayerDown] else []) = edge (isOpened m) (isOpened m') := by
  split_ifs with hopened
  · exact (edge_down hopened hclosed).symm
  · exact (edge_closed hopened hclosed).symm

/-- A call that ends with one packet. -/
lemma follows_sending {actions : List Action} {packet : Except MachineError (List UInt8)}
    (h : layerSignals actions = edge (isOpened m) (isOpened m')) : Follows m (m', sending actions packet) := by
  intro transition hok
  cases packet with
  | error error => cases hok
  | ok octets =>
    cases hok
    rw [layerSignals_append, h]
    exact List.append_nil _

/-- A call that stays in its state and emits neither action. -/
lemma follows_same {transition : Transition} (hstate : m'.state = m.state)
    (hactions : layerSignals transition.actions = []) : Follows m (m', .ok transition) := by
  intro transition' hok
  cases hok
  rw [hactions]
  exact (edge_of_state hstate).symm

/-- A call outside `Opened` that emits neither action. -/
lemma follows_closed {transition : Transition} (h : m.state ≠ .opened) (h' : m'.state ≠ .opened)
    (hactions : layerSignals transition.actions = []) : Follows m (m', .ok transition) := by
  intro transition' hok
  cases hok
  rw [hactions]
  exact (edge_closed h h').symm

lemma follows_error {error : MachineError} : Follows m (m', .error error) := fun _ h => by cases h

end Signals

/-! ### The calls -/

section Calls

variable (m : Machine)

lemma doOpen_follows (nowMs : ℕ) : Follows m (m.doOpen nowMs) := by
  unfold doOpen
  split_ifs with hstay
  · exact follows_same rfl rfl
  · have hclosed : m.state ≠ .opened := fun h => hstay (Or.inl h)
    exact follows_sending (edge_closed hclosed (by simp [allocateIdentifier])).symm

lemma doClose_follows (nowMs : ℕ) : Follows m (m.doClose nowMs) := by
  unfold doClose
  split_ifs with hclosing hclosed hopened
  · exact follows_same rfl rfl
  · have hbefore : m.state ≠ .opened := by rcases hclosed with h | h <;> simp [h]
    exact follows_closed hbefore (by simp) rfl
  · exact follows_sending (edge_down hopened (by simp)).symm
  · exact follows_sending (edge_closed hopened (by simp)).symm

lemma lowerDown_follows : Follows m (m.lowerDown.1, .ok m.lowerDown.2) := by
  intro transition hok
  cases hok
  exact layerSignals_down (by simp [lowerDown])

lemma pollTimeout_follows (nowMs : ℕ) : Follows m (m.pollTimeout nowMs) := by
  unfold pollTimeout
  split
  · exact follows_same rfl rfl
  dsimp only
  split_ifs with hearly hclosing hexhausted hother hremaining hreceived
  · exact follows_same rfl rfl
  · exact follows_closed (by simp [hclosing]) (by simp) rfl
  · exact follows_sending (edge_of_state rfl).symm
  · exact follows_same rfl rfl
  · have hbefore : m.state ≠ .opened := fun h => hother (by simp [h])
    exact follows_closed hbefore (by simp) rfl
  · exact follows_sending (edge_closed (by simp [hreceived]) (by simp)).symm
  · exact follows_sending (edge_of_state rfl).symm

lemma rejectProtocol_follows (protocol : UInt16) (information : List UInt8) :
    Follows m (m.rejectProtocol protocol information) := by
  unfold rejectProtocol
  split_ifs
  · exact follows_same rfl rfl
  · exact follows_sending (edge_of_state rfl).symm

lemma receiveEchoRequest_follows (packet : Packet) : Follows m (m.receiveEchoRequest packet) := by
  unfold receiveEchoRequest
  dsimp only
  split_ifs
  · exact follows_same rfl rfl
  · exact follows_same rfl rfl
  · exact follows_same rfl rfl
  · exact follows_sending (edge_of_state rfl).symm

lemma receiveTerminateRequest_follows (packet : Packet) : Follows m (m.receiveTerminateRequest packet) := by
  unfold receiveTerminateRequest
  split
  · exact follows_sending (edge_of_state rfl).symm
  · intro transition hok
    dsimp only at hok ⊢
    cases hencode : encode .terminateAck packet.identifier [] with
    | error error =>
      rw [hencode] at hok
      cases hok
    | ok octets =>
      rw [hencode] at hok
      cases hok
      exact layerSignals_down (by simp)

lemma receiveTerminateAck_follows (packet : Packet) : Follows m (m.receiveTerminateAck packet) := by
  unfold receiveTerminateAck
  split_ifs with hclosing
  · exact follows_same rfl rfl
  · exact follows_same rfl rfl
  · have hbefore : m.state ≠ .opened := fun h => hclosing (by simp [h])
    exact follows_closed hbefore (by simp) rfl

lemma receiveUnknownCode_follows (input : List UInt8) (packet : Packet) :
    Follows m (m.receiveUnknownCode input packet) := by
  unfold receiveUnknownCode
  exact follows_sending (edge_of_state rfl).symm

lemma receiveConfigureRequest_follows (packet : Packet) (nowMs : ℕ) (policy : SfcPolicy) :
    Follows m (m.receiveConfigureRequest packet nowMs policy) := by
  unfold receiveConfigureRequest
  split
  · exact follows_same rfl rfl
  rename_i evaluation hevaluation
  split
  · exact follows_error
  rename_i response hresponse
  -- The state, whether or not the configuration was stored.
  have hstored (acceptable : Bool) (configuration : Option PeerConfiguration) :
      (if acceptable then { m with peerConfiguration := configuration } else m).state = m.state := by
    split_ifs <;> rfl
  dsimp only
  generalize hacceptable : decide (evaluation.code = .configureAck) = acceptable
  generalize hnext : (if acceptable then { m with peerConfiguration := evaluation.configuration } else m) = next
  have hstate : next.state = m.state := hnext ▸ hstored acceptable evaluation.configuration
  split
  · rename_i hsent
    refine follows_closed (by simp [← hstate, hsent]) ?_ rfl
    cases acceptable <;> simp
  · rename_i hsent
    refine follows_closed (by simp [← hstate, hsent]) ?_ rfl
    cases acceptable <;> simp
  · rename_i hreceived
    have hbefore : m.state ≠ .opened := by simp [← hstate, hreceived]
    cases acceptable with
    | true =>
      intro transition hok
      cases hok
      exact (edge_up hbefore rfl).symm
    | false => exact follows_closed hbefore (by simp [hreceived]) rfl
  · rename_i hopened
    rw [hstate] at hopened
    split
    · exact follows_error
    · intro transition hok
      cases hok
      refine (edge_down hopened ?_).symm
      cases acceptable <;> simp
  · exact follows_same hstate rfl
  · exact follows_same hstate rfl
  · exact follows_same hstate rfl

variable {m}

/-- A call that goes on as a machine with the same state. -/
lemma Follows.congr {m' : Machine} {outcome : Outcome} (h : Follows m' outcome) (hstate : m'.state = m.state) :
    Follows m outcome := by
  intro transition hok
  rw [h transition hok]
  unfold isOpened
  rw [hstate]

lemma afterNegativeResponse_follows (nowMs : ℕ) : Follows m (m.afterNegativeResponse nowMs) := by
  unfold afterNegativeResponse
  refine follows_sending (layerSignals_down ?_)
  change (if m.state = .ackSent then State.ackSent else .requestSent) ≠ .opened
  split_ifs <;> simp

lemma receiveConfigureAck_follows (packet : Packet) (nowMs : ℕ) : Follows m (m.receiveConfigureAck packet nowMs) := by
  unfold receiveConfigureAck
  split
  · exact follows_same rfl rfl
  dsimp only
  split
  · rename_i hsent
    exact follows_closed (by simp [hsent]) (by simp) rfl
  · rename_i hsent
    intro transition hok
    cases hok
    exact (edge_up (by simp [hsent]) rfl).symm
  · rename_i hreceived
    exact follows_sending (edge_closed (by simp [hreceived]) (by simp)).symm
  · rename_i hopened
    exact follows_sending (edge_down hopened (by simp)).symm
  · exact follows_same rfl rfl
  · exact follows_same rfl rfl
  · exact follows_same rfl rfl

lemma receiveConfigureNak_follows (packet : Packet) (nowMs : ℕ) : Follows m (m.receiveConfigureNak packet nowMs) := by
  unfold receiveConfigureNak
  split
  · exact follows_same rfl rfl
  split
  · exact follows_same rfl rfl
  split
  · exact follows_same rfl rfl
  · exact (afterNegativeResponse_follows nowMs).congr rfl

lemma receiveConfigureReject_follows (packet : Packet) (nowMs : ℕ) :
    Follows m (m.receiveConfigureReject packet nowMs) := by
  unfold receiveConfigureReject
  split
  · exact follows_same rfl rfl
  split
  · exact follows_same rfl rfl
  split
  · exact follows_same rfl rfl
  · exact (afterNegativeResponse_follows nowMs).congr rfl

lemma receive_follows (input : List UInt8) (nowMs : ℕ) (policy : SfcPolicy) :
    Follows m (m.receive input nowMs policy) := by
  unfold receive
  split
  · exact follows_same rfl rfl
  split
  · exact follows_same rfl rfl
  rename_i packet hpacket
  split
  · exact follows_same rfl rfl
  split
  · exact receiveConfigureRequest_follows m packet nowMs policy
  · exact receiveConfigureAck_follows packet nowMs
  · exact receiveConfigureNak_follows packet nowMs
  · exact receiveConfigureReject_follows packet nowMs
  · exact receiveTerminateRequest_follows m packet
  · exact receiveTerminateAck_follows m packet
  · exact receiveEchoRequest_follows m packet
  · split <;> exact follows_same rfl rfl
  · split <;> exact follows_same rfl rfl
  · exact receiveUnknownCode_follows m input packet
  · exact follows_same rfl rfl

/-- **Every call reports** the change of `Opened` that it makes. -/
theorem call_follows (call : Call) : Follows m (call.outcome m) := by
  cases call with
  | doOpen nowMs => exact doOpen_follows m nowMs
  | doClose nowMs => exact doClose_follows m nowMs
  | lowerDown => exact lowerDown_follows m
  | pollTimeout nowMs => exact pollTimeout_follows m nowMs
  | receive input nowMs policy => exact receive_follows input nowMs policy
  | rejectProtocol protocol information => exact rejectProtocol_follows m protocol information

end Calls

/-! ### Runs -/

section Runs

variable {m : Machine} {calls : List Call}

/-- The actions of a run lead from the first to the last value of `Opened`. -/
lemma run_tracks (hok : Run.Along step Succeeds m calls) :
    Tracks (isOpened m) (layerSignals (actionsOf m calls)) (isOpened (Run.run step m calls)) := by
  induction calls generalizing m with
  | nil => rfl
  | cons call calls ih =>
    obtain ⟨⟨transition, hcall⟩, hrest⟩ := hok
    have hsignals : layerSignals (actions m call) = edge (isOpened m) (isOpened (step m call)) := by
      unfold actions
      rw [hcall]
      exact call_follows call transition hcall
    rw [actionsOf, layerSignals_append, hsignals]
    exact tracks_edge.append (ih hrest)

lemma mem_up {actions : List Action} :
    (∃ configuration, Action.thisLayerUp configuration ∈ actions) ↔ true ∈ layerSignals actions := by
  unfold layerSignals
  rw [List.mem_filterMap]
  constructor
  · rintro ⟨configuration, hmem⟩
    exact ⟨_, hmem, rfl⟩
  · rintro ⟨action, hmem, hup⟩
    cases action with
    | thisLayerUp configuration => exact ⟨configuration, hmem⟩
    | sendPacket packet | thisLayerDown | thisLayerFinished => cases hup

lemma mem_down {actions : List Action} : Action.thisLayerDown ∈ actions ↔ false ∈ layerSignals actions := by
  unfold layerSignals
  rw [List.mem_filterMap]
  constructor
  · intro hmem
    exact ⟨_, hmem, rfl⟩
  · rintro ⟨action, hmem, hdown⟩
    cases action with
    | thisLayerDown => exact hmem
    | sendPacket packet | thisLayerUp configuration | thisLayerFinished => cases hdown

/-- A machine reports that it enters and that it leaves `Opened`, each once. -/
structure FollowsOpened (m : Machine) (calls : List Call) : Prop where
  up : ∀ call transition, (call.outcome (Run.run step m calls)).2 = .ok transition →
    ((∃ configuration, Action.thisLayerUp configuration ∈ transition.actions) ↔
      (Run.run step m calls).state ≠ .opened ∧ (Run.run step m (calls ++ [call])).state = .opened)
  down : ∀ call transition, (call.outcome (Run.run step m calls)).2 = .ok transition →
    (Action.thisLayerDown ∈ transition.actions ↔
      (Run.run step m calls).state = .opened ∧ (Run.run step m (calls ++ [call])).state ≠ .opened)
  alternate : layerSignals (actionsOf m calls) = alternating (layerSignals (actionsOf m calls)).length
  balance : ((layerSignals (actionsOf m calls)).count true : ℤ) - (layerSignals (actionsOf m calls)).count false = 1 ↔
    (Run.run step m calls).state = .opened

/-- **The layer above follows `Opened`**, in every run of a new machine without an error. -/
theorem layer_follows_opened {localOptions : List UInt8} {settings : Settings}
    (hnew : Machine.new localOptions settings = .ok m) (hok : Run.Along step Succeeds m calls) :
    FollowsOpened m calls := by
  have hstart : isOpened m = false := decide_eq_false (by simp [state_new hnew])
  have htracks := run_tracks hok
  rw [hstart] at htracks
  have hcount := count_true htracks
  have hlast (call : Call) : Run.run step m (calls ++ [call]) = step (Run.run step m calls) call := by
    rw [Run.run_append]
    rfl
  refine ⟨fun call transition hcall => ?_, fun call transition hcall => ?_, eq_alternating htracks, ?_⟩
  · rw [mem_up, call_follows call transition hcall, hlast, edge]
    unfold isOpened
    change _ ↔ _ ∧ (call.outcome (Run.run step m calls)).1.state = .opened
    by_cases hbefore : (Run.run step m calls).state = .opened <;>
      by_cases hafter : (call.outcome (Run.run step m calls)).1.state = .opened <;> simp [hbefore, hafter]
  · rw [mem_down, call_follows call transition hcall, hlast, edge]
    unfold isOpened
    change _ ↔ _ ∧ (call.outcome (Run.run step m calls)).1.state ≠ .opened
    by_cases hbefore : (Run.run step m calls).state = .opened <;>
      by_cases hafter : (call.outcome (Run.run step m calls)).1.state = .opened <;> simp [hbefore, hafter]
  · unfold isOpened at hcount
    by_cases hopened : (Run.run step m calls).state = .opened
    · simp only [hopened, decide_true, Bool.toNat_true, Bool.toNat_false] at hcount
      simp only [hopened, iff_true]
      omega
    · simp only [hopened, decide_false, Bool.toNat_false] at hcount
      simp only [hopened, iff_false]
      omega

/-- A link that the peer terminates. -/
theorem layer_follows_opened_terminated : ∃ m, Machine.new [] ⟨3000, 10, 2⟩ = .ok m ∧
    FollowsOpened m [.doOpen 0, .receive [2, 1, 0, 4] 10 {}, .receive [1, 7, 0, 4] 20 {}, .receive [5, 8, 0, 4] 30 {}] :=
  ⟨_, rfl, layer_follows_opened (show Machine.new [] ⟨3000, 10, 2⟩ = .ok _ from rfl) (by decide +kernel)⟩

end Runs

end SnesModem.Rust.LayerActions
