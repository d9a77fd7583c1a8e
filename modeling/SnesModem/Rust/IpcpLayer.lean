import SnesModem.Lib.Edges
import SnesModem.Rust.IpcpRun

/-!
# The layer actions and the restart timer of the reference IPCP client

* `layerSignals`, `Follows`: a call emits the edge of `Opened` between the states before and after it;
* `Timed`: the deadline is armed in the states that wait for an answer, and in no others;
* `poll_cases`: a poll of a client that waits does nothing, sends the request again, or ends the wait;
* `layer_and_timer`: the three together, in every run of a new client.
-/

namespace SnesModem.Rust.IpcpLayer

open SnesModem.Lib SnesModem.Lib.Edges SnesModem.Rust.ControlPacket SnesModem.Rust.Ipcp SnesModem.Rust.Ipcp.Client
open SnesModem.Rust.IpcpRun

/-- `true` for each This-Layer-Up, and `false` for each This-Layer-Down. -/
def layerSignals (actions : List Action) : List Bool :=
  actions.filterMap fun
    | .thisLayerUp _ => some true
    | .thisLayerDown => some false
    | _ => none

def isOpened (c : Client) : Bool := c.state = .opened

/-- The actions of a call report the change of `Opened` that it makes. -/
def Follows (c : Client) (outcome : Outcome) : Prop :=
  layerSignals (emitted outcome.2) = edge (isOpened c) (isOpened outcome.1)

/-- `RequestSent`, `AckReceived` and `AckSent`. -/
def waits : State → Bool
  | .requestSent | .ackReceived | .ackSent => true
  | _ => false

/-- The deadline is armed in the states that wait, and in no others. -/
def Timed (c : Client) : Prop := c.restartDeadlineMs.isSome = waits c.state

/-! ### The edges -/

section Follows

variable {c c' : Client}

lemma edge_stays (h : c'.state = c.state) : edge (isOpened c) (isOpened c') = [] := by
  simp [edge, isOpened, h]

lemma edge_outside (h : c.state ≠ .opened) (h' : c'.state ≠ .opened) : edge (isOpened c) (isOpened c') = [] := by
  simp [edge, isOpened, h, h']

lemma edge_leaves (h : c.state = .opened) (h' : c'.state ≠ .opened) : edge (isOpened c) (isOpened c') = [false] := by
  simp [edge, isOpened, h, h']

lemma edge_enters (h : c.state ≠ .opened) (h' : c'.state = .opened) : edge (isOpened c) (isOpened c') = [true] := by
  simp [edge, isOpened, h, h']

/-- A call that stays in its state and reports nothing. -/
lemma follows_stays {transition : Transition} (hstate : c'.state = c.state)
    (hactions : layerSignals transition.actions = []) : Follows c (c', .ok transition) :=
  hactions.trans (edge_stays hstate).symm

/-- A call outside `Opened` that reports nothing. -/
lemma follows_outside {transition : Transition} (h : c.state ≠ .opened) (h' : c'.state ≠ .opened)
    (hactions : layerSignals transition.actions = []) : Follows c (c', .ok transition) :=
  hactions.trans (edge_outside h h').symm

/-- A call that ends with the client's own request, which always fits. -/
lemma follows_request (actions : List Action) (h : layerSignals actions = edge (isOpened c) (isOpened c')) :
    Follows c (c', c'.encodeRequest.map fun packet => { actions := actions ++ [.sendPacket packet] }) := by
  obtain ⟨octets, hencode, -⟩ := encodeRequest_ok c'
  unfold Follows
  rw [hencode]
  simpa [emitted, Except.map, layerSignals] using h

lemma doOpen_follows (nowMs : ℕ) : Follows c (c.doOpen nowMs) := by
  unfold doOpen
  split_ifs with hopened
  · exact follows_stays rfl rfl
  · exact follows_request [] (edge_outside hopened (by simp)).symm

lemma lowerDown_follows : Follows c (c.lowerDown.1, .ok c.lowerDown.2) := by
  by_cases hopened : c.state = .opened
  · simp [Follows, emitted, lowerDown, layerSignals, edge, isOpened, hopened]
  · simp [Follows, emitted, lowerDown, layerSignals, edge, isOpened, hopened]

lemma pollTimeout_follows (nowMs : ℕ) : Follows c (c.pollTimeout nowMs) := by
  unfold pollTimeout
  split
  · exact follows_stays rfl rfl
  · dsimp only
    split_ifs with hearly hother hlast hreceived
    · exact follows_stays rfl rfl
    · exact follows_stays rfl rfl
    · have hwaiting : c.state ≠ .opened := by
        intro hopened
        simp [hopened] at hother
      exact follows_outside hwaiting (by simp) rfl
    · exact follows_request [] (edge_outside (by simp [hreceived]) (by simp)).symm
    · exact follows_request [] (edge_stays rfl).symm

lemma receiveConfigureRequest_follows (packet : Packet) (nowMs : ℕ) :
    Follows c (c.receiveConfigureRequest packet nowMs) := by
  unfold receiveConfigureRequest
  split
  · exact follows_stays rfl rfl
  · rename_i evaluation _
    split
    · exact (edge_stays (c := c) rfl).symm
    · dsimp only
      generalize decide (evaluation.code = .configureAck) = acceptable
      split
      · rename_i hstate
        refine follows_outside (by simp [hstate]) ?_ rfl
        cases acceptable <;> simp
      · rename_i hstate
        refine follows_outside (by simp [hstate]) ?_ rfl
        cases acceptable <;> simp
      · rename_i hstate
        cases acceptable with
        | true => exact (edge_enters (by simp [hstate]) rfl).symm
        | false => exact follows_outside (by simp [hstate]) (by simp [hstate]) rfl
      · rename_i hstate
        generalize hnext : ({ c with peerAddress := evaluation.peerAddress.getD c.peerAddress } : Client) = next
        obtain ⟨octets, hencode, -⟩ := encodeRequest_ok (next.sendNewRequest nowMs true).1
        have hsend : next.sendNewRequest nowMs true = ((next.sendNewRequest nowMs true).1, .ok octets) :=
          Prod.ext rfl hencode
        rw [hsend]
        refine (edge_leaves hstate ?_).symm
        cases acceptable <;> simp
      · exact follows_stays rfl rfl
      · exact follows_stays rfl rfl

lemma receiveConfigureAck_follows (packet : Packet) (nowMs : ℕ) : Follows c (c.receiveConfigureAck packet nowMs) := by
  unfold receiveConfigureAck
  split_ifs
  · exact follows_stays rfl rfl
  · split
    · rename_i hstate
      exact follows_outside (by simp [hstate]) (by simp) rfl
    · rename_i hstate
      exact (edge_enters (by simp [hstate]) rfl).symm
    · rename_i hstate
      exact follows_request [] (edge_outside (by simp [hstate]) (by simp)).symm
    · rename_i hstate
      exact follows_request [.thisLayerDown] (edge_leaves hstate (by simp)).symm
    · exact follows_stays rfl rfl
    · exact follows_stays rfl rfl

lemma afterNegativeResponse_follows (nowMs : ℕ) : Follows c (c.afterNegativeResponse nowMs) := by
  have hleft : (if c.state = .ackSent then State.ackSent else .requestSent) ≠ .opened := by
    split_ifs <;> simp
  unfold afterNegativeResponse
  refine follows_request _ ?_
  by_cases hopened : c.state = .opened
  · rw [if_pos hopened]
    exact (edge_leaves hopened hleft).symm
  · rw [if_neg hopened]
    exact (edge_outside hopened hleft).symm

/-- The turns of the loops over the options of a negative answer keep the state and the timer. -/
structure SameTimer (c c' : Client) : Prop where
  state : c'.state = c.state
  deadline : c'.restartDeadlineMs = c.restartDeadlineMs

lemma nakOption_sameTimer (option : ConfigurationOption) (hturn : nakOption c option = some c') : SameTimer c c' := by
  rw [IpcpIgnored.nakOption_eq] at hturn
  obtain ⟨⟨type, address⟩, -, rfl⟩ := Option.map_eq_some_iff.mp hturn
  cases type <;> exact ⟨rfl, rfl⟩

lemma rejectOption_sameTimer (option : ConfigurationOption) (hturn : rejectOption c option = some c') :
    SameTimer c c' := by
  rw [IpcpIgnored.rejectOption_eq] at hturn
  split_ifs at hturn
  obtain ⟨type, -, rfl⟩ := Option.map_eq_some_iff.mp hturn
  cases type <;> exact ⟨rfl, rfl⟩

lemma optionLoop_sameTimer {turn : Client → ConfigurationOption → Option Client}
    (hturn : ∀ c option c', turn c option = some c' → SameTimer c c') (c : Client)
    (options : List ConfigurationOption) : SameTimer c (optionLoop turn c options).1 :=
  optionLoop_preserves (fun next option _ after hfound h =>
    ⟨(hturn next option after hfound).state.trans h.state,
      (hturn next option after hfound).deadline.trans h.deadline⟩) c ⟨rfl, rfl⟩

lemma receiveNegative_follows {turn : Client → ConfigurationOption → Option Client}
    (hturn : ∀ c option c', turn c option = some c' → SameTimer c c') (packet : Packet) (nowMs : ℕ) :
    Follows c (receiveNegative turn c packet nowMs) := by
  unfold receiveNegative
  split_ifs
  · exact follows_stays rfl rfl
  · split
    · exact follows_stays rfl rfl
    · rename_i options _
      split_ifs
      · exact follows_stays rfl rfl
      · have hsame := optionLoop_sameTimer hturn c options
        split
        · rename_i next hloop
          rw [hloop] at hsame
          have hfollows := afterNegativeResponse_follows (c := next) nowMs
          unfold Follows isOpened at hfollows ⊢
          rw [hfollows, hsame.state]
        · rename_i next hloop
          rw [hloop] at hsame
          exact follows_stays hsame.state rfl

lemma receive_follows (input : List UInt8) (nowMs : ℕ) : Follows c (c.receive input nowMs) := by
  unfold receive
  split_ifs
  · exact follows_stays rfl rfl
  · split
    · exact follows_stays rfl rfl
    · rename_i packet _
      split
      · exact receiveConfigureRequest_follows packet nowMs
      · exact receiveConfigureAck_follows packet nowMs
      · exact receiveNegative_follows (fun _ option _ => nakOption_sameTimer option) packet nowMs
      · exact receiveNegative_follows (fun _ option _ => rejectOption_sameTimer option) packet nowMs
      · exact follows_stays rfl rfl
      · exact follows_stays rfl rfl

/-- **Every call reports** the change of `Opened` that it makes. -/
theorem call_follows (c : Client) (call : Call) : Follows c (call.outcome c) := by
  cases call with
  | doOpen nowMs => exact doOpen_follows nowMs
  | lowerDown => exact lowerDown_follows
  | pollTimeout nowMs => exact pollTimeout_follows nowMs
  | receive input nowMs => exact receive_follows input nowMs

end Follows

/-! ### The timer -/

section Timed

variable {c c' : Client}

lemma timed_of_waits (hstate : waits c.state = true) {deadline : ℕ} (hdeadline : c.restartDeadlineMs = some deadline) :
    Timed c := by
  simp [Timed, hstate, hdeadline]

lemma timed_of_rests (hstate : waits c.state = false) (hdeadline : c.restartDeadlineMs = none) : Timed c := by
  simp [Timed, hstate, hdeadline]

/-- A call that keeps the state and the deadline. -/
lemma Timed.keep (h : Timed c) (hsame : SameTimer c c') : Timed c' := by
  unfold Timed
  rw [hsame.state, hsame.deadline]
  exact h

/-- A call that moves from one waiting state to another. -/
lemma Timed.move (h : Timed c) (hbefore : waits c.state = true) (hafter : waits c'.state = true)
    (hdeadline : c'.restartDeadlineMs = c.restartDeadlineMs) : Timed c' := by
  unfold Timed
  rw [hafter, hdeadline, ← hbefore]
  exact h

lemma pollTimeout_timed (h : Timed c) (nowMs : ℕ) : Timed (c.pollTimeout nowMs).1 := by
  unfold pollTimeout
  split
  · exact h
  · rename_i deadline hdeadline
    have hwaits : waits c.state = true := by
      rw [← show c.restartDeadlineMs.isSome = waits c.state from h, hdeadline]
      rfl
    dsimp only
    split_ifs with hearly hother hlast
    · exact h
    · exfalso
      cases hstate : c.state <;> simp_all [waits]
    · exact timed_of_rests rfl rfl
    · exact timed_of_waits rfl rfl
    · exact timed_of_waits hwaits rfl

lemma receiveConfigureRequest_timed (h : Timed c) (packet : Packet) (nowMs : ℕ) :
    Timed (c.receiveConfigureRequest packet nowMs).1 := by
  unfold receiveConfigureRequest
  split
  · exact h
  · rename_i evaluation _
    split
    · exact h
    · dsimp only
      generalize decide (evaluation.code = .configureAck) = acceptable
      split
      · rename_i hstate
        refine h.move (by rw [hstate]; rfl) ?_ rfl
        cases acceptable <;> rfl
      · rename_i hstate
        refine h.move (by rw [hstate]; rfl) ?_ rfl
        cases acceptable <;> rfl
      · cases acceptable with
        | true => exact timed_of_rests rfl rfl
        | false => exact h.keep ⟨rfl, rfl⟩
      · generalize hnext : ({ c with peerAddress := evaluation.peerAddress.getD c.peerAddress } : Client) = next
        obtain ⟨octets, hencode, -⟩ := encodeRequest_ok (next.sendNewRequest nowMs true).1
        have hsend : next.sendNewRequest nowMs true = ((next.sendNewRequest nowMs true).1, .ok octets) :=
          Prod.ext rfl hencode
        rw [hsend]
        refine timed_of_waits ?_ rfl
        cases acceptable <;> rfl
      · exact h.keep ⟨rfl, rfl⟩
      · exact h.keep ⟨rfl, rfl⟩

lemma receiveConfigureAck_timed (h : Timed c) (packet : Packet) (nowMs : ℕ) :
    Timed (c.receiveConfigureAck packet nowMs).1 := by
  unfold receiveConfigureAck
  split_ifs
  · exact h
  · split
    · rename_i hstate
      exact h.move (by rw [hstate]; rfl) rfl rfl
    · exact timed_of_rests rfl rfl
    · exact timed_of_waits rfl rfl
    · exact timed_of_waits rfl rfl
    · exact h
    · exact h

lemma afterNegativeResponse_timed (nowMs : ℕ) : Timed (c.afterNegativeResponse nowMs).1 := by
  refine timed_of_waits ?_ rfl
  unfold afterNegativeResponse sendNewRequest
  dsimp only
  split_ifs <;> rfl

lemma receiveNegative_timed {turn : Client → ConfigurationOption → Option Client}
    (hturn : ∀ c option c', turn c option = some c' → SameTimer c c') (h : Timed c) (packet : Packet) (nowMs : ℕ) :
    Timed (receiveNegative turn c packet nowMs).1 := by
  unfold receiveNegative
  split_ifs
  · exact h
  · split
    · exact h
    · rename_i options _
      split_ifs
      · exact h
      · have hsame := optionLoop_sameTimer hturn c options
        split
        · exact afterNegativeResponse_timed nowMs
        · rename_i next hloop
          rw [hloop] at hsame
          exact h.keep hsame

/-- **Every call keeps the deadline in step with the state.** -/
theorem timed_step (h : Timed c) (call : Call) : Timed (step c call) := by
  cases call with
  | doOpen nowMs =>
    unfold step Call.outcome doOpen
    dsimp only
    split_ifs
    · exact h
    · exact timed_of_waits rfl rfl
  | lowerDown => exact timed_of_rests rfl rfl
  | pollTimeout nowMs => exact pollTimeout_timed h nowMs
  | receive input nowMs =>
    unfold step Call.outcome receive
    dsimp only
    split_ifs
    · exact h
    · split
      · exact h
      · rename_i packet _
        split
        · exact receiveConfigureRequest_timed h packet nowMs
        · exact receiveConfigureAck_timed h packet nowMs
        · exact receiveNegative_timed (fun _ option _ => nakOption_sameTimer option) h packet nowMs
        · exact receiveNegative_timed (fun _ option _ => rejectOption_sameTimer option) h packet nowMs
        · exact h
        · exact h

/-- In every reachable client the deadline is in step with the state. -/
lemma timed_run (settings : Settings) (calls : List Call) : Timed (Run.run step (Client.new settings) calls) :=
  Run.run_preserves (fun _ call h => timed_step h call) (timed_of_rests rfl rfl)

end Timed

/-! ### Polls alone -/

def polls (times : List ℕ) : List Call := times.map .pollTimeout

/-- The actions of a run. -/
def actionsOf : Client → List Call → List Action
  | _, [] => []
  | c, call :: calls => actions c call ++ actionsOf (step c call) calls

section Polls

variable {c : Client} {octets : List UInt8}

/-- Without a deadline polls do nothing. -/
lemma polls_rest (hdeadline : c.restartDeadlineMs = none) (times : List ℕ) :
    Run.run step c (polls times) = c ∧ actionsOf c (polls times) = [] := by
  induction times with
  | nil => exact ⟨rfl, rfl⟩
  | cons nowMs times ih =>
    have hpoll : c.pollTimeout nowMs = (c, .ok {}) := by
      unfold pollTimeout
      rw [hdeadline]
    have hstep : step c (.pollTimeout nowMs) = c := congrArg Prod.fst hpoll
    have hactions : actions c (.pollTimeout nowMs) = [] := congrArg (fun outcome : Outcome => emitted outcome.2) hpoll
    rw [polls, List.map_cons, Run.run_cons, actionsOf, hstep, hactions]
    exact ih

/-- **A due poll** ends the wait, or sends the request again. -/
theorem poll_due (hwaits : waits c.state = true) (hencode : c.encodeRequest = .ok octets) {nowMs deadline : ℕ}
    (hdeadline : c.restartDeadlineMs = some deadline) (hle : deadline ≤ nowMs) :
    (c.restartRemaining = 0 ∧ (step c (.pollTimeout nowMs)).state = .stopped ∧
      (step c (.pollTimeout nowMs)).restartDeadlineMs = none ∧ actions c (.pollTimeout nowMs) = [.thisLayerFinished]) ∨
    (c.restartRemaining = (step c (.pollTimeout nowMs)).restartRemaining + 1 ∧
      waits (step c (.pollTimeout nowMs)).state = true ∧
      (step c (.pollTimeout nowMs)).encodeRequest = .ok octets ∧ actions c (.pollTimeout nowMs) = [.sendPacket octets]) := by
  have hnegotiating : ¬ (c.state ≠ .requestSent ∧ c.state ≠ .ackReceived ∧ c.state ≠ .ackSent) := by
    intro hother
    cases hstate : c.state <;> simp_all [waits]
  by_cases hlast : c.restartRemaining = 0
  · have hpoll : c.pollTimeout nowMs =
        ({ c with state := .stopped, restartDeadlineMs := none }, .ok { actions := [.thisLayerFinished] }) := by
      unfold pollTimeout
      rw [hdeadline]
      dsimp only
      rw [if_neg (Nat.not_lt.mpr hle), if_neg hnegotiating, if_pos hlast]
    rw [step, actions, Call.outcome, hpoll]
    exact Or.inl ⟨hlast, rfl, rfl, rfl⟩
  · have hpoll : c.pollTimeout nowMs =
        ({ c with
          restartRemaining := c.restartRemaining - 1
          state := if c.state = .ackReceived then .requestSent else c.state
          restartDeadlineMs := some (saturatingAdd nowMs c.settings.restartIntervalMs) },
          .ok { actions := [.sendPacket octets] }) := by
      have hrequest : encode .configureRequest c.requestIdentifier c.localOptions = .ok octets := hencode
      unfold pollTimeout
      rw [hdeadline]
      dsimp only
      rw [if_neg (Nat.not_lt.mpr hle), if_neg hnegotiating, if_neg hlast]
      refine Prod.ext rfl ?_
      exact congrArg (Except.map fun packet => ({ actions := [.sendPacket packet] } : Transition)) hrequest
    rw [step, actions, Call.outcome, hpoll]
    refine Or.inr ⟨(Nat.succ_pred hlast).symm, ?_, hencode, rfl⟩
    dsimp only
    split_ifs
    · rfl
    · exact hwaits

/-- Any poll does what a due one does, or nothing. -/
lemma poll_cases (hwaits : waits c.state = true) (hencode : c.encodeRequest = .ok octets) (nowMs : ℕ) :
    (step c (.pollTimeout nowMs) = c ∧ actions c (.pollTimeout nowMs) = []) ∨
    (c.restartRemaining = 0 ∧ (step c (.pollTimeout nowMs)).state = .stopped ∧
      (step c (.pollTimeout nowMs)).restartDeadlineMs = none ∧ actions c (.pollTimeout nowMs) = [.thisLayerFinished]) ∨
    (c.restartRemaining = (step c (.pollTimeout nowMs)).restartRemaining + 1 ∧
      waits (step c (.pollTimeout nowMs)).state = true ∧
      (step c (.pollTimeout nowMs)).encodeRequest = .ok octets ∧ actions c (.pollTimeout nowMs) = [.sendPacket octets]) := by
  cases hdeadline : c.restartDeadlineMs with
  | none =>
    obtain ⟨hrun, hactions⟩ := polls_rest hdeadline [nowMs]
    exact Or.inl ⟨hrun, by simpa [polls, actionsOf] using hactions⟩
  | some deadline =>
    by_cases hearly : nowMs < deadline
    · have hpoll : c.pollTimeout nowMs = (c, .ok {}) := by
        unfold pollTimeout
        rw [hdeadline]
        dsimp only
        rw [if_pos hearly]
      rw [step, actions, Call.outcome, hpoll]
      exact Or.inl ⟨rfl, rfl⟩
    · exact Or.inr (poll_due hwaits hencode hdeadline (Nat.le_of_not_lt hearly))

/-- **What polls alone do** to a client that waits, by induction on the polls. -/
theorem polls_wait (hwaits : waits c.state = true) (hencode : c.encodeRequest = .ok octets) (times : List ℕ) :
    (∃ sent ≤ c.restartRemaining, actionsOf c (polls times) = List.replicate sent (.sendPacket octets) ∧
      (Run.run step c (polls times)).state ≠ .stopped) ∨
    (actionsOf c (polls times) = List.replicate c.restartRemaining (.sendPacket octets) ++ [.thisLayerFinished] ∧
      (Run.run step c (polls times)).state = .stopped) := by
  induction times generalizing c with
  | nil =>
    refine Or.inl ⟨0, Nat.zero_le _, rfl, fun hstopped => ?_⟩
    rw [show c.state = .stopped from hstopped] at hwaits
    cases hwaits
  | cons nowMs times ih =>
    rw [polls, List.map_cons, Run.run_cons, actionsOf]
    rcases poll_cases hwaits hencode nowMs with ⟨hsame, hnone⟩ | ⟨hlast, hstopped, hdeadline, hfinished⟩ |
      ⟨hmore, hwaiting, hagain, hsent⟩
    · rw [hsame, hnone]
      exact ih hwaits hencode
    · obtain ⟨hrun, hnothing⟩ := polls_rest hdeadline times
      right
      rw [show times.map Call.pollTimeout = polls times from rfl, hrun, hnothing, hfinished, hlast]
      exact ⟨rfl, hstopped⟩
    · rw [hsent, hmore]
      rcases ih hwaiting hagain with ⟨sent, hle, hactions, hstill⟩ | ⟨hactions, hended⟩
      · exact Or.inl ⟨sent + 1, Nat.succ_le_succ hle, congrArg (List.cons _) hactions, hstill⟩
      · exact Or.inr ⟨congrArg (List.cons _) hactions, hended⟩

/-- Polls at the deadlines end the wait, by induction on the retries that are left. -/
lemma exists_stopped (htimed : Timed c) (hwaits : waits c.state = true) :
    ∃ times, (Run.run step c (polls times)).state = .stopped := by
  induction hremaining : c.restartRemaining generalizing c with
  | zero =>
    obtain ⟨octets, hencode, -⟩ := encodeRequest_ok c
    obtain ⟨deadline, hdeadline⟩ := Option.isSome_iff_exists.mp (htimed.trans hwaits)
    rcases poll_due hwaits hencode hdeadline (Nat.le_refl _) with ⟨-, hstopped, -⟩ | ⟨hmore, -⟩
    · exact ⟨[deadline], hstopped⟩
    · omega
  | succ n ih =>
    obtain ⟨octets, hencode, -⟩ := encodeRequest_ok c
    obtain ⟨deadline, hdeadline⟩ := Option.isSome_iff_exists.mp (htimed.trans hwaits)
    rcases poll_due hwaits hencode hdeadline (Nat.le_refl _) with ⟨hlast, -⟩ | ⟨hmore, hwaiting, -⟩
    · omega
    · obtain ⟨times, hstopped⟩ := ih (timed_step htimed _) hwaiting (by omega)
      exact ⟨deadline :: times, hstopped⟩

end Polls

/-! ### From an open to the end of its wait -/

/-- An open and the polls behind it send one request, as often as it is allowed to be sent, before the end of the
wait is reported; and the wait can end. -/
def OpenSends (c : Client) : Prop :=
  ∀ nowMs, ∃ octets, requestOf octets = some (currentRequest (step c (.doOpen nowMs))) ∧
    (∀ times,
      (∃ sent ≤ max 1 c.settings.maxConfigure,
        actionsOf c (.doOpen nowMs :: polls times) = List.replicate sent (.sendPacket octets) ∧
        (Run.run step c (.doOpen nowMs :: polls times)).state ≠ .stopped) ∨
      (actionsOf c (.doOpen nowMs :: polls times) =
          List.replicate (max 1 c.settings.maxConfigure) (.sendPacket octets) ++ [.thisLayerFinished] ∧
        (Run.run step c (.doOpen nowMs :: polls times)).state = .stopped)) ∧
    ∃ times, (Run.run step c (.doOpen nowMs :: polls times)).state = .stopped

section Open

variable {c : Client}

lemma openSends (htimed : Timed c) (hstate : c.state ≠ .opened) : OpenSends c := by
  intro nowMs
  have hopen : c.doOpen nowMs = ((c.doOpen nowMs).1,
      (c.doOpen nowMs).1.encodeRequest.map fun packet => { actions := [.sendPacket packet] }) := by
    unfold doOpen
    rw [if_neg hstate]
    rfl
  have hwaits : waits (step c (.doOpen nowMs)).state = true := by
    unfold step Call.outcome doOpen
    dsimp only
    rw [if_neg hstate]
    rfl
  have hremaining : (step c (.doOpen nowMs)).restartRemaining = c.settings.maxConfigure - 1 := by
    unfold step Call.outcome doOpen
    dsimp only
    rw [if_neg hstate]
    rfl
  obtain ⟨octets, hencode, hrequest⟩ := encodeRequest_ok (step c (.doOpen nowMs))
  have hfirst : actions c (.doOpen nowMs) = [.sendPacket octets] := by
    unfold actions Call.outcome
    dsimp only
    rw [hopen, show (c.doOpen nowMs).1.encodeRequest = .ok octets from hencode]
    rfl
  have hmax : c.settings.maxConfigure - 1 + 1 = max 1 c.settings.maxConfigure := by omega
  refine ⟨octets, hrequest, fun times => ?_, ?_⟩
  · have hpolls := polls_wait hwaits hencode times
    rw [actionsOf, hfirst, Run.run_cons, ← hmax]
    rw [hremaining] at hpolls
    rcases hpolls with ⟨sent, hle, hactions, hstill⟩ | ⟨hactions, hended⟩
    · exact Or.inl ⟨sent + 1, Nat.succ_le_succ hle, congrArg (List.cons _) hactions, hstill⟩
    · exact Or.inr ⟨congrArg (List.cons _) hactions, hended⟩
  · exact exists_stopped (timed_step htimed _) hwaits

lemma mem_up {actions : List Action} :
    (∃ addresses, Action.thisLayerUp addresses ∈ actions) ↔ true ∈ layerSignals actions := by
  unfold layerSignals
  rw [List.mem_filterMap]
  constructor
  · rintro ⟨addresses, hmem⟩
    exact ⟨_, hmem, rfl⟩
  · rintro ⟨action, hmem, hup⟩
    cases action with
    | thisLayerUp addresses => exact ⟨addresses, hmem⟩
    | sendPacket packet | thisLayerDown | thisLayerFinished => cases hup

lemma mem_down {actions : List Action} : Action.thisLayerDown ∈ actions ↔ false ∈ layerSignals actions := by
  unfold layerSignals
  rw [List.mem_filterMap]
  constructor
  · intro hmem
    exact ⟨_, hmem, rfl⟩
  · rintro ⟨action, hmem, hdown⟩
    cases action with
    | thisLayerDown => exact hmem
    | sendPacket packet | thisLayerUp addresses | thisLayerFinished => cases hdown

end Open

/-- **The layer actions follow `Opened`, and the timer runs while an answer is awaited**, in every run of a new
client; and an open outside `Opened` sends its request as often as it may before it reports the end. -/
theorem layer_and_timer (settings : Settings) (calls : List Call) :
    let c := Run.run step (Client.new settings) calls
    (∀ call,
      ((∃ addresses, .thisLayerUp addresses ∈ actions c call) ↔ c.state ≠ .opened ∧ (step c call).state = .opened) ∧
      (.thisLayerDown ∈ actions c call ↔ c.state = .opened ∧ (step c call).state ≠ .opened)) ∧
    (c.restartDeadlineMs.isSome = true ↔ c.state = .requestSent ∨ c.state = .ackReceived ∨ c.state = .ackSent) ∧
    (c.state ≠ .opened → OpenSends c) := by
  intro c
  have htimed : Timed c := timed_run settings calls
  refine ⟨fun call => ?_, ?_, openSends htimed⟩
  · have hsignals : layerSignals (actions c call) = edge (isOpened c) (isOpened (step c call)) := call_follows c call
    rw [mem_up, mem_down, hsignals]
    unfold edge isOpened
    by_cases hbefore : c.state = .opened <;> by_cases hafter : (step c call).state = .opened <;>
      simp [hbefore, hafter]
  · rw [htimed]
    cases c.state <;> simp [waits]

/-- An open of a new client with two tries. -/
theorem layer_and_timer_open : OpenSends (Client.new ⟨3000, 2, unspecifiedAddress, ⟨10, 24, 0, 1⟩⟩) :=
  (layer_and_timer ⟨3000, 2, unspecifiedAddress, ⟨10, 24, 0, 1⟩⟩ []).2.2 (by decide)

/-- The calls that open a client. -/
def openingCalls : List Call :=
  [.doOpen 0, .receive [1, 7, 0, 10, 3, 6, 10, 24, 0, 1] 10,
    .receive [2, 1, 0, 22, 3, 6, 0, 0, 0, 0, 129, 6, 0, 0, 0, 0, 131, 6, 0, 0, 0, 0] 20]

/-- An opened client that is opened sends nothing, however it is polled. -/
theorem open_of_opened_sends_nothing : ¬ ∀ settings calls, OpenSends (Run.run step (Client.new settings) calls) := by
  intro h
  set c := Run.run step (Client.new ⟨3000, 2, unspecifiedAddress, ⟨10, 24, 0, 1⟩⟩) openingCalls with hc
  have hstate : c.state = .opened := by rw [hc]; decide +kernel
  have hdeadline : c.restartDeadlineMs = none := by rw [hc]; decide +kernel
  have hopen : step c (.doOpen 30) = c := by
    unfold step Call.outcome doOpen
    dsimp only
    rw [if_pos hstate]
  obtain ⟨octets, -, -, times, hstopped⟩ := h ⟨3000, 2, unspecifiedAddress, ⟨10, 24, 0, 1⟩⟩ openingCalls 30
  rw [← hc, Run.run_cons, hopen, (polls_rest hdeadline times).1, hstate] at hstopped
  cases hstopped

end SnesModem.Rust.IpcpLayer
