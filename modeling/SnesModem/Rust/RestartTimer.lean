import SnesModem.Rust.LcpRun

/-!
# The restart timer of the reference LCP machine

* `Timed`: the deadline is armed in the states that wait for an answer, and in no others;
* `Due`: a poll at the deadline or after it;
* `expiry`: what a due poll does; `expires`: what a run of them does;
* `RefusedRequest`: what a request comes to that no packet has room for;
* `timer_runs`: every state that waits comes to an end by its retries.
-/

namespace SnesModem.Rust.RestartTimer

open SnesModem.Lib SnesModem.Rust.ControlPacket SnesModem.Rust.Lcp SnesModem.Rust.Negotiation
open SnesModem.Rust.NegotiationSteps SnesModem.Rust.LcpRun SnesModem.Rust.Negotiation.Machine

/-! ### The states that wait for an answer -/

/-- `RequestSent`, `AckReceived`, `AckSent` and `Closing`. -/
def waits : State → Bool
  | .requestSent | .ackReceived | .ackSent | .closing => true
  | _ => false

/-- The deadline is armed in the states that wait, and in no others. -/
def Timed (m : Machine) : Prop := m.restartDeadlineMs.isSome = waits m.state

section Calls

variable {m m' : Machine}

lemma timed_of_waits (hstate : waits m.state = true) {deadline : ℕ} (hdeadline : m.restartDeadlineMs = some deadline) :
    Timed m := by
  unfold Timed
  rw [hstate, hdeadline]
  rfl

lemma timed_of_rests (hstate : waits m.state = false) (hdeadline : m.restartDeadlineMs = none) : Timed m := by
  unfold Timed
  rw [hstate, hdeadline]
  rfl

/-- A call that keeps the state and the deadline. -/
lemma Timed.keep (h : Timed m) (hstate : m'.state = m.state) (hdeadline : m'.restartDeadlineMs = m.restartDeadlineMs) :
    Timed m' := by
  unfold Timed
  rw [hstate, hdeadline]
  exact h

/-- A call that moves from one waiting state to another. -/
lemma Timed.move (h : Timed m) (hbefore : waits m.state = true) (hafter : waits m'.state = true)
    (hdeadline : m'.restartDeadlineMs = m.restartDeadlineMs) : Timed m' := by
  unfold Timed
  rw [hafter, hdeadline, ← hbefore]
  exact h

lemma timed_sendNewRequest (hstate : waits m.state = true) (nowMs : ℕ) (resetCounter : Bool) :
    Timed (m.sendNewRequest nowMs resetCounter).1 := timed_of_waits hstate rfl

lemma timed_doOpen (h : Timed m) (nowMs : ℕ) : Timed (m.doOpen nowMs).1 := by
  unfold doOpen
  split_ifs
  · exact h
  · exact timed_sendNewRequest rfl nowMs true

lemma timed_doClose (h : Timed m) (nowMs : ℕ) : Timed (m.doClose nowMs).1 := by
  unfold doClose
  split_ifs
  · exact h
  · exact timed_of_rests rfl rfl
  · exact timed_of_waits rfl rfl
  · exact timed_of_waits rfl rfl

lemma timed_pollTimeout (h : Timed m) (nowMs : ℕ) : Timed (m.pollTimeout nowMs).1 := by
  unfold pollTimeout
  split
  · exact h
  · rename_i deadline hdeadline
    have hwaits : waits m.state = true := by
      rw [← show m.restartDeadlineMs.isSome = waits m.state from h, hdeadline]
      rfl
    dsimp only
    split_ifs with hearly hclosing hexhausted hother hlast hreceived
    · exact h
    · exact timed_of_rests rfl rfl
    · exact timed_of_waits hwaits rfl
    · obtain ⟨hrequested, hreceived, hsent⟩ := hother
      refine timed_of_rests ?_ rfl
      cases hstate : m.state <;> simp_all [waits]
    · exact timed_of_rests rfl rfl
    · exact timed_of_waits rfl rfl
    · exact timed_of_waits hwaits rfl

lemma timed_receiveTerminateRequest (h : Timed m) (packet : Packet) : Timed (m.receiveTerminateRequest packet).1 := by
  unfold receiveTerminateRequest
  split_ifs
  · exact h
  · exact timed_of_rests rfl rfl
  · exact timed_of_rests rfl rfl

lemma timed_receiveTerminateAck (h : Timed m) (packet : Packet) : Timed (m.receiveTerminateAck packet).1 := by
  unfold receiveTerminateAck
  split_ifs
  · exact h
  · exact h
  · exact timed_of_rests rfl rfl

lemma timed_receiveEchoRequest (h : Timed m) (packet : Packet) : Timed (m.receiveEchoRequest packet).1 := by
  unfold receiveEchoRequest
  dsimp only
  split_ifs <;> exact h

lemma timed_afterNegativeResponse (nowMs : ℕ) : Timed (m.afterNegativeResponse nowMs).1 := by
  unfold afterNegativeResponse
  refine timed_sendNewRequest ?_ nowMs _
  dsimp only
  split_ifs <;> rfl

lemma timed_receiveConfigureAck (h : Timed m) (packet : Packet) (nowMs : ℕ) :
    Timed (m.receiveConfigureAck packet nowMs).1 := by
  unfold receiveConfigureAck
  dsimp only
  split_ifs
  · exact h
  · split
    · rename_i hstate
      exact h.move (by rw [hstate]; rfl) rfl rfl
    · exact timed_of_rests rfl rfl
    · exact timed_sendNewRequest rfl nowMs false
    · exact timed_sendNewRequest rfl nowMs false
    · exact h.keep rfl rfl
    · exact h.keep rfl rfl
    · exact h.keep rfl rfl

/-- The new request of an opened machine fits a packet, since the peer has acknowledged its options. -/
lemma timed_receiveConfigureRequest (h : Timed m) (hshort : Short m) (packet : Packet) (nowMs : ℕ) (policy : SfcPolicy) :
    Timed (m.receiveConfigureRequest packet nowMs policy).1 := by
  unfold receiveConfigureRequest
  split
  · exact h
  · split
    · exact h
    · rename_i evaluation _ _ response _
      dsimp only
      generalize hnext : (if decide (evaluation.code = .configureAck) then
        { m with peerConfiguration := evaluation.configuration } else m) = next
      have hsame : next.state = m.state ∧ next.restartDeadlineMs = m.restartDeadlineMs ∧
          next.localOptions = m.localOptions := by
        rw [← hnext]
        split_ifs <;> exact ⟨rfl, rfl, rfl⟩
      have hkept : Timed next := h.keep hsame.1 hsame.2.1
      split
      · rename_i hstate
        refine hkept.move (by rw [hstate]; rfl) ?_ rfl
        dsimp only
        split_ifs <;> rfl
      · rename_i hstate
        refine hkept.move (by rw [hstate]; rfl) ?_ rfl
        dsimp only
        split_ifs <;> rfl
      · split_ifs
        · exact timed_of_rests rfl rfl
        · exact hkept
      · rename_i hstate
        have hfits : headerLength + next.localOptions.length < 2 ^ 16 := by
          rw [hsame.2.2]
          exact hshort (Or.inr (hsame.1.symm.trans hstate))
        obtain ⟨request, hencode⟩ : ∃ request,
            encode .configureRequest (next.nextIdentifier + 1) next.localOptions = .ok request := encode_ok hfits
        have hsend : next.sendNewRequest nowMs true = ((next.sendNewRequest nowMs true).1, .ok request) :=
          Prod.ext rfl hencode
        rw [hsend]
        refine timed_of_waits ?_ rfl
        dsimp only
        split_ifs <;> rfl
      · exact hkept
      · exact hkept
      · exact hkept

lemma timed_receive (h : Timed m) (hshort : Short m) (input : List UInt8) (nowMs : ℕ) (policy : SfcPolicy) :
    Timed (m.receive input nowMs policy).1 := by
  unfold receive
  split
  · exact h
  · split
    · exact h
    · rename_i packet _
      split
      · exact h
      · split
        · exact timed_receiveConfigureRequest h hshort packet nowMs policy
        · exact timed_receiveConfigureAck h packet nowMs
        · unfold receiveConfigureNak
          split
          · exact h
          · split
            · exact h
            · split
              · exact h
              · exact timed_afterNegativeResponse nowMs
        · unfold receiveConfigureReject
          split
          · exact h
          · split
            · exact h
            · split
              · exact h
              · exact timed_afterNegativeResponse nowMs
        · exact timed_receiveTerminateRequest h packet
        · exact timed_receiveTerminateAck h packet
        · exact timed_receiveEchoRequest h packet
        · split <;> exact h
        · split <;> exact h
        · exact h.keep rfl rfl
        · exact h

/-- **A call keeps the deadline in step with the state.** -/
theorem timed_step (h : Timed m) (hshort : Short m) (call : Call) : Timed (step m call) := by
  cases call with
  | doOpen nowMs => exact timed_doOpen h nowMs
  | doClose nowMs => exact timed_doClose h nowMs
  | lowerDown => exact timed_of_rests rfl rfl
  | pollTimeout nowMs => exact timed_pollTimeout h nowMs
  | receive input nowMs policy => exact timed_receive h hshort input nowMs policy
  | rejectProtocol protocol information =>
    unfold step Call.outcome rejectProtocol
    dsimp only
    split_ifs
    · exact h
    · exact h.keep rfl rfl

lemma short_step (hshort : Short m) (call : Call) : Short (step m call) := by
  cases call with
  | doOpen nowMs => exact (doOpen_steps hshort nowMs).requester.short
  | doClose nowMs =>
    unfold step Call.outcome doClose
    dsimp only
    split_ifs
    · exact hshort
    · exact fun h => absurd h (not_acknowledged (by simp) (by simp))
    · exact fun h => absurd h (not_acknowledged (by simp) (by simp))
    · exact fun h => absurd h (not_acknowledged (by simp) (by simp))
  | lowerDown =>
    intro h
    rcases h with h | h <;> cases h
  | pollTimeout nowMs => exact (pollTimeout_steps hshort nowMs).requester.short
  | receive input nowMs policy => exact (receive_steps hshort input nowMs policy).requester.short
  | rejectProtocol protocol information =>
    unfold step Call.outcome rejectProtocol
    dsimp only
    split_ifs
    · exact hshort
    · exact hshort

end Calls

/-- What every reachable machine is. -/
structure Sound (m : Machine) : Prop where
  timed : Timed m
  short : Short m

lemma sound_step {m : Machine} (h : Sound m) (call : Call) : Sound (step m call) :=
  ⟨timed_step h.timed h.short call, short_step h.short call⟩

lemma sound_new {localOptions : List UInt8} {settings : Settings} {m : Machine}
    (h : Machine.new localOptions settings = .ok m) : Sound m := by
  unfold Machine.new at h
  split at h
  · cases h
  · cases h
    exact ⟨timed_of_rests rfl rfl, fun h => by rcases h with h | h <;> cases h⟩

lemma sound_run {m : Machine} (h : Sound m) (calls : List Call) : Sound (Run.run step m calls) :=
  Run.run_preserves (fun _ call h => sound_step h call) h

/-! ### Expiries -/

/-- The poll comes at the deadline, or after it. -/
def Due (m : Machine) (call : Call) : Prop :=
  ∃ nowMs deadline, call = .pollTimeout nowMs ∧ m.restartDeadlineMs = some deadline ∧ deadline ≤ nowMs

def polls (times : List ℕ) : List Call := times.map .pollTimeout

/-- The packet whose answer the machine waits for. -/
def awaited (m : Machine) : Except MachineError (List UInt8) :=
  if m.state = .closing then m.encodeTerminateRequest else m.encodeRequest

/-- The actions of a retry: the packet once more, or none if it is too long. -/
def retry (m : Machine) : List Action := emitted (sending [] (awaited m))

/-- The state in which the retries end. -/
def finalState (m : Machine) : State := if m.state = .closing then .closed else .stopped

/-- Two waiting machines that wait for the same answer. -/
structure SameWait (m m' : Machine) : Prop where
  waits : waits m'.state = true
  closing : m'.state = .closing ↔ m.state = .closing
  request : m'.encodeRequest = m.encodeRequest
  terminate : m'.encodeTerminateRequest = m.encodeTerminateRequest

section Expiry

variable {m m' : Machine}

lemma SameWait.retry_eq (h : SameWait m m') : retry m' = retry m := by
  unfold retry awaited
  simp only [h.closing, h.request, h.terminate]

lemma SameWait.finalState_eq (h : SameWait m m') : finalState m' = finalState m := by
  unfold finalState
  simp only [h.closing]

/-- **A due poll** retries while the counter lasts, and then ends the wait. -/
theorem expiry {call : Call} (hwaits : waits m.state = true) (hdue : Due m call) :
    if m.restartRemaining = 0 then
      (step m call).state = finalState m ∧ (step m call).restartDeadlineMs = none ∧
        actions m call = [.thisLayerFinished]
    else
      SameWait m (step m call) ∧ (step m call).restartRemaining = m.restartRemaining - 1 ∧
        actions m call = retry m := by
  obtain ⟨nowMs, deadline, rfl, hdeadline, hle⟩ := hdue
  unfold step actions Call.outcome pollTimeout
  rw [hdeadline]
  dsimp only
  rw [if_neg (Nat.not_lt.mpr hle)]
  by_cases hclosing : m.state = .closing
  · rw [if_pos hclosing]
    split_ifs with hlast
    · exact ⟨by rw [finalState, if_pos hclosing], rfl, rfl⟩
    · refine ⟨⟨by rw [hclosing]; rfl, Iff.rfl, rfl, rfl⟩, rfl, ?_⟩
      rw [retry, awaited, if_pos hclosing]
      rfl
  · rw [if_neg hclosing]
    have hnegotiating : ¬ (m.state ≠ .requestSent ∧ m.state ≠ .ackReceived ∧ m.state ≠ .ackSent) := by
      cases hstate : m.state <;> simp_all [waits]
    rw [if_neg hnegotiating]
    split_ifs with hlast hreceived
    · exact ⟨by rw [finalState, if_neg hclosing], rfl, rfl⟩
    · refine ⟨⟨rfl, by simp [hclosing], rfl, rfl⟩, rfl, ?_⟩
      rw [retry, awaited, if_neg hclosing]
      rfl
    · refine ⟨⟨hwaits, by simp [hclosing], rfl, rfl⟩, rfl, ?_⟩
      rw [retry, awaited, if_neg hclosing]
      rfl

/-- The actions of due polls: a retry for each while the counter lasts, and the end of the wait. -/
def retries (m : Machine) (n : ℕ) : List Action :=
  (List.replicate (min n m.restartRemaining) (retry m)).flatten ++
    if n = m.restartRemaining + 1 then [.thisLayerFinished] else []

/-- What a run of due polls does. -/
structure Expires (m : Machine) (times : List ℕ) : Prop where
  bounded : times.length ≤ m.restartRemaining + 1
  actions : actionsOf m (polls times) = retries m times.length
  waiting : times.length ≤ m.restartRemaining → waits (Run.run step m (polls times)).state = true
  ended : times.length = m.restartRemaining + 1 → (Run.run step m (polls times)).state = finalState m

/-- **A run of due polls**, by induction on the polls: each one leaves a machine with one retry less. -/
theorem expires {times : List ℕ} (hwaits : waits m.state = true) (hdue : Run.Along step Due m (polls times)) :
    Expires m times := by
  induction times generalizing m with
  | nil => exact ⟨Nat.zero_le _, by simp [retries, polls, actionsOf], fun _ => hwaits, fun h => by simp at h⟩
  | cons nowMs times ih =>
    obtain ⟨hfirst, hrest⟩ := hdue
    have hexpiry := expiry hwaits hfirst
    by_cases hlast : m.restartRemaining = 0
    · rw [if_pos hlast] at hexpiry
      obtain ⟨hstate, hdeadline, hactions⟩ := hexpiry
      cases times with
      | nil =>
        refine ⟨by simp, ?_, fun h => by simp [hlast] at h, fun _ => hstate⟩
        simp [retries, polls, actionsOf, hactions, hlast]
      | cons nowMs' times =>
        -- Without a deadline no poll is due.
        obtain ⟨⟨_, deadline, -, hsome, -⟩, -⟩ := hrest
        rw [hdeadline] at hsome
        cases hsome
    · rw [if_neg hlast] at hexpiry
      obtain ⟨hsame, hremaining, hactions⟩ := hexpiry
      obtain ⟨hbounded, hrun, hwaiting, hended⟩ := ih hsame.waits hrest
      rw [hremaining] at hbounded hwaiting hended
      have hlength : (nowMs :: times).length = times.length + 1 := List.length_cons
      refine ⟨by omega, ?_, fun h => hwaiting (by omega), fun h => ?_⟩
      · show actions m (.pollTimeout nowMs) ++ actionsOf (step m (.pollTimeout nowMs)) (polls times) = _
        have hmin : min (times.length + 1) m.restartRemaining = min times.length (m.restartRemaining - 1) + 1 := by omega
        have hend : times.length = m.restartRemaining - 1 + 1 ↔ times.length + 1 = m.restartRemaining + 1 := by omega
        rw [hrun, hactions, hlength]
        unfold retries
        rw [hsame.retry_eq, hremaining, hmin, List.replicate_succ, List.flatten_cons, List.append_assoc]
        simp only [hend]
      · exact (hended (by omega)).trans hsame.finalState_eq

lemma finalState_eq_or (m : Machine) : finalState m = .stopped ∨ finalState m = .closed := by
  unfold finalState
  split_ifs <;> simp

/-- The wait is over after one poll more than there are retries, and not before. -/
lemma Expires.ended_iff {times : List ℕ} (h : Expires m times) :
    (Run.run step m (polls times)).state = .stopped ∨ (Run.run step m (polls times)).state = .closed ↔
      times.length = m.restartRemaining + 1 := by
  constructor
  · intro hstate
    have hbounded := h.bounded
    by_contra hne
    have hwaiting := h.waiting (by omega)
    rcases hstate with hstate | hstate
    · rw [hstate] at hwaiting
      cases hwaiting
    · rw [hstate] at hwaiting
      cases hwaiting
  · intro hlength
    rw [h.ended hlength]
    exact finalState_eq_or m

end Expiry

/-! ### The packets of the retries -/

section Packets

variable {m : Machine}

/-- The Configure-Request that the machine stands by. -/
def currentRequest (m : Machine) : Packet := ⟨Code.configureRequest.octet, m.requestIdentifier, m.localOptions⟩

/-- The Terminate-Request that the machine stands by. -/
def currentTerminate (m : Machine) : Packet := ⟨Code.terminateRequest.octet, m.terminateIdentifier, []⟩

lemma mem_retries {n : ℕ} {action : Action} (h : action ∈ retries m n) :
    action ∈ retry m ∨ action = .thisLayerFinished := by
  unfold retries at h
  rcases List.mem_append.mp h with h | h
  · obtain ⟨actions, hactions, hmem⟩ := List.mem_flatten.mp h
    rw [List.eq_of_mem_replicate hactions] at hmem
    exact Or.inl hmem
  · split_ifs at h
    · exact Or.inr (List.mem_singleton.mp h)
    · cases h

lemma packetsIn_retry (code : Code) {packet : Packet} (h : packet ∈ packetsIn code (retry m)) :
    code = .configureRequest ∧ packet = currentRequest m ∨ code = .terminateRequest ∧ packet = currentTerminate m := by
  unfold retry awaited at h
  split_ifs at h
  · obtain ⟨rfl, rfl⟩ := packetsIn_sending code rfl h
    exact Or.inr ⟨rfl, rfl⟩
  · obtain ⟨rfl, rfl⟩ := packetsIn_sending code rfl h
    exact Or.inl ⟨rfl, rfl⟩

lemma packetsIn_flatten_replicate (code : Code) (n : ℕ) (actions : List Action) :
    packetsIn code (List.replicate n actions).flatten = (List.replicate n (packetsIn code actions)).flatten := by
  induction n with
  | zero => rfl
  | succ n ih => rw [List.replicate_succ, List.flatten_cons, packetsIn_append, ih, List.replicate_succ, List.flatten_cons]

lemma length_packetsIn_retries (code : Code) (n : ℕ) :
    (packetsIn code (retries m n)).length = min n m.restartRemaining * (packetsIn code (retry m)).length := by
  have hfinished : packetsIn code (if n = m.restartRemaining + 1 then [.thisLayerFinished] else []) = [] := by
    split_ifs <;> rfl
  unfold retries
  rw [packetsIn_append, hfinished, List.append_nil, packetsIn_flatten_replicate]
  simp

lemma count_retries (n : ℕ) :
    (retries m n).count .thisLayerFinished = if n = m.restartRemaining + 1 then 1 else 0 := by
  have hretry : Action.thisLayerFinished ∉ retry m := by
    unfold retry
    intro h
    cases hawaited : awaited m with
    | error error => simp [hawaited, sending, emitted, Except.map] at h
    | ok octets => simp [hawaited, sending, emitted, Except.map] at h
  have hzero : (List.replicate (min n m.restartRemaining) (retry m)).flatten.count .thisLayerFinished = 0 := by
    rw [List.count_eq_zero]
    intro h
    obtain ⟨actions, hactions, hmem⟩ := List.mem_flatten.mp h
    rw [List.eq_of_mem_replicate hactions] at hmem
    exact hretry hmem
  unfold retries
  rw [List.count_append, hzero]
  split_ifs <;> simp

/-- The Configure-Request fits a packet. -/
def Fits (m : Machine) : Prop := headerLength + m.localOptions.length < 2 ^ 16

instance (m : Machine) : Decidable (Fits m) := inferInstanceAs (Decidable (_ < _))

lemma fits_of_options {m' : Machine} (hoptions : m'.localOptions = m.localOptions) : Fits m' ↔ Fits m := by
  unfold Fits
  rw [hoptions]

lemma length_packetsIn_retry (hstate : m.state ≠ .closing) :
    (packetsIn .configureRequest (retry m)).length = if Fits m then 1 else 0 := by
  unfold retry awaited
  rw [if_neg hstate]
  split_ifs with hfits
  · obtain ⟨octets, hencode⟩ : ∃ octets, encode .configureRequest m.requestIdentifier m.localOptions = .ok octets :=
      encode_ok hfits
    have hrequest : m.encodeRequest = .ok octets := hencode
    simp [hrequest, sending, emitted, Except.map, packetOf_encode _ hencode]
  · have hencode : ∃ error, m.encodeRequest = .error error := ⟨_, if_neg hfits⟩
    obtain ⟨error, herror⟩ := hencode
    simp [herror, sending, emitted, Except.map]

end Packets

/-! ### Every wait ends -/

/-- Due polls end the wait with the one after the last retry, which reports the end; and the retries repeat the
packet that the machine stands by. -/
def Ends (m : Machine) : Prop :=
  (∃ times, times.length = m.restartRemaining + 1 ∧ Run.Along step Due m (polls times)) ∧
  ∀ times, Run.Along step Due m (polls times) →
    ((Run.run step m (polls times)).state = .stopped ∨ (Run.run step m (polls times)).state = .closed ↔
      times.length = m.restartRemaining + 1) ∧
    (actionsOf m (polls times)).count .thisLayerFinished = (if times.length = m.restartRemaining + 1 then 1 else 0) ∧
    (∀ packet ∈ packetsIn .configureRequest (actionsOf m (polls times)), packet = currentRequest m) ∧
    ∀ packet ∈ packetsIn .terminateRequest (actionsOf m (polls times)), packet = currentTerminate m

/-- The number of Configure-Requests that an open and the due polls behind it send, up to the end of the wait. -/
def OpenSends (m : Machine) (count : ℕ) : Prop :=
  ∀ nowMs times, Run.Along step Due (step m (.doOpen nowMs)) (polls times) →
    (Run.run step m (.doOpen nowMs :: polls times)).state = .stopped →
    (packetsIn .configureRequest (actionsOf m (.doOpen nowMs :: polls times))).length = count

section Ends

variable {m : Machine}

/-- A waiting machine can be polled at its deadline. -/
lemma exists_due (hsound : Sound m) (hwaits : waits m.state = true) (n : ℕ) (hn : n ≤ m.restartRemaining + 1) :
    ∃ times, times.length = n ∧ Run.Along step Due m (polls times) := by
  induction n with
  | zero => exact ⟨[], rfl, trivial⟩
  | succ n ih =>
    obtain ⟨times, hlength, hdue⟩ := ih (by omega)
    have hwaiting := (expires hwaits hdue).waiting (by omega)
    have htimed : (Run.run step m (polls times)).restartDeadlineMs.isSome = true :=
      (sound_run hsound (polls times)).timed.trans hwaiting
    obtain ⟨deadline, hdeadline⟩ := Option.isSome_iff_exists.mp htimed
    refine ⟨times ++ [deadline], by simp [hlength], ?_⟩
    rw [polls, List.map_append]
    exact Run.along_append.mpr ⟨hdue, ⟨deadline, deadline, rfl, hdeadline, Nat.le_refl _⟩, trivial⟩

lemma ends (hsound : Sound m) (hwaits : waits m.state = true) : Ends m := by
  refine ⟨exists_due hsound hwaits _ (Nat.le_refl _), fun times hdue => ?_⟩
  have hexpires := expires hwaits hdue
  have hpacket (code : Code) {packet : Packet} (h : packet ∈ packetsIn code (actionsOf m (polls times))) :
      packet ∈ packetsIn code (retry m) := by
    rw [hexpires.actions] at h
    obtain ⟨octets, hoctets, hcode⟩ := List.mem_filterMap.mp h
    obtain ⟨action, haction, hsent⟩ := List.mem_filterMap.mp hoctets
    refine List.mem_filterMap.mpr ⟨octets, List.mem_filterMap.mpr ⟨action, ?_, hsent⟩, hcode⟩
    rcases mem_retries haction with hretry | rfl
    · exact hretry
    · cases hsent
  refine ⟨hexpires.ended_iff, ?_, fun packet h => ?_, fun packet h => ?_⟩
  · rw [hexpires.actions]
    exact count_retries _
  · rcases packetsIn_retry _ (hpacket _ h) with ⟨-, heq⟩ | ⟨hcode, -⟩
    · exact heq
    · cases hcode
  · rcases packetsIn_retry _ (hpacket _ h) with ⟨hcode, -⟩ | ⟨-, heq⟩
    · cases hcode
    · exact heq

/-- An open begins the wait for the answer to its request. -/
lemma doOpen_begins (hopened : m.state ≠ .opened) (hclosing : m.state ≠ .closing) (nowMs : ℕ) :
    m.doOpen nowMs = (step m (.doOpen nowMs), sending [] (step m (.doOpen nowMs)).encodeRequest) ∧
      (step m (.doOpen nowMs)).state = .requestSent ∧
      (step m (.doOpen nowMs)).restartDeadlineMs = some (saturatingAdd nowMs m.settings.restartIntervalMs) ∧
      (step m (.doOpen nowMs)).restartRemaining = m.settings.maxConfigure - 1 ∧
      (step m (.doOpen nowMs)).localOptions = m.localOptions := by
  unfold step Call.outcome doOpen
  dsimp only
  rw [if_neg (not_or.mpr ⟨hopened, hclosing⟩)]
  exact ⟨rfl, rfl, rfl, rfl, rfl⟩

/-- An open sends the request once, and leaves one retry less than the maximum. -/
lemma openSends (hopened : m.state ≠ .opened) (hclosing : m.state ≠ .closing) :
    OpenSends m (if Fits m then max 1 m.settings.maxConfigure else 0) := by
  intro nowMs times hdue hstopped
  obtain ⟨hopen, hstate, -, hremaining, hoptions⟩ := doOpen_begins hopened hclosing nowMs
  have hnot : (step m (.doOpen nowMs)).state ≠ .closing := by simp [hstate]
  have hfirst : actions m (.doOpen nowMs) = retry (step m (.doOpen nowMs)) := by
    unfold actions retry awaited
    rw [if_neg hnot]
    exact congrArg (fun outcome : Outcome => emitted outcome.2) hopen
  have hexpires := expires (by rw [hstate]; rfl) hdue
  have hlength := hexpires.ended_iff.mp (Or.inl hstopped)
  have hfits : Fits (step m (.doOpen nowMs)) ↔ Fits m := fits_of_options hoptions
  show (packetsIn .configureRequest (actions m (.doOpen nowMs) ++ actionsOf (step m (.doOpen nowMs)) (polls times))).length = _
  rw [packetsIn_append, List.length_append, hexpires.actions, length_packetsIn_retries, hfirst,
    length_packetsIn_retry hnot, hlength, hremaining]
  simp only [hfits]
  split_ifs
  · omega
  · simp

end Ends

/-! ### Requests that are too long -/

/-- The call returns that its packet is too large, and the timer and the counter go on as if it had been sent. -/
structure RefusedRequest (m : Machine) (nowMs retries : ℕ) (outcome : Outcome) : Prop where
  result : outcome.2 = .error (.packetTooLarge (.dataTooLong m.localOptions.length))
  deadline : outcome.1.restartDeadlineMs = some (saturatingAdd nowMs m.settings.restartIntervalMs)
  remaining : outcome.1.restartRemaining = retries - 1
  options : outcome.1.localOptions = m.localOptions

section TooLong

variable {m : Machine} {nowMs : ℕ}

lemma encodeRequest_of_not_fits (hfits : ¬ Fits m) :
    m.encodeRequest = .error (.packetTooLarge (.dataTooLong m.localOptions.length)) := if_neg hfits

/-- An open reports a request that does not fit. -/
lemma doOpen_refused (hfits : ¬ Fits m) (hopened : m.state ≠ .opened) (hclosing : m.state ≠ .closing) :
    RefusedRequest m nowMs m.settings.maxConfigure (m.doOpen nowMs) := by
  obtain ⟨hopen, -, hdeadline, hremaining, hoptions⟩ := doOpen_begins hopened hclosing nowMs
  refine ⟨?_, hdeadline, hremaining, hoptions⟩
  rw [hopen]
  dsimp only
  rw [encodeRequest_of_not_fits (mt (fits_of_options hoptions).mp hfits), hoptions]
  rfl

/-- A retry reports a request that does not fit. -/
lemma pollTimeout_refused (hfits : ¬ Fits m) (htimed : Timed m) (hclosing : m.state ≠ .closing)
    (hremaining : m.restartRemaining ≠ 0) (hdue : Due m (.pollTimeout nowMs)) :
    RefusedRequest m nowMs m.restartRemaining (m.pollTimeout nowMs) := by
  obtain ⟨_, deadline, heq, hdeadline, hle⟩ := hdue
  cases heq
  have hwaits : waits m.state = true := by
    rw [← htimed, hdeadline]
    rfl
  have hnegotiating : ¬ (m.state ≠ .requestSent ∧ m.state ≠ .ackReceived ∧ m.state ≠ .ackSent) := by
    cases hstate : m.state <;> simp_all [waits]
  have hrequest (m' : Machine) (hoptions : m'.localOptions = m.localOptions) :
      sending [] m'.encodeRequest = .error (.packetTooLarge (.dataTooLong m.localOptions.length)) := by
    rw [encodeRequest_of_not_fits (mt (fits_of_options hoptions).mp hfits), hoptions]
    rfl
  unfold pollTimeout
  rw [hdeadline]
  dsimp only
  rw [if_neg (Nat.not_lt.mpr hle), if_neg hclosing, if_neg hnegotiating, if_neg hremaining]
  exact ⟨hrequest _ rfl, rfl, rfl, rfl⟩

end TooLong

/-- **The restart timer runs in every reachable machine** exactly while it waits for an answer; the wait ends by due
polls alone, one after the last retry; an open sends the Configure-Request as often as it is allowed to, if it fits a
packet; and if it does not fit, the open and each retry return an error instead, while the timer goes on. -/
theorem timer_runs {localOptions : List UInt8} {settings : Settings} {new : Machine}
    (hnew : Machine.new localOptions settings = .ok new) (calls : List Call) :
    let m := Run.run step new calls
    (m.restartDeadlineMs.isSome = true ↔
      m.state = .requestSent ∨ m.state = .ackReceived ∨ m.state = .ackSent ∨ m.state = .closing) ∧
    (m.restartDeadlineMs.isSome = true → Ends m) ∧
    (m.state ≠ .opened → m.state ≠ .closing →
      OpenSends m (if Fits m then max 1 m.settings.maxConfigure else 0)) ∧
    (¬ Fits m → m.state ≠ .closing → ∀ nowMs,
      (m.state ≠ .opened → RefusedRequest m nowMs m.settings.maxConfigure (m.doOpen nowMs)) ∧
      (m.restartRemaining ≠ 0 → Due m (.pollTimeout nowMs) →
        RefusedRequest m nowMs m.restartRemaining (m.pollTimeout nowMs))) := by
  intro m
  have hsound : Sound m := sound_run (sound_new hnew) calls
  have hwaits : m.restartDeadlineMs.isSome = true ↔ waits m.state = true := by rw [hsound.timed]
  refine ⟨hwaits.trans ?_, fun harmed => ends hsound (hwaits.mp harmed), openSends, ?_⟩
  · cases m.state <;> simp [waits]
  · intro hfits hclosing nowMs
    exact ⟨fun hopened => doOpen_refused hfits hopened hclosing,
      fun hremaining hdue => pollTimeout_refused hfits hsound.timed hclosing hremaining hdue⟩

/-- The wait of a machine without local options that was opened ends. -/
theorem timer_runs_open : Ends (Run.run step ⟨.closed, ⟨3000, 1, 1⟩, [], 0, 0, 0, 0, none, none, none⟩ [.doOpen 0]) := by
  have hnew : Machine.new [] ⟨3000, 1, 1⟩ = .ok ⟨.closed, ⟨3000, 1, 1⟩, [], 0, 0, 0, 0, none, none, none⟩ := rfl
  exact (timer_runs hnew [.doOpen 0]).2.1 rfl

/-- 257 options of 255 octets, which no packet has room for. -/
def longItems : List ConfigurationOption :=
  List.replicate 257 ⟨1, List.replicate 253 0, by rw [List.length_replicate]; decide⟩

def longOptions : List UInt8 := longItems.flatMap Tlv.Item.encoded

lemma length_longOptions : longOptions.length = 65535 := by
  unfold longOptions longItems
  rw [List.length_flatMap, List.map_replicate, List.sum_replicate_nat, Tlv.length_encoded, List.length_replicate]

/-- A new machine with one try. -/
def newMachine (localOptions : List UInt8) : Machine := ⟨.closed, ⟨3000, 1, 1⟩, localOptions, 0, 0, 0, 0, none, none, none⟩

lemma fits_newMachine (localOptions : List UInt8) :
    Fits (newMachine localOptions) ↔ 4 + localOptions.length < 2 ^ 16 := Iff.rfl

/-- Every list of options is accepted. -/
lemma new_flatMap (items : List ConfigurationOption) :
    Machine.new (items.flatMap Tlv.Item.encoded) ⟨3000, 1, 1⟩ = .ok (newMachine (items.flatMap Tlv.Item.encoded)) := by
  unfold Machine.new
  rw [collectOptions_flatMap]
  rfl

/-- Opened and polled three seconds later, the machine stops. -/
lemma newMachine_stops (localOptions : List UInt8) :
    Run.Along step Due (step (newMachine localOptions) (.doOpen 0)) (polls [3000]) ∧
      (Run.run step (newMachine localOptions) (.doOpen 0 :: polls [3000])).state = .stopped :=
  ⟨⟨⟨3000, 3000, rfl, rfl, Nat.le_refl _⟩, trivial⟩, rfl⟩

/-- A machine whose options are too long for a packet is accepted, and opens without a Configure-Request. -/
theorem open_of_long_options_sends_nothing : ¬ ∀ localOptions settings m, Machine.new localOptions settings = .ok m →
    OpenSends m (max 1 settings.maxConfigure) := by
  intro h
  have hnew : Machine.new longOptions ⟨3000, 1, 1⟩ = .ok (newMachine longOptions) := new_flatMap longItems
  have hfits : ¬ Fits (newMachine longOptions) := by
    rw [fits_newMachine, length_longOptions]
    omega
  obtain ⟨hdue, hstopped⟩ := newMachine_stops longOptions
  have hopened : (newMachine longOptions).state ≠ .opened := by simp [newMachine]
  have hclosing : (newMachine longOptions).state ≠ .closing := by simp [newMachine]
  have hcount := openSends hopened hclosing 0 [3000] hdue hstopped
  rw [if_neg hfits] at hcount
  have hsends := h longOptions ⟨3000, 1, 1⟩ _ hnew 0 [3000] hdue hstopped
  rw [hcount] at hsends
  cases hsends

end SnesModem.Rust.RestartTimer
