import SnesModem.Asm.LcpSteps
import SnesModem.Asm.MainLoop

/-!
# LCP does not get stuck

A negotiation or a termination goes on by the restart timer, by the packet that is pending, or by the request that
was deferred behind it.

* `Progresses`: in each state that waits, one of these is there, and what is pending leads on;
* `Ticking`: where nothing is pending, it is the timer;
* `lcpPoll_progresses`: a poll keeps it; `canProgress_after`: so does every run of the main loop.
-/

namespace SnesModem.Asm

open SnesModem.Lib SnesModem.Lib.Cpu65816 SnesModem.Lib.Octets

/-- The states that wait for the peer. -/
def LcpState.waits : LcpState → Bool
  | .requestSent | .ackReceived | .ackSent | .closing => true
  | _ => false

/-- The restart timer is active, an action is pending, or a request is deferred. -/
def CanProgress (l : Lcp) : Prop :=
  l.state.waits = true → l.timerActive = true ∨ l.pendingAction ≠ .none ∨ l.deferredRequest = true

/-- The pending action arms the timer, ends the negotiation, or has the deferred request behind it. -/
def LeadsOn (l : Lcp) : Prop :=
  l.pendingAction = .configureRequest ∨ l.pendingAction = .terminateRequest ∨
    l.pendingAction = .terminateAck ∧ l.state ≠ .closing ∨ l.deferredRequest = true ∧ l.pendingAction.usesFrame = true

/-- A state that waits has the timer, or an action that leads on. -/
def Progresses (l : Lcp) : Prop := l.state.waits = true → l.timerActive = true ∨ LeadsOn l

/-- A state that waits has the timer. -/
def Ticking (l : Lcp) : Prop := l.state.waits = true → l.timerActive = true

/-- The state is the same, and the variables by which it goes on. -/
structure SameTimer (l l' : Lcp) : Prop where
  state : l'.state = l.state
  timerActive : l'.timerActive = l.timerActive
  pendingAction : l'.pendingAction = l.pendingAction
  deferredRequest : l'.deferredRequest = l.deferredRequest

section Basic

variable {l l' l'' : Lcp}

lemma SameTimer.refl (l : Lcp) : SameTimer l l := ⟨rfl, rfl, rfl, rfl⟩

lemma SameTimer.trans (h : SameTimer l l') (h' : SameTimer l' l'') : SameTimer l l'' :=
  ⟨h'.state.trans h.state, h'.timerActive.trans h.timerActive, h'.pendingAction.trans h.pendingAction,
    h'.deferredRequest.trans h.deferredRequest⟩

lemma SameTimer.progresses (h : SameTimer l l') (hl : Progresses l) : Progresses l' := by
  unfold Progresses LeadsOn
  rw [h.state, h.timerActive, h.pendingAction, h.deferredRequest]
  exact hl

lemma SameTimer.ticking (h : SameTimer l l') (hl : Ticking l) : Ticking l' := by
  unfold Ticking
  rw [h.state, h.timerActive]
  exact hl

lemma Ticking.progresses (h : Ticking l) : Progresses l := fun hwaits => Or.inl (h hwaits)

lemma progresses_of_rests (h : l.state.waits = false) : Progresses l := by
  intro hwaits
  rw [h] at hwaits
  cases hwaits

lemma progresses_of_configureRequest (h : l.pendingAction = .configureRequest) : Progresses l :=
  fun _ => Or.inr (Or.inl h)

lemma progresses_of_terminateRequest (h : l.pendingAction = .terminateRequest) : Progresses l :=
  fun _ => Or.inr (Or.inr (Or.inl h))

lemma Progresses.canProgress (h : Progresses l) : CanProgress l := by
  intro hwaits
  rcases h hwaits with htimer | hrequest | hterminate | ⟨hack, -⟩ | ⟨hdeferred, -⟩
  · exact Or.inl htimer
  · exact Or.inr (Or.inl (by simp [hrequest]))
  · exact Or.inr (Or.inl (by simp [hterminate]))
  · exact Or.inr (Or.inl (by simp [hack]))
  · exact Or.inr (Or.inr hdeferred)

end Basic

/-! ### Commands and the restart timer -/

section Commands

variable {l : Lcp} (now : UInt32)

lemma lcpOpen_progresses (h : Progresses l) : Progresses (pppLcpOpen now l) := by
  unfold pppLcpOpen
  dsimp only
  split_ifs
  · exact h
  · exact progresses_of_configureRequest rfl

lemma lcpClose_progresses (h : Progresses l) : Progresses (pppLcpClose l) := by
  unfold pppLcpClose
  dsimp only
  split_ifs
  · exact progresses_of_rests rfl
  · exact h
  · exact h
  · exact progresses_of_terminateRequest rfl

lemma pollTimeout_progresses (h : Progresses l) : Progresses (pppLcpPollTimeout now l) := by
  unfold pppLcpPollTimeout
  split
  · exact h
  · split
    · split_ifs
      · exact progresses_of_rests rfl
      · exact progresses_of_terminateRequest rfl
    · split_ifs <;> first | exact progresses_of_rests rfl | exact progresses_of_configureRequest rfl
    · split_ifs
      · exact progresses_of_rests rfl
      · exact progresses_of_configureRequest rfl
    · split_ifs <;> first | exact progresses_of_rests rfl | exact progresses_of_configureRequest rfl
    · refine progresses_of_rests ?_
      cases hstate : l.state <;> simp_all [LcpState.waits]

end Commands

/-! ### Received packets -/

section Packets

variable (d : Decoder) {l : Lcp}

lemma parseFrame_sameTimer (l : Lcp) : SameTimer l (pppLcpParseFrame d l).1 := by
  unfold pppLcpParseFrame parseOptions
  dsimp only
  split_ifs
  · exact ⟨rfl, rfl, rfl, rfl⟩
  · exact ⟨rfl, rfl, rfl, rfl⟩
  · exact ⟨rfl, rfl, rfl, rfl⟩
  · exact ⟨rfl, rfl, rfl, rfl⟩
  · split <;> exact ⟨rfl, rfl, rfl, rfl⟩
  · exact ⟨rfl, rfl, rfl, rfl⟩

lemma commitOption_sameTimer (buffer : Buffer) (l : Lcp) (y : UInt16) : SameTimer l (commitOption buffer l y) := by
  unfold commitOption
  dsimp only
  split
  · exact ⟨rfl, rfl, rfl, rfl⟩
  · exact ⟨rfl, rfl, rfl, rfl⟩
  · split <;> exact ⟨rfl, rfl, rfl, rfl⟩
  · exact ⟨rfl, rfl, rfl, rfl⟩
  · exact .refl l

lemma foldl_commitOption_sameTimer (buffer : Buffer) (offsets : List UInt16) (l : Lcp) :
    SameTimer l (offsets.foldl (commitOption buffer) l) := by
  induction offsets generalizing l with
  | nil => exact .refl l
  | cons y offsets ih => exact (commitOption_sameTimer buffer l y).trans (ih _)

lemma evaluatePeerRequest_sameTimer (buffer : Buffer) (l : Lcp) :
    SameTimer l (pppLcpEvaluatePeerRequest buffer l).2 := by
  unfold pppLcpEvaluatePeerRequest commitAcceptedConfiguration
  dsimp only
  split_ifs
  · exact ⟨rfl, rfl, rfl, rfl⟩
  · exact ⟨rfl, rfl, rfl, rfl⟩
  · obtain ⟨hstate, htimer, hpending, hdeferred⟩ := foldl_commitOption_sameTimer buffer
      (options buffer l.packetEnd) { l with
        optionRam := ((options buffer l.packetEnd).foldl (recordType buffer)
          (clearMaps l.optionRam, high l.packetEnd)).1
        peerFlags := ⟨false, false, false, false, false⟩
        peerMru := defaultMru
        peerAccm := 0xffffffff
        peerMagic := 0 }
    exact ⟨hstate, htimer, hpending, hdeferred⟩

lemma applyNegativeMagic_sameTimer {buffer : Buffer} {y : UInt16} {l' : Lcp}
    (h : applyNegativeMagic buffer l y = some l') : SameTimer l l' := by
  unfold applyNegativeMagic pppLcpAdvanceLocalMagic at h
  generalize nextMagic l.localMagic = magic at h
  split_ifs at h
  · obtain rfl := Option.some.inj h
    exact ⟨rfl, rfl, rfl, rfl⟩
  · obtain rfl := Option.some.inj h
    exact ⟨rfl, rfl, rfl, rfl⟩
  · obtain rfl := Option.some.inj h
    exact ⟨rfl, rfl, rfl, rfl⟩

lemma applyNegativeOptions_sameTimer (buffer : Buffer) (offsets : List UInt16) (hasNak : Bool) (l : Lcp) :
    SameTimer l (applyNegativeOptions buffer offsets hasNak l).1 :=
  applyNegativeOptions_related buffer l .refl .trans applyNegativeMagic_sameTimer offsets hasNak

lemma usesFrame_of_answersRequest {action : LcpAction} (h : action.answersRequest = true) : action.usesFrame = true := by
  cases action <;> first | rfl | cases h

/-- The answer to a request of an opened machine has the new request behind it. -/
lemma receiveConfigureRequest_progresses (h : Ticking l) (hopen : l.state ≠ .closed ∧ l.state ≠ .stopped) :
    Progresses (receiveConfigureRequest d l).1 := by
  have hsame := evaluatePeerRequest_sameTimer d.frameBuffer l
  have hanswers := evaluatePeerRequest_action d.frameBuffer l
  unfold receiveConfigureRequest
  split_ifs with hclosing
  · exact h.progresses
  · obtain ⟨hclosed, hstopped⟩ := hopen
    generalize pppLcpEvaluatePeerRequest d.frameBuffer l = evaluated at hsame hanswers
    obtain ⟨action, l'⟩ := evaluated
    have hstate : l'.state = l.state := hsame.state
    have huses := usesFrame_of_answersRequest hanswers
    by_cases hopened : l.state = .opened
    · dsimp only
      rw [if_pos (hstate.trans hopened)]
      exact fun _ => Or.inr (Or.inr (Or.inr (Or.inr ⟨rfl, huses⟩)))
    · have hwaits : l.state.waits = true := by
        cases hl : l.state <;> simp_all [LcpState.waits]
      have htimer : l'.timerActive = true := hsame.timerActive.trans (h hwaits)
      dsimp only
      rw [if_neg (by rwa [hstate])]
      split_ifs
      · exact progresses_of_rests rfl
      · exact fun _ => Or.inl htimer
      · exact fun _ => Or.inl htimer
      · exact fun _ => Or.inl htimer

lemma receiveConfigureAck_progresses (h : Ticking l) : Progresses (receiveConfigureAck d l).1 := by
  unfold receiveConfigureAck
  dsimp only
  split_ifs
  · exact h.progresses
  · exact h.progresses
  -- with a magic number in the request, and without one
  all_goals
    split
    · rename_i hstate
      exact fun _ => Or.inl (h (by rw [show l.state = _ from hstate]; rfl))
    · exact progresses_of_rests rfl
    · exact progresses_of_configureRequest rfl
    · exact progresses_of_configureRequest rfl
    · exact h.progresses

lemma receiveConfigureNegative_progresses (h : Ticking l) : Progresses (receiveConfigureNegative d l).1 := by
  have hsame := applyNegativeOptions_sameTimer d.frameBuffer (options d.frameBuffer l.packetEnd) false l
  unfold receiveConfigureNegative
  split_ifs
  · exact h.progresses
  · exact h.progresses
  · split
    · rename_i l' happly
      rw [happly] at hsame
      exact (SameTimer.ticking ⟨hsame.state, hsame.timerActive, hsame.pendingAction, hsame.deferredRequest⟩ h).progresses
    · exact progresses_of_configureRequest rfl

/-- The answer to a Terminate-Request ends the negotiation; a termination keeps its timer. -/
lemma receiveTerminateRequest_progresses (h : Ticking l) : Progresses (receiveTerminateRequest l).1 := by
  unfold receiveTerminateRequest
  dsimp only
  split_ifs with hclosing
  · exact fun hwaits => Or.inl (h hwaits)
  · exact fun _ => Or.inr (Or.inr (Or.inr (Or.inl ⟨rfl, hclosing⟩)))

/-- **A packet that is handled while nothing is pending.** -/
lemma receivePacket_progresses (h : Ticking l) : Progresses (receivePacket d l).1 := by
  unfold receivePacket
  split_ifs with hclosed
  · exact h.progresses
  · split
    · exact receiveConfigureRequest_progresses d h (not_or.mp hclosed)
    · exact receiveConfigureAck_progresses d h
    · exact receiveConfigureNegative_progresses d h
    · exact receiveConfigureNegative_progresses d h
    · exact receiveTerminateRequest_progresses h
    · unfold receiveTerminateAck
      split_ifs
      · exact h.progresses
      · exact h.progresses
      · exact progresses_of_rests rfl
    · exact h.progresses
    · exact h.progresses
    · unfold receiveEchoRequest
      split_ifs
      · exact h.progresses
      · exact h.progresses
      · exact h.progresses
      · exact fun hwaits => Or.inl (h hwaits)
    · unfold receiveMaintenance
      split_ifs <;> exact h.progresses
    · unfold receiveMaintenance
      split_ifs <;> exact h.progresses
    · exact fun hwaits => Or.inl (h hwaits)

lemma receiveFrame_progresses (h : Ticking l) : Progresses (pppLcpReceiveFrame d l).1 := by
  have hparse := (parseFrame_sameTimer d l).ticking h
  unfold pppLcpReceiveFrame
  generalize pppLcpParseFrame d l = parsed at hparse
  obtain ⟨l', dropped⟩ := parsed
  cases dropped with
  | true => exact hparse.progresses
  | false => exact receivePacket_progresses d hparse

end Packets

/-! ### The poll -/

namespace LcpLayer

variable (now : UInt32) {s : LcpLayer}

/-- What a packet that the encoder has taken leaves: nothing pending and the timer, unless the frame is given up. -/
structure Served (s' : LcpLayer) : Prop where
  progresses : Progresses s'.lcp
  ticking : s'.receive.frameReady = true → Ticking s'.lcp

/-- The packet is with the encoder, and what led on has led on. -/
lemma sent_served (s : LcpLayer) {l : Lcp} (transmit : Transmit) (h : Progresses l) :
    Served (sent l.pendingAction { s with lcp := afterBegin now (afterBuild l), transmit := transmit }) := by
  -- What the builders and the encoder leave of the variables.
  have hbegun : (afterBegin now (afterBuild l)).state = l.state ∧
      (afterBegin now (afterBuild l)).deferredRequest = l.deferredRequest ∧
      (afterBegin now (afterBuild l)).timerActive =
        (l.timerActive || decide (l.pendingAction = .configureRequest ∨ l.pendingAction = .terminateRequest)) := by
    unfold afterBegin afterBuild pppLcpArmRestartTimer
    cases haction : l.pendingAction <;> simp [haction]
  obtain ⟨hstate, hdeferred, htimer⟩ := hbegun
  unfold sent
  dsimp only
  split_ifs with huses hdefers hack hclosing
  · exact ⟨progresses_of_configureRequest rfl, fun hready => by cases hready⟩
  · refine ⟨fun hwaits => Or.inl ?_, fun hready => by cases hready⟩
    have hdeferred' : l.deferredRequest = false := by
      rw [← hdeferred]
      exact Bool.eq_false_iff.mpr hdefers
    rcases h (by rw [← hstate]; exact hwaits) with hticking | hleads
    · exact htimer.trans (by rw [hticking]; rfl)
    · rcases hleads with hrequest | hterminate | ⟨hack, -⟩ | ⟨hdefers', -⟩
      · rw [hrequest] at huses
        cases huses
      · rw [hterminate] at huses
        cases huses
      · rw [hack] at huses
        cases huses
      · rw [hdeferred'] at hdefers'
        cases hdefers'
  · refine ⟨fun hwaits => Or.inl ?_, fun hready => by cases hready⟩
    have hclosing' : l.state = .closing := hstate.symm.trans hclosing
    rcases h (by rw [← hstate]; exact hwaits) with hticking | hleads
    · exact htimer.trans (by rw [hticking]; rfl)
    · rcases hleads with hrequest | hterminate | ⟨-, hnot⟩ | ⟨-, huses'⟩
      · rw [hrequest] at hack
        cases hack
      · rw [hterminate] at hack
        cases hack
      · exact absurd hclosing' hnot
      · exact absurd huses' huses
  · exact ⟨progresses_of_rests rfl, fun hready => by cases hready⟩
  · have hticking : Ticking (afterBegin now (afterBuild l)) := by
      intro hwaits
      rw [htimer]
      rcases h (by rw [← hstate]; exact hwaits) with hticking | hleads
      · rw [hticking]
        rfl
      · rcases hleads with hrequest | hterminate | ⟨hack', -⟩ | ⟨-, huses'⟩
        · simp [hrequest]
        · simp [hterminate]
        · exact absurd hack' hack
        · exact absurd huses' huses
    exact ⟨hticking.progresses, fun _ => hticking⟩

lemma afterBuild_sameTimer (l : Lcp) : SameTimer l (afterBuild l) := by
  unfold afterBuild
  split_ifs
  · exact ⟨rfl, rfl, rfl, rfl⟩
  · exact .refl l

/-- **The service of the pending action**, with its carry. -/
lemma servicePending_served (h : Progresses s.lcp) :
    Progresses (servicePending now s).1.lcp ∧
      ((servicePending now s).2 = false → Served (servicePending now s).1) := by
  unfold servicePending
  split_ifs with hnone
  · refine ⟨h, fun _ => ⟨h, fun _ hwaits => ?_⟩⟩
    rcases h hwaits with hticking | hrequest | hterminate | ⟨hack, -⟩ | ⟨-, huses⟩
    · exact hticking
    · simp [hnone] at hrequest
    · simp [hnone] at hterminate
    · simp [hnone] at hack
    · rw [hnone] at huses
      cases huses
  · unfold pppLcpBuildPending
    split_ifs
    · exact ⟨h, fun hcarry => by cases hcarry⟩
    · cases buildAction s.receive.decoder s.lcp s.transmit.buffer with
      | none => exact ⟨h, fun hcarry => by cases hcarry⟩
      | some built =>
        obtain ⟨buffer, length⟩ := built
        dsimp only
        cases hbegin : pppTransmitBegin { s.transmit with buffer := buffer } length with
        | mk transmit refused =>
          cases refused with
          | true => exact ⟨(afterBuild_sameTimer s.lcp).progresses h, fun hcarry => by cases hcarry⟩
          | false =>
            have hserved := sent_served now s transmit h
            exact ⟨hserved.progresses, fun _ => hserved⟩

lemma timer_progresses (h : Progresses s.lcp) : Progresses (timer now s).lcp :=
  (servicePending_served now (pollTimeout_progresses now h)).1

lemma serviceThenTimer_progresses (h : Progresses s.lcp) : Progresses (serviceThenTimer now s).lcp := by
  have hserviced := (servicePending_served now h).1
  unfold serviceThenTimer
  generalize servicePending now s = serviced at hserviced
  obtain ⟨s', carry⟩ := serviced
  cases carry with
  | true => exact hserviced
  | false => exact timer_progresses now hserviced

lemma receiveLcp_progresses (h : Ticking s.lcp) : Progresses (receiveLcp now s).lcp := by
  have hreceived := receiveFrame_progresses s.receive.decoder h
  unfold receiveLcp
  generalize pppLcpReceiveFrame s.receive.decoder s.lcp = received at hreceived
  obtain ⟨l, carry⟩ := received
  dsimp only
  split_ifs
  · exact serviceThenTimer_progresses now hreceived
  · exact timer_progresses now (servicePending_served now hreceived).1

/-- **The completed frame** is dispatched while nothing is pending. -/
lemma dispatchFrame_progresses (h : Ticking s.lcp) : Progresses (dispatchFrame now s).lcp := by
  unfold dispatchFrame
  dsimp only
  split_ifs
  · exact receiveLcp_progresses now h
  · exact timer_progresses now h.progresses
  · exact timer_progresses now h.progresses
  · exact serviceThenTimer_progresses now fun hwaits => Or.inl (h hwaits)

lemma serviceExistingPending_progresses (h : Progresses s.lcp) : Progresses (serviceExistingPending now s).lcp := by
  obtain ⟨hserviced, hserved⟩ := servicePending_served now h
  unfold serviceExistingPending
  generalize servicePending now s = serviced at hserviced hserved
  obtain ⟨s', carry⟩ := serviced
  cases carry with
  | true => exact hserviced
  | false =>
    dsimp only
    split_ifs with hready
    · exact dispatchFrame_progresses now ((hserved rfl).ticking hready)
    · exact timer_progresses now hserviced

lemma closeIfIdle_progresses (h : Progresses s.lcp) : Progresses (closeIfIdle s).lcp := by
  unfold closeIfIdle
  split_ifs
  · exact lcpClose_progresses h
  · exact h

end LcpLayer

open LcpLayer in
/-- **A poll** keeps LCP going. -/
theorem lcpPoll_progresses (connected : Bool) (now : UInt32) {s : LcpLayer} (h : Progresses s.lcp) :
    Progresses (pppLcpPoll connected now s).lcp := by
  unfold pppLcpPoll
  split
  · unfold lowerUnavailable
    dsimp only
    split_ifs
    · exact h
    · exact progresses_of_rests rfl
  · split
    · split
      · exact serviceExistingPending_progresses now (lcpOpen_progresses now h)
      · exact h
    · exact h
    · exact serviceExistingPending_progresses now (closeIfIdle_progresses h)

/-! ### The main loop -/

/-- A self-test ends with LCP closed, as `pppRunSelfTest` does. -/
def Command.LeavesClosed : Command → Prop
  | .selfTest left => left.lcp.state = .closed
  | _ => True

lemma upload_progresses {s : Stack} (h : Progresses s.lcp) (credentials : Credentials) (copies : Bool)
    (o : Overrun) : Progresses (s.upload credentials copies o).lcp := by
  unfold Stack.upload
  split_ifs <;> exact h

lemma mailboxPoll_progresses (now : UInt32) {s : Stack} {command : Command} (hcommand : command.LeavesClosed)
    (h : Progresses s.lcp) : Progresses (modemMailboxPoll now s command).lcp := by
  cases command with
  | other | receiveStart | receiveStop | credentialsClear => exact h
  | pppOpen => exact lcpOpen_progresses now h
  | pppClose => exact lcpClose_progresses h
  | peerIdSet arguments b overrun => exact upload_progresses h _ _ overrun
  | passwordSet arguments b overrun => exact upload_progresses h _ _ overrun
  | selfTest left =>
    refine progresses_of_rests ?_
    show left.lcp.state.waits = false
    rw [show left.lcp.state = .closed from hcommand]
    rfl

/-- **The step lemma**, by cases on the poll. -/
lemma pollLayer_progresses (phase : Phase) {s : Stack} {i : Input} (hcommand : i.command.LeavesClosed)
    (h : Progresses s.lcp) : Progresses (pollLayer phase s i).lcp := by
  cases phase with
  | mailbox => exact mailboxPoll_progresses i.now hcommand h
  | lcp => exact lcpPoll_progresses i.connected i.now h
  | receive | pap | chap | ipcp | ipv4 | request | transmit => exact h

lemma step_progresses (l : Loop) (i : Input) (h : Progresses l.stack.lcp) (hcommand : i.command.LeavesClosed) :
    Progresses (step l i).stack.lcp := by
  have hpolled := pollLayer_progresses l.phase (s := l.stack.found i) hcommand h
  unfold step
  dsimp only
  split_ifs <;> exact hpolled

/-- **LCP can always make progress**: in every state of every run of the main loop. -/
theorem canProgress_after (inputs : List Input) (hcommands : ∀ i ∈ inputs, i.command.LeavesClosed) :
    CanProgress (Loop.after inputs).stack.lcp := by
  have hguard (l : Loop) : Run.Along step (fun _ i => i.command.LeavesClosed) l inputs := by
    induction inputs generalizing l with
    | nil => trivial
    | cons i inputs ih =>
      exact ⟨hcommands i List.mem_cons_self, ih (fun i hi => hcommands i (List.mem_cons_of_mem _ hi)) _⟩
  exact (Run.run_invariant step_progresses (progresses_of_rests rfl) (hguard Loop.boot)).canProgress

/-- The peer has acknowledged the Configure-Request. -/
theorem canProgress_requestAcknowledged : CanProgress (Loop.after requestAcknowledged).stack.lcp := by
  refine canProgress_after requestAcknowledged fun i hi => ?_
  rcases List.mem_append.mp hi with hi | hi
  · rw [List.eq_of_mem_replicate hi]
    trivial
  · rw [List.eq_of_mem_replicate hi]
    trivial

end SnesModem.Asm
