import SnesModem.Asm.ChapSteps

/-!
# The Response belongs to one Challenge

A run of the main loop with the last Challenge that the client has accepted.

* `Session.accepted`: that Challenge;
* `answeredChallenge`: the Challenge that a Response is due for when a poll hands one over;
* `response_of_one_challenge`: as long as no packet with another identifier is parsed while a Response waits for
  the encoder, each Response is that of its Challenge.
-/

namespace SnesModem.Asm

open SnesModem.Lib SnesModem.Lib.Octets

/-! ### One poll -/

namespace ChapLayer

/-- The poll accepts the completed frame as a Challenge. -/
def accepts (s : ChapLayer) : Bool :=
  s.dispatches && s.chap.state.acceptsChallenge && validChallenge s.receive.decoder

/-- A pending Response is that of the Challenge `due`. -/
def Due (due : Option Challenge) (h : Chap) : Prop :=
  h.state = .responsePending → ∃ challenge, due = some challenge ∧ Stored challenge h

/-- The encoder keeps what it has, and a Response that waits for its result keeps its identifier. -/
structure Quiet (s s' : ChapLayer) : Prop where
  transmit : s'.transmit = s.transmit
  waiting : s'.chap.state = .waitingResult →
    s.chap.state = .waitingResult ∧ s'.chap.responseIdentifier = s.chap.responseIdentifier

/-- The encoder was given the Response to the Challenge, whose identifier is the one that a result has to
have. -/
structure Answers (challenge : Challenge) (s s' : ChapLayer) : Prop where
  idle : s.transmit.active = false
  active : s'.transmit.active = true
  frame : ∃ peerId password, s.credentials.peerId = some peerId ∧ s.credentials.password = some password ∧
    s'.transmit.frame = responseFrame challenge.identifier
      (responseValue challenge.identifier password challenge.value) peerId
  identifier : s'.chap.state = .waitingResult → s'.chap.responseIdentifier = challenge.identifier

variable {s s' s'' : ChapLayer} {due : Option Challenge} {challenge : Challenge} {flags : PeerFlags}

lemma Quiet.rfl : Quiet s s := ⟨Eq.refl _, fun h => ⟨h, Eq.refl _⟩⟩

lemma Quiet.trans (h : Quiet s s') (h' : Quiet s' s'') : Quiet s s'' where
  transmit := h'.transmit.trans h.transmit
  waiting := fun hstate =>
    have hlast := h'.waiting hstate
    have hfirst := h.waiting hlast.1
    ⟨hfirst.1, hlast.2.trans hfirst.2⟩

lemma Answers.of_quiet_left (h : Quiet s s') (hcredentials : s'.credentials = s.credentials)
    (h' : Answers challenge s' s'') : Answers challenge s s'' where
  idle := h.transmit ▸ h'.idle
  active := h'.active
  frame := hcredentials ▸ h'.frame
  identifier := h'.identifier

lemma Answers.of_quiet_right (h : Answers challenge s s') (h' : Quiet s' s'') : Answers challenge s s'' where
  idle := h.idle
  active := h'.transmit ▸ h.active
  frame := h'.transmit ▸ h.frame
  identifier := fun hstate =>
    have hlast := h'.waiting hstate
    hlast.2.trans (h.identifier hlast.1)

/-- `pppChapLowerUp` never leaves a Response pending, or waiting. -/
lemma lowerUp_cases (flags : PeerFlags) : pppChapLowerUp flags s.credentials s.chap = s.chap ∨
    (pppChapLowerUp flags s.credentials s.chap).state ≠ .responsePending ∧
      (pppChapLowerUp flags s.credentials s.chap).state ≠ .waitingResult ∧ s.chap.state = .inactive := by
  unfold pppChapLowerUp
  by_cases hstate : s.chap.state = .inactive
  · rw [if_neg (by simp [hstate])]
    right
    dsimp only
    split_ifs <;> exact ⟨by simp, by simp, hstate⟩
  · rw [if_pos hstate]
    exact Or.inl rfl

/-- **The build** hands the Response over that is due, or leaves the encoder alone. -/
lemma build_cases (hdue : Due due s.chap) :
    (build s).credentials = s.credentials ∧ (build s).receive = s.receive ∧
      ((∃ challenge, due = some challenge ∧ s.chap.state = .responsePending ∧ Answers challenge s (build s) ∧
          (build s).chap.state = .waitingResult) ∨
        Quiet s (build s) ∧
          (build s = s ∧ (s.chap.state = .responsePending → s.transmit.active = true) ∨
            (build s).chap.state = .failed ∧ s.chap.state = .responsePending)) := by
  have hbuild : build s = { s with
      chap := (pppChapBuildPending s.credentials s.chap s.transmit).1
      transmit := (pppChapBuildPending s.credentials s.chap s.transmit).2 } := rfl
  rw [hbuild]
  refine ⟨rfl, rfl, ?_⟩
  rcases chapBuildPending_cases (c := s.credentials) (h := s.chap) (t := s.transmit) with h | ⟨h, hbusy⟩ | ⟨ht, hf, hr, hp⟩
  · obtain ⟨challenge, hsome, hstored⟩ := hdue h.pending
    obtain ⟨peerId, password, hpeer, hpassword, hframe⟩ := h.frame
    refine Or.inl ⟨challenge, hsome, h.pending, ⟨h.idle, h.active, ?_, fun _ => ?_⟩, h.state⟩
    · refine ⟨peerId, password, hpeer, hpassword, ?_⟩
      rw [← hstored.identifier, ← hstored.value]
      exact hframe
    · exact h.identifier.trans hstored.identifier
  · rw [h]
    exact Or.inr ⟨.rfl, Or.inl ⟨rfl, hbusy⟩⟩
  · refine Or.inr ⟨⟨ht, fun hstate => ?_⟩, Or.inr ⟨hf, hp⟩⟩
    rw [show _ = ChapState.failed from hf] at hstate
    cases hstate

/-- **The first build of a poll.** -/
lemma serviced_cases (flags : PeerFlags) (hdue : Due due s.chap) :
    (∃ challenge, due = some challenge ∧ s.chap.state = .responsePending ∧ Answers challenge s (serviced flags s) ∧
        (serviced flags s).chap.state = .waitingResult) ∨
      Quiet s (serviced flags s) ∧
        (serviced flags s = s ∧ s.chap.state = .responsePending ∧ s.transmit.active = true ∨
          (serviced flags s).chap.state ≠ .responsePending ∧
            (s.chap.state = .responsePending → (serviced flags s).chap.state = .failed)) := by
  have hserviced : serviced flags s = build { s with chap := pppChapLowerUp flags s.credentials s.chap } := rfl
  rw [hserviced]
  rcases lowerUp_cases (s := s) flags with hup | ⟨hpending, hwaiting, hinactive⟩
  · rw [hup]
    obtain ⟨-, -, h | ⟨hquiet, ⟨hsame, hbusy⟩ | ⟨hfailed, -⟩⟩⟩ := build_cases hdue
    · exact Or.inl h
    · refine Or.inr ⟨hquiet, ?_⟩
      by_cases hstate : s.chap.state = .responsePending
      · exact Or.inl ⟨hsame, hstate, hbusy hstate⟩
      · refine Or.inr ⟨?_, fun hpending => absurd hpending hstate⟩
        change (build s).chap.state ≠ _
        rw [hsame]
        exact hstate
    · refine Or.inr ⟨hquiet, Or.inr ⟨?_, fun _ => hfailed⟩⟩
      change (build s).chap.state ≠ _
      rw [hfailed]
      simp
  · have hbuild : build { s with chap := pppChapLowerUp flags s.credentials s.chap } =
        { s with chap := pppChapLowerUp flags s.credentials s.chap } := by
      unfold build pppChapBuildPending
      rw [if_pos hpending]
    rw [hbuild]
    refine Or.inr ⟨⟨rfl, fun hstate => absurd hstate hwaiting⟩, Or.inr ⟨hpending, fun hstate => ?_⟩⟩
    rw [hinactive] at hstate
    cases hstate

lemma received_chap : (received s).chap = (pppChapReceiveFrame s.receive.decoder s.credentials s.chap).1 := rfl

/-- **A dispatched packet** becomes the Challenge that is due, or leaves the one that is. -/
lemma received_cases (due : Option Challenge) (hdispatches : s.dispatches = true) :
    Quiet s (received s) ∧
      (s.accepts = true ∧ (received s).credentials = s.credentials ∧
          Due (some (challengeOf s.receive.decoder)) (received s).chap ∨
        s.accepts = false ∧ ((received s).chap.state = .responsePending → s.chap.state = .responsePending ∧
          (parsedIdentifier s.receive.decoder = s.chap.lastIdentifier → Due due s.chap → Due due (received s).chap))) := by
  by_cases haccepts : s.chap.state.acceptsChallenge = true ∧ validChallenge s.receive.decoder = true
  · obtain ⟨hcredentials, hpending, -, hstored⟩ :=
      receiveFrame_accepted (c := s.credentials) haccepts.1 haccepts.2
    refine ⟨⟨rfl, fun hstate => ?_⟩, Or.inl ⟨?_, hcredentials, fun _ => ⟨_, rfl, hstored⟩⟩⟩
    · rw [received_chap, hpending] at hstate
      cases hstate
    · simp [accepts, hdispatches, haccepts]
  · obtain ⟨hrefused, hidentifier⟩ := receiveFrame_refused (c := s.credentials) haccepts
    refine ⟨⟨rfl, fun hstate => ?_⟩, Or.inr ⟨?_, fun hpending => ?_⟩⟩
    · rcases hrefused.state with hsame | ⟨-, hopened | hfailed⟩
      · exact ⟨hsame ▸ hstate, hrefused.responseIdentifier⟩
      · rw [received_chap, hopened] at hstate
        cases hstate
      · rw [received_chap, hfailed] at hstate
        cases hstate
    · simpa [accepts, hdispatches] using haccepts
    · have hstate : s.chap.state = .responsePending := by
        rcases hrefused.state with hsame | ⟨-, hopened | hfailed⟩
        · exact hsame ▸ hpending
        · rw [received_chap, hopened] at hpending
          cases hpending
        · rw [received_chap, hfailed] at hpending
          cases hpending
      refine ⟨hstate, fun hparsed hdue _ => ?_⟩
      obtain ⟨challenge, hsome, hstored⟩ := hdue hstate
      refine ⟨challenge, hsome, ?_, ?_⟩
      · exact (hidentifier.trans hparsed).trans hstored.identifier
      · rw [received_chap, hrefused.challenge, hrefused.challengeLength hstate]
        exact hstored.value

/-- **The second half of a poll**: what the completed frame does after the first build. -/
lemma dispatchFrame_cases (hdue : Due due s.chap)
    (hbusy : s.chap.state = .responsePending → s.transmit.active = true)
    (hkept : s.chap.state = .responsePending → s.dispatches = true →
      parsedIdentifier s.receive.decoder = s.chap.lastIdentifier) :
    Due (if s.accepts then some (challengeOf s.receive.decoder) else due) (dispatchFrame s).chap ∧
      (Quiet s (dispatchFrame s) ∨
        s.accepts = true ∧ Answers (challengeOf s.receive.decoder) s (dispatchFrame s)) := by
  unfold dispatchFrame
  by_cases hdispatches : s.dispatches = true
  · rw [if_pos hdispatches]
    obtain ⟨hquiet, ⟨haccepts, hcredentials, hstored⟩ | ⟨haccepts, hsame⟩⟩ := received_cases due hdispatches
    · have hdue' : Due (some (challengeOf s.receive.decoder))
          { received s with receive := pppReleaseFrame s.receive }.chap := hstored
      rw [if_pos haccepts]
      obtain ⟨-, -, ⟨challenge, hsome, -, hanswers, hwaiting⟩ | ⟨hbuilt, hstate⟩⟩ := build_cases hdue'
      · obtain rfl := Option.some_inj.mp hsome
        have hreceived : Quiet s { received s with receive := pppReleaseFrame s.receive } :=
          ⟨hquiet.transmit, hquiet.waiting⟩
        refine ⟨fun hpending => ?_, Or.inr ⟨haccepts, .of_quiet_left hreceived hcredentials hanswers⟩⟩
        rw [hwaiting] at hpending
        cases hpending
      · refine ⟨?_, Or.inl (hquiet.trans ⟨hbuilt.transmit, hbuilt.waiting⟩)⟩
        rcases hstate with ⟨hunchanged, -⟩ | ⟨hfailed, -⟩
        · rw [hunchanged]
          exact hdue'
        · intro hpending
          rw [hfailed] at hpending
          cases hpending
    · have hdue' : Due due { received s with receive := pppReleaseFrame s.receive }.chap := by
        intro hpending
        obtain ⟨hstate, hparsed⟩ := hsame hpending
        exact hparsed (hkept hstate hdispatches) hdue hpending
      rw [if_neg (by simp [haccepts])]
      obtain ⟨-, -, ⟨challenge, -, hpending, hanswers, -⟩ | ⟨hbuilt, hstate⟩⟩ := build_cases hdue'
      · -- A Response that was pending before the packet still finds the encoder busy.
        have hactive : s.transmit.active = true := hbusy (hsame hpending).1
        have hidle : s.transmit.active = false := hanswers.idle
        rw [hactive] at hidle
        cases hidle
      · refine ⟨?_, Or.inl (hquiet.trans ⟨hbuilt.transmit, hbuilt.waiting⟩)⟩
        rcases hstate with ⟨hunchanged, -⟩ | ⟨hfailed, -⟩
        · rw [hunchanged]
          exact hdue'
        · intro hpending
          rw [hfailed] at hpending
          cases hpending
  · have haccepts : s.accepts = false := by simp [accepts, hdispatches]
    rw [if_neg hdispatches, if_neg (by simp [haccepts])]
    split_ifs
    · exact ⟨hdue, Or.inl ⟨rfl, Quiet.rfl.waiting⟩⟩
    · exact ⟨hdue, Or.inl .rfl⟩

end ChapLayer

open ChapLayer

section Poll

variable {connected : Bool} {l : Lcp} {s : ChapLayer} {due : Option Challenge}

/-- **One poll on a live link.** -/
theorem chapPoll_up (hup : linkUp connected s.receive l.state = true) (hdue : Due due s.chap)
    (hkept : s.chap.state = .responsePending → s.transmit.active = true → s.dispatches = true →
      parsedIdentifier s.receive.decoder = s.chap.lastIdentifier) :
    Due (if (serviced l.peerFlags s).accepts then some (challengeOf s.receive.decoder) else due)
        (pppChapPoll connected l s).chap ∧
      (Quiet s (pppChapPoll connected l s) ∨
        ∃ challenge, Answers challenge s (pppChapPoll connected l s) ∧
          (s.chap.state = .responsePending ∧ due = some challenge ∨
            s.chap.state ≠ .responsePending ∧ (serviced l.peerFlags s).accepts = true ∧
              challenge = challengeOf s.receive.decoder)) := by
  unfold pppChapPoll
  rw [if_pos hup]
  rcases serviced_cases l.peerFlags hdue with
    ⟨challenge, hsome, hpending, hanswers, hwaiting⟩ | ⟨hquiet, ⟨hsame, hpending, hactive⟩ | ⟨hstate, hfailed⟩⟩
  · -- The Response was handed over; the packet finds no pending one.
    have hnot : (serviced l.peerFlags s).chap.state ≠ .responsePending := by simp [hwaiting]
    have hvacuous : Due due (serviced l.peerFlags s).chap := fun h => absurd h hnot
    obtain ⟨hdue', hquiet | ⟨-, hagain⟩⟩ :=
      dispatchFrame_cases hvacuous (fun h => absurd h hnot) fun h => absurd h hnot
    · exact ⟨hdue', Or.inr ⟨challenge, hanswers.of_quiet_right hquiet, Or.inl ⟨hpending, hsome⟩⟩⟩
    · have hidle := hagain.idle
      rw [hanswers.active] at hidle
      cases hidle
  · -- The encoder is busy.
    rw [hsame]
    obtain ⟨hdue', hquiet' | ⟨haccepts, -⟩⟩ :=
      dispatchFrame_cases hdue (fun _ => hactive) fun hstate => hkept hstate hactive
    · exact ⟨hdue', Or.inl hquiet'⟩
    · simp [accepts, hpending, ChapState.acceptsChallenge] at haccepts
  · have hvacuous : Due due (serviced l.peerFlags s).chap := fun h => absurd h hstate
    obtain ⟨hdue', hquiet' | ⟨haccepts, hanswers⟩⟩ :=
      dispatchFrame_cases hvacuous (fun h => absurd h hstate) fun h => absurd h hstate
    · exact ⟨hdue', Or.inl (hquiet.trans hquiet')⟩
    · refine ⟨hdue', Or.inr ⟨_, hanswers.of_quiet_left hquiet rfl, Or.inr ⟨fun hpending => ?_, haccepts, rfl⟩⟩⟩
      simp [accepts, hfailed hpending, ChapState.acceptsChallenge] at haccepts

/-- Without a live link the client has nothing to send. -/
lemma chapPoll_down (hdown : linkUp connected s.receive l.state = false) :
    (pppChapPoll connected l s).chap.state = .inactive ∧ (pppChapPoll connected l s).transmit = s.transmit := by
  unfold pppChapPoll
  rw [if_neg (by simp [hdown])]
  unfold lowerDown
  split_ifs with hstate
  · exact ⟨hstate, rfl⟩
  · exact ⟨rfl, rfl⟩

end Poll

/-! ### Runs -/

/-- The Challenge that a poll accepts. -/
def acceptedChallenge (l : Loop) (i : Input) : Option Challenge :=
  let s := l.stack
  if l.phase = .chap ∧ linkUp i.connected s.receive s.lcp.state ∧ (serviced s.lcp.peerFlags s.chapLayer).accepts then
    some (challengeOf s.receive.decoder)
  else none

/-- The frame that the CHAP poll gives to the encoder. -/
def handedResponse (l : Loop) (i : Input) : Option (List UInt8) :=
  let t := (step l i).stack.transmit
  if l.phase = .chap ∧ l.stack.transmit.active = false ∧ t.active then some t.frame else none

/-- A state of the main loop, with the last Challenge that was accepted. -/
structure Session where
  loop : Loop
  accepted : Option Challenge

namespace Session

def boot : Session := ⟨Loop.boot, none⟩

def step (s : Session) (i : Input) : Session := ⟨Asm.step s.loop i, (acceptedChallenge s.loop i).or s.accepted⟩

/-- The variables of the stack, before and after a step. -/
def chap (s : Session) : Chap := s.loop.stack.chap

/-- The pending Response is that of the last Challenge. -/
def Pending (s : Session) : Prop := Due s.accepted s.chap

end Session

/-- The Challenge whose Response a poll can hand over. -/
def answeredChallenge (s : Session) (i : Input) : Option Challenge :=
  if s.chap.state = .responsePending then s.accepted else acceptedChallenge s.loop i

/-- What a step does with Responses: the one it hands over has the identifier and the value of one Challenge, and
one that waits for its result keeps the identifier of that Challenge. -/
structure OneChallenge (s : Session) (i : Input) : Prop where
  handed : ∀ frame, handedResponse s.loop i = some frame →
    ∃ challenge peerId password, answeredChallenge s i = some challenge ∧
      s.loop.stack.credentials.peerId = some peerId ∧ s.loop.stack.credentials.password = some password ∧
      frame = responseFrame challenge.identifier
        (responseValue challenge.identifier password challenge.value) peerId ∧
      ((s.step i).chap.state = .waitingResult → (s.step i).chap.responseIdentifier = challenge.identifier)
  waiting : handedResponse s.loop i = none → (s.step i).chap.state = .waitingResult →
    s.chap.state = .waitingResult ∧ (s.step i).chap.responseIdentifier = s.chap.responseIdentifier

/-- No packet with an identifier of its own is parsed while a Response waits for the encoder. -/
def IdentifierKept (s : Stack) (i : Input) : Prop :=
  s.chap.state = .responsePending → s.transmit.active = true → linkUp i.connected s.receive s.lcp.state = true →
    s.chapLayer.dispatches = true → parsedIdentifier s.receive.decoder = s.chap.lastIdentifier

instance (s : Stack) (i : Input) : Decidable (IdentifierKept s i) := by unfold IdentifierKept; infer_instance

/-- An upload copies what it has validated while a Response is pending, and the self-test leaves none. -/
def Command.KeepsResponse (s : Stack) : Command → Prop
  | command@(.peerIdSet ..) | command@(.passwordSet ..) =>
    s.chap.state = .responsePending → copiesValidated s.credentials command = true
  | .selfTest left => left.chap.state ≠ .responsePending ∧ left.chap.state ≠ .waitingResult
  | _ => True

instance (s : Stack) (command : Command) : Decidable (command.KeepsResponse s) := by
  cases command <;> unfold Command.KeepsResponse <;> infer_instance

/-- What a step of a run must not do. -/
def Session.Guard (s : Session) (i : Input) : Prop :=
  (s.loop.phase = .mailbox → i.command.KeepsResponse s.loop.stack) ∧ (s.loop.phase = .chap → IdentifierKept s.loop.stack i)

instance (s : Session) (i : Input) : Decidable (s.Guard i) := by unfold Session.Guard; infer_instance

section Step

variable {s : Session} {i : Input}

/-- The variables of CHAP change in two polls only. -/
lemma chap_of_phase (hmailbox : s.loop.phase ≠ .mailbox) (hchap : s.loop.phase ≠ .chap) :
    (s.step i).chap = s.chap := by
  change (Asm.step s.loop i).stack.chap = s.loop.stack.chap
  unfold Asm.step pollLayer
  cases hphase : s.loop.phase with
  | mailbox => exact absurd hphase hmailbox
  | chap => exact absurd hphase hchap
  | receive => rfl
  | lcp => rfl
  | pap => rfl
  | ipcp => rfl
  | ipv4 => rfl
  | request => rfl
  | transmit => rfl

lemma accepted_of_phase (hchap : s.loop.phase ≠ .chap) : (s.step i).accepted = s.accepted := by
  have hnone : acceptedChallenge s.loop i = none := if_neg fun h => hchap h.1
  change (acceptedChallenge s.loop i).or s.accepted = s.accepted
  rw [hnone]
  rfl

lemma handed_of_phase (hchap : s.loop.phase ≠ .chap) : handedResponse s.loop i = none := if_neg fun h => hchap h.1

/-- What a command does with the variables of CHAP. -/
lemma mailboxPoll_chap (now : UInt32) {s : Stack} {command : Command} (hkeeps : command.KeepsResponse s) :
    (modemMailboxPoll now s command).chap = s.chap ∨
      s.chap.state ≠ .responsePending ∧ (modemMailboxPoll now s command).chap.state = s.chap.state ∧
        (modemMailboxPoll now s command).chap.responseIdentifier = s.chap.responseIdentifier ∨
      (modemMailboxPoll now s command).chap.state ≠ .responsePending ∧
        (modemMailboxPoll now s command).chap.state ≠ .waitingResult := by
  have hupload (credentials : Credentials) {copies : Bool} (o : Overrun)
      (hcopies : s.chap.state = .responsePending → copies = true) : (s.upload credentials copies o).chap = s.chap ∨
        s.chap.state ≠ .responsePending ∧ (s.upload credentials copies o).chap.state = s.chap.state ∧
          (s.upload credentials copies o).chap.responseIdentifier = s.chap.responseIdentifier := by
    unfold Stack.upload
    split_ifs with hsafe
    · exact Or.inl rfl
    · exact Or.inr ⟨fun hpending => hsafe (hcopies hpending), rfl, rfl⟩
  cases command with
  | peerIdSet arguments b overrun =>
    rcases hupload _ overrun hkeeps with h | h
    · exact Or.inl h
    · exact Or.inr (Or.inl h)
  | passwordSet arguments b overrun =>
    rcases hupload _ overrun hkeeps with h | h
    · exact Or.inl h
    · exact Or.inr (Or.inl h)
  | selfTest left => exact Or.inr (Or.inr hkeeps)
  | other => exact Or.inl rfl
  | receiveStart => exact Or.inl rfl
  | receiveStop => exact Or.inl rfl
  | pppOpen => exact Or.inl rfl
  | pppClose => exact Or.inl rfl
  | credentialsClear => exact Or.inl rfl

lemma step_chap_mailbox (hphase : s.loop.phase = .mailbox) :
    (s.step i).chap = (modemMailboxPoll i.now (s.loop.stack.found i) i.command).chap := by
  change (Asm.step s.loop i).stack.chap = _
  unfold Asm.step pollLayer
  rw [hphase]
  rfl

lemma step_chap_chap (hphase : s.loop.phase = .chap) : (s.step i).loop.stack.chapLayer =
    pppChapPoll i.connected (s.loop.stack.found i).lcp s.loop.stack.chapLayer := by
  change (Asm.step s.loop i).stack.chapLayer = _
  unfold Asm.step pollLayer
  rw [hphase]
  rfl

lemma pending_of_chap (hchap : (s.step i).chap = s.chap) (haccepted : (s.step i).accepted = s.accepted)
    (hpending : s.Pending) : (s.step i).Pending := by
  unfold Session.Pending
  rw [hchap, haccepted]
  exact hpending

/-- A step that hands no Response over. -/
lemma oneChallenge_of_none (hnone : handedResponse s.loop i = none)
    (hwaiting : (s.step i).chap.state = .waitingResult →
      s.chap.state = .waitingResult ∧ (s.step i).chap.responseIdentifier = s.chap.responseIdentifier) :
    OneChallenge s i where
  handed := fun frame hframe => by
    rw [hnone] at hframe
    cases hframe
  waiting := fun _ => hwaiting

/-- The CHAP poll hands over what the encoder takes. -/
lemma handedResponse_eq (hphase : s.loop.phase = .chap) {y : ChapLayer}
    (hpoll : (s.step i).loop.stack.chapLayer = y) : handedResponse s.loop i =
      if s.loop.stack.transmit.active = false ∧ y.transmit.active = true then some y.transmit.frame else none := by
  subst hpoll
  unfold handedResponse
  dsimp only
  by_cases hactive : s.loop.stack.transmit.active = false ∧ (s.step i).loop.stack.transmit.active = true
  · rw [if_pos ⟨hphase, hactive⟩]
    exact (if_pos hactive).symm
  · rw [if_neg fun h => hactive h.2]
    exact (if_neg hactive).symm

lemma session_chap (hphase : s.loop.phase = .chap) (hpending : s.Pending) (hkept : IdentifierKept s.loop.stack i) :
    (s.step i).Pending ∧ OneChallenge s i := by
  have hpoll := step_chap_chap (i := i) hphase
  have hchap : (s.step i).chap = (pppChapPoll i.connected (s.loop.stack.found i).lcp s.loop.stack.chapLayer).chap :=
    congrArg ChapLayer.chap hpoll
  have hhanded := handedResponse_eq hphase hpoll
  cases hup : linkUp i.connected s.loop.stack.receive s.loop.stack.lcp.state with
  | false =>
    obtain ⟨hinactive, htransmit⟩ := chapPoll_down (l := (s.loop.stack.found i).lcp) (s := s.loop.stack.chapLayer) hup
    rw [← hchap] at hinactive
    refine ⟨fun hstate => ?_, oneChallenge_of_none ?_ fun hstate => ?_⟩
    · rw [hinactive] at hstate
      cases hstate
    · rw [hhanded, htransmit]
      refine if_neg ?_
      rintro ⟨hidle, hactive⟩
      exact Bool.false_ne_true (hidle.symm.trans hactive)
    · rw [hinactive] at hstate
      cases hstate
  | true =>
    obtain ⟨hdue, hanswer⟩ := chapPoll_up (l := (s.loop.stack.found i).lcp) (s := s.loop.stack.chapLayer) hup hpending
      fun hstate hactive hdispatches => hkept hstate hactive hup hdispatches
    have haccepted : acceptedChallenge s.loop i =
        if (serviced (s.loop.stack.found i).lcp.peerFlags s.loop.stack.chapLayer).accepts then
          some (challengeOf s.loop.stack.receive.decoder) else none := by
      unfold acceptedChallenge
      dsimp only
      by_cases haccepts : (serviced (s.loop.stack.found i).lcp.peerFlags s.loop.stack.chapLayer).accepts = true
      · rw [if_pos haccepts]
        exact if_pos ⟨hphase, hup, haccepts⟩
      · rw [if_neg haccepts]
        exact if_neg fun h => haccepts h.2.2
    rw [← hchap] at hdue
    constructor
    · unfold Session.Pending
      have : (s.step i).accepted = (acceptedChallenge s.loop i).or s.accepted := rfl
      rw [this, haccepted]
      split_ifs at hdue ⊢ with haccepts
      · exact hdue
      · exact hdue
    · rcases hanswer with hquiet | ⟨challenge, hanswers, hwhich⟩
      · refine oneChallenge_of_none ?_ fun hstate => ?_
        · rw [hhanded, hquiet.transmit]
          refine if_neg ?_
          rintro ⟨hidle, hactive⟩
          exact Bool.false_ne_true (hidle.symm.trans hactive)
        · rw [hchap] at hstate ⊢
          exact hquiet.waiting hstate
      · have hsome := hhanded.trans (if_pos ⟨hanswers.idle, hanswers.active⟩)
        obtain ⟨peerId, password, hpeer, hpassword, hframe⟩ := hanswers.frame
        refine ⟨fun frame hhanded => ?_, fun hnone => ?_⟩
        · obtain rfl := Option.some_inj.mp (hsome.symm.trans hhanded)
          refine ⟨challenge, peerId, password, ?_, hpeer, hpassword, hframe, fun hstate => ?_⟩
          · unfold answeredChallenge
            rcases hwhich with ⟨hstate, hdue⟩ | ⟨hstate, haccepts, rfl⟩
            · exact (if_pos hstate).trans hdue
            · exact (if_neg hstate).trans (haccepted.trans (if_pos haccepts))
          · rw [hchap] at hstate ⊢
            exact hanswers.identifier hstate
        · rw [hsome] at hnone
          cases hnone

/-- **The step lemma**: the Challenge of a pending Response stays the last one accepted, and the step answers one
Challenge. -/
theorem session_step (hpending : s.Pending) (hguard : s.Guard i) : (s.step i).Pending ∧ OneChallenge s i := by
  by_cases hchap : s.loop.phase = .chap
  · exact session_chap hchap hpending (hguard.2 hchap)
  have haccepted := accepted_of_phase (i := i) hchap
  have hnone := handed_of_phase (i := i) hchap
  by_cases hmailbox : s.loop.phase = .mailbox
  · have hcases := mailboxPoll_chap (s := s.loop.stack.found i) i.now (hguard.1 hmailbox)
    rw [← step_chap_mailbox hmailbox] at hcases
    rcases hcases with hsame | ⟨hstate, hkept, hidentifier⟩ | ⟨hresponse, hresult⟩
    · refine ⟨pending_of_chap hsame haccepted hpending, oneChallenge_of_none hnone fun hstate => ?_⟩
      rw [hsame] at hstate ⊢
      exact ⟨hstate, rfl⟩
    · refine ⟨fun h => absurd (hkept.symm.trans h) hstate, oneChallenge_of_none hnone fun h => ?_⟩
      exact ⟨hkept.symm.trans h, hidentifier⟩
    · exact ⟨fun h => absurd h hresponse, oneChallenge_of_none hnone fun h => absurd h hresult⟩
  · have hsame := chap_of_phase (i := i) hmailbox hchap
    refine ⟨pending_of_chap hsame haccepted hpending, oneChallenge_of_none hnone fun hstate => ?_⟩
    rw [hsame] at hstate ⊢
    exact ⟨hstate, rfl⟩

end Step

/-- **Each Response is that of one Challenge**, in every run in which no packet with an identifier of its own is
parsed while a Response waits for the encoder. -/
theorem response_of_one_challenge (inputs : List Input) (i : Input)
    (hguard : Run.Along Session.step Session.Guard .boot (inputs ++ [i])) :
    OneChallenge (Run.run Session.step .boot inputs) i := by
  obtain ⟨hbefore, hlast, -⟩ := Run.along_append.mp hguard
  have hboot : Session.boot.Pending := fun hstate => by cases hstate
  have hpending : (Run.run Session.step .boot inputs).Pending :=
    Run.run_invariant (fun _ _ hpending hguard => (session_step hpending hguard).1) hboot hbefore
  exact (session_step hpending hlast).2

/-- The peer requires CHAP, with MD5, while the TX ring is full: the Configure-Ack stays in the encoder.  Then it
sends a Challenge with identifier 1. -/
def challengeReceived : List Input :=
  requestAcknowledged ++
    turn { ring := [0x7e, 0xff, 0x7d, 0x23, 0xc0, 0x21, 0x7d, 0x21, 0x7d, 0x27, 0x7d, 0x20, 0x7d, 0x29, 0x7d, 0x23, 0x7d,
      0x25, 0xc2, 0x23, 0x7d, 0x25, 0xee, 0x8e, 0x7e] } ++
    turn { ring := [0x7e, 0xff, 0x7d, 0x23, 0xc2, 0x23, 0x7d, 0x21, 0x7d, 0x21, 0x7d, 0x20, 0x7d, 0x26, 0x7d, 0x21, 0x61,
      0xb9, 0x49, 0x7e] }

/-- The Configure-Ack leaves the encoder, and the next CHAP poll hands the Response over. -/
def responseHanded : List Input := turn { room := 100 } ++ List.replicate 4 ({} : Input)

/-- A second Challenge, with identifier 2. -/
def secondChallenge : List Input :=
  turn { ring := [0x7e, 0xff, 0x7d, 0x23, 0xc2, 0x23, 0x7d, 0x21, 0x7d, 0x22, 0x7d, 0x20, 0x7d, 0x26, 0x7d, 0x21, 0x62,
    0xee, 0x66, 0x7e] }

set_option maxRecDepth 100000 in
theorem response_of_one_challenge_single :
    OneChallenge (Run.run Session.step .boot (challengeReceived ++ responseHanded)) {} :=
  response_of_one_challenge (challengeReceived ++ responseHanded) {} (by decide +kernel)

set_option maxRecDepth 100000 in
/-- The Response has the identifier of the second Challenge, which was not accepted. -/
theorem not_oneChallenge_second :
    ¬ OneChallenge (Run.run Session.step .boot (challengeReceived ++ secondChallenge ++ responseHanded)) {} := by
  intro h
  have hoctet : (handedResponse (Run.run Session.step .boot (challengeReceived ++ secondChallenge ++ responseHanded)).loop
      {}).map (·[5]?) = some (some 2) := by decide +kernel
  have hanswered : (answeredChallenge (Run.run Session.step .boot
      (challengeReceived ++ secondChallenge ++ responseHanded)) {}).map (·.identifier) = some 1 := by decide +kernel
  obtain ⟨frame, hframe, hsecond⟩ := Option.map_eq_some_iff.mp hoctet
  obtain ⟨challenge, peerId, password, hsome, -, -, rfl, -⟩ := h.handed frame hframe
  rw [hsome] at hanswered
  have hfirst : challenge.identifier = 1 := Option.some_inj.mp hanswered
  have hidentifier : challenge.identifier = 2 := Option.some_inj.mp hsecond
  rw [hfirst] at hidentifier
  exact absurd hidentifier (by decide)

end SnesModem.Asm
