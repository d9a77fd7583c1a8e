import SnesModem.Asm.ChapDisclosure

/-!
# The frames of the network layers pass a CHAP client that is not asked to authenticate

`pppChapPoll` releases every frame of another protocol unless its state is `OPENED`, the state of a client that is
not required to authenticate as well.

* `NoUnaskedChallenge`: no Challenge comes over a live link whose configuration has no CHAP;
* `Unasked`: without CHAP on a live link, the client is at rest or in `OPENED`;
* `networkFrame_kept`: as long as no such Challenge comes, the frames of IPCP and of IPv4 reach `pppIpcpPoll`.
-/

namespace SnesModem.Asm

open SnesModem.Lib SnesModem.Lib.Octets

/-! ### One poll -/

namespace ChapLayer

variable {s : ChapLayer} {flags : PeerFlags}

/-- The state of a client that is not required to authenticate. -/
lemma serviced_opened (hflags : flags.chapMd5 = false) (h : s.chap.state = .inactive ∨ s.chap.state = .opened) :
    (serviced flags s).chap.state = .opened ∧ (serviced flags s).receive = s.receive := by
  have hup : (pppChapLowerUp flags s.credentials s.chap).state = .opened := by
    unfold pppChapLowerUp
    rcases h with hinactive | hopened
    · rw [if_neg (by simp [hinactive])]
      dsimp only
      rw [if_pos (by simp [hflags])]
    · rw [if_pos (by simp [hopened])]
      exact hopened
  unfold serviced
  rw [build_passive (by rw [hup]; rfl)]
  exact ⟨hup, rfl⟩

/-- A packet that is no Challenge leaves the client in `OPENED`. -/
lemma dispatchFrame_opened (h : s.chap.state = .opened)
    (hrefused : s.dispatches = true → validChallenge s.receive.decoder = false) :
    (dispatchFrame s).chap.state = .opened := by
  unfold dispatchFrame
  by_cases hdispatches : s.dispatches = true
  · rw [if_pos hdispatches]
    have hnot : ¬ (s.chap.state.acceptsChallenge = true ∧ validChallenge s.receive.decoder = true) := by
      rintro ⟨-, hvalid⟩
      rw [hrefused hdispatches] at hvalid
      contradiction
    have hstate : (received s).chap.state = .opened := by
      rcases (receiveFrame_refused (c := s.credentials) hnot).1.state with hsame | ⟨hwaiting, -⟩
      · exact hsame.trans h
      · rw [hwaiting] at h
        contradiction
    have hbuild : build { received s with receive := pppReleaseFrame s.receive } =
        { received s with receive := pppReleaseFrame s.receive } := by
      apply build_passive
      simp [hstate, ChapState.authenticates]
    rw [hbuild]
    exact hstate
  · rw [if_neg hdispatches, if_neg fun hother => hother.2 h]
    exact h

/-- A client in `OPENED` leaves the frames of the other protocols to the layers above. -/
lemma dispatchFrame_keeps (h : s.chap.state = .opened) (hdispatches : s.dispatches = false) :
    dispatchFrame s = s := by
  unfold dispatchFrame
  rw [if_neg (by simp [hdispatches]), if_neg fun hother => hother.2 h]

end ChapLayer

open ChapLayer

section Poll

variable {connected : Bool} {l : Lcp} {s : ChapLayer}

/-- A poll without CHAP in the configuration. -/
lemma chapPoll_opened (hup : linkUp connected s.receive l.state = true) (hflags : l.peerFlags.chapMd5 = false)
    (h : s.chap.state = .inactive ∨ s.chap.state = .opened)
    (hrefused : s.dispatches = true → validChallenge s.receive.decoder = false) :
    (pppChapPoll connected l s).chap.state = .opened := by
  obtain ⟨hopened, hreceive⟩ := serviced_opened hflags h
  unfold pppChapPoll
  rw [if_pos hup]
  apply dispatchFrame_opened hopened
  intro hdispatches
  unfold ChapLayer.dispatches at hdispatches
  rw [hreceive] at hdispatches ⊢
  exact hrefused hdispatches

/-- A frame of another protocol outlives such a poll. -/
lemma chapPoll_keeps (hflags : l.peerFlags.chapMd5 = false)
    (h : linkUp connected s.receive l.state = true → s.chap.state = .inactive ∨ s.chap.state = .opened)
    (hdispatches : s.dispatches = false) : (pppChapPoll connected l s).receive = s.receive := by
  unfold pppChapPoll
  split
  · rename_i hup
    obtain ⟨hopened, hreceive⟩ := serviced_opened hflags (h hup)
    rw [dispatchFrame_keeps hopened (by unfold ChapLayer.dispatches; rw [hreceive]; exact hdispatches)]
    exact hreceive
  · unfold lowerDown
    split
    · rfl
    · rfl

end Poll

/-! ### Runs -/

/-- A Challenge that comes over a live link was agreed on. -/
def NoUnaskedChallenge (s : Stack) (i : Input) : Prop :=
  linkUp i.connected s.receive s.lcp.state = true → s.chapLayer.dispatches = true →
    validChallenge s.receive.decoder = true → s.lcp.peerFlags.chapMd5 = true

/-- What a step of a run must not do. -/
def Loop.ChallengeAgreed (l : Loop) (i : Input) : Prop :=
  (l.phase = .mailbox → i.command.LeavesNoChap) ∧ (l.phase = .chap → NoUnaskedChallenge l.stack i)

instance (s : Stack) (i : Input) : Decidable (NoUnaskedChallenge s i) := by unfold NoUnaskedChallenge; infer_instance

instance (l : Loop) (i : Input) : Decidable (l.ChallengeAgreed i) := by unfold Loop.ChallengeAgreed; infer_instance

/-- The completed frame is one of IPCP or of IPv4. -/
def Stack.holdsNetworkFrame (s : Stack) : Prop :=
  s.receive.frameReady = true ∧
    (s.receive.decoder.lastProtocol = protocolIpcp ∨ s.receive.decoder.lastProtocol = protocolIp)

/-- A CHAP poll without CHAP in the configuration hands a frame of IPCP or of IPv4 on to `pppIpcpPoll`, in the network
phase that it has found. -/
def KeepsNetworkFrame (l : Loop) (i : Input) : Prop :=
  l.phase = .chap → l.stack.lcp.peerFlags.chapMd5 = false → l.stack.holdsNetworkFrame →
    (step l i).phase = .ipcp ∧ (step l i).stack.receive = l.stack.receive ∧
      (step l i).stack.authenticated = l.stack.authenticated

/-- **The invariant**: that of the client that authenticates only where it was asked to, and without CHAP it has not
failed. -/
structure Unasked (l : Loop) : Prop where
  sound : ∃ request, Sound ⟨l, request⟩
  intact : l.stack.lcp.state = .opened → l.stack.lcp.peerFlags.chapMd5 = false → l.stack.chap.state ≠ .failed

section Step

variable {l : Loop} {i : Input}

lemma unasked_boot : Unasked Loop.boot := ⟨⟨none, sound_boot⟩, nofun⟩

/-- Without CHAP on a live link, the client is at rest or in `OPENED`. -/
lemma Unasked.resting (h : Unasked l) (hup : l.stack.lcp.state = .opened)
    (hflags : l.stack.lcp.peerFlags.chapMd5 = false) : l.stack.chap.state = .inactive ∨ l.stack.chap.state = .opened := by
  obtain ⟨request, hsound⟩ := h.sound
  have hidle : l.stack.chap.state.authenticates ≠ true := by
    intro hauthenticates
    have hchapMd5 : l.stack.lcp.peerFlags.chapMd5 = true := hsound.authenticating hup hauthenticates
    rw [hflags] at hchapMd5
    contradiction
  cases hstate : l.stack.chap.state with
  | inactive => exact Or.inl rfl
  | opened => exact Or.inr rfl
  | failed => exact absurd hstate (h.intact hup hflags)
  | waitingChallenge => simp [hstate, ChapState.authenticates] at hidle
  | responsePending => simp [hstate, ChapState.authenticates] at hidle
  | waitingResult => simp [hstate, ChapState.authenticates] at hidle

/-- A step that leaves the failed state as it is, in a configuration that is not new. -/
lemma intact_of_opened (h : Unasked l)
    (hopened : (step l i).stack.lcp.state = .opened → (step l i).stack.chap.state = .failed →
      l.stack.lcp.state = .opened ∧ (step l i).stack.lcp.peerFlags = l.stack.lcp.peerFlags ∧
        l.stack.chap.state = .failed)
    (hup : (step l i).stack.lcp.state = .opened) (hflags : (step l i).stack.lcp.peerFlags.chapMd5 = false) :
    (step l i).stack.chap.state ≠ .failed := by
  intro hfailed
  obtain ⟨hbefore, hsame, hfailed'⟩ := hopened hup hfailed
  exact h.intact hbefore (hsame ▸ hflags) hfailed'

lemma intact_mailbox (h : Unasked l) (hphase : l.phase = .mailbox) (hcommand : i.command.LeavesNoChap) :
    (step l i).stack.lcp.state = .opened → (step l i).stack.lcp.peerFlags.chapMd5 = false →
      (step l i).stack.chap.state ≠ .failed := by
  have hstack : (step l i).stack = modemMailboxPoll i.now (l.stack.found i) i.command := by
    rw [step_at hphase (by decide) i]
    rfl
  by_cases htest : ∃ left, i.command = .selfTest left
  · obtain ⟨left, hleft⟩ := htest
    rw [hleft] at hcommand hstack
    intro _ _ hfailed
    rw [hstack] at hfailed
    exact absurd (hcommand.1.symm.trans hfailed) (by simp)
  · have hcommanded := mailboxPoll_commanded i.now (l.stack.found i) fun left hleft => htest ⟨left, hleft⟩
    rw [← hstack] at hcommanded
    apply intact_of_opened h
    intro hopened hfailed
    obtain ⟨hbefore, hsame⟩ := hcommanded.opened hopened
    exact ⟨hbefore, hsame, hcommanded.chap.symm.trans hfailed⟩

lemma intact_lcp (h : Unasked l) (hphase : l.phase = .lcp) :
    (step l i).stack.lcp.state = .opened → (step l i).stack.lcp.peerFlags.chapMd5 = false →
      (step l i).stack.chap.state ≠ .failed := by
  have hstack : (step l i).stack =
      (l.stack.found i).withLcpLayer (pppLcpPoll i.connected i.now (l.stack.found i).lcpLayer) := by
    rw [step_at hphase (by decide) i]
    rfl
  obtain ⟨request, hsound⟩ := h.sound
  apply intact_of_opened h
  intro hopened hfailed
  rw [hstack] at hopened hfailed ⊢
  have hfailed' : l.stack.chap.state = .failed := hfailed
  -- The client that has failed is still attached to the configuration before.
  have hbefore := hsound.attached (by simp [hphase]) (by simp [hphase]) (by
    intro hinactive
    exact absurd (hfailed'.symm.trans hinactive) (by simp))
  obtain ⟨hopened', hsame⟩ := lcpPoll_opened _ _ (l.stack.found i).lcpLayer hbefore hopened
  exact ⟨hopened', hsame, hfailed'⟩

lemma step_chapLayer (hphase : l.phase = .chap) :
    (step l i).stack = (l.stack.found i).withChapLayer
      (pppChapPoll i.connected (l.stack.found i).lcp l.stack.chapLayer) := by
  rw [step_at hphase (by decide) i]
  rfl

lemma intact_chap (h : Unasked l) (hphase : l.phase = .chap) (hagreed : NoUnaskedChallenge l.stack i) :
    (step l i).stack.lcp.state = .opened → (step l i).stack.lcp.peerFlags.chapMd5 = false →
      (step l i).stack.chap.state ≠ .failed := by
  rw [step_chapLayer hphase]
  intro hopened hflags
  have hopened' : l.stack.lcp.state = .opened := hopened
  have hflags' : l.stack.lcp.peerFlags.chapMd5 = false := hflags
  change (pppChapPoll i.connected (l.stack.found i).lcp l.stack.chapLayer).chap.state ≠ .failed
  cases hup : linkUp i.connected l.stack.receive l.stack.lcp.state with
  | false =>
    rw [(chapPoll_down (l := (l.stack.found i).lcp) (s := l.stack.chapLayer) hup).1]
    simp
  | true =>
    rw [chapPoll_opened (l := (l.stack.found i).lcp) (s := l.stack.chapLayer) hup hflags' (h.resting hopened' hflags')]
    · simp
    · intro hdispatches
      rw [Bool.eq_false_iff]
      intro hvalid
      rw [hagreed hup hdispatches hvalid] at hflags'
      contradiction

lemma intact_other (h : Unasked l) (hmailbox : l.phase ≠ .mailbox) (hlcp : l.phase ≠ .lcp) (hchap : l.phase ≠ .chap) :
    (step l i).stack.lcp.state = .opened → (step l i).stack.lcp.peerFlags.chapMd5 = false →
      (step l i).stack.chap.state ≠ .failed := by
  apply intact_of_opened h
  obtain ⟨hstate, hflags, hkept⟩ := step_rest (i := i) hmailbox hlcp hchap
  intro hopened hfailed
  exact ⟨hstate.symm.trans hopened, hflags, hkept ▸ hfailed⟩

/-- **The step lemma.** -/
theorem unasked_step (l : Loop) (i : Input) (h : Unasked l) (hguard : l.ChallengeAgreed i) : Unasked (step l i) := by
  obtain ⟨request, hsound⟩ := h.sound
  constructor
  · refine ⟨(⟨l, request⟩ : Agreement).requested i, (sound_step ⟨l, request⟩ i hsound ⟨hguard.1, ?_⟩).1⟩
    intro hphase hup hdispatches hvalid
    exact Or.inl (hguard.2 hphase hup hdispatches hvalid)
  · by_cases hmailbox : l.phase = .mailbox
    · exact intact_mailbox h hmailbox (hguard.1 hmailbox)
    by_cases hlcp : l.phase = .lcp
    · exact intact_lcp h hlcp
    by_cases hchap : l.phase = .chap
    · exact intact_chap h hchap (hguard.2 hchap)
    · exact intact_other h hmailbox hlcp hchap

/-- Without CHAP, the result of the authentication is that of PAP. -/
lemma Stack.authenticated_of_chapMd5 {s : Stack} (h : s.lcp.peerFlags.chapMd5 = false) :
    s.authenticated = decide (s.pap.state = .opened) := by
  unfold Stack.authenticated pppAuthenticationReady
  rw [if_neg (by simp [h])]

lemma Unasked.keeps (h : Unasked l) (i : Input) : KeepsNetworkFrame l i := by
  intro hphase hflags hframe
  refine ⟨?_, ?_, ?_⟩
  · rw [step_at hphase (by decide) i]
    rfl
  · rw [step_chapLayer hphase]
    apply chapPoll_keeps (l := (l.stack.found i).lcp) (s := l.stack.chapLayer) hflags
    · intro hup
      exact h.resting (opened_of_linkUp hup) hflags
    · unfold ChapLayer.dispatches
      rcases hframe.2 with hprotocol | hprotocol
      · simp [Stack.chapLayer, hprotocol, protocolIpcp, protocolChap]
      · simp [Stack.chapLayer, hprotocol, protocolIp, protocolChap]
  · rw [step_chapLayer hphase, Stack.authenticated_of_chapMd5 hflags]
    exact Stack.authenticated_of_chapMd5 hflags

end Step

/-- **The frames of the network layers are kept**, in every run in which each Challenge was agreed on. -/
theorem networkFrame_kept (inputs : List Input) (i : Input)
    (hguard : Run.Along step Loop.ChallengeAgreed Loop.boot inputs) : KeepsNetworkFrame (Loop.after inputs) i :=
  Unasked.keeps (Run.run_invariant unasked_step unasked_boot hguard) i

/-- A run to `Opened` without authentication. -/
def openedUnasked : List Input :=
  requestAcknowledged ++
    turn { ring := [0x7e, 0xff, 0x7d, 0x23, 0xc0, 0x21, 0x7d, 0x21, 0x7d, 0x27, 0x7d, 0x20, 0x7d, 0x24, 0x7d, 0x28, 0x63,
      0x7e], room := 100 }

/-- The polls of a turn before that of CHAP, with an IPCP Configure-Request of the peer in the RX ring. -/
def ipcpReceived : List Input :=
  List.replicate 4 { ring := [0x7e, 0xff, 0x7d, 0x23, 0x80, 0x21, 0x7d, 0x21, 0x7d, 0x21, 0x7d, 0x20, 0x7d, 0x24, 0x7d,
    0x20, 0xb7, 0x7e] }

instance (s : Stack) : Decidable s.holdsNetworkFrame := by unfold Stack.holdsNetworkFrame; infer_instance

set_option maxRecDepth 100000 in
theorem networkFrame_kept_single :
    (Loop.after (openedUnasked ++ ipcpReceived)).stack.holdsNetworkFrame ∧
      (step (Loop.after (openedUnasked ++ ipcpReceived)) {}).stack.receive =
        (Loop.after (openedUnasked ++ ipcpReceived)).stack.receive := by
  have hframe : (Loop.after (openedUnasked ++ ipcpReceived)).stack.holdsNetworkFrame := by decide +kernel
  have hkept := networkFrame_kept (openedUnasked ++ ipcpReceived) {} (by decide +kernel)
  exact ⟨hframe, (hkept (by decide +kernel) (by decide +kernel) hframe).2.1⟩

/-- The Challenge of `challengeUnasked` is answered, and the turn after it receives the Configure-Request. -/
def ipcpReceivedLate : List Input := challengeUnasked ++ List.replicate 5 ({} : Input) ++ ipcpReceived

set_option maxRecDepth 100000 in
/-- **One Challenge closes the network layers**: after a Challenge that was not agreed on, the CHAP poll releases the
Configure-Request of IPCP, in a configuration without authentication and in the network phase. -/
theorem networkFrame_released :
    let l := Loop.after ipcpReceivedLate
    l.stack.lcp.peerFlags.pap = false ∧ l.stack.authenticated = true ∧ ¬ KeepsNetworkFrame l {} := by
  refine ⟨by decide +kernel, by decide +kernel, fun hkept => ?_⟩
  have hphase : (Loop.after ipcpReceivedLate).phase = .chap := by decide +kernel
  obtain ⟨-, hreceive, -⟩ := hkept hphase (by decide +kernel) (by decide +kernel)
  have hready := congrArg Receive.frameReady hreceive
  exact absurd hready (by decide +kernel)

end SnesModem.Asm
