import SnesModem.Asm.ChapResponse
import SnesModem.Asm.LcpConfiguration

/-!
# Who gets a digest of the secret

A run of the main loop with the last Configure-Request that LCP has acknowledged.

* `AskedFor`: LCP is `Opened`, and that request asks for CHAP with MD5;
* `Sound`: the flag of CHAP is that of the request, and the CHAP client authenticates only where it is set;
* `response_asked_for`: as long as no Challenge comes that was not agreed on, each Response was asked for.
-/

namespace SnesModem.Asm

open SnesModem.Lib SnesModem.Lib.Octets

/-- The states of an authentication that goes on. -/
def ChapState.authenticates : ChapState → Bool
  | .waitingChallenge | .responsePending | .waitingResult => true
  | _ => false

/-! ### One poll -/

namespace ChapLayer

/-- A client that does not authenticate and is not asked to goes on so. -/
structure Passive (s s' : ChapLayer) : Prop where
  receive : s'.receive.decoder = s.receive.decoder
  transmit : s'.transmit = s.transmit
  state : s'.chap.state.authenticates = false
  failed : s'.chap.state ≠ .failed → s.chap.state ≠ .failed

variable {s : ChapLayer} {flags : PeerFlags}

lemma build_passive (h : s.chap.state.authenticates = false) : build s = s := by
  have hstate : s.chap.state ≠ .responsePending := by
    intro hpending
    rw [hpending] at h
    contradiction
  unfold build pppChapBuildPending
  rw [if_pos hstate]

lemma serviced_passive (hflags : flags.chapMd5 = false) (h : s.chap.state.authenticates = false) :
    Passive s (serviced flags s) ∧ (serviced flags s).dispatches = s.dispatches := by
  have hup : (pppChapLowerUp flags s.credentials s.chap).state.authenticates = false ∧
      ((pppChapLowerUp flags s.credentials s.chap).state ≠ .failed → s.chap.state ≠ .failed) := by
    unfold pppChapLowerUp
    split
    · exact ⟨h, id⟩
    · rename_i hinactive
      rw [not_not] at hinactive
      extract_lets chap
      rw [if_pos (by rw [hflags]; rfl)]
      exact ⟨rfl, fun _ hfailed => by rw [hinactive] at hfailed; contradiction⟩
  unfold serviced
  rw [build_passive hup.1]
  exact ⟨⟨rfl, rfl, hup.1, hup.2⟩, rfl⟩

/-- A packet that is no Challenge begins no authentication. -/
lemma dispatchFrame_passive (h : s.chap.state.authenticates = false)
    (hexpected : s.dispatches = true → s.chap.state ≠ .failed → validChallenge s.receive.decoder = false) :
    Passive s (dispatchFrame s) := by
  unfold dispatchFrame
  by_cases hdispatches : s.dispatches = true
  · rw [if_pos hdispatches]
    have hnot : ¬ (s.chap.state.acceptsChallenge = true ∧ validChallenge s.receive.decoder = true) := by
      rintro ⟨haccepts, hvalid⟩
      by_cases hfailed : s.chap.state = .failed
      · rw [hfailed] at haccepts
        contradiction
      · rw [hexpected hdispatches hfailed] at hvalid
        contradiction
    have hrefused := (receiveFrame_refused (c := s.credentials) hnot).1
    have hstate : (received s).chap.state = s.chap.state := by
      rcases hrefused.state with hsame | ⟨hwaiting, -⟩
      · exact hsame
      · rw [hwaiting] at h
        contradiction
    have hbuild : build { received s with receive := pppReleaseFrame s.receive } =
        { received s with receive := pppReleaseFrame s.receive } :=
      build_passive (by change (received s).chap.state.authenticates = false; rw [hstate]; exact h)
    rw [hbuild]
    refine ⟨rfl, rfl, ?_, fun hfailed => ?_⟩
    · change (received s).chap.state.authenticates = false
      rw [hstate]
      exact h
    · change (received s).chap.state ≠ .failed at hfailed
      rw [hstate] at hfailed
      exact hfailed
  · rw [if_neg hdispatches]
    split
    · exact ⟨rfl, rfl, h, id⟩
    · exact ⟨rfl, rfl, h, id⟩

end ChapLayer

open ChapLayer

section Poll

variable {connected : Bool} {l : Lcp} {s : ChapLayer}

/-- **A poll of a client that is not asked to authenticate.** -/
theorem chapPoll_passive (hup : linkUp connected s.receive l.state = true) (hflags : l.peerFlags.chapMd5 = false)
    (h : s.chap.state.authenticates = false)
    (hexpected : s.dispatches = true → s.chap.state ≠ .failed → validChallenge s.receive.decoder = false) :
    (pppChapPoll connected l s).chap.state.authenticates = false ∧
      (pppChapPoll connected l s).transmit = s.transmit := by
  obtain ⟨hserviced, hdispatches⟩ := serviced_passive hflags h
  have hexpected' : (serviced l.peerFlags s).dispatches = true → (serviced l.peerFlags s).chap.state ≠ .failed →
      validChallenge (serviced l.peerFlags s).receive.decoder = false := by
    intro hdispatched hfailed
    rw [hserviced.receive]
    exact hexpected (hdispatches ▸ hdispatched) (hserviced.failed hfailed)
  have hdispatched := dispatchFrame_passive hserviced.state hexpected'
  unfold pppChapPoll
  rw [if_pos hup]
  exact ⟨hdispatched.state, hdispatched.transmit.trans hserviced.transmit⟩

end Poll

/-! ### Runs -/

/-- A state of the main loop, with the last Configure-Request of the peer, if it was acknowledged. -/
structure Agreement where
  loop : Loop
  request : Option Decoder

namespace Agreement

def boot : Agreement := ⟨Loop.boot, none⟩

/-- The request after a poll. -/
def requested (s : Agreement) (i : Input) : Option Decoder :=
  if s.loop.phase = .lcp then
    match LcpLayer.evaluatedRequest i.connected i.now (s.loop.stack.found i).lcpLayer with
    | none => s.request
    | some (d, .configureAck) => some d
    | some _ => none
  else s.request

def step (s : Agreement) (i : Input) : Agreement := ⟨Asm.step s.loop i, s.requested i⟩

def lcp (s : Agreement) : Lcp := s.loop.stack.lcp

def chap (s : Agreement) : Chap := s.loop.stack.chap

end Agreement

/-- LCP is `Opened` with CHAP, for which the acknowledged request has asked. -/
structure AskedFor (s : Agreement) : Prop where
  opened : s.lcp.state = .opened
  chapMd5 : s.lcp.peerFlags.chapMd5 = true
  request : ∃ d, s.request = some d ∧ requestsChap d

/-- A Challenge that comes over a live link was agreed on, or meets a client that has failed. -/
def ChallengeExpected (s : Stack) (i : Input) : Prop :=
  linkUp i.connected s.receive s.lcp.state = true → s.chapLayer.dispatches = true →
    validChallenge s.receive.decoder = true → s.lcp.peerFlags.chapMd5 = true ∨ s.chap.state = .failed

/-- The self-test leaves the CHAP client at rest, and no configuration with CHAP. -/
def Command.LeavesNoChap : Command → Prop
  | .selfTest left => left.chap.state = .inactive ∧ left.lcp.peerFlags.chapMd5 = false
  | _ => True

/-- What a step of a run must not do. -/
def Agreement.Guard (s : Agreement) (i : Input) : Prop :=
  (s.loop.phase = .mailbox → i.command.LeavesNoChap) ∧ (s.loop.phase = .chap → ChallengeExpected s.loop.stack i)

instance (s : Stack) (i : Input) : Decidable (ChallengeExpected s i) := by unfold ChallengeExpected; infer_instance

instance : (command : Command) → Decidable command.LeavesNoChap
  | .selfTest _ => inferInstanceAs (Decidable (_ ∧ _))
  | .other | .receiveStart | .receiveStop | .pppOpen | .pppClose | .credentialsClear | .peerIdSet _ _ _
  | .passwordSet _ _ _ => isTrue trivial

instance (s : Agreement) (i : Input) : Decidable (s.Guard i) := by unfold Agreement.Guard; infer_instance

/-- **The invariant.**  Between the polls of LCP and CHAP the client may not know yet that LCP has left `Opened`. -/
structure Sound (s : Agreement) : Prop where
  agreed : Agreed s.lcp → ∃ d, s.request = some d ∧ requestsChap d
  attached : s.loop.phase ≠ .pap → s.loop.phase ≠ .chap → s.chap.state ≠ .inactive →
    s.lcp.state = .opened ∨ s.lcp.state = .closing
  authenticating : s.lcp.state = .opened → s.chap.state.authenticates = true → s.lcp.peerFlags.chapMd5 = true

section Step

variable {s : Agreement} {i : Input}

lemma sound_boot : Sound Agreement.boot where
  agreed := fun h => by
    obtain ⟨-, hchap⟩ := h
    contradiction
  attached := fun _ _ h => absurd rfl h
  authenticating := nofun

/-- A step that leaves LCP and CHAP alone, in a phase that is not followed by that of PAP or CHAP. -/
lemma sound_of_same (h : Sound s) (hlcp : (s.step i).lcp.state = s.lcp.state)
    (hflags : (s.step i).lcp.peerFlags = s.lcp.peerFlags) (hchap : (s.step i).chap = s.chap)
    (hrequest : (s.step i).request = s.request)
    (hphase : (s.step i).loop.phase ≠ .pap → (s.step i).loop.phase ≠ .chap →
      s.loop.phase ≠ .pap ∧ s.loop.phase ≠ .chap) : Sound (s.step i) where
  agreed := by
    intro hagreed
    rw [hrequest]
    exact h.agreed ((Settles.of_same hlcp hflags).agreed hagreed)
  attached := by
    intro hpap hchapPhase hactive
    obtain ⟨hpap', hchap'⟩ := hphase hpap hchapPhase
    rw [hlcp]
    exact h.attached hpap' hchap' (hchap ▸ hactive)
  authenticating := by
    intro hopened hauthenticates
    rw [hflags]
    exact h.authenticating (hlcp ▸ hopened) (hchap ▸ hauthenticates)

lemma requested_of_phase (hphase : s.loop.phase ≠ .lcp) : (s.step i).request = s.request := if_neg hphase

lemma step_phase : (s.step i).loop.phase = s.loop.phase.next := by
  change (Asm.step s.loop i).phase = _
  unfold Asm.step
  dsimp only
  split
  · rfl
  · rfl

/-! ### The commands -/

/-- What a command other than the self-test does with LCP and with CHAP. -/
structure Commanded (s s' : Stack) : Prop where
  agreed : Agreed s'.lcp → Agreed s.lcp
  opened : s'.lcp.state = .opened → s.lcp.state = .opened ∧ s'.lcp.peerFlags = s.lcp.peerFlags
  attached : s.lcp.state = .opened ∨ s.lcp.state = .closing → s'.lcp.state = .opened ∨ s'.lcp.state = .closing
  chap : s'.chap.state = s.chap.state

lemma Commanded.of_same {s s' : Stack} (hstate : s'.lcp.state = s.lcp.state)
    (hflags : s'.lcp.peerFlags = s.lcp.peerFlags) (hchap : s'.chap.state = s.chap.state) : Commanded s s' where
  agreed := (Settles.of_same hstate hflags).agreed
  opened := (Settles.of_same hstate hflags).opened
  attached := fun h => hstate ▸ h
  chap := hchap

lemma upload_commanded (s : Stack) (credentials : Credentials) (copies : Bool) (o : Overrun) :
    Commanded s (s.upload credentials copies o) := by
  unfold Stack.upload
  split
  · exact .of_same rfl rfl rfl
  · exact .of_same rfl rfl rfl

lemma lcpOpen_commanded (now : UInt32) (s : Stack) : Commanded s { s with lcp := pppLcpOpen now s.lcp } := by
  unfold pppLcpOpen
  dsimp only
  split
  · exact .of_same rfl rfl rfl
  · rename_i hclosed
    push Not at hclosed
    refine ⟨fun h => by simp [Agreed] at h, nofun, fun h => ?_, rfl⟩
    rcases h with h | h
    · exact absurd h hclosed.1
    · exact absurd h hclosed.2

lemma lcpClose_commanded (s : Stack) : Commanded s { s with lcp := pppLcpClose s.lcp } := by
  have hsettles := lcpClose_settles s.lcp
  refine ⟨hsettles.agreed, hsettles.opened, fun h => ?_, rfl⟩
  change (pppLcpClose s.lcp).state = .opened ∨ (pppLcpClose s.lcp).state = .closing
  unfold pppLcpClose
  dsimp only
  split
  · rename_i hended
    rcases h with h | h
    · rw [h] at hended
      simp at hended
    · rw [h] at hended
      simp at hended
  split
  · exact h
  split
  · exact h
  · exact Or.inr rfl

lemma mailboxPoll_commanded (now : UInt32) (s : Stack) {command : Command} (h : ∀ left, command ≠ .selfTest left) :
    Commanded s (modemMailboxPoll now s command) := by
  cases command with
  | selfTest left => exact absurd rfl (h left)
  | peerIdSet arguments b overrun => exact upload_commanded s _ _ overrun
  | passwordSet arguments b overrun => exact upload_commanded s _ _ overrun
  | pppOpen => exact lcpOpen_commanded now s
  | pppClose => exact lcpClose_commanded s
  | other => exact .of_same rfl rfl rfl
  | receiveStart => exact .of_same rfl rfl rfl
  | receiveStop => exact .of_same rfl rfl rfl
  | credentialsClear => exact .of_same rfl rfl rfl

/-! ### The step lemma -/

lemma step_stack {phase : Phase} (hphase : s.loop.phase = phase) (hne : phase ≠ .transmit) :
    (s.step i).loop.stack = pollLayer phase (s.loop.stack.found i) i :=
  congrArg Loop.stack (step_at hphase hne i)

lemma sound_mailbox (h : Sound s) (hphase : s.loop.phase = .mailbox) (hcommand : i.command.LeavesNoChap) :
    Sound (s.step i) := by
  have hstack : (s.step i).loop.stack = modemMailboxPoll i.now (s.loop.stack.found i) i.command := by
    rw [step_stack hphase (by decide)]
    rfl
  have hrequest : (s.step i).request = s.request := requested_of_phase (by rw [hphase]; decide)
  by_cases htest : ∃ left, i.command = .selfTest left
  · obtain ⟨left, hleft⟩ := htest
    rw [hleft] at hcommand hstack
    obtain ⟨hinactive, hflags⟩ := hcommand
    have hchap : (s.step i).chap.state = .inactive := by
      unfold Agreement.chap
      rw [hstack]
      exact hinactive
    have hlcp : (s.step i).lcp.peerFlags.chapMd5 = false := by
      unfold Agreement.lcp
      rw [hstack]
      exact hflags
    refine ⟨fun hagreed => ?_, fun _ _ hactive => absurd hchap hactive, fun _ hauthenticates => ?_⟩
    · rw [hagreed.2] at hlcp
      contradiction
    · rw [hchap] at hauthenticates
      contradiction
  · have hcommanded := mailboxPoll_commanded i.now (s.loop.stack.found i) fun left hleft => htest ⟨left, hleft⟩
    rw [← hstack] at hcommanded
    constructor
    · intro hagreed
      rw [hrequest]
      exact h.agreed (hcommanded.agreed hagreed)
    · intro _ _ hactive
      refine hcommanded.attached (h.attached (by rw [hphase]; decide) (by rw [hphase]; decide) ?_)
      intro hinactive
      exact hactive (hcommanded.chap.trans hinactive)
    · intro hopened hauthenticates
      obtain ⟨hopened', hflags⟩ := hcommanded.opened hopened
      have hflags' : (s.step i).lcp.peerFlags = s.lcp.peerFlags := hflags
      rw [hflags']
      exact h.authenticating hopened' (hcommanded.chap ▸ hauthenticates)

lemma sound_lcp (h : Sound s) (hphase : s.loop.phase = .lcp) : Sound (s.step i) := by
  have hlcp : (s.step i).lcp = (pppLcpPoll i.connected i.now (s.loop.stack.found i).lcpLayer).lcp := by
    unfold Agreement.lcp
    rw [step_stack hphase (by decide)]
    rfl
  have hchap : (s.step i).chap = s.chap := by
    unfold Agreement.chap
    rw [step_stack hphase (by decide)]
    rfl
  have hnext : (s.step i).loop.phase = .pap := by
    rw [step_phase, hphase]
    rfl
  constructor
  · intro hagreed
    rw [hlcp] at hagreed
    have hby := lcpPoll_agreed _ _ _ hagreed
    change ∃ d, s.requested i = some d ∧ requestsChap d
    unfold Agreement.requested
    rw [if_pos hphase]
    cases hrequest : LcpLayer.evaluatedRequest i.connected i.now (s.loop.stack.found i).lcpLayer with
    | none =>
      rw [hrequest] at hby
      exact h.agreed hby
    | some request =>
      obtain ⟨d, action⟩ := request
      rw [hrequest] at hby
      obtain ⟨rfl, hasks⟩ := hby
      exact ⟨d, rfl, hasks⟩
  · intro hpap
    exact absurd hnext hpap
  · intro hopened hauthenticates
    rw [hchap] at hauthenticates
    have hactive : s.chap.state ≠ .inactive := by
      intro hinactive
      rw [hinactive] at hauthenticates
      contradiction
    have hbefore := h.attached (by rw [hphase]; decide) (by rw [hphase]; decide) hactive
    rw [hlcp] at hopened ⊢
    obtain ⟨hopened', hflags⟩ := lcpPoll_opened _ _ (s.loop.stack.found i).lcpLayer hbefore hopened
    rw [hflags]
    exact h.authenticating hopened' hauthenticates

lemma chapLayer_step (hphase : s.loop.phase = .chap) : (s.step i).loop.stack.chapLayer =
    pppChapPoll i.connected (s.loop.stack.found i).lcp s.loop.stack.chapLayer := by
  rw [step_stack hphase (by decide)]
  rfl

lemma sound_chap (h : Sound s) (hphase : s.loop.phase = .chap) (hexpected : ChallengeExpected s.loop.stack i) :
    Sound (s.step i) ∧ (handedResponse s.loop i ≠ none → AskedFor s) := by
  have hlayer := chapLayer_step (i := i) hphase
  have hchap : (s.step i).chap = (pppChapPoll i.connected (s.loop.stack.found i).lcp s.loop.stack.chapLayer).chap :=
    congrArg ChapLayer.chap hlayer
  have hstate : (s.step i).lcp.state = s.lcp.state := by
    unfold Agreement.lcp
    rw [step_stack hphase (by decide)]
    rfl
  have hflags : (s.step i).lcp.peerFlags = s.lcp.peerFlags := by
    unfold Agreement.lcp
    rw [step_stack hphase (by decide)]
    rfl
  have hrequest : (s.step i).request = s.request := requested_of_phase (by rw [hphase]; decide)
  have hagreed : Agreed (s.step i).lcp → ∃ d, (s.step i).request = some d ∧ requestsChap d := by
    intro hagreed
    rw [hrequest]
    exact h.agreed ((Settles.of_same hstate hflags).agreed hagreed)
  have hhanded := handedResponse_eq (s := ⟨s.loop, none⟩) (i := i) hphase hlayer
  have hnone (htransmit : (pppChapPoll i.connected (s.loop.stack.found i).lcp s.loop.stack.chapLayer).transmit =
      s.loop.stack.transmit) : handedResponse s.loop i = none := by
    rw [show handedResponse s.loop i = _ from hhanded, htransmit]
    refine if_neg ?_
    rintro ⟨hidle, hactive⟩
    exact Bool.false_ne_true (hidle.symm.trans hactive)
  cases hup : linkUp i.connected s.loop.stack.receive s.loop.stack.lcp.state with
  | false =>
    obtain ⟨hinactive, htransmit⟩ := chapPoll_down (l := (s.loop.stack.found i).lcp) (s := s.loop.stack.chapLayer) hup
    rw [← hchap] at hinactive
    refine ⟨⟨hagreed, fun _ _ hactive => absurd hinactive hactive, fun _ hauthenticates => ?_⟩, fun hsome => ?_⟩
    · rw [hinactive] at hauthenticates
      contradiction
    · exact absurd (hnone htransmit) hsome
  | true =>
    have hopened : s.lcp.state = .opened := opened_of_linkUp hup
    cases hmd5 : s.lcp.peerFlags.chapMd5 with
    | true =>
      refine ⟨⟨hagreed, fun _ _ _ => Or.inl (hstate.trans hopened), fun _ _ => by rw [hflags, hmd5]⟩, fun _ => ?_⟩
      exact ⟨hopened, hmd5, h.agreed ⟨Or.inr hopened, hmd5⟩⟩
    | false =>
      have hpassive : s.chap.state.authenticates = false := by
        rw [Bool.eq_false_iff]
        intro hauthenticates
        rw [h.authenticating hopened hauthenticates] at hmd5
        contradiction
      have hrefused : s.loop.stack.chapLayer.dispatches = true → s.chap.state ≠ .failed →
          validChallenge s.loop.stack.receive.decoder = false := by
        intro hdispatches hfailed
        rw [Bool.eq_false_iff]
        intro hvalid
        rcases hexpected hup hdispatches hvalid with hchapMd5 | hfailed'
        · rw [show s.lcp.peerFlags.chapMd5 = true from hchapMd5] at hmd5
          contradiction
        · exact hfailed hfailed'
      obtain ⟨hafter, htransmit⟩ := chapPoll_passive (l := (s.loop.stack.found i).lcp) (s := s.loop.stack.chapLayer)
        hup hmd5 hpassive hrefused
      rw [← hchap] at hafter
      refine ⟨⟨hagreed, fun _ _ _ => Or.inl (hstate.trans hopened), fun _ hauthenticates => ?_⟩, fun hsome => ?_⟩
      · rw [hafter] at hauthenticates
        contradiction
      · exact absurd (hnone htransmit) hsome

/-- The polls of the other layers leave LCP and CHAP alone. -/
lemma step_rest {l : Loop} {i : Input} (hmailbox : l.phase ≠ .mailbox) (hlcp : l.phase ≠ .lcp)
    (hchap : l.phase ≠ .chap) : (step l i).stack.lcp.state = l.stack.lcp.state ∧
      (step l i).stack.lcp.peerFlags = l.stack.lcp.peerFlags ∧ (step l i).stack.chap = l.stack.chap := by
  unfold step pollLayer
  cases hphase : l.phase with
  | mailbox => exact absurd hphase hmailbox
  | lcp => exact absurd hphase hlcp
  | chap => exact absurd hphase hchap
  | receive => exact ⟨rfl, rfl, rfl⟩
  | pap => exact ⟨rfl, rfl, rfl⟩
  | ipcp => exact ⟨rfl, rfl, rfl⟩
  | ipv4 => exact ⟨rfl, rfl, rfl⟩
  | request => exact ⟨rfl, rfl, rfl⟩
  | transmit => exact ⟨rfl, rfl, rfl⟩

lemma sound_other (h : Sound s) (hmailbox : s.loop.phase ≠ .mailbox) (hlcp : s.loop.phase ≠ .lcp)
    (hchap : s.loop.phase ≠ .chap) : Sound (s.step i) := by
  obtain ⟨hstate, hflags, hkept⟩ := step_rest (i := i) hmailbox hlcp hchap
  refine sound_of_same h hstate hflags hkept (requested_of_phase hlcp) fun _ hnext => ⟨?_, hchap⟩
  intro hpap
  rw [step_phase, hpap] at hnext
  exact hnext rfl

/-- **The step lemma.** -/
theorem sound_step (s : Agreement) (i : Input) (h : Sound s) (hguard : s.Guard i) :
    Sound (s.step i) ∧ (handedResponse s.loop i ≠ none → AskedFor s) := by
  by_cases hchap : s.loop.phase = .chap
  · exact sound_chap h hchap (hguard.2 hchap)
  refine ⟨?_, fun hsome => absurd (if_neg fun hphase => hchap hphase.1) hsome⟩
  by_cases hmailbox : s.loop.phase = .mailbox
  · exact sound_mailbox h hmailbox (hguard.1 hmailbox)
  by_cases hlcp : s.loop.phase = .lcp
  · exact sound_lcp h hlcp
  · exact sound_other h hmailbox hlcp hchap

end Step

/-- **Each Response was asked for**, in every run in which no Challenge comes that was not agreed on. -/
theorem response_asked_for (inputs : List Input) (i : Input)
    (hguard : Run.Along Agreement.step Agreement.Guard .boot (inputs ++ [i]))
    (hhanded : handedResponse (Run.run Agreement.step .boot inputs).loop i ≠ none) :
    AskedFor (Run.run Agreement.step .boot inputs) := by
  obtain ⟨hbefore, hlast, -⟩ := Run.along_append.mp hguard
  have hsound : Sound (Run.run Agreement.step .boot inputs) :=
    Run.run_invariant (fun s i h hguard => (sound_step s i h hguard).1) sound_boot hbefore
  exact (sound_step _ i hsound hlast).2 hhanded

set_option maxRecDepth 100000 in
theorem response_asked_for_single :
    AskedFor (Run.run Agreement.step .boot (challengeReceived ++ responseHanded)) :=
  response_asked_for (challengeReceived ++ responseHanded) {} (by decide +kernel) (by decide +kernel)

/-- A run to `Opened` without authentication, and a Challenge with identifier 1. -/
def challengeUnasked : List Input :=
  requestAcknowledged ++
    turn { ring := [0x7e, 0xff, 0x7d, 0x23, 0xc0, 0x21, 0x7d, 0x21, 0x7d, 0x27, 0x7d, 0x20, 0x7d, 0x24, 0x7d, 0x28, 0x63,
      0x7e], room := 100 } ++
    List.replicate 4 { ring := [0x7e, 0xff, 0x7d, 0x23, 0xc2, 0x23, 0x7d, 0x21, 0x7d, 0x21, 0x7d, 0x20, 0x7d, 0x26, 0x7d,
      0x21, 0x61, 0xb9, 0x49, 0x7e] }

set_option maxRecDepth 100000 in
/-- **A Challenge gets a digest of the secret from a client that was not asked to authenticate**: the configuration
has neither CHAP nor PAP, and the poll hands the Response over. -/
theorem response_unasked :
    let s := Run.run Agreement.step .boot challengeUnasked
    s.lcp.state = .opened ∧ s.lcp.peerFlags.pap = false ∧ ¬ AskedFor s ∧
      ∃ peerId password, s.loop.stack.credentials.peerId = some peerId ∧
        s.loop.stack.credentials.password = some password ∧
        handedResponse s.loop {} = some (responseFrame 1 (responseValue 1 password [0x61]) peerId) := by
  refine ⟨by decide +kernel, by decide +kernel, fun hasked => ?_, ?_⟩
  · exact absurd hasked.chapMd5 (by decide +kernel)
  · exact ⟨⟨[0x6e, 0x64, 0x6d, 0x32, 0x34], by decide, by decide⟩,
      ⟨[0x6e, 0x64, 0x6d, 0x32, 0x34, 0x2d, 0x74, 0x65, 0x73, 0x74], by decide, by decide⟩, by decide +kernel,
      by decide +kernel, by decide +kernel⟩

end SnesModem.Asm
