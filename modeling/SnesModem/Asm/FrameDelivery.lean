import SnesModem.Asm.LayerSteps
import SnesModem.Asm.LcpConfiguration
import SnesModem.Asm.MainLoop
import SnesModem.Asm.TransmitRefinement

/-!
# An LCP frame reaches the TX ring whole

* `Gives`: what a layer does with the encoder, which it leaves alone while it is busy;
* `lcpPoll_gives` and its like: the polls of the layers, but for those that go down;
* `lcp_frame_whole`: as long as no IPCP goes down over it, an LCP frame that was given to the encoder reaches the TX
  ring whole.
-/

namespace SnesModem.Asm.FrameDelivery

open SnesModem.Lib SnesModem.Lib.Octets SnesModem.Rust SnesModem.Asm.TransmitRefinement

/-- A busy encoder is left alone, and an idle one is given a whole frame if it is busy afterwards. -/
structure Gives (t t' : Transmit) : Prop where
  busy : t.active = true → t' = t
  fresh : t.active = false → t'.active = true →
    TransmitRefinement.Sound t' ∧ remaining t' = Framing.encodeAsync t'.frame Framing.defaultAccm

section Gives

variable {t t' t'' : Transmit}

lemma Gives.refl (t : Transmit) : Gives t t where
  busy := fun _ => rfl
  fresh := fun hidle hactive => by
    rw [hidle] at hactive
    contradiction

lemma Gives.trans (h : Gives t t') (h' : Gives t' t'') : Gives t t'' where
  busy := fun hactive => by
    obtain rfl := h.busy hactive
    exact h'.busy hactive
  fresh := fun hidle hactive => by
    cases hbetween : t'.active with
    | false => exact h'.fresh hbetween hactive
    | true =>
      obtain rfl := h'.busy hbetween
      exact h.fresh hidle hbetween

/-- A packet in the buffer of an idle encoder, which takes it or not. -/
lemma Gives.begin (hidle : t.active = false) (buffer : Buffer) (length : UInt16) :
    Gives t (pppTransmitBegin { t with buffer := buffer } length).1 := by
  have hidle' : ({ t with buffer := buffer } : Transmit).active = false := hidle
  refine ⟨fun hactive => ?_, fun _ hactive => ?_⟩
  · rw [hidle] at hactive
    contradiction
  · by_cases hfits : length ≤ maximumTransmitFrameLength
    · obtain ⟨hsound, hremaining⟩ := begin_remaining hidle' hfits
      rw [transmitBegin_eq, if_pos ⟨hidle', hfits⟩] at hsound hremaining ⊢
      exact ⟨hsound, hremaining⟩
    · rw [transmitBegin_eq, if_neg fun h => hfits h.2] at hactive
      rw [show ({ t with buffer := buffer } : Transmit).active = t.active from rfl, hidle] at hactive
      contradiction

end Gives

/-! ### The layers that are up -/

section Lcp

variable (connected : Bool) (now : UInt32) (s : LcpLayer)

lemma lcpBuildPending_gives (d : Decoder) (l : Lcp) (t : Transmit) :
    Gives t (pppLcpBuildPending now d l t).2.1 := by
  unfold pppLcpBuildPending
  split
  · exact .refl t
  rename_i hidle
  rw [Bool.not_eq_true] at hidle
  split
  · exact .refl t
  · rename_i buffer length _
    have hbegin := Gives.begin hidle buffer length
    extract_lets l'
    split
    · rename_i t' heq
      rw [heq] at hbegin
      exact hbegin
    · rename_i t' heq
      rw [heq] at hbegin
      exact hbegin

lemma lcpSent_transmit (action : LcpAction) : (s.sent action).transmit = s.transmit := by
  unfold LcpLayer.sent
  split
  · extract_lets s'
    split
    · rfl
    · rfl
  split
  · extract_lets s'
    split
    · rfl
    · rfl
  · rfl

lemma lcpSteps_gives : LcpLayer.Steps now fun s s' => Gives s.transmit s'.transmit where
  refl _ := .refl _
  trans h h' := h.trans h'
  lcp _ _ := .refl _
  release _ := .refl _
  build s := lcpBuildPending_gives now s.receive.decoder s.lcp s.transmit

lemma closeIfIdle_transmit : s.closeIfIdle.transmit = s.transmit := by
  unfold LcpLayer.closeIfIdle
  split
  · rfl
  · rfl

/-- **The LCP poll on a live lower layer.** -/
theorem lcpPoll_gives (henabled : s.receive.enabled = true) : Gives s.transmit (pppLcpPoll true now s).transmit := by
  refine (lcpSteps_gives now).poll s true fun hdown => ?_
  rw [henabled] at hdown
  contradiction

end Lcp

section Pap

variable (connected : Bool) (now : UInt32)

lemma sendFrame_gives {t : Transmit} (hidle : t.active = false) (frame : List UInt8) :
    Gives t (sendFrame t frame).1 := Gives.begin hidle _ _

lemma papBuild_gives (s : PapLayer) : Gives s.transmit (s.build now).transmit := by
  change Gives s.transmit (pppPapBuildPending now s.credentials s.pap s.transmit).2
  unfold pppPapBuildPending
  split
  · exact .refl _
  split
  · split
    · exact .refl _
    · rename_i hidle
      rw [Bool.not_eq_true] at hidle
      rename_i peerId password _ _
      have hsent := sendFrame_gives hidle (authenticateRequest s.pap.nextIdentifier peerId password)
      split
      · rename_i t heq
        rw [heq] at hsent
        exact hsent
      · rename_i t heq
        rw [heq] at hsent
        exact hsent
  · exact .refl _

lemma papDispatchFrame_transmit (s : PapLayer) : s.dispatchFrame.transmit = s.transmit := by
  unfold PapLayer.dispatchFrame
  split
  · rfl
  split
  · rfl
  split
  · rfl
  · rfl

lemma papTimer_gives (s : PapLayer) : Gives s.transmit (s.timer now).transmit := by
  unfold PapLayer.timer
  generalize pppPapPollTimeout now s.credentials s.pap = polled
  obtain ⟨pap, credentials⟩ := polled
  exact papBuild_gives now { s with pap := pap, credentials := credentials }

/-- **The PAP poll**, whether the layer is up or goes down. -/
theorem papPoll_gives (l : Lcp) (s : PapLayer) : Gives s.transmit (pppPapPoll connected now l s).transmit := by
  unfold pppPapPoll
  split
  · have hserviced := papBuild_gives now { s with pap := pppPapLowerUp l.peerFlags s.credentials s.pap }
    have hdispatched := papDispatchFrame_transmit (PapLayer.serviced now l.peerFlags s)
    refine hserviced.trans ?_
    change Gives (PapLayer.serviced now l.peerFlags s).transmit _
    rw [← hdispatched]
    exact papTimer_gives now _
  · unfold PapLayer.lowerDown
    split
    · exact .refl _
    · exact .refl _

end Pap

section Chap

variable (connected : Bool)

lemma chapBuild_gives (s : ChapLayer) : Gives s.transmit s.build.transmit := by
  change Gives s.transmit (pppChapBuildPending s.credentials s.chap s.transmit).2
  unfold pppChapBuildPending
  split
  · exact .refl _
  split
  · exact .refl _
  rename_i hidle
  rw [Bool.not_eq_true] at hidle
  split
  · rename_i peerId password _ _
    extract_lets digest
    have hsent := sendFrame_gives hidle (responseFrame s.chap.lastIdentifier digest peerId)
    split
    · rename_i t heq
      rw [heq] at hsent
      exact hsent
    · rename_i t heq
      rw [heq] at hsent
      exact hsent
  · exact .refl _

lemma chapDispatchFrame_gives (s : ChapLayer) : Gives s.transmit s.dispatchFrame.transmit := by
  unfold ChapLayer.dispatchFrame
  split
  · exact chapBuild_gives { s.received with receive := pppReleaseFrame s.receive }
  split
  · exact .refl _
  · exact .refl _

/-- **The CHAP poll**, whether the layer is up or goes down. -/
theorem chapPoll_gives (l : Lcp) (s : ChapLayer) : Gives s.transmit (pppChapPoll connected l s).transmit := by
  unfold pppChapPoll
  split
  · have hserviced := chapBuild_gives { s with chap := pppChapLowerUp l.peerFlags s.credentials s.chap }
    exact hserviced.trans (chapDispatchFrame_gives (ChapLayer.serviced l.peerFlags s))
  · unfold ChapLayer.lowerDown
    split
    · exact .refl _
    · exact .refl _

end Chap

section Ipcp

variable (now : UInt32) (s : IpcpLayer)

lemma ipcpBuildPending_gives (buffer ram : Buffer) (p : Ipcp) (t : Transmit) :
    Gives t (pppIpcpBuildPending now buffer ram p t).2.1 := by
  unfold pppIpcpBuildPending
  split
  · exact .refl t
  rename_i hidle
  rw [Bool.not_eq_true] at hidle
  split
  · exact .refl t
  · rename_i output length _
    have hbegin := Gives.begin hidle output length
    split
    · rename_i t' heq
      rw [heq] at hbegin
      exact hbegin
    · rename_i t' heq
      rw [heq] at hbegin
      exact hbegin

lemma ipcpSent_transmit (action : IpcpAction) : (s.sent action).transmit = s.transmit := by
  unfold IpcpLayer.sent
  split
  · extract_lets s'
    split
    · rfl
    · rfl
  · rfl

lemma ipcpSteps_gives : IpcpLayer.Steps now fun s s' => Gives s.transmit s'.transmit where
  refl _ := .refl _
  trans h h' := h.trans h'
  ipcp _ _ _ := .refl _
  release _ := .refl _
  build s := ipcpBuildPending_gives now s.receive.decoder.frameBuffer s.ram s.ipcp s.transmit

/-- **The IPCP poll** of a layer that does not go down. -/
theorem ipcpPoll_gives (connected : Bool) (state : LcpState) (authenticated : Bool)
    (hup : (linkUp connected s.receive state && authenticated) = true ∨ s.ipcp.state = .closed) :
    Gives s.transmit (pppIpcpPoll connected now state authenticated s).transmit := by
  refine (ipcpSteps_gives now).poll s connected state authenticated fun hdown => ?_
  unfold IpcpLayer.lowerDown
  rw [if_pos (hup.resolve_left hdown)]
  exact .refl _

/-- The IPCP poll of a layer that goes down. -/
lemma ipcpPoll_down (connected : Bool) (state : LcpState) (authenticated : Bool)
    (hdown : ¬ ((linkUp connected s.receive state && authenticated) = true ∨ s.ipcp.state = .closed)) :
    (pppIpcpPoll connected now state authenticated s).transmit =
      if s.receive.enabled = true ∧ connected = true ∧ IpcpLayer.terminateAck s.transmit.buffer = true then s.transmit
      else pppTransmitAbort s.transmit := by
  push Not at hdown
  unfold pppIpcpPoll IpcpLayer.lowerDown
  rw [if_neg hdown.1, if_neg hdown.2]
  exact apply_ite IpcpLayer.transmit _ _ _

end Ipcp

lemma sendIp_gives (t : Transmit) (packet : List UInt8) : Gives t (sendIp t packet) := by
  unfold sendIp
  split
  · exact .refl t
  · rename_i hidle
    rw [Bool.not_eq_true] at hidle
    exact sendFrame_gives hidle _

/-- **The IPv4 poll.** -/
theorem ipv4Poll_gives (up : Bool) (reply : Option (List UInt8)) (s : Ipv4Layer) :
    Gives s.transmit (pppIpv4Poll up reply s).transmit := by
  unfold pppIpv4Poll
  split
  · exact .refl _
  split
  · exact .refl _
  split
  · split
    · exact .refl _
    · exact sendIp_gives _ _
  · split
    · exact .refl _
    · exact .refl _

/-! ### The encoder's own poll -/

section Transmit

variable {t : Transmit}

lemma peek_buffer (t : Transmit) : (pppTransmitPeek t).1.buffer = t.buffer := by
  unfold pppTransmitPeek
  split
  · rfl
  · rfl
  · rfl
  · rfl
  all_goals
    extract_lets octet t'
    split <;> rfl

lemma finishLogical_buffer (t : Transmit) : (finishLogical t).buffer = t.buffer := by
  unfold finishLogical
  split
  · extract_lets t'
    split <;> rfl
  · rfl
  · rfl

/-- The buffer is wiped with the closing flag only. -/
lemma advance_buffer (hactive : (pppTransmitAdvance t).active = true) : (pppTransmitAdvance t).buffer = t.buffer := by
  have hpeek := peek_buffer t
  unfold pppTransmitAdvance at hactive ⊢
  generalize pppTransmitPeek t = peeked at hactive hpeek ⊢
  obtain ⟨t', octet⟩ := peeked
  cases octet with
  | none => exact hpeek
  | some octet =>
    dsimp only at hactive hpeek ⊢
    split at hactive
    · exact hpeek
    · contradiction
    · split
      · split
        · exact (finishLogical_buffer _).trans hpeek
        · exact hpeek
      · exact (finishLogical_buffer _).trans hpeek

lemma fill_buffer (budget room : ℕ) (hactive : (fill budget room t).1.active = true) :
    (fill budget room t).1.buffer = t.buffer := by
  induction budget generalizing room t with
  | zero => rfl
  | succ budget ih =>
    have hpeek := peek_buffer t
    have hadvance := advance_peek t
    unfold fill at hactive ⊢
    generalize pppTransmitPeek t = peeked at hactive hpeek hadvance ⊢
    obtain ⟨t', next⟩ := peeked
    cases next with
    | none => exact hpeek
    | some octet =>
      cases room with
      | zero => exact hpeek
      | succ room =>
        dsimp only at hactive hpeek hadvance ⊢
        rw [hadvance] at hactive ⊢
        split_ifs at hactive ⊢ with hdone
        · rw [hactive] at hdone
          contradiction
        · rw [Bool.not_eq_true', Bool.not_eq_false] at hdone
          exact (ih room hactive).trans (advance_buffer hdone)

end Transmit

/-! ### Runs -/

/-- The protocol field of the frame in the transmit buffer is that of LCP. -/
def lcpFrame (t : Transmit) : Bool := t.buffer 2 = 0xc0 ∧ t.buffer 3 = 0x21

/-- The poll gives an LCP frame to the encoder. -/
def Accepts (l : Loop) (i : Input) : Prop :=
  l.stack.transmit.active = false ∧ (step l i).stack.transmit.active = true ∧ lcpFrame (step l i).stack.transmit = true

/-- The octets have reached the TX ring, behind those that it was given before, or the encoder is still busy with the
rest of them. -/
def Delivers (before octets : List UInt8) (l : Loop) : Prop :=
  ∃ sent, l.queued = before ++ sent ∧
    (octets <+: sent ∨ l.stack.transmit.active = true ∧ sent ++ remaining l.stack.transmit = octets)

/-- The carrier is there and the receiver enabled, before and after the poll. -/
def Up (l : Loop) (i : Input) : Prop :=
  i.connected = true ∧ l.stack.receive.enabled = true ∧ (step l i).stack.receive.enabled = true

/-- An IPCP poll that finds an LCP frame in the encoder, other than a Terminate-Ack, finds the layer up or closed. -/
def Spares (l : Loop) : Prop :=
  l.phase = .ipcp → l.stack.transmit.active = true → lcpFrame l.stack.transmit = true →
    l.stack.transmit.buffer 4 = 6 ∨ l.stack.lcp.state = .opened ∧ l.stack.authenticated = true ∨
      l.stack.ipcp.state = .closed

/-- What a step of a run must meet. -/
def Guard (l : Loop) (i : Input) : Prop :=
  Up l i ∧ (l.phase = .mailbox → copiesValidated l.stack.credentials i.command = true) ∧ Spares l

instance (l : Loop) (i : Input) : Decidable (Guard l i) := by unfold Guard Up Spares; infer_instance

instance (l : Loop) (i : Input) : Decidable (Up l i) := by unfold Up; infer_instance

section Step

variable {l : Loop} {i : Input}

lemma upload_transmit (s : Stack) (credentials : Credentials) {copies : Bool} (o : Overrun) (hcopies : copies = true) :
    (s.upload credentials copies o).transmit = s.transmit := by
  unfold Stack.upload
  rw [if_pos hcopies]

lemma mailboxPoll_transmit (now : UInt32) (s : Stack) {command : Command} (hcopies : copiesValidated s.credentials command = true)
    (henabled : (modemMailboxPoll now s command).receive.enabled = true) :
    (modemMailboxPoll now s command).transmit = s.transmit := by
  cases command with
  | peerIdSet arguments b overrun => exact upload_transmit s _ overrun hcopies
  | passwordSet arguments b overrun => exact upload_transmit s _ overrun hcopies
  | selfTest left => contradiction
  | other => rfl
  | receiveStart => rfl
  | receiveStop => rfl
  | pppOpen => rfl
  | pppClose => rfl
  | credentialsClear => rfl

/-- **A busy encoder with an LCP frame is left alone** by every poll that meets the guard. -/
lemma pollLayer_transmit (hactive : l.stack.transmit.active = true) (hlcp : lcpFrame l.stack.transmit = true)
    (hguard : Guard l i) (hphase : l.phase ≠ .transmit) :
    (pollLayer l.phase (l.stack.found i) i).transmit = l.stack.transmit := by
  obtain ⟨⟨hconnected, henabled, hafter⟩, hcopies, hspares⟩ := hguard
  rw [step_of_ne i hphase] at hafter
  dsimp only at hafter
  unfold pollLayer at hafter ⊢
  cases hl : l.phase with
  | transmit => exact absurd hl hphase
  | mailbox =>
    rw [hl] at hafter
    exact mailboxPoll_transmit i.now (l.stack.found i) (hcopies hl) hafter
  | receive => rfl
  | lcp =>
    dsimp only
    rw [hconnected]
    exact (lcpPoll_gives i.now (l.stack.found i).lcpLayer henabled).busy hactive
  | pap => exact (papPoll_gives i.connected i.now _ (l.stack.found i).papLayer).busy hactive
  | chap => exact (chapPoll_gives i.connected _ (l.stack.found i).chapLayer).busy hactive
  | ipcp =>
    dsimp only
    by_cases hack : l.stack.transmit.buffer 4 = 6
    · -- Whether the layer goes down or not, a Terminate-Ack stays.
      by_cases hup : (linkUp i.connected (l.stack.found i).receive (l.stack.found i).lcp.state &&
          (l.stack.found i).authenticated) = true ∨ l.stack.ipcp.state = .closed
      · exact (ipcpPoll_gives i.now (l.stack.found i).ipcpLayer i.connected _ _ hup).busy hactive
      · have hterminate : IpcpLayer.terminateAck l.stack.transmit.buffer = true := by
          simp only [lcpFrame, decide_eq_true_eq] at hlcp
          simp [IpcpLayer.terminateAck, hlcp, hack]
        have hdown := ipcpPoll_down i.now (l.stack.found i).ipcpLayer i.connected _ _ hup
        exact hdown.trans (if_pos ⟨henabled, hconnected, hterminate⟩)
    · refine (ipcpPoll_gives i.now (l.stack.found i).ipcpLayer i.connected _ _ ?_).busy hactive
      rcases (hspares hl hactive hlcp).resolve_left hack with ⟨hopened, hauthenticated⟩ | hclosed
      · left
        simp only [linkUp, Bool.and_eq_true, decide_eq_true_eq]
        exact ⟨⟨⟨henabled, hconnected⟩, hopened⟩, hauthenticated⟩
      · exact Or.inr hclosed
  | ipv4 => exact (ipv4Poll_gives _ i.reply (l.stack.found i).ipv4Layer).busy hactive
  | request =>
    dsimp only
    cases i.packet with
    | none => rfl
    | some packet => exact (sendIp_gives l.stack.transmit packet).busy hactive

/-- No command makes the encoder busy. -/
lemma mailboxPoll_idle (now : UInt32) {s : Stack} (hidle : s.transmit.active = false) (command : Command) :
    (modemMailboxPoll now s command).transmit.active = false := by
  have hupload (credentials : Credentials) (copies : Bool) (o : Overrun) :
      (s.upload credentials copies o).transmit.active = false := by
    unfold Stack.upload
    split_ifs
    · exact hidle
    · exact hidle
  cases command with
  | peerIdSet arguments b overrun => exact hupload _ _ overrun
  | passwordSet arguments b overrun => exact hupload _ _ overrun
  | selfTest left => rfl
  | other => exact hidle
  | receiveStart => exact hidle
  | receiveStop => exact hidle
  | pppOpen => exact hidle
  | pppClose => exact hidle
  | credentialsClear => exact hidle

/-- A poll of LCP that makes the encoder busy has found the link up. -/
lemma lcpPoll_fresh (connected : Bool) (now : UInt32) {s : LcpLayer} (hidle : s.transmit.active = false)
    (hactive : (pppLcpPoll connected now s).transmit.active = true) :
    TransmitRefinement.Sound (pppLcpPoll connected now s).transmit ∧ remaining (pppLcpPoll connected now s).transmit =
      Framing.encodeAsync (pppLcpPoll connected now s).transmit.frame Framing.defaultAccm := by
  by_cases hdown : (!s.receive.enabled || !connected) = true
  · have hpoll : (pppLcpPoll connected now s).transmit = pppTransmitAbort s.transmit := by
      unfold pppLcpPoll
      rw [if_pos hdown]
      rfl
    rw [hpoll, abort_of_inactive hidle, hidle] at hactive
    contradiction
  · rw [Bool.not_eq_true, Bool.or_eq_false_iff, Bool.not_eq_false', Bool.not_eq_false'] at hdown
    obtain ⟨henabled, rfl⟩ := hdown
    exact (lcpPoll_gives now s henabled).fresh hidle hactive

/-- A poll of IPCP that makes the encoder busy has found the layer below up, or itself closed. -/
lemma ipcpPoll_fresh (connected : Bool) (now : UInt32) (state : LcpState) (authenticated : Bool) {s : IpcpLayer}
    (hidle : s.transmit.active = false)
    (hactive : (pppIpcpPoll connected now state authenticated s).transmit.active = true) :
    TransmitRefinement.Sound (pppIpcpPoll connected now state authenticated s).transmit ∧
      remaining (pppIpcpPoll connected now state authenticated s).transmit =
        Framing.encodeAsync (pppIpcpPoll connected now state authenticated s).transmit.frame Framing.defaultAccm := by
  by_cases hup : (linkUp connected s.receive state && authenticated) = true ∨ s.ipcp.state = .closed
  · exact (ipcpPoll_gives now s connected _ _ hup).fresh hidle hactive
  · have hpoll : (pppIpcpPoll connected now state authenticated s).transmit = s.transmit := by
      rw [ipcpPoll_down now s connected _ _ hup]
      split_ifs
      · rfl
      · exact abort_of_inactive hidle
    rw [hpoll, hidle] at hactive
    contradiction

/-- A poll that makes the encoder busy has given it a whole frame. -/
lemma step_fresh (hidle : l.stack.transmit.active = false) (hactive : (step l i).stack.transmit.active = true) :
    TransmitRefinement.Sound (step l i).stack.transmit ∧ remaining (step l i).stack.transmit =
      Framing.encodeAsync (step l i).stack.transmit.frame Framing.defaultAccm := by
  by_cases hphase : l.phase = .transmit
  · exfalso
    unfold step pollLayer at hactive
    rw [hphase] at hactive
    dsimp only at hactive
    rw [if_pos rfl] at hactive
    have hsame := congrArg (fun polled => polled.1.active) (poll_of_inactive hidle i.connected i.room)
    exact absurd (hidle.symm.trans (hsame.symm.trans hactive)) (by decide)
  rw [step_of_ne i hphase] at hactive ⊢
  dsimp only at hactive ⊢
  unfold pollLayer at hactive ⊢
  cases hl : l.phase with
  | transmit => exact absurd hl hphase
  | mailbox =>
    rw [hl] at hactive
    exact absurd ((mailboxPoll_idle i.now (s := l.stack.found i) hidle i.command).symm.trans hactive) (by decide)
  | receive =>
    rw [hl] at hactive
    exact absurd (hidle.symm.trans hactive) (by decide)
  | lcp =>
    rw [hl] at hactive
    exact lcpPoll_fresh i.connected i.now (s := (l.stack.found i).lcpLayer) hidle hactive
  | pap =>
    rw [hl] at hactive
    exact (papPoll_gives i.connected i.now _ (l.stack.found i).papLayer).fresh hidle hactive
  | chap =>
    rw [hl] at hactive
    exact (chapPoll_gives i.connected _ (l.stack.found i).chapLayer).fresh hidle hactive
  | ipcp =>
    rw [hl] at hactive
    exact ipcpPoll_fresh i.connected i.now _ _ (s := (l.stack.found i).ipcpLayer) hidle hactive
  | ipv4 =>
    rw [hl] at hactive
    exact (ipv4Poll_gives _ i.reply (l.stack.found i).ipv4Layer).fresh hidle hactive
  | request =>
    rw [hl] at hactive
    dsimp only at hactive ⊢
    cases hpacket : i.packet with
    | none =>
      rw [hpacket] at hactive
      exact absurd (hidle.symm.trans hactive) (by decide)
    | some packet =>
      rw [hpacket] at hactive
      exact (sendIp_gives l.stack.transmit packet).fresh hidle hactive

/-- The frame is on its way, or its octets have reached the TX ring. -/
def Underway (before octets : List UInt8) (l : Loop) : Prop :=
  ∃ sent, l.queued = before ++ sent ∧
    (octets <+: sent ∨ l.stack.transmit.active = true ∧ lcpFrame l.stack.transmit = true ∧ TransmitRefinement.Sound l.stack.transmit ∧
      sent ++ remaining l.stack.transmit = octets)

/-- The ring only grows. -/
lemma step_queued (l : Loop) (i : Input) : ∃ sent, (step l i).queued = l.queued ++ sent := by
  unfold step
  dsimp only
  split
  · exact ⟨_, rfl⟩
  · exact ⟨[], (List.append_nil _).symm⟩

/-- **The step lemma.** -/
theorem underway_step {before octets : List UInt8} (h : Underway before octets l) (hguard : Guard l i) :
    Underway before octets (step l i) := by
  obtain ⟨sent, hqueued, hreached | ⟨hactive, hlcp, hsound, hwhole⟩⟩ := h
  · obtain ⟨more, hmore⟩ := step_queued l i
    refine ⟨sent ++ more, ?_, Or.inl (hreached.trans (List.prefix_append _ _))⟩
    rw [hmore, hqueued, List.append_assoc]
  by_cases hphase : l.phase = .transmit
  · obtain ⟨hafter, hremaining⟩ := fill_remaining hsound transmitFillBudget i.room
    have hpoll : pppTransmitPoll i.connected i.room l.stack.transmit =
        fill transmitFillBudget i.room l.stack.transmit := by
      unfold pppTransmitPoll
      rw [hguard.1.1, hactive]
      rfl
    have hstep : (step l i).stack.transmit = (fill transmitFillBudget i.room l.stack.transmit).1 ∧
        (step l i).queued = l.queued ++ (fill transmitFillBudget i.room l.stack.transmit).2 := by
      rw [← hpoll]
      unfold step pollLayer
      rw [hphase]
      exact ⟨rfl, rfl⟩
    rw [hremaining, ← List.append_assoc] at hwhole
    refine ⟨sent ++ (fill transmitFillBudget i.room l.stack.transmit).2, ?_, ?_⟩
    · rw [hstep.2, hqueued, List.append_assoc]
    · rw [hstep.1]
      cases hbusy : (fill transmitFillBudget i.room l.stack.transmit).1.active with
      | false =>
        -- The closing flag is written, and nothing remains.
        left
        rw [remaining_of_inactive hafter hbusy, List.append_nil] at hwhole
        rw [hwhole]
      | true =>
        refine Or.inr ⟨rfl, ?_, hafter, hwhole⟩
        unfold lcpFrame
        rw [fill_buffer _ _ hbusy]
        exact hlcp
  · have hkept := pollLayer_transmit hactive hlcp hguard hphase
    rw [step_of_ne i hphase]
    refine ⟨sent, hqueued, Or.inr ?_⟩
    dsimp only
    rw [hkept]
    exact ⟨hactive, hlcp, hsound, hwhole⟩

lemma underway_of_accepts (h : Accepts l i) : Underway (step l i).queued
    (Framing.encodeAsync (step l i).stack.transmit.frame Framing.defaultAccm) (step l i) := by
  obtain ⟨hidle, hactive, hlcp⟩ := h
  obtain ⟨hsound, hremaining⟩ := step_fresh hidle hactive
  exact ⟨[], (List.append_nil _).symm, Or.inr ⟨hactive, hlcp, hsound, hremaining⟩⟩

lemma delivers_of_underway {before octets : List UInt8} (h : Underway before octets l) : Delivers before octets l := by
  obtain ⟨sent, hqueued, hreached | ⟨hactive, -, -, hwhole⟩⟩ := h
  · exact ⟨sent, hqueued, Or.inl hreached⟩
  · exact ⟨sent, hqueued, Or.inr ⟨hactive, hwhole⟩⟩

end Step

/-- **An LCP frame that was given to the encoder reaches the TX ring whole**, whatever the run before, as long as the
steps behind it meet the guard. -/
theorem lcp_frame_whole (inputs inputs' : List Input) (i : Input) (haccepts : Accepts (Loop.after inputs) i)
    (hguard : Run.Along step Guard (step (Loop.after inputs) i) inputs') :
    Delivers (step (Loop.after inputs) i).queued
      (Framing.encodeAsync (step (Loop.after inputs) i).stack.transmit.frame Framing.defaultAccm)
      (Run.run step (step (Loop.after inputs) i) inputs') :=
  delivers_of_underway
    (Run.run_invariant (fun _ _ h hguard => underway_step h hguard) (underway_of_accepts haccepts) hguard)

section Scenario

/-- The polls up to LCP's, which opens the link and has IPCP negotiate, and two turns later finds the request again. -/
def renegotiation : List Input :=
  requestAcknowledged ++ turn peerRequest ++ turn { room := 100 } ++ turn { room := 100 } ++ List.replicate 2 peerRequest

end Scenario

instance (l : Loop) (i : Input) : Decidable (Accepts l i) := by unfold Accepts; infer_instance

set_option maxRecDepth 100000 in
theorem lcp_frame_whole_first_request :
    Delivers (step (Loop.after (List.replicate 2 { command := .receiveStart })) {}).queued
      (Framing.encodeAsync (step (Loop.after (List.replicate 2 { command := .receiveStart })) {}).stack.transmit.frame
        Framing.defaultAccm)
      (Run.run step (step (Loop.after (List.replicate 2 { command := .receiveStart })) {})
        (List.replicate 6 { room := 100 })) :=
  lcp_frame_whole (List.replicate 2 { command := .receiveStart }) (List.replicate 6 { room := 100 }) {}
    (by decide +kernel) (by decide +kernel)

set_option maxRecDepth 100000 in
/-- **The Ack of a renegotiation is lost**: LCP leaves `Opened` with the Configure-Ack in the encoder, and the IPCP poll
that follows aborts it before its first octet. -/
theorem configure_ack_aborted :
    let l := step (Loop.after renegotiation) peerRequest
    Run.Along step Up l (List.replicate 3 peerRequest) ∧ Accepts (Loop.after renegotiation) peerRequest ∧
      l.stack.transmit.frame = [0xff, 0x03, 0xc0, 0x21, 2, 7, 0, 4] ∧
      ¬ Delivers l.queued (Framing.encodeAsync l.stack.transmit.frame Framing.defaultAccm)
        (Run.run step l (List.replicate 3 peerRequest)) := by
  refine ⟨by decide +kernel, by decide +kernel, by decide +kernel, ?_⟩
  rintro ⟨sent, hqueued, hdelivered⟩
  have hsame : (Run.run step (step (Loop.after renegotiation) peerRequest) (List.replicate 3 peerRequest)).queued =
      (step (Loop.after renegotiation) peerRequest).queued := by decide +kernel
  obtain rfl : sent = [] := List.append_right_eq_self.mp (hqueued.symm.trans hsame)
  rcases hdelivered with hreached | ⟨hactive, -⟩
  · exact absurd (List.prefix_nil.mp hreached) (by decide +kernel)
  · exact absurd hactive (by decide +kernel)

end SnesModem.Asm.FrameDelivery
