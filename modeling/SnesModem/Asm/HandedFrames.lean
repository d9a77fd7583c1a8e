import SnesModem.Asm.AcceptedPackets
import SnesModem.Asm.ChapRechallenge
import SnesModem.Asm.FrameLengths
import SnesModem.Asm.SecretSteps

/-!
# The frames that the polls give to the encoder

The poll of each layer hands over a frame that keeps to the MRU as long as the packet does that it is about to send:
`lcpPoll_hands`, `papPoll_hands`, `chapPoll_hands` and `ipcpPoll_hands`.
-/

namespace SnesModem.Asm.HandedFrames

open SnesModem.Lib.Cpu65816 SnesModem.Lib.Octets SnesModem.Asm.FrameDelivery

section Hands

variable {P : List UInt8 → Prop} {t t' : Transmit}

/-- A busy encoder is given nothing. -/
lemma hands_busy (hactive : t.active = true) : Hands P t t' := by
  intro hidle
  rw [hactive] at hidle
  contradiction

/-- A poll that starts nothing. -/
lemma hands_of_active (h : t'.active = t.active) : Hands P t t' := by
  intro hidle hactive
  rw [h, hidle] at hactive
  contradiction

end Hands

/-- An encoder that is aborted has nothing. -/
lemma hands_abort (t : Transmit) : Hands P t (pppTransmitAbort t) := hands_idle (SecretFlow.abort_inactive t)

/-! ### LCP -/

section Lcp

variable (now : UInt32) {mru : UInt16} {s : LcpLayer}

lemma lcpBuildPending_hands (d : Decoder) (l : Lcp) (t : Transmit) (hmru : l.peerMru = mru)
    (hlength : lcpLength d l ≤ max mru.toNat 4) : Hands (Limited mru) t (pppLcpBuildPending now d l t).2.1 := by
  unfold pppLcpBuildPending
  split
  · exact .refl t
  split
  · exact .refl t
  · rename_i buffer length hbuilt
    have hlimited : Limited mru (read buffer 0 length.toNat) := by
      subst hmru
      exact buildAction_limited hbuilt hlength
    have hbegin : Hands (Limited mru) t (pppTransmitBegin { t with buffer := buffer } length).1 := hands_begin hlimited
    extract_lets l'
    split
    · rename_i t' heq
      rw [heq] at hbegin
      exact hbegin
    · rename_i t' heq
      rw [heq] at hbegin
      exact hbegin

/-- A pending action that is out of the way was taken by the encoder. -/
lemma lcpServicePending_taken (hpending : s.lcp.pendingAction ≠ .none) (htaken : (s.servicePending now).2 = false) :
    (s.servicePending now).1.transmit.active = true := by
  have hactive := lcpBuildPending_active now s.receive.decoder s.lcp s.transmit
  unfold LcpLayer.servicePending at htaken ⊢
  rw [if_neg hpending] at htaken ⊢
  generalize pppLcpBuildPending now s.receive.decoder s.lcp s.transmit = built at hactive htaken ⊢
  obtain ⟨l, t, carry⟩ := built
  cases carry with
  | true => contradiction
  | false =>
    dsimp only
    rw [lcpSent_transmit]
    exact (hactive.resolve_left fun h => Bool.false_ne_true h.1).2.2

lemma lcpServicePending_hands (hmru : s.lcp.peerMru = mru)
    (hlength : lcpLength s.receive.decoder s.lcp ≤ max mru.toNat 4) :
    Hands (Limited mru) s.transmit (s.servicePending now).1.transmit := by
  have hbuild := lcpBuildPending_hands now s.receive.decoder s.lcp s.transmit hmru hlength
  unfold LcpLayer.servicePending
  split
  · exact .refl _
  split
  · rename_i lcp transmit heq
    rw [heq] at hbuild
    exact hbuild
  · rename_i lcp transmit heq
    rw [heq] at hbuild
    dsimp only
    rw [lcpSent_transmit]
    exact hbuild

lemma lcpServiceThenTimer_hands (hpending : s.lcp.pendingAction ≠ .none) (hmru : s.lcp.peerMru = mru)
    (hlength : lcpLength s.receive.decoder s.lcp ≤ max mru.toNat 4) :
    Hands (Limited mru) s.transmit (s.serviceThenTimer now).transmit := by
  have hserviced := lcpServicePending_hands now hmru hlength
  have htaken := lcpServicePending_taken now hpending
  unfold LcpLayer.serviceThenTimer
  generalize s.servicePending now = serviced at hserviced htaken ⊢
  obtain ⟨s', carry⟩ := serviced
  cases carry with
  | true => exact hserviced
  | false => exact hserviced.trans (hands_busy (htaken rfl)) ((lcpSteps_gives now).timer s')

/-- With nothing pending, the timer of an open link does nothing. -/
lemma lcpTimer_hands (hopened : s.lcp.state = .opened) (hnone : s.lcp.pendingAction = .none) :
    Hands (Limited mru) s.transmit (s.timer now).transmit := by
  have hkept : (pppLcpPollTimeout now s.lcp).pendingAction = .none := by
    unfold pppLcpPollTimeout
    rw [hopened]
    split
    · exact hnone
    · exact hnone
  refine hands_of_active ?_
  unfold LcpLayer.timer LcpLayer.servicePending
  rw [if_pos hkept]

lemma applyNegativeOptions_peerMru (buffer : Buffer) (offsets : List UInt16) (hasNak : Bool) (l : Lcp) :
    (applyNegativeOptions buffer offsets hasNak l).1.peerMru = l.peerMru := by
  have hmagic {l l' : Lcp} {y : UInt16} (h : applyNegativeMagic buffer l y = some l') : l'.peerMru = l.peerMru := by
    unfold applyNegativeMagic pppLcpAdvanceLocalMagic at h
    generalize nextMagic l.localMagic = magic at h
    split_ifs at h
    · obtain rfl := Option.some.inj h
      rfl
    · obtain rfl := Option.some.inj h
      rfl
    · obtain rfl := Option.some.inj h
      rfl
  induction offsets generalizing hasNak l with
  | nil => rfl
  | cons y offsets ih =>
    unfold applyNegativeOptions
    split_ifs
    · rfl
    · cases happlied : applyNegativeMagic buffer l y with
      | none => rfl
      | some l' => exact (ih true l').trans (hmagic happlied)
    · rfl
    · exact ih hasNak l

/-- What a packet leaves pending on a link that stays open. -/
structure Maintains (l : Lcp) (received : Lcp × Bool) : Prop where
  peerMru : received.1.peerMru = l.peerMru
  pending : received.1.pendingAction = .none ∨
    received.2 = false ∧ received.1.pendingAction.keepsFrame = true ∧ received.1.pendingAction.configures = false

section Packet

variable {d : Decoder} {l : Lcp}

lemma parseFrame_link (d : Decoder) (l : Lcp) :
    (pppLcpParseFrame d l).1.state = l.state ∧ (pppLcpParseFrame d l).1.peerMru = l.peerMru := by
  unfold pppLcpParseFrame
  dsimp only
  split_ifs
  · exact ⟨rfl, rfl⟩
  · exact ⟨rfl, rfl⟩
  · exact ⟨rfl, rfl⟩
  · exact ⟨rfl, rfl⟩
  · obtain ⟨error, hparsed⟩ := parseOptions_fst d { l with
      receiveCount := l.receiveCount + 1
      lastCode := d.frameBuffer 4
      lastIdentifier := d.frameBuffer 5
      packetLength := word (d.frameBuffer 6) (d.frameBuffer 7)
      packetEnd := word (d.frameBuffer 6) (d.frameBuffer 7) + frameOffset }
    rw [hparsed]
    exact ⟨rfl, rfl⟩

lemma receiveConfigureNegative_maintains (hopened : l.state = .opened) (hnone : l.pendingAction = .none)
    (hstays : (receiveConfigureNegative d l).1.state = .opened) : Maintains l (receiveConfigureNegative d l) := by
  have hmru := applyNegativeOptions_peerMru d.frameBuffer (options d.frameBuffer l.packetEnd) false l
  have hkept := (applyNegativeOptions_suggested d.frameBuffer l (options d.frameBuffer l.packetEnd) false).pendingAction
  unfold receiveConfigureNegative at hstays ⊢
  rw [if_neg (by simp [hopened])] at hstays ⊢
  split at hstays
  · rename_i hidentifier
    rw [if_pos hidentifier]
    exact ⟨rfl, Or.inl hnone⟩
  · rename_i hidentifier
    rw [if_neg hidentifier]
    generalize applyNegativeOptions d.frameBuffer (options d.frameBuffer l.packetEnd) false l = applied
      at hmru hkept hstays ⊢
    obtain ⟨l', carry⟩ := applied
    cases carry with
    | true => exact ⟨hmru, Or.inl (hkept.trans hnone)⟩
    | false =>
      have hstate : (if l'.state = .ackSent then LcpState.ackSent else .requestSent) = .opened := hstays
      split at hstate
      · contradiction
      · contradiction

lemma receivePacket_maintains (hopened : l.state = .opened) (hnone : l.pendingAction = .none)
    (hstays : (receivePacket d l).1.state = .opened) : Maintains l (receivePacket d l) := by
  have hsame (lastError : LcpError) (carry : Bool) : Maintains l ({ l with lastError := lastError }, carry) :=
    ⟨rfl, Or.inl hnone⟩
  have hleaves {l' : Lcp} (h : l'.state ≠ .opened) (h' : (returnSuccess l').1.state = .opened) : False := h h'
  unfold receivePacket at hstays ⊢
  rw [if_neg (by simp [hopened])] at hstays ⊢
  split at hstays
  · unfold receiveConfigureRequest at hstays
    rw [if_neg (by simp [hopened])] at hstays
    have hkept := (evaluatePeerRequest_kept d.frameBuffer l).state
    generalize pppLcpEvaluatePeerRequest d.frameBuffer l = evaluated at hkept hstays
    obtain ⟨action, l'⟩ := evaluated
    dsimp only at hkept hstays
    rw [if_pos (hkept.trans hopened)] at hstays
    refine (hleaves ?_ hstays).elim
    dsimp only
    split
    · exact nofun
    · exact nofun
  · unfold receiveConfigureAck at hstays ⊢
    rw [if_neg (by simp [hopened])] at hstays ⊢
    split at hstays
    · rename_i hinvalid
      rw [if_pos hinvalid]
      exact hsame _ _
    · dsimp only at hstays
      rw [hopened] at hstays
      contradiction
  · exact receiveConfigureNegative_maintains hopened hnone hstays
  · exact receiveConfigureNegative_maintains hopened hnone hstays
  · refine ⟨?_, Or.inr ⟨rfl, rfl, rfl⟩⟩
    unfold receiveTerminateRequest
    split
    · rfl
    · rfl
  · unfold receiveTerminateAck
    rw [if_pos (by simp [hopened])]
    exact hsame _ _
  · exact hsame _ _
  · exact hsame _ _
  · unfold receiveEchoRequest
    split
    · exact hsame _ _
    split
    · exact hsame _ _
    split
    · exact hsame _ _
    · exact ⟨rfl, Or.inr ⟨rfl, rfl, rfl⟩⟩
  · unfold receiveMaintenance
    split
    · exact hsame _ _
    · exact hsame _ _
  · unfold receiveMaintenance
    split
    · exact hsame _ _
    · exact hsame _ _
  · exact ⟨rfl, Or.inr ⟨rfl, rfl, rfl⟩⟩

lemma receiveFrame_maintains (hopened : l.state = .opened) (hnone : l.pendingAction = .none)
    (hstays : (pppLcpReceiveFrame d l).1.state = .opened) : Maintains l (pppLcpReceiveFrame d l) := by
  obtain ⟨hstate, hmru⟩ := parseFrame_link d l
  have hpending := (pendingAction_parseFrame d l).trans hnone
  unfold pppLcpReceiveFrame at hstays ⊢
  generalize pppLcpParseFrame d l = parsed at hmru hpending hstate hstays ⊢
  obtain ⟨l', carry⟩ := parsed
  cases carry with
  | true => exact ⟨hmru, Or.inl hpending⟩
  | false =>
    obtain ⟨hmru', hpending'⟩ := receivePacket_maintains (hstate.trans hopened) hpending hstays
    exact ⟨hmru'.trans hmru, hpending'⟩

end Packet

lemma lcpReceive_hands (hopened : s.lcp.state = .opened) (hnone : s.lcp.pendingAction = .none)
    (hmru : s.lcp.peerMru = mru) (hstays : (s.receiveLcp now).lcp.state = .opened) :
    Hands (Limited mru) s.transmit (s.receiveLcp now).transmit := by
  have hmaintains := receiveFrame_maintains (d := s.receive.decoder) hopened hnone
  unfold LcpLayer.receiveLcp at hstays ⊢
  generalize pppLcpReceiveFrame s.receive.decoder s.lcp = received at hmaintains hstays ⊢
  obtain ⟨l, carry⟩ := received
  dsimp only at hstays ⊢
  have hstays' : l.state = .opened := by
    split at hstays
    · exact (((serviceThenTimer_settles now _).opened hstays).1)
    · exact ((servicePending_settles now _).opened ((timer_settles now _).opened hstays).1).1
  obtain ⟨hmru', hpending⟩ := hmaintains hstays'
  rcases hpending with hdone | ⟨rfl, hkeeps, hanswers⟩
  · have hdone' : l.pendingAction = .none := hdone
    rw [if_neg (by simp [hdone', LcpAction.keepsFrame])]
    have hserviced : LcpLayer.servicePending now (LcpLayer.release { s with lcp := l }) =
        (LcpLayer.release { s with lcp := l }, false) := if_pos hdone
    rw [hserviced]
    exact lcpTimer_hands now (s := LcpLayer.release { s with lcp := l }) hstays' hdone
  · have hpending : l.pendingAction ≠ .none := by
      intro h
      rw [show (l, false).1.pendingAction = _ from h] at hkeeps
      contradiction
    rw [if_pos (by simpa using hkeeps)]
    exact lcpServiceThenTimer_hands now (s := { s with lcp := l }) hpending (hmru'.trans hmru)
      ((lcpLength_of_not_configures hanswers).trans_le (le_max_right _ _))

lemma lcpDispatchFrame_hands (hopened : s.lcp.state = .opened) (hnone : s.lcp.pendingAction = .none)
    (hmru : s.lcp.peerMru = mru) (hstays : (s.dispatchFrame now).lcp.state = .opened) :
    Hands (Limited mru) s.transmit (s.dispatchFrame now).transmit := by
  unfold LcpLayer.dispatchFrame at hstays ⊢
  dsimp only at hstays ⊢
  split at hstays
  · rename_i hprotocol
    rw [if_pos hprotocol]
    exact lcpReceive_hands now hopened hnone hmru hstays
  · rename_i hprotocol
    rw [if_neg hprotocol, if_neg (not_not.mpr hopened)]
    split
    · exact lcpTimer_hands now hopened hnone
    · exact lcpServiceThenTimer_hands now (s := { s with lcp := pppLcpRejectProtocol s.lcp }) nofun hmru
        ((lcpLength_of_not_configures rfl).trans_le (le_max_right _ _))

lemma lcpServiceExistingPending_of_pending (hpending : s.lcp.pendingAction ≠ .none) (hmru : s.lcp.peerMru = mru)
    (hlength : lcpLength s.receive.decoder s.lcp ≤ max mru.toNat 4) :
    Hands (Limited mru) s.transmit (s.serviceExistingPending now).transmit := by
  have hserviced := lcpServicePending_hands now hmru hlength
  have htaken := lcpServicePending_taken now hpending
  unfold LcpLayer.serviceExistingPending
  generalize s.servicePending now = serviced at hserviced htaken ⊢
  obtain ⟨s', carry⟩ := serviced
  cases carry with
  | true => exact hserviced
  | false =>
    dsimp only
    split
    · exact hserviced.trans (hands_busy (htaken rfl)) ((lcpSteps_gives now).dispatchFrame s')
    · exact hserviced.trans (hands_busy (htaken rfl)) ((lcpSteps_gives now).timer s')

lemma lcpServiceExistingPending_hands (hopened : s.lcp.state = .opened)
    (hlength : lcpLength s.receive.decoder s.lcp ≤ max s.lcp.peerMru.toNat 4)
    (hstays : (s.serviceExistingPending now).lcp.state = .opened) :
    Hands (Limited s.lcp.peerMru) s.transmit (s.serviceExistingPending now).transmit := by
  by_cases hnone : s.lcp.pendingAction = .none
  · have hserviced : s.servicePending now = (s, false) := if_pos hnone
    unfold LcpLayer.serviceExistingPending at hstays ⊢
    rw [hserviced] at hstays ⊢
    dsimp only at hstays ⊢
    split at hstays
    · rename_i hready
      rw [if_pos hready]
      exact lcpDispatchFrame_hands now hopened hnone rfl hstays
    · rename_i hready
      rw [if_neg hready]
      exact lcpTimer_hands now hopened hnone
  · exact lcpServiceExistingPending_of_pending now hnone rfl hlength

/-- A close of an open link leaves a Terminate-Request pending. -/
lemma closeIfIdle_cases (s : LcpLayer) (hopened : s.lcp.state = .opened) : s.closeIfIdle = s ∨
    s.closeIfIdle.lcp.pendingAction = .terminateRequest ∧ s.closeIfIdle.lcp.peerMru = s.lcp.peerMru := by
  unfold LcpLayer.closeIfIdle
  split
  · rename_i hidle
    unfold pppLcpClose
    simp [hopened, hidle.2.2]
  · exact Or.inl rfl

/-- **The poll of LCP** on a link that is open and stays so. -/
theorem lcpPoll_hands (connected : Bool) (hopened : s.lcp.state = .opened)
    (hfits : linkUp connected s.receive s.lcp.state = true →
      LcpFits s.receive.decoder.frameBuffer s.lcp (max s.lcp.peerMru.toNat 4))
    (hstays : (pppLcpPoll connected now s).lcp.state = .opened) :
    Hands (Limited s.lcp.peerMru) s.transmit (pppLcpPoll connected now s).transmit := by
  unfold pppLcpPoll at hstays ⊢
  split
  · exact hands_abort s.transmit
  rename_i hup
  have hlength := lcpLength_le (le_max_right _ _) (hfits (by simpa [linkUp, hopened] using hup))
  rw [if_neg hup] at hstays
  rw [hopened] at hstays ⊢
  dsimp only at hstays ⊢
  rcases closeIfIdle_cases s hopened with hsame | ⟨haction, hmru⟩
  · rw [hsame] at hstays ⊢
    exact lcpServiceExistingPending_hands now hopened hlength hstays
  · -- The link is closed, with a Terminate-Request.
    rw [← closeIfIdle_transmit s]
    exact lcpServiceExistingPending_of_pending now (by rw [haction]; decide) hmru
      ((lcpLength_of_not_configures (by rw [haction]; rfl)).trans_le (le_max_right _ _))

end Lcp

/-! ### PAP and CHAP -/

section Authentication

variable (connected : Bool) {mru : UInt16} {c c' : Credentials}

/-- Erased credentials make no longer packet. -/
lemma length_le_of_erased {length : Credentials → ℕ} (hleast : ∀ c, length pppPapCredentialsClear ≤ length c)
    (h : KeepsOrErases c c') : length c' ≤ length c := by
  rcases h with rfl | rfl
  · exact le_rfl
  · unfold pppPapCredentialsClearSensitive
    split
    · exact hleast c
    · exact le_rfl

lemma papRequestLength_le (h : KeepsOrErases c c') : papRequestLength c' ≤ papRequestLength c := by
  refine length_le_of_erased (fun c => ?_) h
  show 4 ≤ papRequestLength c
  unfold papRequestLength
  split
  · omega
  · exact le_rfl

lemma chapResponseLength_le (h : KeepsOrErases c c') : chapResponseLength c' ≤ chapResponseLength c := by
  refine length_le_of_erased (fun c => ?_) h
  show 4 ≤ chapResponseLength c
  unfold chapResponseLength
  split
  · omega
  · exact le_rfl

/-- An Authenticate-Request is due: it is pending, PAP begins with one, or the restart timer has expired. -/
def papDue (now : UInt32) (flags : PeerFlags) (p : Pap) : Bool :=
  p.requestPending || p.state = .inactive && flags.pap ||
    p.state = .waitingForReply && p.timerActive && expired now p.restartDeadline

lemma papDue_of_lowerUp {now : UInt32} {flags : PeerFlags} {p : Pap}
    (h : (pppPapLowerUp flags c p).requestPending = true) : papDue now flags p = true := by
  unfold pppPapLowerUp at h
  unfold papDue
  split_ifs at h with hstate hflags
  · simp [h]
  · have hbegins : p.state = .inactive ∧ flags.pap = true := ⟨by simpa using hstate, by simpa using hflags⟩
    simp [hbegins]

/-- What a frame leaves of the timer, which a reply stops. -/
structure KeepsTimer (p p' : Pap) : Prop where
  requestPending : p'.requestPending = p.requestPending
  restartDeadline : p'.restartDeadline = p.restartDeadline
  timerActive : p'.timerActive = true → p.timerActive = true
  waiting : p'.state = .waitingForReply → p.state = .waitingForReply

lemma papReceiveFrame_keepsTimer (d : Decoder) (p : Pap) : KeepsTimer p (pppPapReceiveFrame d c p).1 := by
  have haccepted (p : Pap) : KeepsTimer p (acceptReply c p).1 := by
    unfold acceptReply
    dsimp only
    split_ifs
    · exact ⟨rfl, rfl, nofun, nofun⟩
    · exact ⟨rfl, rfl, nofun, nofun⟩
  have hreply (p : Pap) : KeepsTimer p (receiveReply d c p).1 := by
    unfold receiveReply
    dsimp only
    split_ifs
    · exact ⟨rfl, rfl, id, id⟩
    · exact ⟨rfl, rfl, id, id⟩
    · exact ⟨rfl, rfl, id, id⟩
    · exact ⟨rfl, rfl, id, id⟩
    · exact ⟨rfl, rfl, id, id⟩
    · exact ⟨rfl, rfl, id, id⟩
    · exact haccepted p
  unfold pppPapReceiveFrame
  dsimp only
  split_ifs
  · exact ⟨rfl, rfl, id, id⟩
  · exact ⟨rfl, rfl, id, id⟩
  · exact ⟨rfl, rfl, id, id⟩
  · exact ⟨rfl, rfl, id, id⟩
  · obtain ⟨hpending, hdeadline, hactive, hwaiting⟩ := hreply { p with
      receiveCount := p.receiveCount + 1
      lastCode := d.frameBuffer 4
      lastIdentifier := d.frameBuffer 5
      packetLength := word (d.frameBuffer 6) (d.frameBuffer 7) }
    exact ⟨hpending, hdeadline, hactive, hwaiting⟩

lemma papDispatchFrame_keepsTimer (s : PapLayer) : KeepsTimer s.pap s.dispatchFrame.pap := by
  have hsame : KeepsTimer s.pap s.pap := ⟨rfl, rfl, id, id⟩
  unfold PapLayer.dispatchFrame
  split
  · exact hsame
  split
  · exact papReceiveFrame_keepsTimer s.receive.decoder s.pap
  split
  · exact hsame
  · exact hsame

lemma papDue_of_timeout {now : UInt32} (flags : PeerFlags) {s : PapLayer}
    (h : (pppPapPollTimeout now s.dispatchFrame.credentials s.dispatchFrame.pap).1.requestPending = true) :
    papDue now flags s.pap = true := by
  obtain ⟨hpending, hdeadline, hactive, hwaiting⟩ := papDispatchFrame_keepsTimer s
  unfold pppPapPollTimeout at h
  unfold papDue
  dsimp only at h
  split_ifs at h with hquiet hwaits hretries
  · rw [← hpending, h, Bool.true_or, Bool.true_or]
  · rw [← hpending, h, Bool.true_or, Bool.true_or]
  · rw [← hpending, h, Bool.true_or, Bool.true_or]
  · have hexpired : s.dispatchFrame.pap.timerActive = true ∧
        expired now s.dispatchFrame.pap.restartDeadline = true := by simpa using hquiet
    rw [hwaiting (by simpa using hwaits), hactive hexpired.1, ← hdeadline, hexpired.2]
    simp

/-- A PAP that comes up waits for no reply. -/
lemma papDue_lowerUp {now : UInt32} {flags : PeerFlags} {p : Pap}
    (h : papDue now flags (pppPapLowerUp flags c p) = true) : papDue now flags p = true := by
  by_cases hinactive : p.state = .inactive
  · have hbegins : (pppPapLowerUp flags c p).requestPending = true := by
      unfold pppPapLowerUp papDue at h
      rw [if_neg (not_not.mpr hinactive)] at h
      unfold pppPapLowerUp
      rw [if_neg (not_not.mpr hinactive)]
      dsimp only at h ⊢
      split_ifs at h ⊢
      · simp at h
      · rfl
      · simp at h
    exact papDue_of_lowerUp hbegins
  · rwa [show pppPapLowerUp flags c p = p from if_pos hinactive] at h

/-- **The poll of PAP.** -/
theorem papPoll_hands (now : UInt32) (l : Lcp) (s : PapLayer)
    (hlength : linkUp connected s.receive l.state = true → papDue now l.peerFlags s.pap = true →
      papRequestLength s.credentials ≤ max mru.toNat 4) :
    Hands (Limited mru) s.transmit (pppPapPoll connected now l s).transmit := by
  have hsilent {c : Credentials} {p : Pap} {t : Transmit} (h : p.requestPending = false) :
      pppPapBuildPending now c p t = (p, t) := by
    unfold pppPapBuildPending
    rw [h]
    rfl
  let s' : PapLayer := { s with pap := pppPapLowerUp l.peerFlags s.credentials s.pap }
  unfold pppPapPoll
  split
  · rename_i hup
    replace hlength := hlength hup
    change Hands _ s'.transmit (PapLayer.timer now (PapLayer.dispatchFrame (s'.build now))).transmit
    -- The second packet, if there is one, is made of what is left of the credentials.
    have htimer (s : PapLayer) (h : papRequestLength s.credentials ≤ max mru.toNat 4) :
        Hands (Limited mru) s.transmit (PapLayer.timer now s.dispatchFrame).transmit := by
      have hcredentials := (papDispatchFrame_credentials s).trans
        (papPollTimeout_credentials (c := s.dispatchFrame.credentials) now s.dispatchFrame.pap)
      rw [← papDispatchFrame_transmit s]
      exact papBuildPending_hands now ((papRequestLength_le hcredentials).trans h)
    cases hpending : s'.pap.requestPending with
    | true =>
      have hcredentials : papRequestLength s'.credentials ≤ max mru.toNat 4 := hlength (papDue_of_lowerUp hpending)
      have hbuilt : Hands (Limited mru) s'.transmit (s'.build now).transmit := papBuildPending_hands now hcredentials
      refine hbuilt.trans (htimer _ hcredentials) ?_
      rw [← papDispatchFrame_transmit (s'.build now)]
      exact papTimer_gives now _
    | false =>
      have hbuilt : s'.build now = s' := by
        unfold PapLayer.build
        rw [hsilent hpending]
      rw [hbuilt]
      cases hasks : (pppPapPollTimeout now s'.dispatchFrame.credentials s'.dispatchFrame.pap).1.requestPending with
      | true => exact htimer s' (hlength (papDue_lowerUp (papDue_of_timeout l.peerFlags hasks)))
      | false =>
        refine hands_of_active ?_
        rw [← papDispatchFrame_transmit s']
        unfold PapLayer.timer PapLayer.build
        dsimp only
        rw [hsilent hasks]
  · refine hands_of_active ?_
    unfold PapLayer.lowerDown
    split
    · rfl
    · rfl

/-- A Response is due: it is pending, or the frame is a valid Challenge. -/
def chapDue (s : ChapLayer) : Bool :=
  s.chap.state = .responsePending || s.dispatches && validChallenge s.receive.decoder

lemma chapLowerUp_pending {flags : PeerFlags} {h : Chap} :
    (pppChapLowerUp flags c h).state = .responsePending ↔ h.state = .responsePending := by
  unfold pppChapLowerUp
  by_cases hinactive : h.state = .inactive
  · rw [if_neg (not_not.mpr hinactive), hinactive]
    dsimp only
    split_ifs <;> simp
  · rw [if_pos hinactive]

/-- A Response that becomes pending answers a valid Challenge. -/
lemma validChallenge_of_pending {d : Decoder} {h : Chap} (hbefore : h.state ≠ .responsePending)
    (hpending : (pppChapReceiveFrame d c h).1.state = .responsePending) : validChallenge d = true := by
  by_contra hinvalid
  have hstate := (receiveFrame_refused (c := c) (h := h) fun haccepted => hinvalid haccepted.2).1.state
  rw [hpending] at hstate
  rcases hstate with hsame | ⟨-, hopened | hfailed⟩
  · exact hbefore hsame.symm
  · cases hopened
  · cases hfailed

/-- **The poll of CHAP.** -/
theorem chapPoll_hands (l : Lcp) (s : ChapLayer)
    (hlength : linkUp connected s.receive l.state = true → chapDue s = true →
      chapResponseLength s.credentials ≤ max mru.toNat 4) :
    Hands (Limited mru) s.transmit (pppChapPoll connected l s).transmit := by
  let s' : ChapLayer := { s with chap := pppChapLowerUp l.peerFlags s.credentials s.chap }
  unfold pppChapPoll
  split
  · rename_i hup
    replace hlength := hlength hup
    change Hands _ s'.transmit (ChapLayer.dispatchFrame s'.build).transmit
    have hdispatched (s : ChapLayer) (h : chapResponseLength s.credentials ≤ max mru.toNat 4) :
        Hands (Limited mru) s.transmit s.dispatchFrame.transmit := by
      unfold ChapLayer.dispatchFrame
      split
      · exact chapBuildPending_hands ((chapResponseLength_le (chapReceiveFrame_credentials _ _)).trans h)
      split
      · exact .refl _
      · exact .refl _
    by_cases hpending : s'.chap.state = .responsePending
    · have hcredentials : chapResponseLength s'.credentials ≤ max mru.toNat 4 :=
        hlength (by simp [chapDue, chapLowerUp_pending.mp hpending])
      have hbuilt : Hands (Limited mru) s'.transmit s'.build.transmit := chapBuildPending_hands hcredentials
      exact hbuilt.trans (hdispatched _ hcredentials) (chapDispatchFrame_gives _)
    · rw [ChapLayer.build_of_ne hpending]
      by_cases hasks : s'.dispatches = true ∧ s'.received.chap.state = .responsePending
      · have hdispatches : s.dispatches = true := hasks.1
        have hvalid : validChallenge s.receive.decoder = true := validChallenge_of_pending hpending hasks.2
        exact hdispatched s' (hlength (by simp [chapDue, hdispatches, hvalid]))
      · refine hands_of_active ?_
        unfold ChapLayer.dispatchFrame
        split
        · rename_i hdispatches
          have hquiet : s'.received.chap.state ≠ .responsePending := fun h => hasks ⟨hdispatches, h⟩
          rw [ChapLayer.build_of_ne (s := { s'.received with receive := pppReleaseFrame s'.receive }) hquiet]
          rfl
        split
        · rfl
        · rfl
  · refine hands_of_active ?_
    unfold ChapLayer.lowerDown
    split
    · rfl
    · rfl

end Authentication

/-! ### IPCP -/

section Ipcp

variable (now : UInt32) {mru : UInt16} {s : IpcpLayer}

lemma ipcpServicePending_hands (hlength : ipcpLength s.receive.decoder.frameBuffer s.ram s.ipcp ≤ max mru.toNat 4) :
    Hands (Limited mru) s.transmit (s.servicePending now).1.transmit := by
  have hbuild : Hands (Limited mru) s.transmit
      (pppIpcpBuildPending now s.receive.decoder.frameBuffer s.ram s.ipcp s.transmit).2.1 := by
    unfold pppIpcpBuildPending
    split
    · exact .refl _
    split
    · exact .refl _
    · rename_i output length hbuilt
      have hbegin : Hands (Limited mru) s.transmit (pppTransmitBegin { s.transmit with buffer := output } length).1 :=
        hands_begin (buildIpcpAction_limited hbuilt hlength)
      split
      · rename_i t heq
        rw [heq] at hbegin
        exact hbegin
      · rename_i t heq
        rw [heq] at hbegin
        exact hbegin
  unfold IpcpLayer.servicePending
  split
  · exact .refl _
  split
  · rename_i ipcp transmit heq
    rw [heq] at hbuild
    exact hbuild
  · rename_i ipcp transmit heq
    rw [heq] at hbuild
    dsimp only
    rw [ipcpSent_transmit]
    exact hbuild

lemma ipcpServicePending_taken (hpending : s.ipcp.pendingAction ≠ .none) (htaken : (s.servicePending now).2 = false) :
    (s.servicePending now).1.transmit.active = true := by
  have hcases := ipcpBuildPending_cases now s.transmit s.receive.decoder.frameBuffer s.ram s.ipcp
  unfold IpcpLayer.servicePending at htaken ⊢
  rw [if_neg hpending] at htaken ⊢
  generalize pppIpcpBuildPending now s.receive.decoder.frameBuffer s.ram s.ipcp s.transmit = built at hcases htaken ⊢
  obtain ⟨p, t, carry⟩ := built
  cases carry with
  | true => contradiction
  | false =>
    dsimp only
    rw [ipcpSent_transmit]
    exact (hcases.resolve_left fun h => Bool.false_ne_true h.1).2.2.2

/-- An idle encoder takes a Configure-Request. -/
lemma ipcpServicePending_request (hrequest : s.ipcp.pendingAction = .configureRequest)
    (hidle : s.transmit.active = false) : (s.servicePending now).2 = false := by
  have hdata := requestData_length_le s.ipcp
  unfold IpcpLayer.servicePending pppIpcpBuildPending buildIpcpAction
  rw [if_neg (by rw [hrequest]; nofun), hidle, if_neg Bool.false_ne_true, hrequest]
  dsimp only
  generalize hbuilt : buildPacket (write s.transmit.buffer 0 [0xff, 0x03, 0x80, 0x21]) 1 s.ipcp.requestIdentifier
    s.ipcp.requestData = built
  have hlength : built.2.toNat = 8 + s.ipcp.requestData.length := by
    rw [← hbuilt]
    exact buildPacket_length _ _ _ _ (by omega)
  have hfits : built.2 ≤ maximumTransmitFrameLength := by
    rw [UInt16.le_iff_toNat_le, hlength]
    change _ ≤ 1504
    omega
  rw [transmitBegin_eq, if_pos ⟨rfl, hfits⟩]

/-- With what the packet is made that a service gives to an idle encoder. -/
def offers (now : UInt32) (s : IpcpLayer) : Option (Buffer × Ipcp) :=
  if s.ipcp.pendingAction ≠ .none then some (s.ram, s.ipcp)
  else if s.receive.frameReady && s.receive.decoder.lastProtocol = protocolIpcp then
    match pppIpcpReceiveFrame s.receive.decoder s.ram s.ipcp with
    | (ram, p, _) => some (ram, if p.pendingAction = .none then pppIpcpPollTimeout now p else p)
  else if s.receive.frameReady && s.receive.decoder.lastProtocol = protocolIp then none
  else some (s.ram, pppIpcpPollTimeout now s.ipcp)

lemma ipcpReceive_hands (hnone : s.ipcp.pendingAction = .none) (hprotocol : s.receive.decoder.lastProtocol = protocolIpcp)
    (hlength : ∀ ram p carry, pppIpcpReceiveFrame s.receive.decoder s.ram s.ipcp = (ram, p, carry) →
      ipcpLength s.receive.decoder.frameBuffer ram (if p.pendingAction = .none then pppIpcpPollTimeout now p else p) ≤
        max mru.toNat 4) :
    Hands (Limited mru) s.transmit (s.receiveIpcp now).transmit := by
  have hanswers (huses : (pppIpcpReceiveFrame s.receive.decoder s.ram s.ipcp).2.1.pendingAction.usesFrame = true) :=
    ipcpReceiveFrame_answers hprotocol (by rw [hnone]; rfl) huses
  unfold IpcpLayer.receiveIpcp
  generalize pppIpcpReceiveFrame s.receive.decoder s.ram s.ipcp = received at hanswers hlength ⊢
  obtain ⟨ram, p, carry⟩ := received
  have hfits := hlength ram p carry rfl
  dsimp only at hanswers ⊢
  by_cases hpending : p.pendingAction = .none
  · -- Nothing to answer: the restart timer is next.
    rw [if_pos hpending] at hfits
    rw [if_neg (by simp [hpending, IpcpAction.usesFrame])]
    have hserviced : IpcpLayer.servicePending now (IpcpLayer.release { s with ram := ram, ipcp := p }) =
        (IpcpLayer.release { s with ram := ram, ipcp := p }, false) := if_pos hpending
    rw [hserviced]
    exact ipcpServicePending_hands (s := { s with
      receive := pppReleaseFrame s.receive, ram := ram, ipcp := pppIpcpPollTimeout now p }) now hfits
  rw [if_neg hpending] at hfits
  split
  · -- A response, made of the frame.
    have hserviced := ipcpServicePending_hands (s := { s with ram := ram, ipcp := p }) now hfits
    have htaken := ipcpServicePending_taken (s := { s with ram := ram, ipcp := p }) now hpending
    generalize IpcpLayer.servicePending now { s with ram := ram, ipcp := p } = serviced at hserviced htaken ⊢
    obtain ⟨s', carry⟩ := serviced
    cases carry with
    | true => exact hserviced
    | false => exact hserviced.trans (hands_busy (htaken rfl)) ((ipcpSteps_gives now).timer s')
  · -- A new Configure-Request.
    rename_i hkeeps
    have hrequest : p.pendingAction = .configureRequest := by
      cases haction : p.pendingAction with
      | none => exact absurd haction hpending
      | configureRequest => rfl
      | _ =>
        obtain ⟨hcarry, -⟩ := hanswers (by rw [haction]; rfl)
        exact absurd (by rw [hcarry, haction]; rfl) hkeeps
    cases hidle : s.transmit.active with
    | true => exact hands_busy hidle
    | false =>
      have hserviced := ipcpServicePending_hands
        (s := IpcpLayer.release { s with ram := ram, ipcp := p }) now hfits
      have htaken := ipcpServicePending_request
        (s := IpcpLayer.release { s with ram := ram, ipcp := p }) now hrequest hidle
      exact hserviced.trans (hands_busy (ipcpServicePending_taken now hpending htaken)) ((ipcpSteps_gives now).timer _)

/-- What a service gives to an idle encoder. -/
lemma ipcpService_hands
    (hlength : ∀ offer ∈ offers now s, ipcpLength s.receive.decoder.frameBuffer offer.1 offer.2 ≤ max mru.toNat 4) :
    Hands (Limited mru) s.transmit (s.service now).transmit := by
  unfold offers at hlength
  by_cases hnone : s.ipcp.pendingAction = .none
  · rw [if_neg (not_not.mpr hnone)] at hlength
    have hserviced : s.servicePending now = (s, false) := if_pos hnone
    unfold IpcpLayer.service
    rw [hserviced]
    dsimp only
    cases hready : s.receive.frameReady with
    | false =>
      rw [hready] at hlength
      exact ipcpServicePending_hands (s := { s with ipcp := pppIpcpPollTimeout now s.ipcp }) now (hlength _ rfl)
    | true =>
      rw [hready] at hlength
      rw [if_pos rfl]
      unfold IpcpLayer.dispatchFrame
      dsimp only
      by_cases hipcp : s.receive.decoder.lastProtocol = protocolIpcp
      · rw [if_pos (by simp [hipcp])] at hlength
        rw [if_pos hipcp]
        refine ipcpReceive_hands now hnone hipcp fun ram p carry hreceived => ?_
        rw [hreceived] at hlength
        exact hlength _ rfl
      rw [if_neg (by simp [hipcp])] at hlength
      rw [if_neg hipcp]
      by_cases hip : s.receive.decoder.lastProtocol = protocolIp
      · rw [if_pos hip]
        exact .refl _
      · rw [if_neg (by simp [hip])] at hlength
        rw [if_neg hip]
        exact ipcpServicePending_hands (s := { s with
          receive := pppReleaseFrame s.receive, ipcp := pppIpcpPollTimeout now s.ipcp }) now (hlength _ rfl)
  · rw [if_pos hnone] at hlength
    have hserviced := ipcpServicePending_hands (s := s) now (hlength _ rfl)
    have htaken := ipcpServicePending_taken (s := s) now hnone
    unfold IpcpLayer.service
    generalize s.servicePending now = serviced at hserviced htaken ⊢
    obtain ⟨s', carry⟩ := serviced
    cases carry with
    | true => exact hserviced
    | false =>
      dsimp only
      split
      · exact hserviced.trans (hands_busy (htaken rfl)) ((ipcpSteps_gives now).dispatchFrame s')
      · exact hserviced.trans (hands_busy (htaken rfl)) ((ipcpSteps_gives now).timer s')

/-- The same for a poll. -/
def ipcpOffers (connected : Bool) (now : UInt32) (state : LcpState) (authenticated : Bool) (s : IpcpLayer) :
    Option (Buffer × Ipcp) :=
  if linkUp connected s.receive state && authenticated then
    match s.ipcp.state with
    | .closed => offers now { s with ipcp := pppIpcpLowerUp s.ipcp }
    | .stopped => none
    | _ => offers now s
  else none

/-- What the service offers fits, by the state before it and the frame. -/
lemma offers_fit {room : ℕ} (hfits : IpcpFits s.receive s.ipcp room) :
    ∀ offer ∈ offers now s, ipcpLength s.receive.decoder.frameBuffer offer.1 offer.2 ≤ room := by
  intro offer hoffer
  have htimer {ram : Buffer} {p : Ipcp} (hnone : p.pendingAction = .none) :
      ipcpLength s.receive.decoder.frameBuffer ram (pppIpcpPollTimeout now p) ≤ room :=
    (ipcpLength_of_own (ipcpPollTimeout_usesFrame now (by rw [hnone]; rfl))).trans hfits.1
  unfold offers at hoffer
  split_ifs at hoffer with hpending hipcp hip
  · obtain rfl := Option.some.inj hoffer
    exact ipcpLength_of_pending hpending hfits
  · -- The frame is one of IPCP: a request is answered, and the rest leads to a request of the client's own at most.
    have hnone : s.ipcp.pendingAction = .none := not_not.mp hpending
    simp only [Bool.and_eq_true, decide_eq_true_eq] at hipcp
    have hanswers (huses : (pppIpcpReceiveFrame s.receive.decoder s.ram s.ipcp).2.1.pendingAction.usesFrame = true) :=
      ipcpReceiveFrame_answers hipcp.2 (by rw [hnone]; rfl) huses
    generalize pppIpcpReceiveFrame s.receive.decoder s.ram s.ipcp = received at hoffer hanswers
    obtain ⟨ram, p, carry⟩ := received
    obtain rfl := Option.some.inj hoffer
    dsimp only at hanswers ⊢
    split_ifs with hdone
    · exact htimer hdone
    · refine ipcpLength_of_pending hdone ⟨hfits.1, ?_⟩
      have hresponse := hfits.2
      rw [hnone] at hresponse
      dsimp only at hresponse
      replace hresponse := hresponse hipcp.1 hipcp.2
      cases haction : p.pendingAction with
      | none => exact absurd haction hdone
      | configureRequest => trivial
      | configureAck =>
        obtain ⟨-, hoffer⟩ := hanswers (by rw [haction]; rfl)
        dsimp only
        rw [hoffer.packetLength]
        exact (hresponse hoffer.code).1
      | configureNak =>
        obtain ⟨-, hoffer⟩ := hanswers (by rw [haction]; rfl)
        dsimp only
        rw [hoffer.packetEnd]
        exact (hresponse hoffer.code).2
      | configureReject =>
        obtain ⟨-, hoffer⟩ := hanswers (by rw [haction]; rfl)
        dsimp only
        rw [hoffer.packetEnd]
        exact (hresponse hoffer.code).2
  · cases hoffer
  · obtain rfl := Option.some.inj hoffer
    exact htimer (not_not.mp hpending)

lemma ipcpOffers_fit {connected : Bool} {state : LcpState} {authenticated : Bool} {room : ℕ}
    (hfits : (linkUp connected s.receive state && authenticated) = true → s.ipcp.state ≠ .stopped →
      IpcpFits s.receive s.ipcp room) :
    ∀ offer ∈ ipcpOffers connected now state authenticated s,
      ipcpLength s.receive.decoder.frameBuffer offer.1 offer.2 ≤ room := by
  unfold ipcpOffers
  split
  · rename_i hup
    replace hfits := hfits hup
    split
    · -- IPCP comes up, with a request.
      rename_i hclosed
      have hrequest : (pppIpcpLowerUp s.ipcp).pendingAction = .configureRequest := by
        unfold pppIpcpLowerUp
        rw [if_neg (not_not.mpr hclosed)]
        rfl
      refine offers_fit (s := { s with ipcp := pppIpcpLowerUp s.ipcp }) now ⟨(hfits (by rw [hclosed]; nofun)).1, ?_⟩
      dsimp only
      rw [hrequest]
      trivial
    · intro offer hoffer
      cases hoffer
    · rename_i hstopped
      exact offers_fit now (hfits hstopped)
  · intro offer hoffer
    cases hoffer

/-- **The poll of IPCP.** -/
theorem ipcpPoll_hands (connected : Bool) (state : LcpState) (authenticated : Bool)
    (hfits : (linkUp connected s.receive state && authenticated) = true → s.ipcp.state ≠ .stopped →
      IpcpFits s.receive s.ipcp (max mru.toNat 4)) :
    Hands (Limited mru) s.transmit (pppIpcpPoll connected now state authenticated s).transmit := by
  have hlength := ipcpOffers_fit now hfits
  unfold ipcpOffers at hlength
  unfold pppIpcpPoll
  split
  · rename_i hup
    rw [if_pos hup] at hlength
    split
    · rename_i hclosed
      rw [hclosed] at hlength
      exact ipcpService_hands (s := { s with ipcp := pppIpcpLowerUp s.ipcp }) now hlength
    · exact .refl _
    · rename_i hclosed hstopped
      refine ipcpService_hands now fun offer hoffer => hlength offer ?_
      split
      · exact absurd ‹_› hclosed
      · exact absurd ‹_› hstopped
      · exact hoffer
  · unfold IpcpLayer.lowerDown
    split
    · exact .refl _
    extract_lets s'
    split
    · exact .refl _
    · exact hands_abort s.transmit

end Ipcp

end SnesModem.Asm.HandedFrames
