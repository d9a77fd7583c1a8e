import SnesModem.Asm.LcpConfiguration
import SnesModem.Asm.RetainedResponse

/-!
# The polls that accept a packet

A poll accepts a packet whose response is made of the received frame when it leaves the response pending.

* `LcpLayer.offered`, `IpcpLayer.offered`: the variables with which the response is given to the encoder;
* `lcpPoll_offers`, `ipcpPoll_offers`: a response that is owed after a poll was offered by it, once.
-/

namespace SnesModem.Asm

open SnesModem.Lib.Cpu65816 SnesModem.Lib.Octets

/-! ### Received LCP packets -/

/-- What a packet leaves that is to be answered with a response made of it. -/
structure LcpAnswerable (d : Decoder) (l l' : Lcp) : Prop where
  keepsFrame : l'.pendingAction.keepsFrame = true
  up : l'.state ≠ .closed ∧ l'.state ≠ .stopped
  receiveCount : l'.receiveCount = l.receiveCount
  packetEnd : l'.packetEnd = l.packetEnd
  code : l'.pendingAction.readsMaps = true → (d.frameBuffer 4).toNat = 1

section LcpPacket

variable (d : Decoder) (l : Lcp)

lemma commitOption_receiveCount (buffer : Buffer) (y : UInt16) :
    (commitOption buffer l y).receiveCount = l.receiveCount := by
  unfold commitOption
  dsimp only
  split
  · rfl
  · rfl
  · split <;> rfl
  · rfl
  · rfl

lemma evaluatePeerRequest_receiveCount (buffer : Buffer) :
    (pppLcpEvaluatePeerRequest buffer l).2.receiveCount = l.receiveCount := by
  have hcommit (offsets : List UInt16) (l' : Lcp) :
      (offsets.foldl (commitOption buffer) l').receiveCount = l'.receiveCount := by
    induction offsets generalizing l' with
    | nil => rfl
    | cons y offsets ih => exact (ih _).trans (commitOption_receiveCount l' buffer y)
  unfold pppLcpEvaluatePeerRequest
  dsimp only
  split_ifs
  · rfl
  · rfl
  · exact hcommit _ _

variable {d l}

lemma receiveConfigureRequest_answerable (hdone : l.pendingAction.usesFrame = false)
    (hup : ¬ (l.state = .closed ∨ l.state = .stopped)) (hcode : (d.frameBuffer 4).toNat = 1)
    (huses : (receiveConfigureRequest d l).1.pendingAction.usesFrame = true) :
    (receiveConfigureRequest d l).2 = false ∧ LcpAnswerable d l (receiveConfigureRequest d l).1 := by
  have hkept := evaluatePeerRequest_kept d.frameBuffer l
  have hcount := evaluatePeerRequest_receiveCount l d.frameBuffer
  have haction := evaluatePeerRequest_action d.frameBuffer l
  unfold receiveConfigureRequest at huses ⊢
  by_cases hclosing : l.state = .closing
  · rw [if_pos hclosing] at huses
    exact absurd (hdone.symm.trans huses) (by decide)
  · rw [if_neg hclosing]
    generalize pppLcpEvaluatePeerRequest d.frameBuffer l = evaluated at hkept hcount haction
    obtain ⟨action, l'⟩ := evaluated
    have hkeeps : action.keepsFrame = true := by
      cases action with
      | configureAck | configureNak | configureReject => rfl
      | _ => cases haction
    have hstate : l'.state ≠ .closed ∧ l'.state ≠ .stopped := by
      rw [hkept.state]
      exact not_or.mp hup
    dsimp only
    split_ifs
    · exact ⟨rfl, hkeeps, ⟨nofun, nofun⟩, hcount, hkept.packetEnd, fun _ => hcode⟩
    · exact ⟨rfl, hkeeps, ⟨nofun, nofun⟩, hcount, hkept.packetEnd, fun _ => hcode⟩
    · exact ⟨rfl, hkeeps, ⟨nofun, nofun⟩, hcount, hkept.packetEnd, fun _ => hcode⟩
    · exact ⟨rfl, hkeeps, ⟨nofun, nofun⟩, hcount, hkept.packetEnd, fun _ => hcode⟩
    · exact ⟨rfl, hkeeps, hstate, hcount, hkept.packetEnd, fun _ => hcode⟩
    · exact ⟨rfl, hkeeps, ⟨nofun, nofun⟩, hcount, hkept.packetEnd, fun _ => hcode⟩

lemma receiveConfigureAck_done (hdone : l.pendingAction.usesFrame = false) :
    (receiveConfigureAck d l).1.pendingAction.usesFrame = false := by
  unfold receiveConfigureAck
  split
  · exact hdone
  split
  · exact hdone
  extract_lets l'
  split
  · exact hdone
  · exact hdone
  · rfl
  · rfl
  · exact hdone

lemma receiveConfigureNegative_done (hdone : l.pendingAction.usesFrame = false) :
    (receiveConfigureNegative d l).1.pendingAction.usesFrame = false := by
  have hsame := applyNegativeOptions_suggested d.frameBuffer l (options d.frameBuffer l.packetEnd) false
  unfold receiveConfigureNegative
  split
  · exact hdone
  split
  · exact hdone
  split
  · rename_i l' heq
    rw [heq] at hsame
    exact (congrArg LcpAction.usesFrame hsame.pendingAction).trans hdone
  · rfl

/-- **A packet whose response is made of it** is not dropped, and LCP is up. -/
theorem receivePacket_answerable (hdone : l.pendingAction.usesFrame = false)
    (huses : (receivePacket d l).1.pendingAction.usesFrame = true) :
    (receivePacket d l).2 = false ∧ LcpAnswerable d l (receivePacket d l).1 := by
  have hnot {action : LcpAction} (h : action.usesFrame = false) (h' : action.usesFrame = true) : False := by
    rw [h] at h'
    contradiction
  unfold receivePacket at huses ⊢
  by_cases hdown : l.state = .closed ∨ l.state = .stopped
  · rw [if_pos hdown] at huses
    exact (hnot hdone huses).elim
  rw [if_neg hdown] at huses ⊢
  split at huses
  · rename_i hcode
    exact receiveConfigureRequest_answerable hdone hdown hcode huses
  · exact (hnot (receiveConfigureAck_done hdone) huses).elim
  · exact (hnot (receiveConfigureNegative_done hdone) huses).elim
  · exact (hnot (receiveConfigureNegative_done hdone) huses).elim
  · exact (hnot rfl huses).elim
  · exfalso
    unfold receiveTerminateAck at huses
    split_ifs at huses
    · exact hnot hdone huses
    · exact hnot hdone huses
    · exact hnot rfl huses
  · exact (hnot hdone huses).elim
  · exact (hnot hdone huses).elim
  · unfold receiveEchoRequest at huses ⊢
    split_ifs at huses ⊢ with hopened hlength hmagic
    · exact (hnot hdone huses).elim
    · exact (hnot hdone huses).elim
    · exact (hnot hdone huses).elim
    · exact ⟨rfl, rfl, not_or.mp hdown, rfl, rfl, nofun⟩
  · exfalso
    unfold receiveMaintenance at huses
    split_ifs at huses
    · exact hnot hdone huses
    · exact hnot hdone huses
  · exfalso
    unfold receiveMaintenance at huses
    split_ifs at huses
    · exact hnot hdone huses
    · exact hnot hdone huses
  · exact ⟨rfl, rfl, not_or.mp hdown, rfl, rfl, nofun⟩

/-- The parser has walked through the options of the Configure packets that it accepts. -/
lemma parseFrame_walk (haccepted : (pppLcpParseFrame d l).2 = false) (hcode : (d.frameBuffer 4).toNat = 1) :
    optionLoop d.frameBuffer (pppLcpParseFrame d l).1.packetEnd maximumTurns firstOption = none := by
  by_cases hkept : d.lastProtocol = protocolLcp ∧ 8 ≤ d.lastFrameLength.toNat ∧
      4 ≤ (declaredLength d).toNat ∧ (declaredLength d + frameOffset).toNat ≤ d.lastFrameLength.toNat
  · obtain ⟨hprotocol, hheader, hfour, hwithin⟩ := hkept
    rw [parseFrame_eq hprotocol hheader hfour hwithin] at haccepted ⊢
    obtain ⟨error, hfst⟩ := parseOptions_fst d (readHeader d l)
    rw [hfst]
    exact (parseOptions_snd d (readHeader d l)).mp haccepted (toNat_lastCode hcode (by decide))
  · rw [parseFrame_dropped hkept] at haccepted
    contradiction

end LcpPacket

/-! ### The poll of LCP -/

namespace LcpLayer

/-- The variables with which the response to the completed frame is given to the encoder. -/
def offered (d : Decoder) (l : Lcp) : Option Lcp :=
  if d.lastProtocol = protocolLcp then
    match pppLcpReceiveFrame d l with
    | (l, carry) => if !carry && l.pendingAction.keepsFrame then some l else none
  else if l.state = .opened ∧ !knownUpperProtocol d.lastProtocol then some (pppLcpRejectProtocol l)
  else none

end LcpLayer

/-- A response that is offered to the encoder, made of the received frame. -/
structure LcpOffer (d : Decoder) (l l' : Lcp) : Prop where
  foreign : LcpLayer.knownUpperProtocol d.lastProtocol = false
  up : l'.state ≠ .closed ∧ l'.state ≠ .stopped
  walk : l'.pendingAction.readsMaps = true → optionLoop d.frameBuffer l'.packetEnd maximumTurns firstOption = none
  receiveCount : l'.receiveCount = if d.lastProtocol = protocolLcp then l.receiveCount + 1 else l.receiveCount

section LcpPoll

open LcpLayer

variable {d : Decoder} {l l' : Lcp}

/-- **A packet that is to be answered** is offered. -/
lemma receiveFrame_offered (hprotocol : d.lastProtocol = protocolLcp) (hdone : l.pendingAction.usesFrame = false)
    (huses : (pppLcpReceiveFrame d l).1.pendingAction.usesFrame = true) :
    offered d l = some (pppLcpReceiveFrame d l).1 ∧ LcpOffer d l (pppLcpReceiveFrame d l).1 := by
  have hkept := pendingAction_parseFrame d l
  have hwalk := parseFrame_walk (d := d) (l := l)
  have hcount : (pppLcpParseFrame d l).2 = false →
      (pppLcpParseFrame d l).1.receiveCount = l.receiveCount + 1 := by
    intro haccepted
    obtain ⟨-, -, error, hparsed⟩ := parseFrame_eq_of_accepted haccepted
    rw [hparsed]
    rfl
  have hforeign : knownUpperProtocol d.lastProtocol = false := by
    rw [hprotocol]
    decide
  unfold offered
  rw [if_pos hprotocol]
  unfold pppLcpReceiveFrame at huses ⊢
  generalize pppLcpParseFrame d l = parsed at hkept hwalk hcount huses ⊢
  obtain ⟨l₁, carry⟩ := parsed
  cases carry with
  | true =>
    dsimp only at hkept huses
    rw [hkept, hdone] at huses
    contradiction
  | false =>
    have hdone' : l₁.pendingAction.usesFrame = false := (congrArg LcpAction.usesFrame hkept).trans hdone
    dsimp only at huses ⊢
    obtain ⟨hcarry, hanswerable⟩ := receivePacket_answerable hdone' huses
    generalize receivePacket d l₁ = received at hcarry hanswerable huses ⊢
    obtain ⟨l₂, carry⟩ := received
    obtain rfl : carry = false := hcarry
    refine ⟨by simp [hanswerable.keepsFrame], hforeign, hanswerable.up, fun hreads => ?_, ?_⟩
    · rw [hanswerable.packetEnd]
      exact hwalk rfl (hanswerable.code hreads)
    · rw [if_pos hprotocol, hanswerable.receiveCount]
      exact hcount rfl

variable (now : UInt32) (s : LcpLayer)

lemma lcpOffer_of_offered (hdone : l.pendingAction.usesFrame = false) (hoffered : offered d l = some l')
    (huses : l'.pendingAction.usesFrame = true) : LcpOffer d l l' := by
  by_cases hprotocol : d.lastProtocol = protocolLcp
  · have hsame : (pppLcpReceiveFrame d l).1 = l' := by
      unfold offered at hoffered
      rw [if_pos hprotocol] at hoffered
      generalize pppLcpReceiveFrame d l = received at hoffered ⊢
      obtain ⟨l₁, carry⟩ := received
      dsimp only at hoffered ⊢
      split_ifs at hoffered
      exact Option.some.inj hoffered
    rw [← hsame] at huses ⊢
    exact (receiveFrame_offered hprotocol hdone huses).2
  · unfold offered at hoffered
    rw [if_neg hprotocol] at hoffered
    split_ifs at hoffered with hrejects
    obtain rfl := Option.some.inj hoffered
    obtain ⟨hopened, hunknown⟩ := hrejects
    have hstate : (pppLcpRejectProtocol l).state = .opened := hopened
    exact ⟨by simpa using hunknown, by simp [hstate], nofun, (if_neg hprotocol).symm⟩

/-- A response is offered with the frame in the buffer. -/
lemma lcpDispatchFrame_offered (hoffered : offered s.receive.decoder s.lcp = some l') :
    s.dispatchFrame now = ({ s with lcp := l' } : LcpLayer).serviceThenTimer now := by
  unfold offered at hoffered
  unfold dispatchFrame
  dsimp only
  split_ifs at hoffered with hprotocol hrejects
  · rw [if_pos hprotocol]
    unfold receiveLcp
    generalize pppLcpReceiveFrame s.receive.decoder s.lcp = received at hoffered ⊢
    obtain ⟨l, carry⟩ := received
    dsimp only at hoffered ⊢
    split_ifs at hoffered with hkeeps
    obtain rfl := Option.some.inj hoffered
    rw [if_pos hkeeps]
  · obtain rfl := Option.some.inj hoffered
    obtain ⟨hopened, hunknown⟩ := hrejects
    rw [if_neg hprotocol, if_neg (not_not.mpr hopened), if_neg (by simpa using hunknown)]

/-- No response is owed, no packet was received, and the frame is there or released. -/
structure LcpQuiet (s s' : LcpLayer) : Prop where
  done : s'.lcp.pendingAction.usesFrame = false
  receiveCount : s'.lcp.receiveCount = s.lcp.receiveCount
  receive : s'.receive = s.receive ∨ s'.receive = pppReleaseFrame s.receive

lemma lcpSent_quiet {s : LcpLayer} {action : LcpAction} (haction : action.usesFrame = false)
    (hdone : s.lcp.pendingAction.usesFrame = false) : LcpQuiet s (s.sent action) := by
  unfold sent
  rw [haction, if_neg (by decide)]
  split
  · dsimp only
    split
    · exact ⟨hdone, rfl, Or.inr rfl⟩
    · exact ⟨rfl, rfl, Or.inr rfl⟩
  · exact ⟨hdone, rfl, Or.inl rfl⟩

lemma lcpServicePending_quiet (hdone : s.lcp.pendingAction.usesFrame = false) :
    LcpQuiet s (s.servicePending now).1 := by
  have hrefused := lcpBuildPending_refused (d := s.receive.decoder) (l := s.lcp) now s.transmit
  have htaken := lcpBuildPending_taken (d := s.receive.decoder) (l := s.lcp) now s.transmit
  unfold servicePending
  split
  · exact ⟨hdone, rfl, Or.inl rfl⟩
  generalize pppLcpBuildPending now s.receive.decoder s.lcp s.transmit = built at hrefused htaken ⊢
  obtain ⟨lcp, t, carry⟩ := built
  cases carry with
  | true =>
    obtain rfl : lcp = s.lcp := hrefused rfl
    exact ⟨hdone, rfl, Or.inl rfl⟩
  | false =>
    obtain ⟨hpending, hcount⟩ : lcp.pendingAction = .none ∧ lcp.receiveCount = s.lcp.receiveCount := htaken rfl
    have hquiet := lcpSent_quiet (s := { s with lcp := lcp, transmit := t }) hdone
      (congrArg LcpAction.usesFrame hpending)
    exact ⟨hquiet.done, hquiet.receiveCount.trans hcount, hquiet.receive⟩

lemma lcpTimer_done (hdone : s.lcp.pendingAction.usesFrame = false) :
    (s.timer now).lcp.pendingAction.usesFrame = false :=
  (lcpServicePending_quiet now { s with lcp := pppLcpPollTimeout now s.lcp } (pollTimeout_usesFrame now hdone)).done

lemma lcpServiceThenTimer_done (hdone : s.lcp.pendingAction.usesFrame = false) :
    (s.serviceThenTimer now).lcp.pendingAction.usesFrame = false := by
  have hquiet := lcpServicePending_quiet now s hdone
  unfold serviceThenTimer
  generalize servicePending now s = serviced at hquiet
  obtain ⟨s', carry⟩ := serviced
  cases carry with
  | true => exact hquiet.done
  | false => exact lcpTimer_done now s' hquiet.done

/-- A frame without an offered response leaves none behind. -/
lemma lcpDispatchFrame_done (hdone : s.lcp.pendingAction.usesFrame = false)
    (hnone : offered s.receive.decoder s.lcp = none) : (s.dispatchFrame now).lcp.pendingAction.usesFrame = false := by
  unfold dispatchFrame
  dsimp only
  by_cases hprotocol : s.receive.decoder.lastProtocol = protocolLcp
  · rw [if_pos hprotocol]
    have hreceived : (pppLcpReceiveFrame s.receive.decoder s.lcp).1.pendingAction.usesFrame = false := by
      by_contra huses
      rw [Bool.not_eq_false] at huses
      obtain ⟨hsome, -⟩ := receiveFrame_offered hprotocol hdone huses
      rw [hnone] at hsome
      contradiction
    unfold receiveLcp
    generalize pppLcpReceiveFrame s.receive.decoder s.lcp = received at hreceived
    obtain ⟨l, carry⟩ := received
    dsimp only at hreceived ⊢
    split
    · exact lcpServiceThenTimer_done now { s with lcp := l } hreceived
    · exact lcpTimer_done now _ (lcpServicePending_quiet now (release { s with lcp := l }) hreceived).done
  · rw [if_neg hprotocol]
    split
    · exact lcpTimer_done now s.release hdone
    rename_i hopened
    split
    · exact lcpTimer_done now s hdone
    · rename_i hunknown
      unfold offered at hnone
      rw [if_neg hprotocol, if_pos ⟨not_not.mp hopened, by simpa using hunknown⟩] at hnone
      contradiction

/-- The variables at the dispatch of the completed frame, `s'`, and after a poll that leaves a response pending, `a`.
-/
structure LcpOffers (s s' a : LcpLayer) : Prop where
  enabled : s.receive.enabled = true
  frameReady : s.receive.frameReady = true
  dispatched : s'.receive = s.receive
  receive : a.receive = s.receive
  receiveCount : s'.lcp.receiveCount = s.lcp.receiveCount
  offered : LcpLayer.offered s.receive.decoder s'.lcp = some a.lcp
  offer : LcpOffer s.receive.decoder s'.lcp a.lcp

lemma lcpServiceExistingPending_offers (hdone : s.lcp.pendingAction.usesFrame = false)
    (howes : (s.serviceExistingPending now).lcp.pendingAction.usesFrame = true) (henabled : s.receive.enabled = true) :
    ∃ s', ready now s = some s' ∧ LcpOffers s s' (s.serviceExistingPending now) := by
  have hquiet := lcpServicePending_quiet now s hdone
  have hnot {action : LcpAction} (h : action.usesFrame = false) (h' : action.usesFrame = true) : False := by
    rw [h] at h'
    contradiction
  unfold serviceExistingPending at howes ⊢
  unfold ready
  generalize servicePending now s = serviced at hquiet howes ⊢
  obtain ⟨s', carry⟩ := serviced
  cases carry with
  | true => exact (hnot hquiet.done howes).elim
  | false =>
    dsimp only at hquiet howes ⊢
    by_cases hready : s'.receive.frameReady = true
    · rw [if_pos hready] at howes ⊢
      have hreceive : s'.receive = s.receive := hquiet.receive.resolve_right fun h => by
        rw [h] at hready
        contradiction
      rw [if_pos hready]
      refine ⟨s', rfl, ?_⟩
      cases hoffered : offered s'.receive.decoder s'.lcp with
      | none => exact (hnot (lcpDispatchFrame_done now s' hquiet.done hoffered) howes).elim
      | some l =>
        rw [lcpDispatchFrame_offered now s' hoffered] at howes ⊢
        have huses : l.pendingAction.usesFrame = true := by
          by_contra hdone'
          rw [Bool.not_eq_true] at hdone'
          exact hnot (lcpServiceThenTimer_done now { s' with lcp := l } hdone') howes
        cases lcpServiceThenTimer_served now { s' with lcp := l } huses with
        | taken _ _ htaken => exact (hnot htaken.done howes).elim
        | refused _ hsame =>
          rw [hsame]
          rw [hreceive] at hoffered hready
          exact ⟨henabled, hready, hreceive, hreceive, hquiet.receiveCount, hoffered,
            lcpOffer_of_offered hquiet.done hoffered huses⟩
    · rw [if_neg hready] at howes
      exact (hnot (lcpTimer_done now s' hquiet.done) howes).elim

lemma lcpOpen_quiet (hdone : s.lcp.pendingAction.usesFrame = false) :
    LcpQuiet s { s with lcp := pppLcpOpen now s.lcp } := by
  unfold pppLcpOpen
  dsimp only
  split
  · exact ⟨hdone, rfl, Or.inl rfl⟩
  · exact ⟨rfl, rfl, Or.inl rfl⟩

lemma closeIfIdle_quiet (hdone : s.lcp.pendingAction.usesFrame = false) : LcpQuiet s s.closeIfIdle := by
  unfold closeIfIdle
  split
  · unfold pppLcpClose
    dsimp only
    split
    · exact ⟨rfl, rfl, Or.inl rfl⟩
    split
    · exact ⟨hdone, rfl, Or.inl rfl⟩
    split
    · exact ⟨hdone, rfl, Or.inl rfl⟩
    · exact ⟨rfl, rfl, Or.inl rfl⟩
  · exact ⟨hdone, rfl, Or.inl rfl⟩

lemma closeIfIdle_receive : s.closeIfIdle.receive = s.receive := by
  unfold closeIfIdle
  split
  · rfl
  · rfl

/-- **A response that LCP owes** after a poll was offered by it, in the one dispatch of the frame. -/
theorem lcpPoll_offers (connected : Bool) (hdone : s.lcp.pendingAction.usesFrame = false)
    (howes : (pppLcpPoll connected now s).lcp.pendingAction.usesFrame = true) :
    ∃ s', dispatched connected now s = some s' ∧ LcpOffers s s' (pppLcpPoll connected now s) := by
  have hnot {action : LcpAction} (h : action.usesFrame = false) (h' : action.usesFrame = true) : False := by
    rw [h] at h'
    contradiction
  have hservice (s₀ : LcpLayer) (hquiet : LcpQuiet s s₀) (hreceive : s₀.receive = s.receive)
      (howes : (s₀.serviceExistingPending now).lcp.pendingAction.usesFrame = true) (henabled : s.receive.enabled = true) :
      ∃ s', ready now s₀ = some s' ∧ LcpOffers s s' (s₀.serviceExistingPending now) := by
    obtain ⟨s', hready, hoffers⟩ := lcpServiceExistingPending_offers now s₀ hquiet.done howes (hreceive ▸ henabled)
    refine ⟨s', hready, ?_⟩
    obtain ⟨henabled, hframe, hdispatched, hafter, hcount, hoffered, hoffer⟩ := hoffers
    rw [hreceive] at henabled hframe hdispatched hafter hoffered hoffer
    exact ⟨henabled, hframe, hdispatched, hafter, hcount.trans hquiet.receiveCount, hoffered, hoffer⟩
  unfold pppLcpPoll at howes ⊢
  unfold dispatched
  by_cases hdown : (!s.receive.enabled || !connected) = true
  · rw [if_pos hdown] at howes
    unfold lowerUnavailable at howes
    dsimp only at howes
    split at howes
    · exact (hnot hdone howes).elim
    · exact (hnot rfl howes).elim
  rw [if_neg hdown] at howes
  rw [if_neg hdown, if_neg hdown]
  have henabled : s.receive.enabled = true := by
    cases h : s.receive.enabled with
    | true => rfl
    | false => simp [h] at hdown
  cases hstate : s.lcp.state with
  | closed =>
    rw [hstate] at howes
    dsimp only at howes ⊢
    split at howes
    · rename_i hopen
      rw [if_pos hopen, if_pos hopen]
      exact hservice _ (lcpOpen_quiet now s hdone) rfl howes henabled
    · exact (hnot hdone howes).elim
  | stopped =>
    rw [hstate] at howes
    exact (hnot hdone howes).elim
  | _ =>
    rw [hstate] at howes
    exact hservice _ (closeIfIdle_quiet s hdone) (closeIfIdle_receive s) howes henabled

end LcpPoll

/-! ### Received IPCP packets -/

namespace IpcpLayer

/-- The memory and the variables with which the response to the completed frame is given to the encoder. -/
def offered (d : Decoder) (ram : Buffer) (p : Ipcp) : Option (Buffer × Ipcp) :=
  if d.lastProtocol = protocolIpcp then
    match pppIpcpReceiveFrame d ram p with
    | (ram, p, carry) => if !carry && p.pendingAction.usesFrame then some (ram, p) else none
  else none

/-- The variables with which the completed frame is dispatched, once the pending action is out of the way. -/
def ready (now : UInt32) (s : IpcpLayer) : Option IpcpLayer :=
  match servicePending now s with
  | (_, true) => none
  | (s, false) => if s.receive.frameReady then some s else none

/-- The same for a whole poll. -/
def dispatched (connected : Bool) (now : UInt32) (state : LcpState) (authenticated : Bool) (s : IpcpLayer) :
    Option IpcpLayer :=
  if linkUp connected s.receive state && authenticated then
    match s.ipcp.state with
    | .closed => ready now { s with ipcp := pppIpcpLowerUp s.ipcp }
    | .stopped => none
    | _ => ready now s
  else none

end IpcpLayer

/-- A response that is offered to the encoder, made of the received frame. -/
structure IpcpOffer (d : Decoder) (p p' : Ipcp) : Prop where
  protocol : d.lastProtocol = protocolIpcp
  up : p'.state ≠ .closed ∧ p'.state ≠ .stopped
  walk : optionLoop d.frameBuffer p'.packetEnd maximumTurns firstOption = none
  receiveCount : p'.receiveCount = p.receiveCount + 1
  code : (d.frameBuffer 4).toNat = 1
  packetLength : p'.packetLength = word (d.frameBuffer 6) (d.frameBuffer 7)
  packetEnd : p'.packetEnd = word (d.frameBuffer 6) (d.frameBuffer 7) + frameOffset

section IpcpPacket

variable {d : Decoder} {buffer ram : Buffer} {p : Ipcp}

/-- What the answer to a request keeps. -/
structure IpcpKept (p p' : Ipcp) : Prop where
  packetLength : p'.packetLength = p.packetLength
  packetEnd : p'.packetEnd = p.packetEnd
  receiveCount : p'.receiveCount = p.receiveCount
  state : p'.state = p.state

lemma foldl_ipcpCommitOption_kept (offsets : List UInt16) (p : Ipcp) :
    IpcpKept p (offsets.foldl (ipcpCommitOption buffer) p) := by
  induction offsets generalizing p with
  | nil => exact ⟨rfl, rfl, rfl, rfl⟩
  | cons y offsets ih =>
    obtain ⟨hlength, hend, hcount, hstate⟩ := ih (ipcpCommitOption buffer p y)
    have hone : IpcpKept p (ipcpCommitOption buffer p y) := by
      unfold ipcpCommitOption
      split
      · exact ⟨rfl, rfl, rfl, rfl⟩
      · exact ⟨rfl, rfl, rfl, rfl⟩
    exact ⟨hlength.trans hone.packetLength, hend.trans hone.packetEnd, hcount.trans hone.receiveCount,
      hstate.trans hone.state⟩

lemma ipcpEvaluatePeerRequest_kept : IpcpKept p (pppIpcpEvaluatePeerRequest buffer ram p).2.2 := by
  unfold pppIpcpEvaluatePeerRequest
  dsimp only
  split_ifs
  · exact ⟨rfl, rfl, rfl, rfl⟩
  · exact ⟨rfl, rfl, rfl, rfl⟩
  · exact foldl_ipcpCommitOption_kept _ p

lemma applyIpcpRequest_up (action : IpcpAction) (hup : ¬ (p.state = .closed ∨ p.state = .stopped)) :
    (applyIpcpRequest action p).state ≠ .closed ∧ (applyIpcpRequest action p).state ≠ .stopped := by
  unfold applyIpcpRequest
  dsimp only
  split_ifs
  · exact ⟨nofun, nofun⟩
  · exact ⟨nofun, nofun⟩
  · exact ⟨nofun, nofun⟩
  · exact ⟨nofun, nofun⟩
  · exact not_or.mp hup
  · exact ⟨nofun, nofun⟩

lemma applyIpcpRequest_kept (action : IpcpAction) : (applyIpcpRequest action p).packetLength = p.packetLength ∧
    (applyIpcpRequest action p).packetEnd = p.packetEnd ∧
      (applyIpcpRequest action p).receiveCount = p.receiveCount := by
  unfold applyIpcpRequest
  dsimp only
  split_ifs <;> exact ⟨rfl, rfl, rfl⟩

lemma receiveIpcpAck_done (hdone : p.pendingAction.usesFrame = false) :
    (receiveIpcpAck buffer p).1.pendingAction.usesFrame = false := by
  unfold receiveIpcpAck
  split
  · exact hdone
  extract_lets p'
  split
  · exact hdone
  · exact hdone
  · rfl
  · rfl
  · exact hdone

lemma receiveIpcpNegative_done (accepted : Ipcp → Option Ipcp) (hdone : p.pendingAction.usesFrame = false) :
    (receiveIpcpNegative accepted p).1.pendingAction.usesFrame = false := by
  unfold receiveIpcpNegative
  split
  · exact hdone
  split
  · exact hdone
  · rfl

/-- What a packet leaves that is to be answered with a response made of it. -/
structure IpcpAnswerable (buffer : Buffer) (p p' : Ipcp) : Prop where
  up : p'.state ≠ .closed ∧ p'.state ≠ .stopped
  walk : optionLoop buffer p'.packetEnd maximumTurns firstOption = none
  receiveCount : p'.receiveCount = p.receiveCount
  code : p.lastCode.toNat = 1
  packetLength : p'.packetLength = p.packetLength
  packetEnd : p'.packetEnd = p.packetEnd

/-- **A packet whose response is made of it** is not dropped, and IPCP is up. -/
theorem validateIpcpOptions_answerable (hdone : p.pendingAction.usesFrame = false)
    (huses : (validateIpcpOptions buffer ram p).2.1.pendingAction.usesFrame = true) :
    (validateIpcpOptions buffer ram p).2.2 = false ∧ IpcpAnswerable buffer p (validateIpcpOptions buffer ram p).2.1 := by
  have hnot {action : IpcpAction} (h : action.usesFrame = false) (h' : action.usesFrame = true) : False := by
    rw [h] at h'
    contradiction
  have hdispatch (huses : (dispatchIpcp buffer ram p).2.1.pendingAction.usesFrame = true) :
      p.lastCode.toNat = 1 ∧ (dispatchIpcp buffer ram p).2.2 = false ∧
        (optionLoop buffer p.packetEnd maximumTurns firstOption = none →
          IpcpAnswerable buffer p (dispatchIpcp buffer ram p).2.1) := by
    have hkept : IpcpKept p (pppIpcpEvaluatePeerRequest buffer ram p).2.2 := ipcpEvaluatePeerRequest_kept
    unfold dispatchIpcp at huses ⊢
    by_cases hdown : p.state = .closed ∨ p.state = .stopped
    · rw [if_pos hdown] at huses
      exact (hnot hdone huses).elim
    rw [if_neg hdown] at huses ⊢
    split at huses
    · rename_i hcode
      generalize pppIpcpEvaluatePeerRequest buffer ram p = evaluated at hkept ⊢
      obtain ⟨action, ram', p'⟩ := evaluated
      obtain ⟨hlength, hend, hcount, hstate⟩ := hkept
      dsimp only at hlength hend hcount hstate
      obtain ⟨hlength', hend', hcount'⟩ := applyIpcpRequest_kept (p := p') action
      refine ⟨hcode, rfl, fun hwalk => ⟨applyIpcpRequest_up action (hstate ▸ hdown), ?_, hcount'.trans hcount, hcode,
        hlength'.trans hlength, hend'.trans hend⟩⟩
      show optionLoop buffer (applyIpcpRequest action p').packetEnd maximumTurns firstOption = none
      rw [hend', hend]
      exact hwalk
    · exact (hnot (receiveIpcpAck_done hdone) huses).elim
    · exact (hnot (receiveIpcpNegative_done _ hdone) huses).elim
    · exact (hnot (receiveIpcpNegative_done _ hdone) huses).elim
    · exact (hnot hdone huses).elim
  unfold validateIpcpOptions at huses ⊢
  by_cases hconfigure : p.lastCode < 5
  · rw [if_pos hconfigure] at huses ⊢
    cases hwalk : optionLoop buffer p.packetEnd maximumTurns firstOption with
    | some error =>
      rw [hwalk] at huses
      exact (hnot hdone huses).elim
    | none =>
      rw [hwalk] at huses
      obtain ⟨-, hcarry, hanswerable⟩ := hdispatch huses
      exact ⟨hcarry, hanswerable hwalk⟩
  · rw [if_neg hconfigure] at huses
    obtain ⟨hcode, -, -⟩ := hdispatch huses
    exact absurd (UInt8.lt_iff_toNat_lt.mpr (show p.lastCode.toNat < 5 by omega)) hconfigure

end IpcpPacket

section IpcpPoll

open IpcpLayer

variable {d : Decoder} {ram : Buffer} {p : Ipcp}

/-- **A packet that is to be answered** is not dropped. -/
lemma ipcpReceiveFrame_answers (hprotocol : d.lastProtocol = protocolIpcp) (hdone : p.pendingAction.usesFrame = false)
    (huses : (pppIpcpReceiveFrame d ram p).2.1.pendingAction.usesFrame = true) :
    (pppIpcpReceiveFrame d ram p).2.2 = false ∧ IpcpOffer d p (pppIpcpReceiveFrame d ram p).2.1 := by
  have hnot {action : IpcpAction} (h : action.usesFrame = false) (h' : action.usesFrame = true) : False := by
    rw [h] at h'
    contradiction
  unfold pppIpcpReceiveFrame at huses ⊢
  dsimp only at huses ⊢
  rw [if_neg (not_not.mpr hprotocol)] at huses ⊢
  split at huses
  · exact (hnot hdone huses).elim
  rename_i hheader
  rw [if_neg hheader]
  split at huses
  · exact (hnot hdone huses).elim
  rename_i hfour
  rw [if_neg hfour]
  split at huses
  · exact (hnot hdone huses).elim
  rename_i hwithin
  rw [if_neg hwithin]
  obtain ⟨hcarry, hup, hwalk, hcount, hcode, hlength, hend⟩ := validateIpcpOptions_answerable (by exact hdone) huses
  exact ⟨hcarry, hprotocol, hup, hwalk, hcount, hcode, hlength, hend⟩

/-- It is offered to the encoder. -/
lemma ipcpReceiveFrame_offered (hprotocol : d.lastProtocol = protocolIpcp) (hdone : p.pendingAction.usesFrame = false)
    (huses : (pppIpcpReceiveFrame d ram p).2.1.pendingAction.usesFrame = true) :
    offered d ram p = some ((pppIpcpReceiveFrame d ram p).1, (pppIpcpReceiveFrame d ram p).2.1) ∧
      IpcpOffer d p (pppIpcpReceiveFrame d ram p).2.1 := by
  have hreceived := ipcpReceiveFrame_answers hprotocol hdone huses
  refine ⟨?_, hreceived.2⟩
  unfold offered
  rw [if_pos hprotocol]
  generalize pppIpcpReceiveFrame d ram p = received at huses hreceived ⊢
  obtain ⟨ram', p', carry⟩ := received
  obtain rfl : carry = false := hreceived.1
  exact if_pos (by simpa using huses)

lemma ipcpOffer_of_offered {ram' : Buffer} {p' : Ipcp} (hdone : p.pendingAction.usesFrame = false)
    (hoffered : offered d ram p = some (ram', p')) (huses : p'.pendingAction.usesFrame = true) : IpcpOffer d p p' := by
  unfold offered at hoffered
  split_ifs at hoffered with hprotocol
  have hsame : (pppIpcpReceiveFrame d ram p).2.1 = p' := by
    generalize pppIpcpReceiveFrame d ram p = received at hoffered ⊢
    obtain ⟨ram₁, p₁, carry⟩ := received
    dsimp only at hoffered ⊢
    split_ifs at hoffered
    exact (Prod.mk.inj (Option.some.inj hoffered)).2
  rw [← hsame] at huses ⊢
  exact (ipcpReceiveFrame_offered hprotocol hdone huses).2

variable (now : UInt32) (s : IpcpLayer)

/-- **A response that is offered** is given to the encoder with the frame in the buffer. -/
lemma ipcpDispatchFrame_offered {ram' : Buffer} {p' : Ipcp}
    (hoffered : offered s.receive.decoder s.ram s.ipcp = some (ram', p')) :
    p'.pendingAction.usesFrame = true ∧ IpcpServed now { s with ram := ram', ipcp := p' } (s.dispatchFrame now) := by
  unfold offered at hoffered
  unfold dispatchFrame
  dsimp only
  split_ifs at hoffered with hprotocol
  rw [if_pos hprotocol]
  unfold receiveIpcp
  generalize pppIpcpReceiveFrame s.receive.decoder s.ram s.ipcp = received at hoffered ⊢
  obtain ⟨ram₁, p₁, carry⟩ := received
  dsimp only at hoffered ⊢
  split_ifs at hoffered with hkeeps
  obtain ⟨rfl, rfl⟩ := Prod.mk.inj (Option.some.inj hoffered)
  have huses : p₁.pendingAction.usesFrame = true := by simpa using (Bool.and_eq_true_iff.mp hkeeps).2
  rw [if_pos hkeeps]
  exact ⟨huses, IpcpServed.followed now { s with ram := ram₁, ipcp := p₁ } huses fun _ _ => rfl⟩

/-- No response is owed, no packet was received, and the frame is there or released. -/
structure IpcpQuiet (s s' : IpcpLayer) : Prop where
  done : s'.ipcp.pendingAction.usesFrame = false
  receiveCount : s'.ipcp.receiveCount = s.ipcp.receiveCount
  receive : s'.receive = s.receive ∨ s'.receive = pppReleaseFrame s.receive

lemma ipcpServicePending_quiet (hdone : s.ipcp.pendingAction.usesFrame = false) :
    IpcpQuiet s (s.servicePending now).1 := by
  have hcases := ipcpBuildPending_cases now s.transmit s.receive.decoder.frameBuffer s.ram s.ipcp
  unfold servicePending
  split
  · exact ⟨hdone, rfl, Or.inl rfl⟩
  generalize pppIpcpBuildPending now s.receive.decoder.frameBuffer s.ram s.ipcp s.transmit = built at hcases ⊢
  obtain ⟨ipcp, t, carry⟩ := built
  rcases hcases with ⟨hcarry, hipcp, -⟩ | ⟨hcarry, hipcp, -, -⟩
  · obtain rfl : carry = true := hcarry
    obtain rfl : ipcp = s.ipcp := hipcp
    exact ⟨hdone, rfl, Or.inl rfl⟩
  · obtain rfl : carry = false := hcarry
    obtain rfl : ipcp = afterIpcpBegin now s.ipcp := hipcp
    dsimp only
    unfold sent
    rw [hdone, if_neg (by decide)]
    refine ⟨rfl, ?_, Or.inl rfl⟩
    dsimp only
    unfold afterIpcpBegin
    split_ifs
    · rfl
    · rfl

lemma ipcpTimer_done (hdone : s.ipcp.pendingAction.usesFrame = false) :
    (s.timer now).ipcp.pendingAction.usesFrame = false :=
  (ipcpServicePending_quiet now { s with ipcp := pppIpcpPollTimeout now s.ipcp } (ipcpPollTimeout_usesFrame now hdone)).done

/-- A frame without an offered response leaves none behind. -/
lemma ipcpDispatchFrame_done (hdone : s.ipcp.pendingAction.usesFrame = false)
    (hnone : offered s.receive.decoder s.ram s.ipcp = none) :
    (s.dispatchFrame now).ipcp.pendingAction.usesFrame = false := by
  unfold dispatchFrame
  dsimp only
  by_cases hprotocol : s.receive.decoder.lastProtocol = protocolIpcp
  · rw [if_pos hprotocol]
    have hreceived : (pppIpcpReceiveFrame s.receive.decoder s.ram s.ipcp).2.1.pendingAction.usesFrame = false := by
      by_contra huses
      rw [Bool.not_eq_false] at huses
      obtain ⟨hsome, -⟩ := ipcpReceiveFrame_offered hprotocol hdone huses
      rw [hnone] at hsome
      contradiction
    unfold receiveIpcp
    generalize pppIpcpReceiveFrame s.receive.decoder s.ram s.ipcp = received at hreceived
    obtain ⟨ram, ipcp, carry⟩ := received
    dsimp only at hreceived ⊢
    rw [hreceived, Bool.and_false, if_neg (by decide)]
    exact ipcpTimer_done now _ (ipcpServicePending_quiet now (release { s with ram := ram, ipcp := ipcp }) hreceived).done
  · rw [if_neg hprotocol]
    split
    · exact hdone
    · exact ipcpTimer_done now s.release hdone

/-- The variables at the dispatch of the completed frame, `s'`, and after a poll that leaves a response pending, `a`.
-/
structure IpcpOffers (s s' a : IpcpLayer) : Prop where
  frameReady : s.receive.frameReady = true
  dispatched : s'.receive = s.receive
  receive : a.receive = s.receive
  receiveCount : s'.ipcp.receiveCount = s.ipcp.receiveCount
  offered : IpcpLayer.offered s.receive.decoder s'.ram s'.ipcp = some (a.ram, a.ipcp)
  offer : IpcpOffer s.receive.decoder s'.ipcp a.ipcp

lemma ipcpService_offers (hdone : s.ipcp.pendingAction.usesFrame = false)
    (howes : (s.service now).ipcp.pendingAction.usesFrame = true) :
    ∃ s', ready now s = some s' ∧ IpcpOffers s s' (s.service now) := by
  have hquiet := ipcpServicePending_quiet now s hdone
  have hnot {action : IpcpAction} (h : action.usesFrame = false) (h' : action.usesFrame = true) : False := by
    rw [h] at h'
    contradiction
  unfold service at howes ⊢
  unfold ready
  generalize servicePending now s = serviced at hquiet howes ⊢
  obtain ⟨s', carry⟩ := serviced
  cases carry with
  | true => exact (hnot hquiet.done howes).elim
  | false =>
    dsimp only at hquiet howes ⊢
    by_cases hready : s'.receive.frameReady = true
    · rw [if_pos hready] at howes ⊢
      have hreceive : s'.receive = s.receive := hquiet.receive.resolve_right fun h => by
        rw [h] at hready
        contradiction
      rw [if_pos hready]
      refine ⟨s', rfl, ?_⟩
      cases hoffered : offered s'.receive.decoder s'.ram s'.ipcp with
      | none => exact (hnot (ipcpDispatchFrame_done now s' hquiet.done hoffered) howes).elim
      | some given =>
        obtain ⟨ram, p⟩ := given
        obtain ⟨huses, hserved⟩ := ipcpDispatchFrame_offered now s' hoffered
        cases hserved with
        | taken _ _ htaken => exact (hnot htaken.done howes).elim
        | refused _ hsame =>
          rw [hsame]
          have hoffer := ipcpOffer_of_offered hquiet.done hoffered huses
          rw [hreceive] at hoffered hready hoffer
          exact ⟨hready, hreceive, hreceive, hquiet.receiveCount, hoffered, hoffer⟩
    · rw [if_neg hready] at howes
      exact (hnot (ipcpTimer_done now s' hquiet.done) howes).elim

/-- **A response that IPCP owes** after a poll was offered by it, in the one dispatch of the frame. -/
theorem ipcpPoll_offers (connected : Bool) (state : LcpState) (authenticated : Bool)
    (hdone : s.ipcp.pendingAction.usesFrame = false)
    (howes : (pppIpcpPoll connected now state authenticated s).ipcp.pendingAction.usesFrame = true) :
    ∃ s', dispatched connected now state authenticated s = some s' ∧
      IpcpOffers s s' (pppIpcpPoll connected now state authenticated s) ∧ s.receive.enabled = true := by
  have hnot {action : IpcpAction} (h : action.usesFrame = false) (h' : action.usesFrame = true) : False := by
    rw [h] at h'
    contradiction
  unfold pppIpcpPoll at howes ⊢
  unfold dispatched
  by_cases hup : (linkUp connected s.receive state && authenticated) = true
  · have henabled : s.receive.enabled = true := by
      cases h : s.receive.enabled with
      | true => rfl
      | false => simp [linkUp, h] at hup
    rw [if_pos hup] at howes
    rw [if_pos hup, if_pos hup]
    cases hstate : s.ipcp.state with
    | closed =>
      rw [hstate] at howes
      have hlower : IpcpQuiet s { s with ipcp := pppIpcpLowerUp s.ipcp } := by
        unfold pppIpcpLowerUp
        rw [if_neg (not_not.mpr hstate)]
        exact ⟨rfl, rfl, Or.inl rfl⟩
      obtain ⟨s', hready, hoffers⟩ :=
        ipcpService_offers now { s with ipcp := pppIpcpLowerUp s.ipcp } hlower.done howes
      obtain ⟨hframe, hdispatched, hafter, hcount, hoffered, hoffer⟩ := hoffers
      exact ⟨s', hready, ⟨hframe, hdispatched, hafter, hcount.trans hlower.receiveCount, hoffered, hoffer⟩, henabled⟩
    | stopped =>
      rw [hstate] at howes
      exact (hnot hdone howes).elim
    | _ =>
      rw [hstate] at howes
      obtain ⟨s', hready, hoffers⟩ := ipcpService_offers now s hdone howes
      exact ⟨s', hready, hoffers, henabled⟩
  · rw [if_neg hup] at howes
    unfold lowerDown at howes
    split at howes
    · exact (hnot hdone howes).elim
    · dsimp only at howes
      split at howes
      · exact (hnot rfl howes).elim
      · exact (hnot rfl howes).elim

end IpcpPoll

end SnesModem.Asm
