import SnesModem.Asm.LcpPacketBounds
import SnesModem.Asm.LcpSteps
import SnesModem.Asm.Polls

/-!
# The configuration that LCP has acknowledged

* `requestsChap`: a Configure-Request that asks for CHAP with MD5;
* `evaluatedRequest`: the Configure-Request that a poll answers, and its answer;
* `lcpPoll_agreed`: CHAP is agreed on after a poll only if that request asks for it, or if it was agreed on before;
* `lcpPoll_opened`: a poll does not get from `Opened` or `Closing` to another `Opened`.
-/

namespace SnesModem.Asm

open SnesModem.Lib.Cpu65816 SnesModem.Lib.Octets

/-- One of the options is Authentication-Protocol with CHAP and MD5. -/
def requestsChap (d : Decoder) : Prop :=
  ∃ y ∈ options d.frameBuffer (declaredLength d + frameOffset), read d.frameBuffer y.toNat 5 = [3, 5, 0xc2, 0x23, 5]

/-- The peer's request is acknowledged, and the configuration has CHAP. -/
def Agreed (l : Lcp) : Prop := (l.state = .ackSent ∨ l.state = .opened) ∧ l.peerFlags.chapMd5 = true

/-- The states of a negotiation. -/
def LcpState.negotiating : LcpState → Bool
  | .requestSent | .ackReceived | .ackSent => true
  | _ => false

/-! ### The evaluation -/

section Evaluation

variable {buffer : Buffer} {l : Lcp}

/-- An option that is neither rejected nor answered with a Nak. -/
lemma classifyByType_ack {b : UInt8} {y : UInt16} (hreject : pppLcpClassifyPeerOption buffer l b y ≠ .reject)
    (hnak : pppLcpClassifyPeerOption buffer l b y ≠ .nak) : classifyByType buffer l y = .ack := by
  unfold pppLcpClassifyPeerOption at hreject hnak
  split at hreject
  · exact absurd rfl hreject
  · rename_i hfirst
    rw [if_neg hfirst] at hnak
    cases h : classifyByType buffer l y with
    | ack => rfl
    | nak => exact absurd h hnak
    | reject => exact absurd h hreject

/-- The second pass finds nothing to reject or to suggest only if every option is acceptable. -/
lemma classifyOption_foldl_ack {offsets : List UInt16} {found : Bool × Bool × UInt8}
    (hreject : (offsets.foldl (classifyOption buffer l) found).1 = false)
    (hnak : (offsets.foldl (classifyOption buffer l) found).2.1 = false) :
    (found.1 = false ∧ found.2.1 = false) ∧ ∀ y ∈ offsets, classifyByType buffer l y = .ack := by
  induction offsets generalizing found with
  | nil => exact ⟨⟨hreject, hnak⟩, nofun⟩
  | cons y offsets ih =>
    obtain ⟨⟨hfirst, hsecond⟩, hrest⟩ := ih hreject hnak
    unfold classifyOption at hfirst hsecond
    simp only [Bool.or_eq_false_iff, decide_eq_false_iff_not] at hfirst hsecond
    refine ⟨⟨hfirst.1, hsecond.1⟩, fun y' hy' => ?_⟩
    rcases List.mem_cons.mp hy' with rfl | hy'
    · exact classifyByType_ack hfirst.2 hsecond.2
    · exact hrest y' hy'

lemma commitOption_chap {y : UInt16} (h : (commitOption buffer l y).peerFlags.chapMd5 = true) :
    l.peerFlags.chapMd5 = true ∨ (buffer y.toNat).toNat = 3 ∧ buffer (y.toNat + 2) = 0xc2 := by
  unfold commitOption at h
  dsimp only at h
  split at h
  · exact Or.inl h
  · exact Or.inl h
  · rename_i htype
    split at h
    · rename_i hoctet
      exact Or.inr ⟨htype, hoctet⟩
    · exact Or.inl h
  · exact Or.inl h
  · exact Or.inl h

lemma commitOption_foldl_chap {offsets : List UInt16}
    (h : (offsets.foldl (commitOption buffer) l).peerFlags.chapMd5 = true) :
    l.peerFlags.chapMd5 = true ∨ ∃ y ∈ offsets, (buffer y.toNat).toNat = 3 ∧ buffer (y.toNat + 2) = 0xc2 := by
  induction offsets generalizing l with
  | nil => exact Or.inl h
  | cons y offsets ih =>
    rcases ih h with h | ⟨y', hy', hoctets⟩
    · rcases commitOption_chap h with h | h
      · exact Or.inl h
      · exact Or.inr ⟨y, List.mem_cons_self, h⟩
    · exact Or.inr ⟨y', List.mem_cons_of_mem _ hy', hoctets⟩

/-- An acceptable Authentication-Protocol option whose third octet is that of CHAP. -/
lemma classifyByType_chap {y : UInt16} (hack : classifyByType buffer l y = .ack) (htype : (buffer y.toNat).toNat = 3)
    (hoctet : buffer (y.toNat + 2) = 0xc2) : read buffer y.toNat 5 = [3, 5, 0xc2, 0x23, 5] := by
  have htype' : buffer y.toNat = 3 := UInt8.toNat_inj.mp htype
  unfold classifyByType at hack
  simp only [Nat.add_zero, htype] at hack
  split at hack
  · rename_i hlength
    split at hack
    · rename_i hvalue
      simp [Lib.Octets.read, List.range_succ, htype', hlength, hvalue]
    · contradiction
  · split at hack
    · rename_i hpap
      rw [hpap.2.1] at hoctet
      exact absurd hoctet (by decide)
    · contradiction

/-- **An acknowledged request** sets the flag of CHAP only if one of its options asks for it. -/
theorem evaluatePeerRequest_chap (hack : (pppLcpEvaluatePeerRequest buffer l).1 = .configureAck)
    (hchap : (pppLcpEvaluatePeerRequest buffer l).2.peerFlags.chapMd5 = true) :
    ∃ y ∈ options buffer l.packetEnd, read buffer y.toNat 5 = [3, 5, 0xc2, 0x23, 5] := by
  unfold pppLcpEvaluatePeerRequest at hack hchap
  dsimp only at hack hchap
  split at hack
  · contradiction
  split at hack
  · contradiction
  rename_i hreject hnak
  rw [if_neg hreject, if_neg hnak] at hchap
  obtain ⟨-, hacks⟩ := classifyOption_foldl_ack (Bool.eq_false_iff.mpr hreject) (Bool.eq_false_iff.mpr hnak)
  rcases commitOption_foldl_chap hchap with hcleared | ⟨y, hy, htype, hoctet⟩
  · contradiction
  · exact ⟨y, hy, classifyByType_chap (hacks y hy) htype hoctet⟩

end Evaluation

/-! ### The steps of a poll -/

/-- A step of the poll that answers no request: it acknowledges none, opens nothing and begins no negotiation. -/
structure Settles (l l' : Lcp) : Prop where
  agreed : Agreed l' → Agreed l
  opened : l'.state = .opened → l.state = .opened ∧ l'.peerFlags = l.peerFlags
  negotiating : l'.state.negotiating = true → l.state.negotiating = true

section Settles

variable {l l' l'' : Lcp}

lemma Settles.of_same (hstate : l'.state = l.state) (hflags : l'.peerFlags = l.peerFlags) : Settles l l' where
  agreed := fun h => by
    unfold Agreed at h ⊢
    rw [← hstate, ← hflags]
    exact h
  opened := fun h => ⟨hstate.symm.trans h, hflags⟩
  negotiating := fun h => hstate ▸ h

lemma Settles.refl (l : Lcp) : Settles l l := .of_same rfl rfl

lemma Settles.trans (h : Settles l l') (h' : Settles l' l'') : Settles l l'' where
  agreed := h.agreed ∘ h'.agreed
  opened := fun hstate =>
    have hlast := h'.opened hstate
    have hfirst := h.opened hlast.1
    ⟨hfirst.1, hlast.2.trans hfirst.2⟩
  negotiating := h.negotiating ∘ h'.negotiating

/-- A step to a state that is neither open nor of a negotiation. -/
lemma Settles.of_ended (h : l'.state ≠ .opened) (h' : l'.state.negotiating = false) : Settles l l' where
  agreed := by
    rintro ⟨hack | hopened, -⟩
    · rw [hack] at h'
      contradiction
    · exact absurd hopened h
  opened := fun hopened => absurd hopened h
  negotiating := fun hnegotiating => by
    rw [h'] at hnegotiating
    contradiction

lemma pollTimeout_settles (now : UInt32) (l : Lcp) : Settles l (pppLcpPollTimeout now l) := by
  unfold pppLcpPollTimeout
  split
  · exact .refl l
  have hretry (h : l.state.negotiating = true) : Settles l (if l.restartRemaining = 0 then { l with
      state := .stopped
      restartRemaining := 0
      pendingAction := .none
      timerActive := false
      deferredRequest := false }
    else { l with
      restartRemaining := l.restartRemaining - 1
      state := if l.state = .ackReceived then .requestSent else l.state
      pendingAction := .configureRequest
      timerActive := false
      deferredRequest := false }) := by
    split
    · exact .of_ended nofun rfl
    by_cases hreceived : l.state = .ackReceived
    · rw [if_pos hreceived]
      exact ⟨fun hagreed => by simp [Agreed] at hagreed, nofun, fun _ => h⟩
    · rw [if_neg hreceived]
      exact .of_same rfl rfl
  split
  · rename_i hclosing
    split
    · exact .of_ended nofun rfl
    · exact .of_same rfl rfl
  · rename_i hstate
    exact hretry (by rw [hstate]; rfl)
  · rename_i hstate
    exact hretry (by rw [hstate]; rfl)
  · rename_i hstate
    exact hretry (by rw [hstate]; rfl)
  · exact .of_same rfl rfl

lemma lcpBuildPending_settles (now : UInt32) (d : Decoder) (l : Lcp) (t : Transmit) :
    Settles l (pppLcpBuildPending now d l t).1 := by
  have hbuilt : Settles l (afterBuild l) := by
    unfold afterBuild
    split
    · exact .of_same rfl rfl
    · exact .refl l
  have hbegun (l : Lcp) : Settles l (afterBegin now l) := by
    unfold afterBegin pppLcpArmRestartTimer
    split
    · exact .of_same rfl rfl
    · exact .of_same rfl rfl
  unfold pppLcpBuildPending
  split
  · exact .refl l
  split
  · exact .refl l
  extract_lets l'
  split
  · exact hbuilt
  · exact hbuilt.trans (hbegun _)

variable (now : UInt32) (s : LcpLayer)

lemma sent_settles (action : LcpAction) : Settles s.lcp (s.sent action).lcp := by
  unfold LcpLayer.sent
  split
  · extract_lets s'
    split
    · exact .of_same rfl rfl
    · exact .refl _
  split
  · extract_lets s'
    split
    · exact .refl _
    · exact .of_ended nofun rfl
  · exact .refl _

lemma servicePending_settles : Settles s.lcp (s.servicePending now).1.lcp := by
  have hbuild := lcpBuildPending_settles now s.receive.decoder s.lcp s.transmit
  unfold LcpLayer.servicePending
  split
  · exact .refl _
  split
  · rename_i lcp transmit heq
    rw [heq] at hbuild
    exact hbuild
  · rename_i lcp transmit heq
    rw [heq] at hbuild
    exact hbuild.trans (sent_settles { s with lcp := lcp, transmit := transmit } _)

lemma timer_settles : Settles s.lcp (s.timer now).lcp :=
  (pollTimeout_settles now s.lcp).trans (servicePending_settles now { s with lcp := pppLcpPollTimeout now s.lcp })

lemma serviceThenTimer_settles : Settles s.lcp (s.serviceThenTimer now).lcp := by
  have hserviced := servicePending_settles now s
  unfold LcpLayer.serviceThenTimer
  split
  · rename_i s' heq
    rw [heq] at hserviced
    exact hserviced
  · rename_i s' heq
    rw [heq] at hserviced
    exact hserviced.trans (timer_settles now s')

lemma lcpClose_settles (l : Lcp) : Settles l (pppLcpClose l) := by
  unfold pppLcpClose
  extract_lets l'
  have hsame : Settles l l' := .of_same rfl rfl
  split
  · exact .of_ended nofun rfl
  split
  · exact hsame
  split
  · exact hsame
  · exact .of_ended nofun rfl

lemma closeIfIdle_settles : Settles s.lcp s.closeIfIdle.lcp := by
  unfold LcpLayer.closeIfIdle
  split
  · exact lcpClose_settles s.lcp
  · exact .refl _

lemma lcpLowerUnavailable_settles : Settles s.lcp s.lowerUnavailable.lcp := by
  change Settles s.lcp (if s.lcp.state = .closed then s.lcp else pppLcpLowerDown s.lcp)
  split
  · exact .refl _
  · exact .of_ended nofun rfl

end Settles

/-! ### The packet of a poll -/

/-- The answer to the Configure-Request in the frame buffer, if it is one that is evaluated. -/
def requestAnswer (d : Decoder) (l : Lcp) : Option LcpAction :=
  match pppLcpParseFrame d l with
  | (_, true) => none
  | (l, false) =>
    if d.frameBuffer 4 = 1 ∧ (l.state = .opened ∨ l.state.negotiating = true) then
      some (pppLcpEvaluatePeerRequest d.frameBuffer l).1
    else none

namespace LcpLayer

/-- The variables with which the completed frame is dispatched, once the pending action is out of the way. -/
def ready (now : UInt32) (s : LcpLayer) : Option LcpLayer :=
  match servicePending now s with
  | (_, true) => none
  | (s, false) => if s.receive.frameReady then some s else none

/-- The same for a whole poll. -/
def dispatched (connected : Bool) (now : UInt32) (s : LcpLayer) : Option LcpLayer :=
  if !s.receive.enabled || !connected then none
  else
    match s.lcp.state with
    | .closed => if s.lcp.administrativeOpen then ready now { s with lcp := pppLcpOpen now s.lcp } else none
    | .stopped => none
    | _ => ready now (closeIfIdle s)

/-- The Configure-Request that the dispatched frame carries, and its answer. -/
def answered (dispatched : Option LcpLayer) : Option (Decoder × LcpAction) :=
  dispatched.bind fun s => (requestAnswer s.receive.decoder s.lcp).map fun action => (s.receive.decoder, action)

/-- The Configure-Request that a poll answers, and its answer. -/
def evaluatedRequest (connected : Bool) (now : UInt32) (s : LcpLayer) : Option (Decoder × LcpAction) :=
  answered (dispatched connected now s)

end LcpLayer

section Packet

variable (d : Decoder) (l : Lcp)

lemma parseFrame_settles : Settles l (pppLcpParseFrame d l).1 := by
  unfold pppLcpParseFrame
  dsimp only
  split_ifs
  · exact .of_same rfl rfl
  · exact .of_same rfl rfl
  · exact .of_same rfl rfl
  · exact .of_same rfl rfl
  · obtain ⟨error, hparsed⟩ := parseOptions_fst d { l with
      receiveCount := l.receiveCount + 1
      lastCode := d.frameBuffer 4
      lastIdentifier := d.frameBuffer 5
      packetLength := word (d.frameBuffer 6) (d.frameBuffer 7)
      packetEnd := word (d.frameBuffer 6) (d.frameBuffer 7) + frameOffset }
    rw [hparsed]
    exact .of_same rfl rfl

/-- A packet that is no request acknowledges nothing, and opens LCP only from a negotiation. -/
structure Moves (l l' : Lcp) : Prop where
  agreed : Agreed l' → Agreed l
  opened : l'.state = .opened → l.state = .opened ∧ l'.peerFlags = l.peerFlags ∨ l.state.negotiating = true

lemma Settles.moves {l l' : Lcp} (h : Settles l l') : Moves l l' := ⟨h.agreed, fun hopened => Or.inl (h.opened hopened)⟩

lemma Moves.of_same {l l' : Lcp} (hstate : l'.state = l.state) (hflags : l'.peerFlags = l.peerFlags) : Moves l l' :=
  (Settles.of_same hstate hflags).moves

lemma receiveConfigureAck_moves : Moves l (receiveConfigureAck d l).1 := by
  unfold receiveConfigureAck
  split
  · exact .of_same rfl rfl
  split
  · exact .of_same rfl rfl
  extract_lets l'
  split
  · rename_i hstate
    exact ⟨fun h => by simp [Agreed, returnSuccess] at h, nofun⟩
  · rename_i hstate
    have hstate' : l.state = .ackSent := hstate
    exact ⟨fun h => ⟨Or.inl hstate', h.2⟩, fun _ => Or.inr (by rw [hstate']; rfl)⟩
  · exact ⟨fun h => by simp [Agreed, returnSuccess, newRequest] at h, nofun⟩
  · exact ⟨fun h => by simp [Agreed, returnSuccess, newRequest] at h, nofun⟩
  · exact .of_same rfl rfl

lemma receiveConfigureNegative_moves : Moves l (receiveConfigureNegative d l).1 := by
  have hsuggested := applyNegativeOptions_suggested d.frameBuffer l (options d.frameBuffer l.packetEnd) false
  unfold receiveConfigureNegative
  split
  · exact .of_same rfl rfl
  split
  · exact .of_same rfl rfl
  split
  · rename_i l' heq
    rw [heq] at hsuggested
    exact .of_same hsuggested.state hsuggested.peerFlags
  · rename_i l' heq
    rw [heq] at hsuggested
    have hstate : l'.state = l.state := hsuggested.state
    have hflags : l'.peerFlags = l.peerFlags := hsuggested.peerFlags
    unfold returnSuccess newRequest
    dsimp only
    split
    · rename_i hack
      exact ⟨fun h => ⟨Or.inl (hstate.symm.trans hack), hflags ▸ h.2⟩, nofun⟩
    · exact ⟨fun h => by simp [Agreed] at h, nofun⟩

/-- **Every packet but a Configure-Request.** -/
lemma receivePacket_moves (hcode : d.frameBuffer 4 ≠ 1) : Moves l (receivePacket d l).1 := by
  unfold receivePacket
  split
  · exact .of_same rfl rfl
  split
  · rename_i hone
    exact absurd (UInt8.toNat_inj.mp hone) hcode
  · exact receiveConfigureAck_moves d l
  · exact receiveConfigureNegative_moves d l
  · exact receiveConfigureNegative_moves d l
  · unfold receiveTerminateRequest
    split
    · exact .of_same rfl rfl
    · exact .of_same rfl rfl
  · unfold receiveTerminateAck
    split
    · exact .of_same rfl rfl
    split
    · exact .of_same rfl rfl
    · exact ⟨fun h => by simp [Agreed, returnSuccess, pppLcpLocalTerminateComplete, terminateComplete] at h, nofun⟩
  · exact .of_same rfl rfl
  · exact .of_same rfl rfl
  · unfold receiveEchoRequest
    split
    · exact .of_same rfl rfl
    split
    · exact .of_same rfl rfl
    split
    · exact .of_same rfl rfl
    · exact .of_same rfl rfl
  · unfold receiveMaintenance
    split
    · exact .of_same rfl rfl
    · exact .of_same rfl rfl
  · unfold receiveMaintenance
    split
    · exact .of_same rfl rfl
    · exact .of_same rfl rfl
  · exact .of_same rfl rfl

/-- **A Configure-Request** that is evaluated: CHAP is agreed on afterwards only if the answer is an Ack. -/
lemma receiveConfigureRequest_agreed (hnegotiable : l.state = .opened ∨ l.state.negotiating = true)
    (hagreed : Agreed (receiveConfigureRequest d l).1) :
    (pppLcpEvaluatePeerRequest d.frameBuffer l).1 = .configureAck ∧
      (pppLcpEvaluatePeerRequest d.frameBuffer l).2.peerFlags.chapMd5 = true := by
  have hkept := evaluatePeerRequest_kept d.frameBuffer l
  have hclosing : l.state ≠ .closing := by
    intro hstate
    rw [hstate] at hnegotiable
    rcases hnegotiable with h | h
    · contradiction
    · contradiction
  unfold receiveConfigureRequest at hagreed
  rw [if_neg hclosing] at hagreed
  generalize pppLcpEvaluatePeerRequest d.frameBuffer l = evaluated at hagreed hkept ⊢
  obtain ⟨action, l'⟩ := evaluated
  have hstate : l'.state = l.state := hkept.state
  dsimp only at hagreed ⊢
  by_cases hack : action = .configureAck
  · refine ⟨hack, ?_⟩
    split_ifs at hagreed
    · exact hagreed.2
    · exact hagreed.2
    · exact hagreed.2
  · rw [if_neg hack, if_neg hack] at hagreed
    split_ifs at hagreed with hopened hreceived
    · simp [Agreed, returnSuccess] at hagreed
    · unfold Agreed returnSuccess at hagreed
      rw [hreceived] at hagreed
      simp at hagreed
    · simp [Agreed, returnSuccess] at hagreed

lemma receiveConfigureRequest_opened (hopened : (receiveConfigureRequest d l).1.state = .opened) :
    l.state.negotiating = true := by
  have hkept := evaluatePeerRequest_kept d.frameBuffer l
  unfold receiveConfigureRequest at hopened
  split at hopened
  · rename_i hclosing
    rw [show (returnFailure l .notConfiguring).1.state = l.state from rfl, hclosing] at hopened
    contradiction
  generalize pppLcpEvaluatePeerRequest d.frameBuffer l = evaluated at hopened hkept
  obtain ⟨action, l'⟩ := evaluated
  have hstate : l'.state = l.state := hkept.state
  dsimp only at hopened
  rw [← hstate]
  by_cases hreceived : l'.state = .ackReceived
  · rw [hreceived]
    rfl
  · exfalso
    split_ifs at hopened
    · contradiction
    · contradiction
    · contradiction
    · contradiction

/-- **What a packet agrees on.** -/
lemma receiveFrame_agreed (hagreed : Agreed (pppLcpReceiveFrame d l).1) :
    match requestAnswer d l with
    | none => Agreed l
    | some action => action = .configureAck ∧ requestsChap d := by
  have hsettles := parseFrame_settles d l
  have haccepted := @parseFrame_eq_of_accepted d l
  unfold pppLcpReceiveFrame at hagreed
  unfold requestAnswer
  generalize pppLcpParseFrame d l = parsed at hagreed hsettles haccepted
  obtain ⟨l', carry⟩ := parsed
  cases carry with
  | true => exact hsettles.agreed hagreed
  | false =>
    obtain ⟨-, -, error, hparsed⟩ := haccepted rfl
    have hend : l'.packetEnd = declaredLength d + frameOffset := by
      rw [show l' = _ from hparsed]
      rfl
    dsimp only at hagreed ⊢
    by_cases hcode : d.frameBuffer 4 = 1
    · by_cases hnegotiable : l'.state = .opened ∨ l'.state.negotiating = true
      · rw [if_pos ⟨hcode, hnegotiable⟩]
        have hopen : ¬ (l'.state = .closed ∨ l'.state = .stopped) := by
          rintro (hstate | hstate)
          · rw [hstate] at hnegotiable
            simp [LcpState.negotiating] at hnegotiable
          · rw [hstate] at hnegotiable
            simp [LcpState.negotiating] at hnegotiable
        unfold receivePacket at hagreed
        rw [if_neg hopen, hcode] at hagreed
        obtain ⟨hack, hchap⟩ := receiveConfigureRequest_agreed d l' hnegotiable hagreed
        refine ⟨hack, ?_⟩
        have hrequests := evaluatePeerRequest_chap hack hchap
        rw [hend] at hrequests
        exact hrequests
      · -- LCP is closed, stopped or closing, and stays so.
        rw [if_neg fun h => hnegotiable h.2]
        exfalso
        have hsame : (receivePacket d l').1.state = l'.state := by
          unfold receivePacket
          split
          · rfl
          rw [hcode]
          change (receiveConfigureRequest d l').1.state = l'.state
          unfold receiveConfigureRequest
          split
          · rfl
          · cases hstate : l'.state <;> simp_all [LcpState.negotiating]
        rw [Agreed, hsame] at hagreed
        rcases hagreed.1 with hstate | hstate
        · exact hnegotiable (Or.inr (by rw [hstate]; rfl))
        · exact hnegotiable (Or.inl hstate)
    · rw [if_neg fun h => hcode h.1]
      exact hsettles.agreed ((receivePacket_moves d l' hcode).agreed hagreed)

/-- **What a packet opens.** -/
lemma receiveFrame_opened (hopened : (pppLcpReceiveFrame d l).1.state = .opened) :
    l.state = .opened ∧ (pppLcpReceiveFrame d l).1.peerFlags = l.peerFlags ∨ l.state.negotiating = true := by
  have hsettles := parseFrame_settles d l
  unfold pppLcpReceiveFrame at hopened ⊢
  generalize pppLcpParseFrame d l = parsed at hopened hsettles ⊢
  obtain ⟨l', carry⟩ := parsed
  cases carry with
  | true => exact Or.inl (hsettles.opened hopened)
  | false =>
    dsimp only at hopened ⊢
    by_cases hcode : d.frameBuffer 4 = 1
    · by_cases hclosed : l'.state = .closed ∨ l'.state = .stopped
      · unfold receivePacket at hopened
        rw [if_pos hclosed] at hopened
        rcases hclosed with hstate | hstate
        · rw [show (returnFailure l' .notConfiguring).1.state = l'.state from rfl, hstate] at hopened
          contradiction
        · rw [show (returnFailure l' .notConfiguring).1.state = l'.state from rfl, hstate] at hopened
          contradiction
      · unfold receivePacket at hopened
        rw [if_neg hclosed, hcode] at hopened
        exact Or.inr (hsettles.negotiating (receiveConfigureRequest_opened d l' hopened))
    · rcases (receivePacket_moves d l' hcode).opened hopened with ⟨hstate, hflags⟩ | hnegotiating
      · obtain ⟨hstate', hflags'⟩ := hsettles.opened hstate
        exact Or.inl ⟨hstate', hflags.trans hflags'⟩
      · exact Or.inr (hsettles.negotiating hnegotiating)

end Packet

/-! ### The poll -/

namespace LcpLayer

variable (connected : Bool) (now : UInt32) (s : LcpLayer)

/-- What the dispatch of the completed frame comes to. -/
lemma dispatchFrame_settles : ∃ l, Settles l (dispatchFrame now s).lcp ∧
    (l = (pppLcpReceiveFrame s.receive.decoder s.lcp).1 ∨
      Settles s.lcp l ∧ requestAnswer s.receive.decoder s.lcp = none) := by
  unfold dispatchFrame
  extract_lets protocol
  by_cases hprotocol : protocol = protocolLcp
  · rw [if_pos hprotocol]
    refine ⟨_, ?_, Or.inl rfl⟩
    unfold receiveLcp
    generalize pppLcpReceiveFrame s.receive.decoder s.lcp = received
    obtain ⟨lcp, carry⟩ := received
    dsimp only
    split
    · exact serviceThenTimer_settles now { s with lcp := lcp }
    · have hserviced := servicePending_settles now (release { s with lcp := lcp })
      exact hserviced.trans (timer_settles now _)
  · rw [if_neg hprotocol]
    have hnone : requestAnswer s.receive.decoder s.lcp = none := by
      have hdropped : (pppLcpParseFrame s.receive.decoder s.lcp).2 = true := parseFrame_dropped fun h => hprotocol h.1
      unfold requestAnswer
      generalize pppLcpParseFrame s.receive.decoder s.lcp = parsed at hdropped
      obtain ⟨l', carry⟩ := parsed
      obtain rfl : carry = true := hdropped
      rfl
    split
    · exact ⟨s.lcp, timer_settles now s.release, Or.inr ⟨.refl _, hnone⟩⟩
    split
    · exact ⟨s.lcp, timer_settles now s, Or.inr ⟨.refl _, hnone⟩⟩
    · refine ⟨pppLcpRejectProtocol s.lcp, ?_, Or.inr ⟨.of_same rfl rfl, hnone⟩⟩
      exact serviceThenTimer_settles now { s with lcp := pppLcpRejectProtocol s.lcp }

/-- Nothing, or the completed frame, follows the pending action. -/
lemma serviceExistingPending_cases :
    Settles s.lcp (serviceExistingPending now s).lcp ∧ ready now s = none ∨
      ∃ s', ready now s = some s' ∧ Settles s.lcp s'.lcp ∧ serviceExistingPending now s = dispatchFrame now s' := by
  have hserviced := servicePending_settles now s
  unfold serviceExistingPending ready
  generalize servicePending now s = serviced at hserviced
  obtain ⟨s', carry⟩ := serviced
  cases carry with
  | true => exact Or.inl ⟨hserviced, rfl⟩
  | false =>
    dsimp only
    split
    · exact Or.inr ⟨s', rfl, hserviced, rfl⟩
    · exact Or.inl ⟨hserviced.trans (timer_settles now s'), rfl⟩

/-- CHAP is agreed on after the poll by the request it answers, or it was before. -/
def AgreedBy (l : Lcp) : Option (Decoder × LcpAction) → Prop
  | none => Agreed l
  | some (d, action) => action = .configureAck ∧ requestsChap d

lemma serviceExistingPending_agreed (hagreed : Agreed (serviceExistingPending now s).lcp) :
    AgreedBy s.lcp (answered (ready now s)) := by
  rcases serviceExistingPending_cases now s with ⟨hsettles, hnone⟩ | ⟨s', hsome, hsettles, hdispatch⟩
  · rw [hnone]
    exact hsettles.agreed hagreed
  · rw [hsome]
    rw [hdispatch] at hagreed
    obtain ⟨l, hsettles', hreceived | ⟨hsame, hnone⟩⟩ := dispatchFrame_settles now s'
    · have hafter := hsettles'.agreed hagreed
      rw [hreceived] at hafter
      have hagreed' := receiveFrame_agreed _ _ hafter
      unfold answered
      rw [Option.bind_some]
      cases hanswer : requestAnswer s'.receive.decoder s'.lcp with
      | none =>
        rw [hanswer] at hagreed'
        exact hsettles.agreed hagreed'
      | some action =>
        rw [hanswer] at hagreed'
        exact hagreed'
    · unfold answered
      rw [Option.bind_some, hnone]
      exact hsettles.agreed (hsame.agreed (hsettles'.agreed hagreed))

lemma serviceExistingPending_opened (hdone : s.lcp.state.negotiating = false)
    (hopened : (serviceExistingPending now s).lcp.state = .opened) :
    s.lcp.state = .opened ∧ (serviceExistingPending now s).lcp.peerFlags = s.lcp.peerFlags := by
  rcases serviceExistingPending_cases now s with ⟨hsettles, -⟩ | ⟨s', -, hsettles, hdispatch⟩
  · exact hsettles.opened hopened
  · have hdone' : ¬ s'.lcp.state.negotiating = true := by
      intro hnegotiating
      rw [hsettles.negotiating hnegotiating] at hdone
      contradiction
    have hdispatched : s'.lcp.state = .opened ∧ (dispatchFrame now s').lcp.peerFlags = s'.lcp.peerFlags := by
      rw [hdispatch] at hopened
      obtain ⟨l, hsettles', hreceived | ⟨hsame, -⟩⟩ := dispatchFrame_settles now s'
      · obtain ⟨hstate, hflags⟩ := hsettles'.opened hopened
        rw [hreceived] at hstate hflags
        rcases receiveFrame_opened _ _ hstate with ⟨hstate', hflags'⟩ | hnegotiating
        · exact ⟨hstate', hflags.trans hflags'⟩
        · exact absurd hnegotiating hdone'
      · exact (hsame.trans hsettles').opened hopened
    obtain ⟨hstate, hflags⟩ := hsettles.opened hdispatched.1
    rw [hdispatch]
    exact ⟨hstate, hdispatched.2.trans hflags⟩

end LcpLayer

open LcpLayer

section Poll

variable (connected : Bool) (now : UInt32) (s : LcpLayer)

/-- **After a poll CHAP is agreed on** only if the request that the poll answers asks for it and is acknowledged, or,
without one, if it was before. -/
theorem lcpPoll_agreed (hagreed : Agreed (pppLcpPoll connected now s).lcp) :
    AgreedBy s.lcp (evaluatedRequest connected now s) := by
  unfold evaluatedRequest
  have hservice (s' : LcpLayer) (hsettles : Settles s.lcp s'.lcp)
      (hagreed : Agreed (serviceExistingPending now s').lcp) : AgreedBy s.lcp (answered (ready now s')) := by
    have hagreed' := serviceExistingPending_agreed now s' hagreed
    cases hanswered : answered (ready now s') with
    | none =>
      rw [hanswered] at hagreed'
      exact hsettles.agreed hagreed'
    | some request =>
      rw [hanswered] at hagreed'
      exact hagreed'
  unfold pppLcpPoll at hagreed
  unfold dispatched
  by_cases hdown : (!s.receive.enabled || !connected) = true
  · rw [if_pos hdown] at hagreed ⊢
    exact (lcpLowerUnavailable_settles s).agreed hagreed
  · rw [if_neg hdown] at hagreed ⊢
    cases hstate : s.lcp.state with
    | closed =>
      rw [hstate] at hagreed
      dsimp only at hagreed ⊢
      by_cases hopen : s.lcp.administrativeOpen = true
      · rw [if_pos hopen] at hagreed ⊢
        have hrequest : ¬ Agreed (pppLcpOpen now s.lcp) := by
          rintro ⟨hopened, -⟩
          unfold pppLcpOpen at hopened
          simp [hstate] at hopened
        have hagreed' := serviceExistingPending_agreed now { s with lcp := pppLcpOpen now s.lcp } hagreed
        cases hanswered : answered (ready now { s with lcp := pppLcpOpen now s.lcp }) with
        | none =>
          rw [hanswered] at hagreed'
          exact absurd hagreed' hrequest
        | some request =>
          rw [hanswered] at hagreed'
          exact hagreed'
      · rw [if_neg hopen] at hagreed ⊢
        exact hagreed
    | stopped =>
      rw [hstate] at hagreed
      exact hagreed
    | _ =>
      rw [hstate] at hagreed
      exact hservice _ (closeIfIdle_settles s) hagreed

/-- **A poll does not reopen LCP**: from `Opened` or `Closing` it gets to `Opened` only by leaving it as it is. -/
theorem lcpPoll_opened (hbefore : s.lcp.state = .opened ∨ s.lcp.state = .closing)
    (hopened : (pppLcpPoll connected now s).lcp.state = .opened) :
    s.lcp.state = .opened ∧ (pppLcpPoll connected now s).lcp.peerFlags = s.lcp.peerFlags := by
  unfold pppLcpPoll at hopened ⊢
  by_cases hdown : (!s.receive.enabled || !connected) = true
  · rw [if_pos hdown] at hopened ⊢
    exact (lcpLowerUnavailable_settles s).opened hopened
  · rw [if_neg hdown] at hopened ⊢
    split at hopened
    · rename_i hclosed
      rw [hclosed] at hbefore
      simp at hbefore
    · rename_i hstopped
      rw [hstopped] at hbefore
      simp at hbefore
    · have hsettles := closeIfIdle_settles s
      have hdone : (closeIfIdle s).lcp.state.negotiating = false := by
        rw [Bool.eq_false_iff]
        intro hnegotiating
        have hnegotiating' := hsettles.negotiating hnegotiating
        rcases hbefore with hstate | hstate
        · rw [hstate] at hnegotiating'
          contradiction
        · rw [hstate] at hnegotiating'
          contradiction
      obtain ⟨hstate, hflags⟩ := serviceExistingPending_opened now (closeIfIdle s) hdone hopened
      obtain ⟨hstate', hflags'⟩ := hsettles.opened hstate
      exact ⟨hstate', hflags.trans hflags'⟩

end Poll

end SnesModem.Asm
