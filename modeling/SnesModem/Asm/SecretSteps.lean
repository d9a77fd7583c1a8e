import SnesModem.Asm.ChapRechallenge
import SnesModem.Asm.SecretFlow

/-!
# What the routines do with the encoder and with uploaded credentials

* `Plain`: a poll that knows no credential;
* `papBuild_begun`, `chapBuild_begun`: the frames with marks;
* `dispatchFrame_cleared`, `timedOut_cleared`, `received_cleared`: a routine clears the credentials exactly if it gets to
  `pppPapCredentialsClearSensitive`;
* `advance_active`, `advance_position`: an octet of the encoder.
-/

namespace SnesModem.Asm.SecretFlow

open SnesModem.Lib SnesModem.Lib.Octets SnesModem.Lib.Marks SnesModem.Asm.FrameDelivery

/-! ### Frames without marks -/

/-- A busy encoder is left alone or aborted, and an idle one that is busy afterwards is between two octets. -/
structure Plain (t t' : Transmit) : Prop where
  busy : t.active = true → t' = t ∨ t' = pppTransmitAbort t
  fresh : t.active = false → t'.active = true → TransmitRefinement.Sound t'

section Plain

variable {t t' : Transmit}

lemma Plain.of_gives (h : Gives t t') : Plain t t' where
  busy := fun hactive => Or.inl (h.busy hactive)
  fresh := fun hidle hactive => (h.fresh hidle hactive).1

lemma abort_inactive (t : Transmit) : (pppTransmitAbort t).active = false := by
  unfold pppTransmitAbort
  split
  · rfl
  · rename_i hidle
    simpa using hidle

lemma Plain.abort (t : Transmit) : Plain t (pppTransmitAbort t) where
  busy := fun _ => Or.inr rfl
  fresh := fun _ hactive => by
    rw [abort_inactive] at hactive
    contradiction

lemma lcpPoll_plain (connected : Bool) (now : UInt32) (s : LcpLayer) :
    Plain s.transmit (pppLcpPoll connected now s).transmit := by
  cases henabled : s.receive.enabled with
  | false =>
    unfold pppLcpPoll
    rw [henabled, if_pos (by simp)]
    exact .abort s.transmit
  | true =>
    cases connected with
    | false =>
      unfold pppLcpPoll
      rw [henabled, if_pos (by simp)]
      exact .abort s.transmit
    | true => exact .of_gives (lcpPoll_gives now s henabled)

lemma ipcpPoll_plain (connected : Bool) (now : UInt32) (state : LcpState) (authenticated : Bool) (s : IpcpLayer) :
    Plain s.transmit (pppIpcpPoll connected now state authenticated s).transmit := by
  by_cases hup : (linkUp connected s.receive state && authenticated) = true ∨ s.ipcp.state = .closed
  · exact .of_gives (ipcpPoll_gives now s connected state authenticated hup)
  · rw [ipcpPoll_down now s connected state authenticated hup]
    split
    · exact .of_gives (.refl _)
    · exact .abort _

/-- The polls that know no credential. -/
def plainPhase : Phase → Bool
  | .lcp | .ipcp | .ipv4 | .request => true
  | _ => false

lemma pollLayer_plain {phase : Phase} (s : Stack) (i : Input) (hphase : plainPhase phase = true) :
    Plain s.transmit (pollLayer phase s i).transmit := by
  unfold pollLayer
  cases phase with
  | lcp => exact lcpPoll_plain i.connected i.now s.lcpLayer
  | ipcp => exact ipcpPoll_plain i.connected i.now _ _ s.ipcpLayer
  | ipv4 => exact .of_gives (ipv4Poll_gives _ i.reply s.ipv4Layer)
  | request =>
    dsimp only
    cases i.packet with
    | none => exact .of_gives (.refl _)
    | some packet => exact .of_gives (sendIp_gives s.transmit packet)
  | mailbox => contradiction
  | receive => contradiction
  | pap => contradiction
  | chap => contradiction
  | transmit => contradiction

end Plain

/-! ### Frames with marks -/

section Frames

variable {now : UInt32} {buffer : Buffer}

lemma begun_self (t : Transmit) : begun t t = false := by
  unfold begun
  cases t.active
  · rfl
  · rfl

lemma begun_eq_true {t t' : Transmit} : begun t t' = true ↔ t.active = false ∧ t'.active = true := by simp [begun]

/-- The header of a frame decides what the buffer is taken for. -/
lemma authentication_write {octets : List UInt8} (hlength : 4 ≤ octets.length)
    (hhigh : octets.getD 2 0 = 0xc0 ∨ octets.getD 2 0 = 0xc2) (hlow : octets.getD 3 0 = 0x23) :
    authentication (write buffer 0 octets) = true := by
  have hcell (k : ℕ) (hk : k < 4) : write buffer 0 octets k = octets.getD k 0 := if_pos ⟨Nat.zero_le k, by omega⟩
  unfold authentication
  rw [hcell 2 (by omega), hcell 3 (by omega)]
  exact decide_eq_true ⟨hhigh, hlow⟩

lemma sendFrame_buffer (t : Transmit) (frame : List UInt8) :
    (sendFrame t frame).1.buffer = write t.buffer 0 frame := by
  unfold sendFrame
  rw [transmitBegin_eq]
  split
  · rfl
  · rfl

lemma papBuild_sends (now : UInt32) (s : PapLayer) : (s.build now).transmit = s.transmit ∨ ∃ identifier peerId password,
    (s.build now).transmit = (sendFrame s.transmit (authenticateRequest identifier peerId password)).1 := by
  change (pppPapBuildPending now s.credentials s.pap s.transmit).2 = s.transmit ∨ ∃ identifier peerId password,
    (pppPapBuildPending now s.credentials s.pap s.transmit).2 = _
  unfold pppPapBuildPending
  split
  · exact Or.inl rfl
  split
  · rename_i peerId password _ _
    split
    · exact Or.inl rfl
    · refine Or.inr ⟨s.pap.nextIdentifier, peerId, password, ?_⟩
      split
      · rename_i heq
        rw [heq]
      · rename_i heq
        rw [heq]
  · exact Or.inl rfl

/-- The frame that PAP gives to the encoder is an Authenticate-Request. -/
theorem papBuild_begun {s : PapLayer} (h : begun s.transmit (s.build now).transmit = true) :
    authentication (s.build now).transmit.buffer = true := by
  rcases papBuild_sends now s with hsame | ⟨identifier, peerId, password, hsent⟩
  · rw [hsame, begun_self] at h
    contradiction
  · rw [hsent, sendFrame_buffer]
    exact authentication_write (by simp [authenticateRequest]) (Or.inl rfl) rfl

lemma idLength_le (credentials : Credentials) : idLength credentials ≤ 8 := by
  unfold idLength
  cases credentials.peerId with
  | none => exact Nat.zero_le _
  | some peerId => exact peerId.length_le

lemma passwordLength_le (credentials : Credentials) : passwordLength credentials ≤ 24 := by
  unfold passwordLength
  cases credentials.password with
  | none => exact Nat.zero_le _
  | some password => exact password.length_le

/-- The marked cells of a request lie where `pppPapScrubTransmitBuffer` wipes. -/
lemma requestCells_bounds {credentials : Credentials} {c : Custody} {k : ℕ} (h : requestCells credentials c k = true) :
    scrubOffset ≤ k ∧ k < scrubEnd := by
  have hid := idLength_le credentials
  have hpassword := passwordLength_le credentials
  simp only [requestCells, Bool.or_eq_true, Bool.and_eq_true, decide_eq_true_eq] at h
  show 8 ≤ k ∧ k < 42
  omega

lemma chapBuild_sends (s : ChapLayer) : s.build.transmit = s.transmit ∨ ∃ identifier digest peerId,
    s.build.transmit = (sendFrame s.transmit (responseFrame identifier digest peerId)).1 := by
  change (pppChapBuildPending s.credentials s.chap s.transmit).2 = s.transmit ∨ ∃ identifier digest peerId,
    (pppChapBuildPending s.credentials s.chap s.transmit).2 = _
  unfold pppChapBuildPending
  split
  · exact Or.inl rfl
  split
  · exact Or.inl rfl
  split
  · rename_i peerId password _ _
    extract_lets digest
    refine Or.inr ⟨s.chap.lastIdentifier, digest, peerId, ?_⟩
    split
    · rename_i heq
      rw [heq]
    · rename_i heq
      rw [heq]
  · exact Or.inl rfl

/-- The frame that CHAP gives to the encoder is a Response. -/
theorem chapBuild_begun {s : ChapLayer} (h : begun s.transmit s.build.transmit = true) :
    authentication s.build.transmit.buffer = true := by
  rcases chapBuild_sends s with hsame | ⟨identifier, digest, peerId, hsent⟩
  · rw [hsame, begun_self] at h
    contradiction
  · rw [hsent, sendFrame_buffer]
    exact authentication_write (by simp [responseFrame]) (Or.inr rfl) rfl

lemma responseCells_bounds {credentials : Credentials} {c : Custody} {k : ℕ}
    (h : responseCells credentials c k = true) : scrubOffset ≤ k ∧ k < scrubEnd := by
  have hid := idLength_le credentials
  simp only [responseCells, Bool.or_eq_true, Bool.and_eq_true, decide_eq_true_eq] at h
  show 8 ≤ k ∧ k < 42
  omega

/-- **A digest that is computed is sent**: the encoder takes its Response. -/
theorem begun_of_digests {s : ChapLayer} (h : digests s = true) : begun s.transmit s.build.transmit = true := by
  simp only [digests, Bool.and_eq_true, decide_eq_true_eq, Bool.not_eq_true'] at h
  obtain ⟨⟨hpending, hidle⟩, hready⟩ := h
  exact begun_eq_true.mpr ⟨hidle, (ChapLayer.build_ready hpending hidle hready).1⟩

end Frames

/-! ### The mailbox -/

section Upload

variable {now : UInt32} {arguments : Buffer} {credentials : Credentials} {s : Stack} {b : UInt8} {overrun : Overrun}

lemma setPeerId_accepted (h : acceptsPeerId arguments credentials = true) : credentials.transient = true ∧
    ∃ peerId, pppPapCredentialSetPeerId arguments credentials = { credentials with peerId := some peerId } := by
  rw [acceptsPeerId, Bool.and_eq_true, decide_eq_true_eq] at h
  unfold pppPapCredentialSetPeerId
  rw [if_neg (by simp [h.1]), if_pos h.2]
  exact ⟨h.1, _, rfl⟩

lemma setPeerId_refused (h : acceptsPeerId arguments credentials = false) :
    pppPapCredentialSetPeerId arguments credentials = pppPapCredentialsClear := by
  unfold pppPapCredentialSetPeerId
  split_ifs with htransient hlength
  · rfl
  · rw [Bool.not_eq_true', Bool.not_eq_false] at htransient
    simp [acceptsPeerId, hlength, htransient] at h
  · rfl

lemma setPassword_accepted (h : acceptsPassword arguments credentials = true) : credentials.transient = true ∧
    ∃ password, pppPapCredentialSetPassword arguments credentials = { credentials with password := some password } := by
  rw [acceptsPassword, Bool.and_eq_true, decide_eq_true_eq] at h
  unfold pppPapCredentialSetPassword
  rw [if_neg (by simp [h.1]), dif_pos h.2]
  exact ⟨h.1, _, rfl⟩

lemma setPassword_refused (h : acceptsPassword arguments credentials = false) :
    pppPapCredentialSetPassword arguments credentials = pppPapCredentialsClear := by
  unfold pppPapCredentialSetPassword
  split_ifs with htransient hlength
  · rfl
  · rw [Bool.not_eq_true', Bool.not_eq_false] at htransient
    simp [acceptsPassword, hlength, htransient] at h
  · rfl

/-- An upload that copies what it has validated changes the credentials only. -/
lemma mailboxPoll_peerIdSet (hcopies : copiesValidated s.credentials (.peerIdSet arguments b overrun) = true) :
    modemMailboxPoll now s (.peerIdSet arguments b overrun) =
      { s with credentials := pppPapCredentialSetPeerId arguments s.credentials } := if_pos hcopies

lemma mailboxPoll_passwordSet (hcopies : copiesValidated s.credentials (.passwordSet arguments b overrun) = true) :
    modemMailboxPoll now s (.passwordSet arguments b overrun) =
      { s with credentials := pppPapCredentialSetPassword arguments s.credentials } :=
  if_pos hcopies

end Upload

/-! ### Where credentials are cleared -/

/-- A routine that clears transient credentials if it gets there. -/
def clearedIf (cleared : Bool) (credentials : Credentials) : Credentials :=
  if cleared then pppPapCredentialsClearSensitive credentials else credentials

section Cleared

variable {now : UInt32}

/-- A packet of PAP leaves the state and the credentials alone, or it is the reply that is waited for. -/
lemma papReceiveFrame_outcome (d : Decoder) (c : Credentials) (p : Pap) :
    (pppPapReceiveFrame d c p).1.state = p.state ∧ (pppPapReceiveFrame d c p).2 = c ∨
      p.state = .waitingForReply ∧ (pppPapReceiveFrame d c p).1.state ≠ .waitingForReply ∧
        (pppPapReceiveFrame d c p).2 = pppPapCredentialsClearSensitive c := by
  have hreply (p : Pap) : (receiveReply d c p).1.state = p.state ∧ (receiveReply d c p).2 = c ∨
      p.state = .waitingForReply ∧ (receiveReply d c p).1.state ≠ .waitingForReply ∧
        (receiveReply d c p).2 = pppPapCredentialsClearSensitive c := by
    unfold receiveReply
    dsimp only
    split_ifs with hstate
    · exact Or.inl ⟨rfl, rfl⟩
    · exact Or.inl ⟨rfl, rfl⟩
    · exact Or.inl ⟨rfl, rfl⟩
    · exact Or.inl ⟨rfl, rfl⟩
    · exact Or.inl ⟨rfl, rfl⟩
    · exact Or.inl ⟨rfl, rfl⟩
    · refine Or.inr ⟨by simpa using hstate, ?_, rfl⟩
      unfold acceptReply
      dsimp only
      split_ifs
      · exact PapState.noConfusion
      · exact PapState.noConfusion
  unfold pppPapReceiveFrame
  dsimp only
  split_ifs
  · exact Or.inl ⟨rfl, rfl⟩
  · exact Or.inl ⟨rfl, rfl⟩
  · exact Or.inl ⟨rfl, rfl⟩
  · exact Or.inl ⟨rfl, rfl⟩
  · exact hreply _

/-- **A reply that is accepted** clears the credentials, and nothing else that PAP receives does. -/
theorem dispatchFrame_cleared (s : PapLayer) : s.dispatchFrame.credentials = clearedIf (replied s) s.credentials := by
  have houtcome : s.dispatchFrame.pap.state = s.pap.state ∧ s.dispatchFrame.credentials = s.credentials ∨
      s.pap.state = .waitingForReply ∧ s.dispatchFrame.pap.state ≠ .waitingForReply ∧
        s.dispatchFrame.credentials = pppPapCredentialsClearSensitive s.credentials := by
    unfold PapLayer.dispatchFrame
    split
    · exact Or.inl ⟨rfl, rfl⟩
    split
    · exact papReceiveFrame_outcome s.receive.decoder s.credentials s.pap
    split
    · exact Or.inl ⟨rfl, rfl⟩
    · exact Or.inl ⟨rfl, rfl⟩
  unfold clearedIf replied
  rcases houtcome with ⟨hstate, hsame⟩ | ⟨hwaiting, hreplied, hcleared⟩
  · rw [hsame, if_neg (by simp [hstate])]
  · rw [hcleared, if_pos (by simp [hwaiting, hreplied])]

lemma papPollTimeout_outcome (now : UInt32) (c : Credentials) (p : Pap) :
    ((pppPapPollTimeout now c p).1.state = p.state ∨ (pppPapPollTimeout now c p).1.state = .requestPending) ∧
        (pppPapPollTimeout now c p).2 = c ∨
      p.state = .waitingForReply ∧ (pppPapPollTimeout now c p).1.state = .failed ∧
        (pppPapPollTimeout now c p).2 = pppPapCredentialsClearSensitive c := by
  unfold pppPapPollTimeout
  dsimp only
  split_ifs with hidle hstate
  · exact Or.inl ⟨Or.inl rfl, rfl⟩
  · exact Or.inl ⟨Or.inl rfl, rfl⟩
  · exact Or.inr ⟨by simpa using hstate, rfl, rfl⟩
  · exact Or.inl ⟨Or.inr rfl, rfl⟩

lemma timedOut_cleared (s : PapLayer) : (timedOut now s).credentials = clearedIf (gaveUp now s) s.credentials := by
  change (pppPapPollTimeout now s.credentials s.pap).2 = _
  unfold clearedIf gaveUp
  rcases papPollTimeout_outcome now s.credentials s.pap with ⟨hstate, hsame⟩ | ⟨hwaiting, hfailed, hcleared⟩
  · rw [hsame, if_neg]
    rcases hstate with hstate | hstate
    · simp +contextual [hstate]
    · simp [hstate]
  · rw [hcleared, if_pos (by simp [hwaiting, hfailed])]

/-- A packet of CHAP that ends the authentication clears the credentials, and no other does. -/
lemma chapReceiveFrame_outcome (d : Decoder) (c : Credentials) (h : Chap) :
    ((pppChapReceiveFrame d c h).1.state = h.state ∨ (pppChapReceiveFrame d c h).1.state = .responsePending) ∧
        (pppChapReceiveFrame d c h).2 = c ∨
      h.state = .waitingResult ∧
        ((pppChapReceiveFrame d c h).1.state = .opened ∨ (pppChapReceiveFrame d c h).1.state = .failed) ∧
        (pppChapReceiveFrame d c h).2 = pppPapCredentialsClearSensitive c := by
  have hresult (h : Chap) : ((receiveResult c h).1.state = h.state ∨ (receiveResult c h).1.state = .responsePending) ∧
        (receiveResult c h).2 = c ∨
      h.state = .waitingResult ∧ ((receiveResult c h).1.state = .opened ∨ (receiveResult c h).1.state = .failed) ∧
        (receiveResult c h).2 = pppPapCredentialsClearSensitive c := by
    unfold receiveResult
    dsimp only
    split_ifs with hstate
    · exact Or.inl ⟨Or.inl rfl, rfl⟩
    · exact Or.inl ⟨Or.inl rfl, rfl⟩
    · exact Or.inr ⟨by simpa using hstate, Or.inl rfl, rfl⟩
    · exact Or.inr ⟨by simpa using hstate, Or.inr rfl, rfl⟩
  have hchallenge (h : Chap) : (receiveChallenge d h).state = h.state ∨ (receiveChallenge d h).state = .responsePending := by
    unfold receiveChallenge
    dsimp only
    split_ifs
    · exact Or.inl rfl
    · exact Or.inl rfl
    · exact Or.inl rfl
    · exact Or.inl rfl
    · exact Or.inl rfl
    · exact Or.inr rfl
  unfold pppChapReceiveFrame
  dsimp only
  split_ifs
  · exact Or.inl ⟨Or.inl rfl, rfl⟩
  · exact Or.inl ⟨Or.inl rfl, rfl⟩
  · exact Or.inl ⟨Or.inl rfl, rfl⟩
  · exact Or.inl ⟨Or.inl rfl, rfl⟩
  · unfold dispatchChap
    split
    · exact Or.inl ⟨hchallenge _, rfl⟩
    · exact hresult _
    · exact hresult _
    · exact Or.inl ⟨Or.inl rfl, rfl⟩

lemma received_cleared (s : ChapLayer) : s.received.credentials = clearedIf (resulted s) s.credentials := by
  have hchap : s.received.chap = (pppChapReceiveFrame s.receive.decoder s.credentials s.chap).1 := rfl
  change (pppChapReceiveFrame s.receive.decoder s.credentials s.chap).2 = _
  unfold clearedIf resulted
  rw [hchap]
  rcases chapReceiveFrame_outcome s.receive.decoder s.credentials s.chap with ⟨hstate, hsame⟩ | ⟨hwaiting, hends, hcleared⟩
  · rw [hsame, if_neg]
    rcases hstate with hstate | hstate
    · simp +contextual [hstate]
    · simp [hstate]
  · rw [hcleared, if_pos (by simp [hwaiting, hends])]

end Cleared

/-! ### The polls of PAP and CHAP -/

/-- Each routine that clears the credentials in `pppPapPoll` meets a condition on what it finds. -/
def PapClears (condition : Bool → Credentials → Transmit → Custody → Prop) (connected : Bool) (now : UInt32) (l : Lcp)
    (s : PapLayer) (c : Custody) : Prop :=
  let serviced := s.serviced now l.peerFlags
  let built := papBuild now (papUp l.peerFlags s) c
  if linkUp connected s.receive l.state then
    condition (replied serviced) serviced.credentials serviced.transmit built ∧
      condition (gaveUp now serviced.dispatchFrame) serviced.dispatchFrame.credentials serviced.transmit
        (clearsIf (replied serviced) serviced.credentials built)
  else condition (s.pap.state ≠ .inactive) s.credentials s.transmit c

/-- And each in `pppChapPoll`. -/
def ChapClears (condition : Bool → Credentials → Transmit → Custody → Prop) (connected : Bool) (l : Lcp)
    (s : ChapLayer) (c : Custody) : Prop :=
  let serviced := s.serviced l.peerFlags
  if linkUp connected s.receive l.state then
    serviced.dispatches = true →
      condition (resulted serviced) serviced.credentials serviced.transmit (chapBuild (chapUp l.peerFlags s) c)
  else condition (s.chap.state ≠ .inactive) s.credentials s.transmit c

section Polls

variable (holds : Credentials → Transmit → Custody → Prop) {condition : Bool → Credentials → Transmit → Custody → Prop}
  {connected : Bool} {now : UInt32} {l : Lcp} {c : Custody}

instance [∀ cleared credentials t c, Decidable (condition cleared credentials t c)] (s : PapLayer) :
    Decidable (PapClears condition connected now l s c) := by unfold PapClears; infer_instance

instance [∀ cleared credentials t c, Decidable (condition cleared credentials t c)] (s : ChapLayer) :
    Decidable (ChapClears condition connected l s c) := by unfold ChapClears; infer_instance

/-- A condition that always holds. -/
lemma papClears_trivial {s : PapLayer} : PapClears (fun _ _ _ _ => True) connected now l s c := by
  simp [PapClears]

lemma chapClears_trivial {s : ChapLayer} : ChapClears (fun _ _ _ _ => True) connected l s c := by
  simp [ChapClears]

lemma papLowerDown_cleared (s : PapLayer) :
    s.lowerDown.credentials = clearedIf (s.pap.state ≠ .inactive) s.credentials := by
  unfold PapLayer.lowerDown clearedIf
  by_cases hinactive : s.pap.state = .inactive
  · rw [if_pos hinactive, if_neg (by simp [hinactive])]
  · rw [if_neg hinactive, if_pos (by simp [hinactive])]

lemma chapLowerDown_cleared (s : ChapLayer) :
    s.lowerDown.credentials = clearedIf (s.chap.state ≠ .inactive) s.credentials := by
  unfold ChapLayer.lowerDown clearedIf
  by_cases hinactive : s.chap.state = .inactive
  · rw [if_pos hinactive, if_neg (by simp [hinactive])]
  · rw [if_neg hinactive, if_pos (by simp [hinactive])]

lemma papLowerDown_transmit (s : PapLayer) : s.lowerDown.transmit = s.transmit := apply_ite PapLayer.transmit _ _ _ |>.trans
  (ite_self _)

lemma chapLowerDown_transmit (s : ChapLayer) : s.lowerDown.transmit = s.transmit :=
  apply_ite ChapLayer.transmit _ _ _ |>.trans (ite_self _)

/-- **A rule for the PAP poll**: what a build preserves, and a clear that meets the condition, the poll preserves. -/
theorem papPoll_rule {s : PapLayer}
    (hbuild : ∀ (s : PapLayer) c, holds s.credentials s.transmit c →
      holds s.credentials (s.build now).transmit (papBuild now s c))
    (hclears : ∀ cleared credentials t c, condition cleared credentials t c → holds credentials t c →
      holds (clearedIf cleared credentials) t (clearsIf cleared credentials c))
    (hcondition : PapClears condition connected now l s c) (h : holds s.credentials s.transmit c) :
    holds (pppPapPoll connected now l s).credentials (pppPapPoll connected now l s).transmit
      (papCustody connected now l s c) := by
  unfold PapClears at hcondition
  unfold pppPapPoll papCustody
  dsimp only at hcondition ⊢
  split_ifs at hcondition ⊢ with hup
  · have hbuilt : holds (s.serviced now l.peerFlags).credentials (s.serviced now l.peerFlags).transmit
        (papBuild now (papUp l.peerFlags s) c) := hbuild (papUp l.peerFlags s) c h
    have hreplied := hclears _ _ _ _ hcondition.1 hbuilt
    rw [← dispatchFrame_cleared] at hreplied
    have hgaveUp := hclears _ _ _ _ hcondition.2 hreplied
    rw [← timedOut_cleared, ← papDispatchFrame_transmit] at hgaveUp
    exact hbuild (timedOut now (s.serviced now l.peerFlags).dispatchFrame) _ hgaveUp
  · rw [papLowerDown_cleared, papLowerDown_transmit]
    exact hclears _ _ _ _ hcondition h

/-- **A rule for the CHAP poll.** -/
theorem chapPoll_rule {s : ChapLayer}
    (hbuild : ∀ (s : ChapLayer) c, holds s.credentials s.transmit c →
      holds s.credentials s.build.transmit (chapBuild s c))
    (hclears : ∀ cleared credentials t c, condition cleared credentials t c → holds credentials t c →
      holds (clearedIf cleared credentials) t (clearsIf cleared credentials c))
    (hscrub : ∀ credentials t c, holds credentials t c → holds credentials t { c with work := false })
    (hcondition : ChapClears condition connected l s c) (h : holds s.credentials s.transmit c) :
    holds (pppChapPoll connected l s).credentials (pppChapPoll connected l s).transmit
      (chapCustody connected l s c) := by
  unfold ChapClears at hcondition
  unfold pppChapPoll chapCustody
  dsimp only at hcondition ⊢
  split_ifs at hcondition ⊢ with hup hdispatches hinactive
  · have hbuilt : holds (s.serviced l.peerFlags).credentials (s.serviced l.peerFlags).transmit
        (chapBuild (chapUp l.peerFlags s) c) := hbuild (chapUp l.peerFlags s) c h
    have hresulted := hclears _ _ _ _ (hcondition hdispatches) hbuilt
    rw [← received_cleared] at hresulted
    unfold ChapLayer.dispatchFrame
    rw [if_pos hdispatches]
    exact hbuild (chapReceived (s.serviced l.peerFlags)) _ hresulted
  · have hbuilt : holds (s.serviced l.peerFlags).credentials (s.serviced l.peerFlags).transmit
        (chapBuild (chapUp l.peerFlags s) c) := hbuild (chapUp l.peerFlags s) c h
    unfold ChapLayer.dispatchFrame
    rw [if_neg hdispatches]
    split
    · exact hbuilt
    · exact hbuilt
  · unfold ChapLayer.lowerDown
    rw [if_pos hinactive]
    exact h
  · have hcleared := hclears _ _ _ _ hcondition h
    rw [← chapLowerDown_cleared, ← chapLowerDown_transmit] at hcleared
    have hdown : decide (s.chap.state ≠ .inactive) = true := by simp [hinactive]
    rw [hdown] at hcleared
    exact hscrub _ _ _ hcleared

end Polls

/-! ### The encoder -/

section Encoder

variable {t : Transmit} {c : Custody} {octet : UInt8}

/-- A peek leaves the octet that it has seen, and nothing else. -/
lemma peek_eq (t : Transmit) : ∃ octet, (pppTransmitPeek t).1 = { t with logicalByte := octet } := by
  unfold pppTransmitPeek
  split
  · exact ⟨t.logicalByte, rfl⟩
  · exact ⟨t.logicalByte, rfl⟩
  · exact ⟨t.logicalByte, rfl⟩
  · exact ⟨t.logicalByte, rfl⟩
  all_goals
    refine ⟨logicalByteOf t, ?_⟩
    extract_lets octet t'
    split <;> rfl

lemma peek_stage (t : Transmit) : (pppTransmitPeek t).1.stage = t.stage ∧ (pppTransmitPeek t).1.active = t.active ∧
    (pppTransmitPeek t).1.length = t.length ∧ (pppTransmitPeek t).1.position = t.position := by
  obtain ⟨octet, hpeek⟩ := peek_eq t
  rw [hpeek]
  exact ⟨rfl, rfl, rfl, rfl⟩

lemma peek_sound (h : TransmitRefinement.Sound t) : TransmitRefinement.Sound (pppTransmitPeek t).1 := by
  obtain ⟨octet, hpeek⟩ := peek_eq t
  rw [hpeek]
  exact ⟨h.active, h.opening, h.position, h.second⟩

lemma finishLogical_active (t : Transmit) : (finishLogical t).active = t.active ∧
    (finishLogical t).length = t.length := by
  unfold finishLogical
  split
  · extract_lets t'
    split <;> exact ⟨rfl, rfl⟩
  · exact ⟨rfl, rfl⟩
  · exact ⟨rfl, rfl⟩

/-- The encoder comes to rest with the closing flag only, and keeps the length of its frame. -/
lemma advance_active (hstage : t.stage ≠ .closingFlag) :
    (pppTransmitAdvance t).active = t.active ∧ (pppTransmitAdvance t).length = t.length := by
  obtain ⟨hpeek, hactive, hlength, -⟩ := peek_stage t
  unfold pppTransmitAdvance
  generalize pppTransmitPeek t = peeked at hpeek hactive hlength ⊢
  obtain ⟨t', next⟩ := peeked
  dsimp only at hpeek hactive hlength
  cases next with
  | none => exact ⟨hactive, hlength⟩
  | some octet =>
    dsimp only
    split
    · exact ⟨hactive, hlength⟩
    · rename_i hclosing
      exact absurd (hpeek.symm.trans hclosing) hstage
    · split
      · split
        · exact ⟨(finishLogical_active _).1.trans hactive, (finishLogical_active _).2.trans hlength⟩
        · exact ⟨hactive, hlength⟩
      · exact ⟨(finishLogical_active _).1.trans hactive, (finishLogical_active _).2.trans hlength⟩

lemma advance_closing (hstage : t.stage = .closingFlag) : (pppTransmitAdvance t).active = false := by
  simp [pppTransmitAdvance, pppTransmitPeek, hstage]

lemma finishLogical_position (hframe : t.stage = .frame → t.position.toNat < t.length.toNat) :
    t.position.toNat ≤ (finishLogical t).position.toNat := by
  unfold finishLogical
  split
  · rename_i hstage
    have hspace := hframe hstage
    have hlength := t.length.toNat_lt
    have hone : (1 : UInt16).toNat = 1 := rfl
    have hnext : (t.position + 1).toNat = t.position.toNat + 1 := by
      rw [UInt16.toNat_add, hone]
      omega
    extract_lets t'
    have hposition : t'.position.toNat = t.position.toNat + 1 := hnext
    split
    · exact Nat.le_of_lt (by rw [hposition]; exact Nat.lt_succ_self _)
    · exact Nat.le_of_lt (by rw [hposition]; exact Nat.lt_succ_self _)
  · exact Nat.le_refl _
  · exact Nat.le_refl _

/-- The encoder does not go back in its frame. -/
lemma advance_position (hframe : t.stage = .frame → t.position.toNat < t.length.toNat) :
    t.position.toNat ≤ (pppTransmitAdvance t).position.toNat := by
  obtain ⟨hpeek, -, hlength, hposition⟩ := peek_stage t
  unfold pppTransmitAdvance
  generalize pppTransmitPeek t = peeked at hpeek hlength hposition ⊢
  obtain ⟨t', next⟩ := peeked
  dsimp only at hpeek hlength hposition
  rw [← hpeek, ← hlength, ← hposition] at hframe
  rw [← hposition]
  cases next with
  | none => exact Nat.le_refl _
  | some octet =>
    dsimp only
    split
    · exact Nat.le_refl _
    · exact Nat.le_refl _
    · split
      · split
        · exact finishLogical_position (t := { t' with escapeSecond := false }) hframe
        · exact Nat.le_refl _
      · exact finishLogical_position hframe

/-- Wiping the transmit buffer changes no other mark. -/
lemma scrub_fields (buffer : Buffer) (c : Custody) : (c.scrub buffer).exposed = c.exposed ∧
    (c.scrub buffer).peerId = c.peerId ∧ (c.scrub buffer).password = c.password ∧
    (c.scrub buffer).arguments = c.arguments ∧ (c.scrub buffer).work = c.work := by
  unfold Custody.scrub
  split
  · exact ⟨rfl, rfl, rfl, rfl, rfl⟩
  · exact ⟨rfl, rfl, rfl, rfl, rfl⟩

/-- And neither does an octet of the encoder. -/
lemma advance_fields (t : Transmit) (c : Custody) : (c.advance t).exposed = c.exposed ∧ (c.advance t).peerId = c.peerId ∧
    (c.advance t).password = c.password ∧ (c.advance t).arguments = c.arguments ∧ (c.advance t).work = c.work := by
  unfold Custody.advance
  split
  · exact scrub_fields t.buffer c
  · exact ⟨rfl, rfl, rfl, rfl, rfl⟩

lemma push_lastTransmitByte (r : Traffic) (octet : UInt8) (secret : Bool) :
    (r.push octet secret).lastTransmitByte = r.lastTransmitByte := by
  unfold Traffic.push
  split
  · rfl
  · rfl

lemma push_lastWireByte (r : Traffic) (octet : UInt8) (secret : Bool) :
    (r.push octet secret).lastWireByte = r.lastWireByte := by
  unfold Traffic.push
  split
  · rfl
  · rfl

end Encoder

/-! ### A step -/

section Step

variable {w : Watch} {i : Input}

lemma step_stack (hphase : w.loop.phase ≠ .transmit) :
    (step w (.poll i)).loop.stack = pollLayer w.loop.phase (w.loop.stack.found i) i := by
  change (Asm.step w.loop (w.found i)).stack = _
  rw [step_of_ne _ hphase]
  cases hp : w.loop.phase with
  | transmit => exact absurd hp hphase
  | _ => rfl

lemma step_transmit (hphase : w.loop.phase = .transmit) : (step w (.poll i)).loop.stack =
    { w.loop.stack.found i with
      transmit := (pppTransmitPoll i.connected w.traffic.room w.loop.stack.transmit).1 } := by
  change (Asm.step w.loop (w.found i)).stack = _
  unfold Asm.step
  rw [hphase]
  rfl

end Step

end SnesModem.Asm.SecretFlow
