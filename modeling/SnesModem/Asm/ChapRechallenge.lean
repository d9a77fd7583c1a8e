import SnesModem.Asm.ChapDisclosure

/-!
# A Challenge after the authentication

The packet that ends an authentication erases uploaded credentials, and `OPENED` accepts a further Challenge.

* `SucceedsUploaded`: the poll that opens the client with uploaded credentials;
* `SamePeriod`: the link stays up;
* `Rechallenge`: what a step of the period does with the Challenge that a Response is due for;
* `rechallenge_answered`: the Response is handed over if the host has staged credentials again, and otherwise the
  client fails for want of them.
-/

namespace SnesModem.Asm

open SnesModem.Lib SnesModem.Lib.Octets

/-- The client has given up for want of credentials. -/
def Chap.missesCredentials (h : Chap) : Prop := h.state = .failed ∧ h.failure = .credentialsMissing

instance (h : Chap) : Decidable h.missesCredentials := by unfold Chap.missesCredentials; infer_instance

/-! ### Received packets -/

section Receive

variable {d : Decoder} {c : Credentials} {h : Chap}

/-- A packet does not make the client fail for want of credentials. -/
structure KeepsFailure (h h' : Chap) : Prop where
  failed : h.state = .failed → h'.state = .failed ∧ h'.failure = h.failure
  missing : h'.missesCredentials → h.missesCredentials

lemma KeepsFailure.of_same {h h' : Chap} (hstate : h'.state = h.state) (hfailure : h'.failure = h.failure) :
    KeepsFailure h h' where
  failed := fun hfailed => ⟨hstate.trans hfailed, hfailure⟩
  missing := fun hmissing => ⟨hstate.symm.trans hmissing.1, hfailure.symm.trans hmissing.2⟩

lemma KeepsFailure.trans {h h' h'' : Chap} (hfirst : KeepsFailure h h') (hsecond : KeepsFailure h' h'') :
    KeepsFailure h h'' where
  failed := fun hfailed =>
    have hbetween := hfirst.failed hfailed
    have hlast := hsecond.failed hbetween.1
    ⟨hlast.1, hlast.2.trans hbetween.2⟩
  missing := hfirst.missing ∘ hsecond.missing

lemma receiveChallenge_keepsFailure : KeepsFailure h (receiveChallenge d h) := by
  unfold receiveChallenge
  dsimp only
  split_ifs with haccepts
  · exact .of_same rfl rfl
  · exact .of_same rfl rfl
  · exact .of_same rfl rfl
  · exact .of_same rfl rfl
  · exact .of_same rfl rfl
  · refine ⟨fun hfailed => ?_, nofun⟩
    rw [hfailed] at haccepts
    exact absurd rfl haccepts

lemma receiveResult_keepsFailure : KeepsFailure h (receiveResult c h).1 := by
  unfold receiveResult
  split_ifs with hstate
  · exact .of_same rfl rfl
  · exact .of_same rfl rfl
  · have hwaiting : h.state ≠ .failed := by
      intro hfailed
      rw [hfailed] at hstate
      exact hstate (by simp)
    dsimp only
    split_ifs
    · exact ⟨fun hfailed => absurd hfailed hwaiting, nofun⟩
    · exact ⟨fun hfailed => absurd hfailed hwaiting, nofun⟩

lemma receiveFrame_keepsFailure : KeepsFailure h (pppChapReceiveFrame d c h).1 := by
  unfold pppChapReceiveFrame
  dsimp only
  split_ifs
  · exact .of_same rfl rfl
  · exact .of_same rfl rfl
  · exact .of_same rfl rfl
  · exact .of_same rfl rfl
  · have hheader : KeepsFailure h (chapHeader d h) := .of_same rfl rfl
    apply hheader.trans
    change KeepsFailure (chapHeader d h) (dispatchChap d c (chapHeader d h)).1
    unfold dispatchChap
    split
    · exact receiveChallenge_keepsFailure
    · exact receiveResult_keepsFailure
    · exact receiveResult_keepsFailure
    · exact .of_same rfl rfl

end Receive

/-! ### One poll -/

namespace ChapLayer

variable {s : ChapLayer}

lemma build_of_ne (h : s.chap.state ≠ .responsePending) : build s = s := by
  unfold build pppChapBuildPending
  rw [if_pos h]

lemma build_of_active (h : s.transmit.active = true) : build s = s := by
  by_cases hpending : s.chap.state = .responsePending
  · unfold build pppChapBuildPending
    rw [if_neg (by simp [hpending]), if_pos h]
  · exact build_of_ne hpending

/-- The Response that is pending is handed over. -/
lemma build_ready (hpending : s.chap.state = .responsePending) (hidle : s.transmit.active = false)
    (hready : pppPapCredentialsReady s.credentials = true) :
    (build s).transmit.active = true ∧ (build s).chap.state = .waitingResult := by
  change (pppChapBuildPending s.credentials s.chap s.transmit).2.active = true ∧
    (pppChapBuildPending s.credentials s.chap s.transmit).1.state = .waitingResult
  rcases chapBuildPending_cases (c := s.credentials) (h := s.chap) (t := s.transmit) with
    hresponds | ⟨-, hbusy⟩ | ⟨-, hfailed, -, -⟩
  · exact ⟨hresponds.active, hresponds.state⟩
  · rw [hbusy hpending] at hidle
    contradiction
  · -- With both fields staged the build does not fail.
    unfold pppPapCredentialsReady at hready
    rw [Bool.and_eq_true, Option.isSome_iff_exists, Option.isSome_iff_exists] at hready
    obtain ⟨⟨peerId, hpeer⟩, password, hpassword⟩ := hready
    unfold pppChapBuildPending at hfailed
    rw [if_neg (by simp [hpending]), if_neg (by simp [hidle]), hpeer, hpassword] at hfailed
    dsimp only at hfailed
    split at hfailed
    · rw [hpending] at hfailed
      contradiction
    · contradiction

/-- Without credentials the client fails. -/
lemma build_missing (hpending : s.chap.state = .responsePending) (hidle : s.transmit.active = false)
    (hready : pppPapCredentialsReady s.credentials = false) :
    (build s).transmit = s.transmit ∧ (build s).chap.missesCredentials := by
  change (pppChapBuildPending s.credentials s.chap s.transmit).2 = s.transmit ∧
    (pppChapBuildPending s.credentials s.chap s.transmit).1.missesCredentials
  unfold pppChapBuildPending
  rw [if_neg (by simp [hpending]), if_neg (by simp [hidle])]
  split
  · rename_i hpeer hpassword
    simp [pppPapCredentialsReady, hpeer, hpassword] at hready
  · exact ⟨rfl, rfl, rfl⟩

/-- What the completed frame does once the encoder is busy. -/
lemma dispatchFrame_active (h : s.transmit.active = true) :
    (dispatchFrame s).transmit = s.transmit ∧ KeepsFailure s.chap (dispatchFrame s).chap := by
  unfold dispatchFrame
  split
  · rw [build_of_active (s := { received s with receive := pppReleaseFrame s.receive }) h]
    exact ⟨rfl, receiveFrame_keepsFailure⟩
  split
  · exact ⟨rfl, .of_same rfl rfl⟩
  · exact ⟨rfl, .of_same rfl rfl⟩

/-- A client that has failed stays so. -/
lemma dispatchFrame_failed (h : s.chap.state = .failed) :
    (dispatchFrame s).transmit = s.transmit ∧ KeepsFailure s.chap (dispatchFrame s).chap := by
  unfold dispatchFrame
  split
  · have hfailed : (received s).chap.state = .failed := (receiveFrame_keepsFailure.failed h).1
    rw [build_of_ne (s := { received s with receive := pppReleaseFrame s.receive }) (by simp [hfailed])]
    exact ⟨rfl, receiveFrame_keepsFailure⟩
  split
  · exact ⟨rfl, .of_same rfl rfl⟩
  · exact ⟨rfl, .of_same rfl rfl⟩

end ChapLayer

/-! ### The credentials -/

/-- Nothing is done with the credentials, or the uploaded ones are erased. -/
def KeepsOrErases (c c' : Credentials) : Prop := c' = c ∨ c' = pppPapCredentialsClearSensitive c

section Credentials

variable {c c' c'' : Credentials}

lemma KeepsOrErases.trans (h : KeepsOrErases c c') (h' : KeepsOrErases c' c'') : KeepsOrErases c c'' := by
  have htwice : pppPapCredentialsClearSensitive (pppPapCredentialsClearSensitive c) =
      pppPapCredentialsClearSensitive c := by
    unfold pppPapCredentialsClearSensitive
    split
    · rfl
    · rfl
  rcases h with rfl | rfl
  · exact h'
  · rcases h' with rfl | rfl
    · exact Or.inr rfl
    · exact Or.inr htwice

/-- Erased credentials stay so. -/
lemma KeepsOrErases.erased (h : KeepsOrErases c c') (hc : c = pppPapCredentialsClear) :
    c' = pppPapCredentialsClear := by
  subst hc
  rcases h with rfl | rfl
  · rfl
  · rfl

lemma papReceiveFrame_credentials (d : Decoder) (p : Pap) : KeepsOrErases c (pppPapReceiveFrame d c p).2 := by
  have hreply (p : Pap) : KeepsOrErases c (receiveReply d c p).2 := by
    unfold receiveReply
    dsimp only
    split_ifs
    · exact Or.inl rfl
    · exact Or.inl rfl
    · exact Or.inl rfl
    · exact Or.inl rfl
    · exact Or.inl rfl
    · exact Or.inl rfl
    · exact Or.inr rfl
  unfold pppPapReceiveFrame
  dsimp only
  split_ifs
  · exact Or.inl rfl
  · exact Or.inl rfl
  · exact Or.inl rfl
  · exact Or.inl rfl
  · exact hreply _

lemma papPollTimeout_credentials (now : UInt32) (p : Pap) : KeepsOrErases c (pppPapPollTimeout now c p).2 := by
  unfold pppPapPollTimeout
  dsimp only
  split_ifs
  · exact Or.inl rfl
  · exact Or.inl rfl
  · exact Or.inr rfl
  · exact Or.inl rfl

lemma chapReceiveFrame_credentials (d : Decoder) (h : Chap) : KeepsOrErases c (pppChapReceiveFrame d c h).2 := by
  unfold pppChapReceiveFrame
  dsimp only
  split_ifs
  · exact Or.inl rfl
  · exact Or.inl rfl
  · exact Or.inl rfl
  · exact Or.inl rfl
  · have hresult (h : Chap) : KeepsOrErases c (receiveResult c h).2 := by
      unfold receiveResult
      split_ifs
      · exact Or.inl rfl
      · exact Or.inl rfl
      · exact Or.inr rfl
    unfold dispatchChap
    split
    · exact Or.inl rfl
    · exact hresult _
    · exact hresult _
    · exact Or.inl rfl

lemma papDispatchFrame_credentials (s : PapLayer) : KeepsOrErases s.credentials s.dispatchFrame.credentials := by
  unfold PapLayer.dispatchFrame
  split
  · exact Or.inl rfl
  split
  · exact papReceiveFrame_credentials s.receive.decoder s.pap
  split
  · exact Or.inl rfl
  · exact Or.inl rfl

lemma papPoll_credentials (connected : Bool) (now : UInt32) (l : Lcp) (s : PapLayer) :
    KeepsOrErases s.credentials (pppPapPoll connected now l s).credentials := by
  unfold pppPapPoll
  split
  · exact (papDispatchFrame_credentials (PapLayer.serviced now l.peerFlags s)).trans (papPollTimeout_credentials now _)
  · unfold PapLayer.lowerDown
    split
    · exact Or.inl rfl
    · exact Or.inr rfl

lemma chapPoll_credentials (connected : Bool) (l : Lcp) (s : ChapLayer) :
    KeepsOrErases s.credentials (pppChapPoll connected l s).credentials := by
  unfold pppChapPoll
  split
  · change KeepsOrErases (ChapLayer.serviced l.peerFlags s).credentials _
    unfold ChapLayer.dispatchFrame
    split
    · exact chapReceiveFrame_credentials _ _
    split
    · exact Or.inl rfl
    · exact Or.inl rfl
  · unfold ChapLayer.lowerDown
    split
    · exact Or.inl rfl
    · exact Or.inr rfl

/-- What a packet that changes the state does: it is a Challenge, or it ends the authentication and erases the
credentials. -/
def ChangesWith (c : Credentials) (h : Chap) (received : Chap × Credentials) : Prop :=
  received.1.state = h.state ∨ received.1.state = .responsePending ∨ received.2 = pppPapCredentialsClearSensitive c

lemma receiveChallenge_changesWith (d : Decoder) (h : Chap) : ChangesWith c h (receiveChallenge d h, c) := by
  unfold receiveChallenge
  dsimp only
  split_ifs
  · exact Or.inl rfl
  · exact Or.inl rfl
  · exact Or.inl rfl
  · exact Or.inl rfl
  · exact Or.inl rfl
  · exact Or.inr (Or.inl rfl)

lemma receiveResult_changesWith (h : Chap) : ChangesWith c h (receiveResult c h) := by
  unfold receiveResult
  split_ifs
  · exact Or.inl rfl
  · exact Or.inl rfl
  · exact Or.inr (Or.inr rfl)

lemma receiveFrame_changesWith (d : Decoder) (h : Chap) : ChangesWith c h (pppChapReceiveFrame d c h) := by
  unfold pppChapReceiveFrame
  dsimp only
  split_ifs
  · exact Or.inl rfl
  · exact Or.inl rfl
  · exact Or.inl rfl
  · exact Or.inl rfl
  · change ChangesWith c (chapHeader d h) (dispatchChap d c (chapHeader d h))
    unfold dispatchChap
    split
    · exact receiveChallenge_changesWith d _
    · exact receiveResult_changesWith _
    · exact receiveResult_changesWith _
    · exact Or.inl rfl

end Credentials

/-! ### The poll -/

open ChapLayer

section Poll

variable {connected : Bool} {l : Lcp} {s : ChapLayer}

lemma chapPoll_eq (hup : linkUp connected s.receive l.state = true) (hactive : s.chap.state ≠ .inactive) :
    pppChapPoll connected l s = dispatchFrame (build s) := by
  unfold pppChapPoll serviced pppChapLowerUp
  rw [if_pos hup, if_pos hactive]

lemma serviced_eq (flags : PeerFlags) (hactive : s.chap.state ≠ .inactive) : serviced flags s = build s := by
  unfold serviced pppChapLowerUp
  rw [if_pos hactive]

/-- The completed frame is accepted as a Challenge, and the build after it is that of its Response. -/
lemma dispatchFrame_accepts (haccepts : s.accepts = true) :
    ∃ pending : ChapLayer, dispatchFrame s = build pending ∧ pending.chap.state = .responsePending ∧
      pending.transmit = s.transmit ∧ pending.credentials = s.credentials := by
  simp only [accepts, Bool.and_eq_true] at haccepts
  obtain ⟨⟨hdispatches, hstate⟩, hvalid⟩ := haccepts
  obtain ⟨hcredentials, hpending, -, -⟩ := receiveFrame_accepted (c := s.credentials) hstate hvalid
  refine ⟨{ received s with receive := pppReleaseFrame s.receive }, ?_, hpending, rfl, hcredentials⟩
  unfold dispatchFrame
  rw [if_pos hdispatches]

/-- A Response is due in the poll: it was pending before, or its Challenge is accepted. -/
def Owes (flags : PeerFlags) (s : ChapLayer) : Prop :=
  s.chap.state = .responsePending ∨ s.chap.state ≠ .responsePending ∧ (serviced flags s).accepts = true

/-- The client waits for the encoder. -/
lemma chapPoll_busy (hup : linkUp connected s.receive l.state = true) (hactive : s.chap.state ≠ .inactive)
    (howes : Owes l.peerFlags s) (hbusy : s.transmit.active = true) :
    (pppChapPoll connected l s).chap.state = .responsePending := by
  rw [chapPoll_eq hup hactive, build_of_active hbusy]
  rcases howes with hpending | ⟨-, haccepts⟩
  · unfold dispatchFrame
    split
    · have hreceived : (received s).chap.state = .responsePending := by
        have hnot : ¬ (s.chap.state.acceptsChallenge = true ∧ validChallenge s.receive.decoder = true) := by
          rintro ⟨haccepts, -⟩
          rw [hpending] at haccepts
          contradiction
        rcases (receiveFrame_refused (c := s.credentials) hnot).1.state with hsame | ⟨hwaiting, -⟩
        · exact hsame.trans hpending
        · rw [hwaiting] at hpending
          contradiction
      rw [build_of_active (s := { received s with receive := pppReleaseFrame s.receive }) hbusy]
      exact hreceived
    split
    · exact hpending
    · exact hpending
  · rw [serviced_eq _ hactive, build_of_active hbusy] at haccepts
    obtain ⟨pending, hdispatched, hstate, htransmit, -⟩ := dispatchFrame_accepts haccepts
    rw [hdispatched, build_of_active (by rw [htransmit]; exact hbusy)]
    exact hstate

/-- With both fields staged, a free encoder takes the Response. -/
lemma chapPoll_ready (hup : linkUp connected s.receive l.state = true) (hactive : s.chap.state ≠ .inactive)
    (howes : Owes l.peerFlags s) (hidle : s.transmit.active = false)
    (hready : pppPapCredentialsReady s.credentials = true) :
    (pppChapPoll connected l s).transmit.active = true ∧ ¬ (pppChapPoll connected l s).chap.missesCredentials := by
  rw [chapPoll_eq hup hactive]
  rcases howes with hpending | ⟨hnot, haccepts⟩
  · obtain ⟨hbusy, hwaiting⟩ := build_ready hpending hidle hready
    obtain ⟨htransmit, hkeeps⟩ := dispatchFrame_active hbusy
    refine ⟨by rw [htransmit]; exact hbusy, fun hmissing => ?_⟩
    have hfailed := (hkeeps.missing hmissing).1
    rw [hwaiting] at hfailed
    contradiction
  · rw [serviced_eq _ hactive, build_of_ne hnot] at haccepts
    rw [build_of_ne hnot]
    obtain ⟨pending, hdispatched, hstate, htransmit, hcredentials⟩ := dispatchFrame_accepts haccepts
    obtain ⟨hbusy, hwaiting⟩ := build_ready hstate (by rw [htransmit]; exact hidle) (by rw [hcredentials]; exact hready)
    rw [hdispatched]
    refine ⟨hbusy, fun hmissing => ?_⟩
    rw [hmissing.1] at hwaiting
    contradiction

/-- Without them the client fails. -/
lemma chapPoll_missing (hup : linkUp connected s.receive l.state = true) (hactive : s.chap.state ≠ .inactive)
    (howes : Owes l.peerFlags s) (hidle : s.transmit.active = false)
    (hready : pppPapCredentialsReady s.credentials = false) :
    (pppChapPoll connected l s).transmit = s.transmit ∧ (pppChapPoll connected l s).chap.missesCredentials := by
  rw [chapPoll_eq hup hactive]
  rcases howes with hpending | ⟨hnot, haccepts⟩
  · obtain ⟨hbuilt, hmissing⟩ := build_missing hpending hidle hready
    obtain ⟨htransmit, hkeeps⟩ := dispatchFrame_failed hmissing.1
    obtain ⟨hfailed, hfailure⟩ := hkeeps.failed hmissing.1
    exact ⟨htransmit.trans hbuilt, hfailed, hfailure.trans hmissing.2⟩
  · rw [serviced_eq _ hactive, build_of_ne hnot] at haccepts
    rw [build_of_ne hnot]
    obtain ⟨pending, hdispatched, hstate, htransmit, hcredentials⟩ := dispatchFrame_accepts haccepts
    obtain ⟨hbuilt, hmissing⟩ := build_missing hstate (by rw [htransmit]; exact hidle) (by rw [hcredentials]; exact hready)
    rw [hdispatched]
    exact ⟨hbuilt.trans htransmit, hmissing⟩

/-- A Challenge that is accepted behind a Response waits for the encoder. -/
lemma chapPoll_stores (hup : linkUp connected s.receive l.state = true) (hactive : s.chap.state ≠ .inactive)
    (hpending : s.chap.state = .responsePending) (haccepts : (serviced l.peerFlags s).accepts = true) :
    (pppChapPoll connected l s).chap.state = .responsePending := by
  rw [serviced_eq _ hactive] at haccepts
  rw [chapPoll_eq hup hactive]
  have hstate : (build s).chap.state.acceptsChallenge = true := by
    simp only [accepts, Bool.and_eq_true] at haccepts
    exact haccepts.1.2
  cases hidle : s.transmit.active with
  | true =>
    rw [build_of_active hidle, hpending] at hstate
    contradiction
  | false =>
    cases hready : pppPapCredentialsReady s.credentials with
    | false =>
      rw [(build_missing hpending hidle hready).2.1] at hstate
      contradiction
    | true =>
      have hbusy := (build_ready hpending hidle hready).1
      obtain ⟨pending, hdispatched, hpending', htransmit, -⟩ := dispatchFrame_accepts haccepts
      rw [hdispatched, build_of_active (by rw [htransmit]; exact hbusy)]
      exact hpending'

/-- A poll on a live link does not leave the client at rest. -/
lemma chapPoll_active (hup : linkUp connected s.receive l.state = true) (hactive : s.chap.state ≠ .inactive) :
    (pppChapPoll connected l s).chap.state ≠ .inactive := by
  have hbuild (s : ChapLayer) (h : s.chap.state ≠ .inactive) : (build s).chap.state ≠ .inactive := by
    change (pppChapBuildPending s.credentials s.chap s.transmit).1.state ≠ .inactive
    rcases chapBuildPending_cases (c := s.credentials) (h := s.chap) (t := s.transmit) with
      hresponds | ⟨hsame, -⟩ | ⟨-, hfailed, -, -⟩
    · simp [hresponds.state]
    · rw [hsame]
      exact h
    · simp [hfailed]
  have hreceived (s : ChapLayer) (h : s.chap.state ≠ .inactive) : (received s).chap.state ≠ .inactive := by
    by_cases haccepts : s.chap.state.acceptsChallenge = true ∧ validChallenge s.receive.decoder = true
    · rw [received_chap, (receiveFrame_accepted (c := s.credentials) haccepts.1 haccepts.2).2.1]
      simp
    · rcases (receiveFrame_refused (c := s.credentials) haccepts).1.state with hsame | ⟨-, hopened | hfailed⟩
      · rw [received_chap, hsame]
        exact h
      · simp [received_chap, hopened]
      · simp [received_chap, hfailed]
  rw [chapPoll_eq hup hactive]
  unfold dispatchFrame
  split
  · exact hbuild _ (hreceived _ (hbuild _ hactive))
  split
  · exact hbuild _ hactive
  · exact hbuild _ hactive

/-- The poll that opens a client that waits for its result erases the credentials. -/
lemma chapPoll_opens (hwaiting : s.chap.state = .waitingResult)
    (hopened : (pppChapPoll connected l s).chap.state = .opened) :
    (pppChapPoll connected l s).credentials = pppPapCredentialsClearSensitive s.credentials := by
  cases hup : linkUp connected s.receive l.state with
  | false =>
    rw [(chapPoll_down hup).1] at hopened
    contradiction
  | true =>
    have hne : s.chap.state ≠ .opened := by simp [hwaiting]
    rw [chapPoll_eq hup (by simp [hwaiting]), build_of_ne (by simp [hwaiting])] at hopened ⊢
    unfold dispatchFrame at hopened ⊢
    split at hopened
    · rename_i hdispatches
      rw [if_pos hdispatches]
      change (received s).credentials = _
      rcases receiveFrame_changesWith (c := s.credentials) s.receive.decoder s.chap with hsame | hpending | herases
      · rw [build_of_ne (s := { received s with receive := pppReleaseFrame s.receive })
          (by change (received s).chap.state ≠ _; rw [received_chap, hsame, hwaiting]; simp)] at hopened
        exact absurd (hsame.symm.trans hopened) hne
      · -- The Response of a Challenge is built, or waits.
        have hbuilt := chapBuildPending_cases (c := (received s).credentials) (h := (received s).chap) (t := s.transmit)
        change (pppChapBuildPending (received s).credentials (received s).chap s.transmit).1.state = .opened at hopened
        rcases hbuilt with hresponds | ⟨hsame, -⟩ | ⟨-, hfailed, -, -⟩
        · rw [hresponds.state] at hopened
          contradiction
        · rw [hsame, received_chap, hpending] at hopened
          contradiction
        · rw [hfailed] at hopened
          contradiction
      · exact herases
    split at hopened
    · exact absurd hopened hne
    · exact absurd hopened hne

end Poll

/-! ### Runs -/

/-- The poll accepts the Success that opens the client, with uploaded credentials. -/
def SucceedsUploaded (s : Session) (i : Input) : Prop :=
  s.loop.phase = .chap ∧ s.chap.state = .waitingResult ∧ (s.step i).chap.state = .opened ∧
    s.loop.stack.credentials.transient = true

/-- The step belongs to one period of LCP in `Opened`: each CHAP poll finds a live link, and no self-test begins
everything anew. -/
def SamePeriod (s : Session) (i : Input) : Prop :=
  (s.loop.phase = .mailbox → ∀ left, i.command ≠ .selfTest left) ∧
    (s.loop.phase = .chap → linkUp i.connected s.loop.stack.receive s.loop.stack.lcp.state = true)

/-- The host uploads no credentials. -/
def NoUpload (s : Session) (i : Input) : Prop :=
  s.loop.phase = .mailbox → ∀ arguments b overrun,
    i.command ≠ .peerIdSet arguments b overrun ∧ i.command ≠ .passwordSet arguments b overrun

instance : (command : Command) → Decidable (∀ left, command ≠ .selfTest left)
  | .selfTest left => isFalse fun h => h left rfl
  | .other | .receiveStart | .receiveStop | .pppOpen | .pppClose | .credentialsClear | .peerIdSet _ _ _
  | .passwordSet _ _ _ => isTrue fun _ => Command.noConfusion

instance (s : Session) (i : Input) : Decidable (SucceedsUploaded s i) := by unfold SucceedsUploaded; infer_instance

instance (s : Session) (i : Input) : Decidable (SamePeriod s i) := by unfold SamePeriod; infer_instance

/-- **What a step does with a Challenge**: it is accepted unless a Response is pending or the client has failed, and
its Response waits until a poll finds the encoder free.  That poll hands the Response over, made of the credentials
that are staged then; where none are, the client fails. -/
structure Rechallenge (s : Session) (i : Input) : Prop where
  accepted : s.loop.phase = .chap → s.loop.stack.chapLayer.dispatches = true →
    validChallenge s.loop.stack.receive.decoder = true → s.chap.state ≠ .responsePending → s.chap.state ≠ .failed →
      acceptedChallenge s.loop i = some (challengeOf s.loop.stack.receive.decoder)
  waits : ∀ challenge, answeredChallenge s i = some challenge →
    s.loop.phase ≠ .chap ∨ s.loop.stack.transmit.active = true →
      (s.step i).chap.state = .responsePending ∧ (s.step i).accepted = some challenge
  stores : ∀ challenge, acceptedChallenge s.loop i = some challenge → s.chap.state = .responsePending →
    (s.step i).chap.state = .responsePending ∧ (s.step i).accepted = some challenge
  answers : ∀ challenge peerId password, answeredChallenge s i = some challenge → s.loop.phase = .chap →
    s.loop.stack.transmit.active = false → s.loop.stack.credentials.peerId = some peerId →
    s.loop.stack.credentials.password = some password →
      handedResponse s.loop i = some (responseFrame challenge.identifier
        (responseValue challenge.identifier password challenge.value) peerId) ∧ ¬ (s.step i).chap.missesCredentials
  fails : ∀ challenge, answeredChallenge s i = some challenge → s.loop.phase = .chap →
    s.loop.stack.transmit.active = false → pppPapCredentialsReady s.loop.stack.credentials = false →
      handedResponse s.loop i = none ∧ (s.step i).chap.missesCredentials

section Step

variable {s : Session} {i : Input} {challenge : Challenge}

lemma accepted_of_some (h : acceptedChallenge s.loop i = some challenge) : s.loop.phase = .chap ∧
    (serviced s.loop.stack.lcp.peerFlags s.loop.stack.chapLayer).accepts = true ∧
      challenge = challengeOf s.loop.stack.receive.decoder := by
  unfold acceptedChallenge at h
  dsimp only at h
  split_ifs at h with hconditions
  exact ⟨hconditions.1, hconditions.2.2, (Option.some_inj.mp h).symm⟩

lemma accepted_step (h : acceptedChallenge s.loop i = some challenge) : (s.step i).accepted = some challenge := by
  change (acceptedChallenge s.loop i).or s.accepted = some challenge
  rw [h]
  rfl

/-- The answered Challenge is the one that a Response is due for. -/
lemma owes_of_answered (h : answeredChallenge s i = some challenge) :
    Owes s.loop.stack.lcp.peerFlags s.loop.stack.chapLayer := by
  unfold answeredChallenge at h
  split_ifs at h with hpending
  · exact Or.inl hpending
  · exact Or.inr ⟨hpending, (accepted_of_some h).2.1⟩

/-- The client is not at rest in the period. -/
lemma active_step (hactive : s.chap.state ≠ .inactive) (hperiod : SamePeriod s i) :
    (s.step i).chap.state ≠ .inactive := by
  by_cases hmailbox : s.loop.phase = .mailbox
  · have hcommanded := mailboxPoll_commanded i.now (s.loop.stack.found i) (hperiod.1 hmailbox)
    have hchap : (s.step i).chap.state = s.chap.state := by
      rw [step_chap_mailbox hmailbox]
      exact hcommanded.chap
    rw [hchap]
    exact hactive
  by_cases hchap : s.loop.phase = .chap
  · have hpoll := congrArg ChapLayer.chap (step_chap_chap (i := i) hchap)
    change (s.step i).loop.stack.chap.state ≠ .inactive
    rw [show (s.step i).loop.stack.chap = _ from hpoll]
    exact chapPoll_active (l := (s.loop.stack.found i).lcp) (hperiod.2 hchap) hactive
  · rw [chap_of_phase hmailbox hchap]
    exact hactive

/-- Between the polls of CHAP a pending Response stays. -/
lemma pending_step (hphase : s.loop.phase ≠ .chap) (hperiod : SamePeriod s i)
    (hpending : s.chap.state = .responsePending) : (s.step i).chap.state = .responsePending := by
  by_cases hmailbox : s.loop.phase = .mailbox
  · have hcommanded := mailboxPoll_commanded i.now (s.loop.stack.found i) (hperiod.1 hmailbox)
    rw [step_chap_mailbox hmailbox]
    exact hcommanded.chap.trans hpending
  · rw [chap_of_phase hmailbox hphase]
    exact hpending

lemma rechallenge_waits (hactive : s.chap.state ≠ .inactive) (hperiod : SamePeriod s i)
    (hanswered : answeredChallenge s i = some challenge)
    (hwaits : s.loop.phase ≠ .chap ∨ s.loop.stack.transmit.active = true) :
    (s.step i).chap.state = .responsePending ∧ (s.step i).accepted = some challenge := by
  by_cases hphase : s.loop.phase = .chap
  · have hbusy : s.loop.stack.transmit.active = true := hwaits.resolve_left fun h => h hphase
    have howes := owes_of_answered hanswered
    constructor
    · have hpoll := congrArg ChapLayer.chap (step_chap_chap (i := i) hphase)
      change (s.step i).loop.stack.chap.state = .responsePending
      rw [show (s.step i).loop.stack.chap = _ from hpoll]
      exact chapPoll_busy (l := (s.loop.stack.found i).lcp) (hperiod.2 hphase) hactive howes hbusy
    · unfold answeredChallenge at hanswered
      split_ifs at hanswered with hpending
      · -- No Challenge is accepted while one waits for a busy encoder.
        have hnone : acceptedChallenge s.loop i = none := by
          unfold acceptedChallenge
          dsimp only
          refine if_neg fun h => ?_
          have haccepts := h.2.2
          rw [serviced_eq _ hactive, build_of_active hbusy] at haccepts
          simp only [accepts, Bool.and_eq_true] at haccepts
          rw [show s.loop.stack.chapLayer.chap.state = .responsePending from hpending] at haccepts
          exact absurd haccepts.1.2 (by simp [ChapState.acceptsChallenge])
        change (acceptedChallenge s.loop i).or s.accepted = some challenge
        rw [hnone]
        exact hanswered
      · exact accepted_step hanswered
  · unfold answeredChallenge at hanswered
    split_ifs at hanswered with hpending
    · exact ⟨pending_step hphase hperiod hpending, (accepted_of_phase hphase).trans hanswered⟩
    · exact absurd (accepted_of_some hanswered).1 hphase

lemma rechallenge_step (hactive : s.chap.state ≠ .inactive) (hpending : s.Pending) (hguard : s.Guard i)
    (hperiod : SamePeriod s i) : Rechallenge s i where
  accepted := by
    intro hphase hdispatches hvalid hnot hfailed
    unfold acceptedChallenge
    dsimp only
    refine if_pos ⟨hphase, hperiod.2 hphase, ?_⟩
    rw [serviced_eq _ hactive, build_of_ne hnot]
    have hstate : s.loop.stack.chapLayer.chap.state.acceptsChallenge = true := by
      change s.chap.state.acceptsChallenge = true
      cases hstate : s.chap.state with
      | inactive => exact absurd hstate hactive
      | failed => exact absurd hstate hfailed
      | responsePending => exact absurd hstate hnot
      | waitingChallenge => rfl
      | waitingResult => rfl
      | opened => rfl
    simp only [accepts, Bool.and_eq_true]
    exact ⟨⟨hdispatches, hstate⟩, hvalid⟩
  waits := fun _ hanswered hwaits => rechallenge_waits hactive hperiod hanswered hwaits
  stores := by
    intro challenge haccepted hstate
    obtain ⟨hphase, haccepts, -⟩ := accepted_of_some haccepted
    refine ⟨?_, accepted_step haccepted⟩
    have hpoll := congrArg ChapLayer.chap (step_chap_chap (i := i) hphase)
    change (s.step i).loop.stack.chap.state = .responsePending
    rw [show (s.step i).loop.stack.chap = _ from hpoll]
    exact chapPoll_stores (l := (s.loop.stack.found i).lcp) (hperiod.2 hphase) hactive hstate haccepts
  answers := by
    intro challenge peerId password hanswered hphase hidle hpeer hpassword
    have hready : pppPapCredentialsReady s.loop.stack.chapLayer.credentials = true := by
      unfold pppPapCredentialsReady
      simp [Stack.chapLayer, hpeer, hpassword]
    have hpoll := step_chap_chap (i := i) hphase
    obtain ⟨hbusy, hmissing⟩ := chapPoll_ready (l := (s.loop.stack.found i).lcp) (hperiod.2 hphase) hactive
      (owes_of_answered hanswered) hidle hready
    rw [← hpoll] at hbusy hmissing
    refine ⟨?_, hmissing⟩
    have hsome := (handedResponse_eq hphase rfl).trans (if_pos ⟨hidle, hbusy⟩)
    obtain ⟨challenge', peerId', password', hanswered', hpeer', hpassword', hframe, -⟩ :=
      (session_step hpending hguard).2.handed _ hsome
    rw [hanswered] at hanswered'
    rw [hpeer] at hpeer'
    rw [hpassword] at hpassword'
    cases hanswered'
    cases hpeer'
    cases hpassword'
    rw [hsome, hframe]
  fails := by
    intro challenge hanswered hphase hidle hready
    have hpoll := step_chap_chap (i := i) hphase
    obtain ⟨htransmit, hmissing⟩ := chapPoll_missing (l := (s.loop.stack.found i).lcp) (hperiod.2 hphase) hactive
      (owes_of_answered hanswered) hidle hready
    refine ⟨?_, ?_⟩
    · rw [handedResponse_eq hphase hpoll, htransmit]
      refine if_neg ?_
      rintro ⟨-, hbusy⟩
      exact Bool.false_ne_true (hidle.symm.trans hbusy)
    · rw [← hpoll] at hmissing
      exact hmissing

/-- Erased credentials stay so until an upload. -/
lemma erased_step (herased : s.loop.stack.credentials = pppPapCredentialsClear) (hperiod : SamePeriod s i)
    (hupload : NoUpload s i) : (s.step i).loop.stack.credentials = pppPapCredentialsClear := by
  have hkeeps : KeepsOrErases s.loop.stack.credentials (s.step i).loop.stack.credentials ∨
      (s.step i).loop.stack.credentials = pppPapCredentialsClear := by
    change KeepsOrErases _ (Asm.step s.loop i).stack.credentials ∨ (Asm.step s.loop i).stack.credentials = _
    unfold Asm.step pollLayer
    cases hphase : s.loop.phase with
    | mailbox =>
      cases hcommand : i.command with
      | peerIdSet arguments b overrun => exact absurd hcommand (hupload hphase arguments b overrun).1
      | passwordSet arguments b overrun => exact absurd hcommand (hupload hphase arguments b overrun).2
      | selfTest left => exact absurd hcommand (hperiod.1 hphase left)
      | credentialsClear => exact Or.inr rfl
      | other => exact Or.inl (Or.inl rfl)
      | receiveStart => exact Or.inl (Or.inl rfl)
      | receiveStop => exact Or.inl (Or.inl rfl)
      | pppOpen => exact Or.inl (Or.inl rfl)
      | pppClose => exact Or.inl (Or.inl rfl)
    | pap => exact Or.inl (papPoll_credentials i.connected i.now (s.loop.stack.found i).lcp s.loop.stack.papLayer)
    | chap => exact Or.inl (chapPoll_credentials i.connected (s.loop.stack.found i).lcp s.loop.stack.chapLayer)
    | receive => exact Or.inl (Or.inl rfl)
    | lcp => exact Or.inl (Or.inl rfl)
    | ipcp => exact Or.inl (Or.inl rfl)
    | ipv4 => exact Or.inl (Or.inl rfl)
    | request => exact Or.inl (Or.inl rfl)
    | transmit => exact Or.inl (Or.inl rfl)
  rcases hkeeps with hkeeps | hcleared
  · exact hkeeps.erased herased
  · exact hcleared

/-- The Success of an authentication with uploaded credentials erases them. -/
lemma erased_success (hsuccess : SucceedsUploaded s i) :
    (s.step i).loop.stack.credentials = pppPapCredentialsClear := by
  obtain ⟨hphase, hwaiting, hopened, htransient⟩ := hsuccess
  have hpoll := step_chap_chap (i := i) hphase
  have hopened' := congrArg (fun y => y.chap.state) hpoll
  have herases := chapPoll_opens (l := (s.loop.stack.found i).lcp) (s := s.loop.stack.chapLayer) hwaiting
    (hopened'.symm.trans hopened)
  rw [← hpoll] at herases
  change (s.step i).loop.stack.credentials = pppPapCredentialsClearSensitive s.loop.stack.credentials at herases
  rw [herases]
  unfold pppPapCredentialsClearSensitive
  rw [if_pos htransient]

end Step

/-- **A Challenge after the authentication** is answered with the credentials that the host has staged again, and
closes the authentication where it has not: the Success has erased them, and they stay erased until an upload. -/
theorem rechallenge_answered (before between : List Input) (success i : Input)
    (hguard : Run.Along Session.step Session.Guard .boot (before ++ success :: (between ++ [i])))
    (hsuccess : SucceedsUploaded (Run.run Session.step .boot before) success)
    (hperiod : Run.Along Session.step SamePeriod (Run.run Session.step .boot (before ++ [success])) (between ++ [i])) :
    Rechallenge (Run.run Session.step .boot (before ++ [success] ++ between)) i ∧
      (Run.Along Session.step NoUpload (Run.run Session.step .boot (before ++ [success])) between →
        (Run.run Session.step .boot (before ++ [success] ++ between)).loop.stack.credentials =
          pppPapCredentialsClear) := by
  obtain ⟨hbefore, hfirst, hafter⟩ := Run.along_append.mp hguard
  obtain ⟨hbetween, hlast, -⟩ := Run.along_append.mp hafter
  obtain ⟨hperiod, hlastPeriod, -⟩ := Run.along_append.mp hperiod
  have hstart : Run.run Session.step .boot (before ++ [success]) =
      (Run.run Session.step .boot before).step success := Run.run_append
  rw [Run.run_append, hstart]
  rw [hstart] at hperiod hlastPeriod
  have hboot : Session.boot.Pending := fun hstate => by cases hstate
  have hpending (inputs : List Input) {s : Session} (hs : s.Pending) (h : Run.Along Session.step Session.Guard s inputs) :
      (Run.run Session.step s inputs).Pending :=
    Run.run_invariant (fun _ _ hpending hguard => (session_step hpending hguard).1) hs h
  have hfirstPending := (session_step (hpending before hboot hbefore) hfirst).1
  constructor
  · have hactive : (Run.run Session.step ((Run.run Session.step .boot before).step success) between).chap.state ≠
        .inactive := by
      have hstep (s : Session) (i : Input) (hactive : s.chap.state ≠ .inactive) (hperiod : SamePeriod s i) :
          (s.step i).chap.state ≠ .inactive := active_step hactive hperiod
      apply Run.run_invariant hstep _ hperiod
      rw [hsuccess.2.2.1]
      simp
    exact rechallenge_step hactive (hpending between hfirstPending hbetween) hlast hlastPeriod
  · intro hupload
    have hstep (s : Session) (i : Input) (herased : s.loop.stack.credentials = pppPapCredentialsClear)
        (hboth : SamePeriod s i ∧ NoUpload s i) : (s.step i).loop.stack.credentials = pppPapCredentialsClear :=
      erased_step herased hboth.1 hboth.2
    exact Run.run_invariant hstep (erased_success hsuccess) (Run.along_and.mpr ⟨hperiod, hupload⟩)

/-- The host uploads a peer id and a password, each with the length that is validated. -/
def credentialsUploaded : List Input :=
  let overrun : Overrun := ⟨default, default, default, default, default⟩
  turn { command := .credentialsClear, room := 100 } ++
    turn { command := .peerIdSet (fun k => if k = 0 then 8 else 0x61) 0 overrun, room := 100 } ++
    turn { command := .passwordSet (fun k => if k = 0 then 6 else 0x62) 0 overrun, room := 100 }

/-- The peer requires CHAP, sends a Challenge with identifier 1, and its Success stands in the RX ring. -/
def successReceived : List Input :=
  requestAcknowledged ++ credentialsUploaded ++
    turn { ring := [0x7e, 0xff, 0x7d, 0x23, 0xc0, 0x21, 0x7d, 0x21, 0x7d, 0x27, 0x7d, 0x20, 0x7d, 0x29, 0x7d, 0x23, 0x7d,
      0x25, 0xc2, 0x23, 0x7d, 0x25, 0xee, 0x8e, 0x7e], room := 100 } ++
    turn { ring := [0x7e, 0xff, 0x7d, 0x23, 0xc2, 0x23, 0x7d, 0x21, 0x7d, 0x21, 0x7d, 0x20, 0x7d, 0x26, 0x7d, 0x21, 0x61,
      0xb9, 0x49, 0x7e], room := 100 } ++
    turn { room := 100 } ++ turn { room := 100 } ++
    List.replicate 4
      { ring := [0x7e, 0xff, 0x7d, 0x23, 0xc2, 0x23, 0x7d, 0x23, 0x7d, 0x21, 0x7d, 0x20, 0x7d, 0x24, 0x79, 0x92, 0x7e]
        room := 100 }

/-- The polls after the Success, and a Challenge with identifier 2. -/
def rechallenged : List Input :=
  List.replicate 13 ({ room := 100 } : Input) ++
    List.replicate 4 { ring := [0x7e, 0xff, 0x7d, 0x23, 0xc2, 0x23, 0x7d, 0x21, 0x7d, 0x22, 0x7d, 0x20, 0x7d, 0x26, 0x7d,
      0x21, 0x62, 0xee, 0x66, 0x7e] }

set_option maxRecDepth 100000 in
theorem rechallenge_answered_single :
    let s := Run.run Session.step .boot (successReceived ++ [({} : Input)] ++ rechallenged)
    s.chap.state = .opened ∧ handedResponse s.loop {} = none ∧ (s.step {}).chap.missesCredentials := by
  obtain ⟨hstep, -⟩ := rechallenge_answered successReceived rechallenged {} {} (by decide +kernel) (by decide +kernel)
    (by decide +kernel)
  have hstands : let s := Run.run Session.step .boot (successReceived ++ [({} : Input)] ++ rechallenged)
      s.chap.state = .opened ∧ answeredChallenge s {} = some ⟨2, [0x62]⟩ ∧ s.loop.phase = .chap ∧
        s.loop.stack.transmit.active = false ∧ pppPapCredentialsReady s.loop.stack.credentials = false := by
    decide +kernel
  obtain ⟨hstate, hanswered, hphase, hidle, hempty⟩ := hstands
  exact ⟨hstate, hstep.fails ⟨2, [0x62]⟩ hanswered hphase hidle hempty⟩

set_option maxRecDepth 100000 in
/-- **A Challenge after the Success is not answered**, though the encoder is free and the credentials were uploaded:
the client fails, and the authentication is gone. -/
theorem rechallenge_unanswered :
    SucceedsUploaded (Run.run Session.step .boot successReceived) {} ∧
      let s := Run.run Session.step .boot (successReceived ++ [({} : Input)] ++ rechallenged)
      s.loop.stack.lcp.state = .opened ∧ s.loop.stack.lcp.peerFlags.chapMd5 = true ∧
        s.loop.stack.authenticated = true ∧ acceptedChallenge s.loop {} = some ⟨2, [0x62]⟩ ∧
        s.loop.stack.transmit.active = false ∧ handedResponse s.loop {} = none ∧
        (s.step {}).chap.state = .failed ∧ (s.step {}).loop.stack.authenticated = false := by
  decide +kernel

end SnesModem.Asm
