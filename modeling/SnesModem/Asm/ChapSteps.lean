import SnesModem.Asm.MainLoop

/-!
# What a packet does to the CHAP client

* `validChallenge`: the frames that a client that waits for a Challenge accepts;
* `receiveFrame_accepted`, `receiveFrame_refused`: a packet is an accepted Challenge, or leaves the stored one;
* `chapBuildPending_cases`: what the encoder is given.
-/

namespace SnesModem.Asm

open SnesModem.Lib.Cpu65816 SnesModem.Lib.Octets

/-- A Challenge, as the peer has sent it. -/
structure Challenge where
  identifier : UInt8
  value : List UInt8
  deriving DecidableEq

def challengeOf (d : Decoder) : Challenge := ⟨d.frameBuffer 5, read d.frameBuffer 9 (d.frameBuffer 8).toNat⟩

/-- The declared Length of the CHAP packet in the frame buffer. -/
def chapLength (d : Decoder) : UInt16 := word (d.frameBuffer 6) (d.frameBuffer 7)

/-- The frame has a CHAP packet, all of which was received. -/
def completeChap (d : Decoder) : Bool :=
  d.lastProtocol = protocolChap ∧ minimumFrameLength ≤ d.lastFrameLength ∧ chapHeaderLength ≤ chapLength d ∧
    chapLength d + frameOffset ≤ d.lastFrameLength

/-- The value of the Challenge in the frame buffer lies in the packet. -/
def completeValue (d : Decoder) : Bool :=
  chapHeaderLength + 1 ≤ chapLength d ∧ d.frameBuffer 8 ≠ 0 ∧ (d.frameBuffer 8).toNat ≤ maximumChallengeLength ∧
    (d.frameBuffer 8).toUInt16 + (chapHeaderLength + 1) ≤ chapLength d

def validChallenge (d : Decoder) : Bool := completeChap d ∧ d.frameBuffer 4 = 1 ∧ completeValue d

/-- What every packet leaves in `pppChapLastIdentifier`. -/
def parsedIdentifier (d : Decoder) : UInt8 :=
  if d.lastProtocol = protocolChap ∧ minimumFrameLength ≤ d.lastFrameLength then d.frameBuffer 5 else 0

/-- A packet that is no acceptable Challenge: the stored Challenge stays, but for its identifier. -/
structure Refused (h h' : Chap) : Prop where
  challenge : h'.challenge = h.challenge
  responseIdentifier : h'.responseIdentifier = h.responseIdentifier
  state : h'.state = h.state ∨ h.state = .waitingResult ∧ (h'.state = .opened ∨ h'.state = .failed)
  challengeLength : h.state = .responsePending → h'.challengeLength = h.challengeLength

/-- The Challenge is stored, and its Response is pending. -/
structure Stored (challenge : Challenge) (h : Chap) : Prop where
  identifier : h.lastIdentifier = challenge.identifier
  value : read h.challenge 0 h.challengeLength.toNat = challenge.value

section Receive

variable {d : Decoder} {c : Credentials} {h : Chap}

lemma Refused.of_error (error : ChapError) : Refused h (chapReturnError h error) :=
  ⟨rfl, rfl, Or.inl rfl, fun _ => rfl⟩

lemma receiveChallenge_refused (hnot : ¬ (h.state.acceptsChallenge = true ∧
    chapHeaderLength + 1 ≤ h.packetLength ∧ d.frameBuffer 8 ≠ 0 ∧
      (d.frameBuffer 8).toNat ≤ maximumChallengeLength ∧
        (d.frameBuffer 8).toUInt16 + (chapHeaderLength + 1) ≤ h.packetLength)) :
    Refused h (receiveChallenge d h) ∧ (receiveChallenge d h).lastIdentifier = h.lastIdentifier := by
  unfold receiveChallenge
  dsimp only
  split_ifs with haccepts hpresent hzero hlong htruncated
  · exact ⟨.of_error _, rfl⟩
  · exact ⟨.of_error _, rfl⟩
  · exact ⟨.of_error _, rfl⟩
  · exact ⟨.of_error _, rfl⟩
  · have hstate : h.state.acceptsChallenge = true := by simpa using haccepts
    refine ⟨⟨rfl, rfl, Or.inl rfl, fun hpending => ?_⟩, rfl⟩
    rw [hpending] at hstate
    cases hstate
  · exfalso
    have hstate : h.state.acceptsChallenge = true := by simpa using haccepts
    exact hnot ⟨hstate, UInt16.not_lt.mp hpresent, hzero, by omega, UInt16.not_lt.mp htruncated⟩

lemma receiveChallenge_accepted (hstate : h.state.acceptsChallenge = true)
    (hpresent : chapHeaderLength + 1 ≤ h.packetLength) (hzero : d.frameBuffer 8 ≠ 0)
    (hlong : (d.frameBuffer 8).toNat ≤ maximumChallengeLength)
    (hwithin : (d.frameBuffer 8).toUInt16 + (chapHeaderLength + 1) ≤ h.packetLength) :
    (receiveChallenge d h).state = .responsePending ∧ (receiveChallenge d h).lastIdentifier = h.lastIdentifier ∧
      (receiveChallenge d h).responseIdentifier = h.responseIdentifier ∧
      read (receiveChallenge d h).challenge 0 (receiveChallenge d h).challengeLength.toNat =
        (challengeOf d).value := by
  unfold receiveChallenge
  dsimp only
  rw [if_neg (by simp [hstate]), if_neg (UInt16.not_lt.mpr hpresent), if_neg hzero, if_neg (by omega),
    if_neg (UInt16.not_lt.mpr hwithin)]
  have hread := read_write h.challenge 0 (read d.frameBuffer 9 (d.frameBuffer 8).toNat)
  rw [length_read] at hread
  exact ⟨rfl, rfl, rfl, hread⟩

lemma receiveResult_refused :
    Refused h (receiveResult c h).1 ∧ (receiveResult c h).1.lastIdentifier = h.lastIdentifier := by
  unfold receiveResult
  by_cases hstate : h.state = .waitingResult
  · rw [if_neg (by simp [hstate])]
    by_cases hidentifier : h.lastIdentifier = h.responseIdentifier
    · rw [if_neg (by simp [hidentifier])]
      dsimp only
      split_ifs
      · exact ⟨⟨rfl, rfl, Or.inr ⟨hstate, Or.inl rfl⟩, fun _ => rfl⟩, rfl⟩
      · exact ⟨⟨rfl, rfl, Or.inr ⟨hstate, Or.inr rfl⟩, fun _ => rfl⟩, rfl⟩
    · rw [if_pos (by simpa using hidentifier)]
      exact ⟨.of_error _, rfl⟩
  · rw [if_pos hstate]
    exact ⟨.of_error _, rfl⟩

/-- The variables after the header was read. -/
def chapHeader (d : Decoder) (h : Chap) : Chap :=
  { h with
    receiveCount := h.receiveCount + 1
    lastCode := d.frameBuffer 4
    lastIdentifier := d.frameBuffer 5
    peerNameLength := 0
    packetLength := chapLength d }

lemma receiveFrame_complete (hcomplete : completeChap d = true) :
    pppChapReceiveFrame d c h = dispatchChap d c (chapHeader d h) := by
  obtain ⟨hprotocol, hheader, hlength, hwithin⟩ := of_decide_eq_true hcomplete
  have hshort : ¬ word (d.frameBuffer 6) (d.frameBuffer 7) < chapHeaderLength := UInt16.not_lt.mpr hlength
  have hcut : ¬ d.lastFrameLength < word (d.frameBuffer 6) (d.frameBuffer 7) + frameOffset := UInt16.not_lt.mpr hwithin
  unfold pppChapReceiveFrame
  dsimp only
  rw [if_neg (by simp [hprotocol]), if_neg (UInt16.not_lt.mpr hheader), if_neg hshort, if_neg hcut]
  rfl

lemma receiveFrame_incomplete (hnot : completeChap d = false) :
    Refused h (pppChapReceiveFrame d c h).1 ∧
      (pppChapReceiveFrame d c h).1.lastIdentifier = parsedIdentifier d := by
  have hnot := of_decide_eq_false hnot
  unfold pppChapReceiveFrame parsedIdentifier
  dsimp only
  by_cases hprotocol : d.lastProtocol = protocolChap
  · rw [if_neg (by simp [hprotocol])]
    by_cases hheader : d.lastFrameLength < minimumFrameLength
    · rw [if_pos hheader, if_neg fun hboth => absurd hboth.2 (UInt16.not_le.mpr hheader)]
      exact ⟨⟨rfl, rfl, Or.inl rfl, fun _ => rfl⟩, rfl⟩
    · have hboth : d.lastProtocol = protocolChap ∧ minimumFrameLength ≤ d.lastFrameLength :=
        ⟨hprotocol, UInt16.not_lt.mp hheader⟩
      rw [if_neg hheader, if_pos hboth]
      by_cases hlength : word (d.frameBuffer 6) (d.frameBuffer 7) < chapHeaderLength
      · rw [if_pos hlength]
        exact ⟨⟨rfl, rfl, Or.inl rfl, fun _ => rfl⟩, rfl⟩
      rw [if_neg hlength]
      by_cases hwithin : d.lastFrameLength < word (d.frameBuffer 6) (d.frameBuffer 7) + frameOffset
      · rw [if_pos hwithin]
        exact ⟨⟨rfl, rfl, Or.inl rfl, fun _ => rfl⟩, rfl⟩
      · exact absurd ⟨hprotocol, UInt16.not_lt.mp hheader, UInt16.not_lt.mp hlength, UInt16.not_lt.mp hwithin⟩ hnot
  · rw [if_pos hprotocol, if_neg fun hboth => hprotocol hboth.1]
    exact ⟨⟨rfl, rfl, Or.inl rfl, fun _ => rfl⟩, rfl⟩

lemma dispatchChap_code_one (hcode : d.frameBuffer 4 = 1) :
    dispatchChap d c (chapHeader d h) = (receiveChallenge d (chapHeader d h), c) := by
  have hlast : (chapHeader d h).lastCode.toNat = 1 := congrArg UInt8.toNat hcode
  unfold dispatchChap
  rw [hlast]
  rfl

/-- **An accepted Challenge** is stored whole. -/
theorem receiveFrame_accepted (hstate : h.state.acceptsChallenge = true) (hvalid : validChallenge d = true) :
    (pppChapReceiveFrame d c h).2 = c ∧ (pppChapReceiveFrame d c h).1.state = .responsePending ∧
      (pppChapReceiveFrame d c h).1.responseIdentifier = h.responseIdentifier ∧
      Stored (challengeOf d) (pppChapReceiveFrame d c h).1 := by
  obtain ⟨hcomplete, hcode, hvalue⟩ := of_decide_eq_true hvalid
  obtain ⟨hpresent, hzero, hlong, hwithin⟩ := of_decide_eq_true hvalue
  rw [receiveFrame_complete hcomplete, dispatchChap_code_one hcode]
  obtain ⟨hpending, hidentifier, hresponse, hread⟩ :=
    receiveChallenge_accepted (h := chapHeader d h) hstate hpresent hzero hlong hwithin
  exact ⟨rfl, hpending, hresponse, hidentifier, hread⟩

/-- **Any other packet** leaves the stored Challenge, but stores its own identifier. -/
theorem receiveFrame_refused (hnot : ¬ (h.state.acceptsChallenge = true ∧ validChallenge d = true)) :
    Refused h (pppChapReceiveFrame d c h).1 ∧
      (pppChapReceiveFrame d c h).1.lastIdentifier = parsedIdentifier d := by
  cases hcomplete : completeChap d with
  | false => exact receiveFrame_incomplete hcomplete
  | true =>
    have hparsed : parsedIdentifier d = (chapHeader d h).lastIdentifier := by
      obtain ⟨hprotocol, hheader, -, -⟩ := of_decide_eq_true hcomplete
      exact if_pos ⟨hprotocol, hheader⟩
    have hlift (h' : Chap) (hrefused : Refused (chapHeader d h) h') : Refused h h' :=
      ⟨hrefused.challenge, hrefused.responseIdentifier, hrefused.state, hrefused.challengeLength⟩
    rw [receiveFrame_complete hcomplete, hparsed]
    by_cases hcode : d.frameBuffer 4 = 1
    · rw [dispatchChap_code_one hcode]
      have hrefused := receiveChallenge_refused (d := d) (h := chapHeader d h) fun haccepted =>
        hnot ⟨haccepted.1, decide_eq_true ⟨hcomplete, hcode, decide_eq_true haccepted.2⟩⟩
      exact ⟨hlift _ hrefused.1, hrefused.2⟩
    · unfold dispatchChap
      split
      · rename_i hone
        exact absurd (UInt8.toNat_inj.mp hone) hcode
      · exact ⟨hlift _ receiveResult_refused.1, receiveResult_refused.2⟩
      · exact ⟨hlift _ receiveResult_refused.1, receiveResult_refused.2⟩
      · exact ⟨hlift _ (.of_error _), rfl⟩

end Receive

/-! ### The Response -/

section Build

variable {c : Credentials} {h : Chap} {t : Transmit}

lemma length_responseFrame (identifier : UInt8) (secret : Password) (challenge : List UInt8) (peerId : PeerId) :
    (responseFrame identifier (responseValue identifier secret challenge) peerId).length ≤ 1504 := by
  have hpeer : peerId.octets.length ≤ 8 := peerId.length_le
  have hdigest := length_pppMd5Compute (identifier :: secret.octets ++ challenge)
  unfold responseFrame responseValue
  rw [List.length_append, List.length_append, hdigest]
  simp
  omega

/-- The response that the encoder is given for the stored Challenge. -/
structure Responds (c : Credentials) (h : Chap) (t t' : Transmit) (h' : Chap) : Prop where
  pending : h.state = .responsePending
  idle : t.active = false
  active : t'.active = true
  state : h'.state = .waitingResult
  identifier : h'.responseIdentifier = h.lastIdentifier
  frame : ∃ peerId password, c.peerId = some peerId ∧ c.password = some password ∧
    t'.frame = responseFrame h.lastIdentifier
      (responseValue h.lastIdentifier password (read h.challenge 0 h.challengeLength.toNat)) peerId

/-- **What `pppChapBuildPending` does**: it responds, it leaves everything alone, or it gives up for want of
credentials. -/
theorem chapBuildPending_cases :
    Responds c h t (pppChapBuildPending c h t).2 (pppChapBuildPending c h t).1 ∨
      pppChapBuildPending c h t = (h, t) ∧ (h.state = .responsePending → t.active = true) ∨
      (pppChapBuildPending c h t).2 = t ∧ (pppChapBuildPending c h t).1.state = .failed ∧
        (pppChapBuildPending c h t).1.responseIdentifier = h.responseIdentifier ∧ h.state = .responsePending := by
  unfold pppChapBuildPending
  by_cases hstate : h.state = .responsePending
  · rw [if_neg (by simp [hstate])]
    cases hactive : t.active with
    | true =>
      rw [if_pos rfl]
      exact Or.inr (Or.inl ⟨rfl, fun _ => rfl⟩)
    | false =>
      rw [if_neg Bool.false_ne_true]
      split
      · rename_i peerId password hpeer hpassword
        obtain ⟨hcarry, hbusy, hframe⟩ := sendFrame_idle hactive (length_responseFrame h.lastIdentifier password
          (read h.challenge 0 h.challengeLength.toNat) peerId)
        dsimp only
        generalize sendFrame t (responseFrame h.lastIdentifier _ peerId) = sent at hcarry hbusy hframe
        obtain ⟨t', carry⟩ := sent
        obtain rfl : carry = false := hcarry
        exact Or.inl ⟨hstate, hactive, hbusy, rfl, rfl, peerId, password, hpeer, hpassword, hframe⟩
      · exact Or.inr (Or.inr ⟨rfl, rfl, rfl, hstate⟩)
  · rw [if_pos hstate]
    exact Or.inr (Or.inl ⟨rfl, fun hpending => absurd hpending hstate⟩)

end Build

end SnesModem.Asm
