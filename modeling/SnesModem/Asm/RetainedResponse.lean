import SnesModem.Asm.LcpResponse
import SnesModem.Asm.Polls

/-!
# A response that waits for the encoder

A response that is made of the received frame is built when the encoder is idle, out of what is there then.

* `buildAction_retained`, `buildIpcpAction_retained`: it is made of the frame, the variables of its protocol and the
  part of the option maps that the request reaches;
* `lcpServicePending_served`, `ipcpServicePending_served`: the encoder takes it, or everything but the transmit buffer
  stays as it is.
-/

namespace SnesModem.Asm

open SnesModem.Lib.Cpu65816 SnesModem.Lib.Octets

/-! ### LCP -/

/-- The responses that read the option maps. -/
def LcpAction.readsMaps : LcpAction → Bool
  | .configureNak | .configureReject => true
  | _ => false

section Lcp

variable {d : Decoder} {l : Lcp}

lemma lcpClassify_congr {buffer ram : Buffer} {packetEnd : UInt16} {b : UInt8} (administrativeOpen : Bool)
    (hagree : Agree (mapsReach packetEnd) l.optionRam ram) (hb : b ≤ high packetEnd) (y : UInt16) :
    pppLcpClassifyPeerOption buffer { l with optionRam := ram, administrativeOpen := administrativeOpen } b y =
      pppLcpClassifyPeerOption buffer l b y := by
  unfold pppLcpClassifyPeerOption
  rw [hagree _ (optionIndex_lt_mapsReach hb)]
  rfl

lemma buildReject_retained (code : UInt8) (source : ℕ) (least length : UInt16) (hleast : 4 ≤ least.toNat)
    (hshort : least.toNat ≤ 1500) {output output' : Buffer} (h : Agree 4 output output') :
    SameBuilt (buildReject d l output code source (boundedLength l least length))
      (buildReject d l output' code source (boundedLength l least length)) := by
  have hbounded := toNat_boundedLength l least length
  exact buildReject_sameBuilt code source _ (by omega) (by omega) rfl h

/-- **A response of LCP** is made of the frame, of LCP's variables and of the maps that the request reaches: neither
of the transmit buffer nor of the administrative state. -/
theorem buildAction_retained {ram : Buffer} (administrativeOpen : Bool) (output output' : Buffer)
    (huses : l.pendingAction.usesFrame = true)
    (hwalk : l.pendingAction.readsMaps = true →
      optionLoop d.frameBuffer l.packetEnd maximumTurns firstOption = none)
    (hmaps : l.pendingAction.readsMaps = true → Agree (mapsReach l.packetEnd) l.optionRam ram) :
    ∃ built built', buildAction d l output = some built ∧
      buildAction d { l with optionRam := ram, administrativeOpen := administrativeOpen } output' = some built' ∧
      SameBuilt built built' := by
  have hstart : Agree 4 (write output 0 [0xff, 0x03, 0xc0, 0x21]) (write output' 0 [0xff, 0x03, 0xc0, 0x21]) :=
    ((Agree.nil output output').write_append [0xff, 0x03, 0xc0, 0x21]).mono (by simp)
  have hselective (hreads : l.pendingAction.readsMaps = true) :
      SameBuilt (pppLcpBuildPeerResponse d.frameBuffer l (write output 0 [0xff, 0x03, 0xc0, 0x21]))
        (pppLcpBuildPeerResponse d.frameBuffer { l with optionRam := ram, administrativeOpen := administrativeOpen }
          (write output' 0 [0xff, 0x03, 0xc0, 0x21])) := by
    rw [pppLcpBuildPeerResponse_eq, pppLcpBuildPeerResponse_eq]
    exact selectiveResponse_congr _ _ (fun b => b ≤ high l.packetEnd) UInt8.zero_le
      (fun y hy => high_mono (advanceY_le _ _ (hwalk hreads) y hy))
      (fun b hb y => lcpClassify_congr administrativeOpen (hmaps hreads) hb y) hstart
  unfold buildAction
  cases haction : l.pendingAction with
  | configureAck => exact ⟨_, _, rfl, rfl, copyResponse_of_copy rfl hstart⟩
  | configureNak | configureReject =>
    refine ⟨_, _, rfl, rfl, ?_⟩
    rw [← haction]
    exact hselective (by rw [haction]; rfl)
  | protocolReject => exact ⟨_, _, rfl, rfl, buildReject_retained 8 2 6 _ (by decide) (by decide) hstart⟩
  | codeReject => exact ⟨_, _, rfl, rfl, buildReject_retained 7 4 8 _ (by decide) (by decide) hstart⟩
  | echoReply => exact ⟨_, _, rfl, rfl, buildEchoReply_of_copy rfl hstart⟩
  | none | configureRequest | terminateAck | terminateRequest =>
    rw [haction] at huses
    cases huses

/-- The rejects fit into the transmit buffer. -/
lemma buildAction_rejects (output : Buffer) {built : Built}
    (haction : l.pendingAction = .protocolReject ∨ l.pendingAction = .codeReject)
    (hbuilt : buildAction d l output = some built) : built.2 ≤ maximumTransmitFrameLength := by
  have hfits (least length : UInt16) (hleast : least.toNat ≤ 1500) :
      boundedLength l least length + frameOffset ≤ maximumTransmitFrameLength := by
    have hbounded := toNat_boundedLength l least length
    have hsum := toNat_add_le (boundedLength l least length) frameOffset
    rw [show frameOffset.toNat = 4 from rfl] at hsum
    exact UInt16.le_iff_toNat_le.mpr (show _ ≤ 1504 by omega)
  unfold buildAction at hbuilt
  rcases haction with haction | haction
  · rw [haction] at hbuilt
    obtain rfl := Option.some.inj hbuilt
    exact hfits 6 _ (by decide)
  · rw [haction] at hbuilt
    obtain rfl := Option.some.inj hbuilt
    exact hfits 8 _ (by decide)

/-- What `pppLcpBuildPending` does to the encoder. -/
lemma lcpBuildPending_active (now : UInt32) (d : Decoder) (l : Lcp) (t : Transmit) :
    (pppLcpBuildPending now d l t).2.2 = true ∧ (pppLcpBuildPending now d l t).2.1.active = t.active ∨
    (pppLcpBuildPending now d l t).2.2 = false ∧ t.active = false ∧
      (pppLcpBuildPending now d l t).2.1.active = true := by
  unfold pppLcpBuildPending
  split
  · exact Or.inl ⟨rfl, rfl⟩
  rename_i hidle
  rw [Bool.not_eq_true] at hidle
  split
  · exact Or.inl ⟨rfl, rfl⟩
  · rename_i buffer length _
    dsimp only
    rw [transmitBegin_eq]
    split_ifs
    · exact Or.inr ⟨rfl, hidle, rfl⟩
    · exact Or.inl ⟨rfl, rfl⟩

/-- LCP's variables stay when the encoder does not take the response. -/
lemma lcpBuildPending_refused (now : UInt32) (t : Transmit)
    (hcarry : (pppLcpBuildPending now d l t).2.2 = true) : (pppLcpBuildPending now d l t).1 = l := by
  unfold pppLcpBuildPending at hcarry ⊢
  split
  · rfl
  rename_i hidle
  rw [if_neg hidle] at hcarry
  rw [Bool.not_eq_true] at hidle
  split
  · rfl
  · rename_i buffer length hbuilt
    rw [hbuilt] at hcarry
    dsimp only at hcarry ⊢
    rw [transmitBegin_eq] at hcarry ⊢
    by_cases hfits : length ≤ maximumTransmitFrameLength
    · rw [if_pos ⟨hidle, hfits⟩] at hcarry
      contradiction
    · rw [if_neg fun h => hfits h.2]
      exact if_neg fun haction => hfits (buildAction_rejects t.buffer haction hbuilt)

lemma lcpBuildPending_taken (now : UInt32) (t : Transmit) (hcarry : (pppLcpBuildPending now d l t).2.2 = false) :
    (pppLcpBuildPending now d l t).1.pendingAction = .none ∧
      (pppLcpBuildPending now d l t).1.receiveCount = l.receiveCount := by
  have hkept : (afterBegin now (afterBuild l)).receiveCount = l.receiveCount := by
    unfold afterBegin afterBuild pppLcpArmRestartTimer
    split_ifs
    · rfl
    · rfl
    · rfl
    · rfl
  unfold pppLcpBuildPending at hcarry ⊢
  split
  · rename_i hactive
    rw [if_pos hactive] at hcarry
    contradiction
  rename_i hidle
  rw [if_neg hidle] at hcarry
  split
  · rename_i hnone
    rw [hnone] at hcarry
    contradiction
  · rename_i buffer length hbuilt
    rw [hbuilt] at hcarry
    dsimp only at hcarry ⊢
    generalize pppTransmitBegin { t with buffer := buffer } length = begun at hcarry ⊢
    obtain ⟨t', carry⟩ := begun
    cases carry with
    | true => contradiction
    | false => exact ⟨rfl, hkept⟩

end Lcp

section LcpLayer

open LcpLayer

variable (now : UInt32) (s : LcpLayer)

/-- A busy encoder takes nothing. -/
lemma lcpServicePending_busy (hactive : s.transmit.active = true) :
    s.servicePending now = (s, decide (s.lcp.pendingAction ≠ .none)) := by
  unfold servicePending
  by_cases hnone : s.lcp.pendingAction = .none
  · rw [if_pos hnone, hnone]
    rfl
  · rw [if_neg hnone, show pppLcpBuildPending now s.receive.decoder s.lcp s.transmit = (s.lcp, s.transmit, true) from
      if_pos hactive]
    simp [hnone]

lemma lcpTimer_busy (hactive : s.transmit.active = true) :
    s.timer now = { s with lcp := pppLcpPollTimeout now s.lcp } := by
  unfold timer
  rw [lcpServicePending_busy now { s with lcp := pppLcpPollTimeout now s.lcp } hactive]

/-- The encoder has taken the response that was pending, and the frame is released. -/
structure LcpTaken (s s' : LcpLayer) : Prop where
  idle : s.transmit.active = false
  active : s'.transmit.active = true
  receive : s'.receive = pppReleaseFrame s.receive
  done : s'.lcp.pendingAction.usesFrame = false
  receiveCount : s'.lcp.receiveCount = s.lcp.receiveCount

/-- What becomes of a response that is owed: the encoder does not take it, and nothing but the transmit buffer
changes, or it takes it. -/
inductive LcpServed (s s' : LcpLayer) : Prop where
  | refused (carry : (pppLcpBuildPending now s.receive.decoder s.lcp s.transmit).2.2 = true)
    (same : s' = { s with transmit := (pppLcpBuildPending now s.receive.decoder s.lcp s.transmit).2.1 })
  | taken (carry : (pppLcpBuildPending now s.receive.decoder s.lcp s.transmit).2.2 = false)
    (transmit : s'.transmit = (pppLcpBuildPending now s.receive.decoder s.lcp s.transmit).2.1) (taken : LcpTaken s s')

variable {now s} in
lemma LcpServed.transmit {s' : LcpLayer} (h : LcpServed now s s') :
    s'.transmit = (pppLcpBuildPending now s.receive.decoder s.lcp s.transmit).2.1 := by
  cases h with
  | refused _ hsame => rw [hsame]
  | taken _ htransmit _ => exact htransmit

lemma lcpServicePending_served (huses : s.lcp.pendingAction.usesFrame = true) :
    (s.servicePending now).2 = (pppLcpBuildPending now s.receive.decoder s.lcp s.transmit).2.2 ∧
      LcpServed now s (s.servicePending now).1 := by
  have hrefused := lcpBuildPending_refused (d := s.receive.decoder) (l := s.lcp) now s.transmit
  have htaken := lcpBuildPending_taken (d := s.receive.decoder) (l := s.lcp) now s.transmit
  have hactive := lcpBuildPending_active now s.receive.decoder s.lcp s.transmit
  have hnone : s.lcp.pendingAction ≠ .none := fun h => by rw [h] at huses; contradiction
  cases hbuilt : pppLcpBuildPending now s.receive.decoder s.lcp s.transmit with
  | mk lcp rest =>
  obtain ⟨t, carry⟩ := rest
  rw [hbuilt] at hrefused htaken hactive
  unfold servicePending
  rw [if_neg hnone, hbuilt]
  cases carry with
  | true =>
    obtain rfl : lcp = s.lcp := hrefused rfl
    exact ⟨rfl, .refused (by rw [hbuilt]) (by rw [hbuilt])⟩
  | false =>
    obtain ⟨hpending, hcount⟩ : lcp.pendingAction = .none ∧ lcp.receiveCount = s.lcp.receiveCount := htaken rfl
    obtain ⟨hidle, hbusy⟩ : s.transmit.active = false ∧ t.active = true := by simpa using hactive
    dsimp only
    unfold sent
    rw [if_pos huses]
    dsimp only
    split
    · exact ⟨rfl, .taken (by rw [hbuilt]) (by rw [hbuilt]; rfl) ⟨hidle, hbusy, rfl, rfl, hcount⟩⟩
    · have hdone := congrArg LcpAction.usesFrame hpending
      exact ⟨rfl, .taken (by rw [hbuilt]) (by rw [hbuilt]; rfl) ⟨hidle, hbusy, rfl, hdone, hcount⟩⟩

lemma pollTimeout_receiveCount (l : Lcp) : (pppLcpPollTimeout now l).receiveCount = l.receiveCount := by
  unfold pppLcpPollTimeout
  split
  · rfl
  split
  · split <;> rfl
  · split <;> rfl
  · split <;> rfl
  · split <;> rfl
  · rfl

/-- The restart timer leaves no response behind. -/
lemma pollTimeout_usesFrame {l : Lcp} (hdone : l.pendingAction.usesFrame = false) :
    (pppLcpPollTimeout now l).pendingAction.usesFrame = false := by
  unfold pppLcpPollTimeout
  split
  · exact hdone
  split
  · split <;> rfl
  · split <;> rfl
  · split <;> rfl
  · split <;> rfl
  · exact hdone

/-- The timer that runs behind a response leaves the encoder and the receiver alone. -/
lemma LcpTaken.timer {s s' : LcpLayer} (h : LcpTaken s s') :
    LcpTaken s (timer now s') ∧ (timer now s').transmit = s'.transmit := by
  rw [lcpTimer_busy now s' h.active]
  exact ⟨⟨h.idle, h.active, h.receive, pollTimeout_usesFrame now h.done,
    (pollTimeout_receiveCount now s'.lcp).trans h.receiveCount⟩, rfl⟩

/-- Whatever follows a response, if it is what the timer does. -/
lemma LcpServed.followed (huses : s.lcp.pendingAction.usesFrame = true) {next : LcpLayer → LcpLayer}
    (hnext : ∀ s', LcpTaken s s' → next s' = timer now s') :
    LcpServed now s (match servicePending now s with | (s, true) => s | (s, false) => next s) := by
  obtain ⟨hcarry, hserved⟩ := lcpServicePending_served now s huses
  generalize servicePending now s = serviced at hcarry hserved ⊢
  obtain ⟨s', carry⟩ := serviced
  cases hserved with
  | refused hrefused hsame =>
    obtain rfl : carry = true := hcarry.trans hrefused
    exact .refused hrefused hsame
  | taken htaken htransmit h =>
    obtain rfl : carry = false := hcarry.trans htaken
    obtain ⟨hafter, hsame⟩ := h.timer now
    dsimp only
    rw [hnext s' h]
    exact .taken htaken (hsame.trans htransmit) hafter

/-- **A response that is owed**, where the packet was accepted. -/
theorem lcpServiceThenTimer_served (huses : s.lcp.pendingAction.usesFrame = true) :
    LcpServed now s (s.serviceThenTimer now) :=
  LcpServed.followed now s huses fun _ _ => rfl

/-- **A response that is owed**, in a later poll: the released frame is not dispatched. -/
theorem lcpServiceExistingPending_served (huses : s.lcp.pendingAction.usesFrame = true) :
    LcpServed now s (s.serviceExistingPending now) := by
  refine LcpServed.followed now s huses fun s' h => ?_
  have hreleased : s'.receive.frameReady = false := congrArg Receive.frameReady h.receive
  rw [hreleased, if_neg Bool.false_ne_true]

end LcpLayer

/-! ### IPCP -/

/-- The responses that read the option maps. -/
def IpcpAction.readsMaps : IpcpAction → Bool
  | .configureNak | .configureReject => true
  | _ => false

section Ipcp

variable {buffer ram ram' : Buffer} {p : Ipcp}

lemma ipcpClassify_congr {packetEnd : UInt16} {b : UInt8} (hagree : Agree (ipcpMaps + mapsReach packetEnd) ram ram')
    (hb : b ≤ high packetEnd) (y : UInt16) :
    pppIpcpClassifyPeerOption buffer ram' b y = pppIpcpClassifyPeerOption buffer ram b y := by
  have hwindow : ipcpWindow ram' (duplicateMap + optionIndex b (buffer y.toNat)) =
      ipcpWindow ram (duplicateMap + optionIndex b (buffer y.toNat)) :=
    (hagree _ (Nat.add_lt_add_left (optionIndex_lt_mapsReach hb) ipcpMaps)).symm
  unfold pppIpcpClassifyPeerOption
  rw [hwindow]

/-- The selective responses of IPCP. -/
lemma pppIpcpBuildPeerResponse_eq (buffer ram : Buffer) (p : Ipcp) (output : Buffer) :
    pppIpcpBuildPeerResponse buffer ram p output = selectiveResponse buffer output p.packetEnd
      [if p.pendingAction = .configureNak then 3 else 4, p.lastIdentifier] (p.pendingAction = .configureReject)
      (fun _ => addressOption 3 defaultPeerAddress) (pppIpcpClassifyPeerOption buffer ram) := rfl

lemma copyIpcpResponse_sameBuilt {output output' : Buffer} (h : Agree 4 output output') :
    SameBuilt (copyIpcpResponse buffer p output) (copyIpcpResponse buffer p output') := by
  have hsum : (p.packetLength + frameOffset).toNat ≤ p.packetLength.toNat + 4 := toNat_add_le _ _
  unfold copyIpcpResponse
  refine ⟨rfl, ?_⟩
  refine ((h.write_append (read buffer 4 p.packetLength.toNat)).write_same 4 [2]).mono ?_
  rw [length_read]
  show (p.packetLength + frameOffset).toNat ≤ _
  omega

/-- **A response of IPCP** is made of the frame, of IPCP's variables and of the maps that the request reaches. -/
theorem buildIpcpAction_retained (output output' : Buffer) (huses : p.pendingAction.usesFrame = true)
    (hwalk : p.pendingAction.readsMaps = true → optionLoop buffer p.packetEnd maximumTurns firstOption = none)
    (hmaps : p.pendingAction.readsMaps = true → Agree (ipcpMaps + mapsReach p.packetEnd) ram ram') :
    ∃ built built', buildIpcpAction buffer ram p output = some built ∧
      buildIpcpAction buffer ram' p output' = some built' ∧ SameBuilt built built' := by
  have hstart : Agree 4 (write output 0 [0xff, 0x03, 0x80, 0x21]) (write output' 0 [0xff, 0x03, 0x80, 0x21]) :=
    ((Agree.nil output output').write_append [0xff, 0x03, 0x80, 0x21]).mono (by simp)
  have hselective (hreads : p.pendingAction.readsMaps = true) :
      SameBuilt (pppIpcpBuildPeerResponse buffer ram p (write output 0 [0xff, 0x03, 0x80, 0x21]))
        (pppIpcpBuildPeerResponse buffer ram' p (write output' 0 [0xff, 0x03, 0x80, 0x21])) := by
    rw [pppIpcpBuildPeerResponse_eq, pppIpcpBuildPeerResponse_eq]
    exact selectiveResponse_congr _ _ (fun b => b ≤ high p.packetEnd) UInt8.zero_le
      (fun y hy => high_mono (advanceY_le _ _ (hwalk hreads) y hy))
      (fun b hb y => ipcpClassify_congr (hmaps hreads) hb y) hstart
  unfold buildIpcpAction
  cases haction : p.pendingAction with
  | configureAck => exact ⟨_, _, rfl, rfl, copyIpcpResponse_sameBuilt hstart⟩
  | configureNak | configureReject => exact ⟨_, _, rfl, rfl, hselective (by rw [haction]; rfl)⟩
  | none | configureRequest =>
    rw [haction] at huses
    cases huses

variable (now : UInt32) (t : Transmit)

/-- What `pppIpcpBuildPending` does: the encoder takes the packet, or IPCP's variables stay. -/
lemma ipcpBuildPending_cases (buffer ram : Buffer) (p : Ipcp) :
    (pppIpcpBuildPending now buffer ram p t).2.2 = true ∧ (pppIpcpBuildPending now buffer ram p t).1 = p ∧
      (pppIpcpBuildPending now buffer ram p t).2.1.active = t.active ∨
    (pppIpcpBuildPending now buffer ram p t).2.2 = false ∧
      (pppIpcpBuildPending now buffer ram p t).1 = afterIpcpBegin now p ∧ t.active = false ∧
      (pppIpcpBuildPending now buffer ram p t).2.1.active = true := by
  unfold pppIpcpBuildPending
  split
  · exact Or.inl ⟨rfl, rfl, rfl⟩
  rename_i hidle
  rw [Bool.not_eq_true] at hidle
  split
  · exact Or.inl ⟨rfl, rfl, rfl⟩
  · rename_i output length _
    rw [transmitBegin_eq]
    split_ifs
    · exact Or.inr ⟨rfl, rfl, hidle, rfl⟩
    · exact Or.inl ⟨rfl, rfl, rfl⟩

/-- The encoder takes a packet of the pending action, or not, wherever it was built. -/
lemma ipcpBuildPending_of_built (now' : UInt32) {t t' : Transmit} {built built' : Built}
    (hbuilt : buildIpcpAction buffer ram p t.buffer = some built)
    (hbuilt' : buildIpcpAction buffer ram' p t'.buffer = some built')
    (hsame : SameBuilt built built') (hactive : t.active = false) (hactive' : t'.active = false) :
    (pppIpcpBuildPending now' buffer ram' p t').2.2 = (pppIpcpBuildPending now buffer ram p t).2.2 ∧
      ((pppIpcpBuildPending now buffer ram p t).2.2 = false →
        (pppIpcpBuildPending now' buffer ram' p t').2.1.frame = (pppIpcpBuildPending now buffer ram p t).2.1.frame) := by
  obtain ⟨hcarry, -, hframe⟩ := transmitBegin_congr hsame hactive hactive'
  unfold pppIpcpBuildPending
  rw [if_neg (show ¬ t.active = true by simp [hactive]), if_neg (show ¬ t'.active = true by simp [hactive']), hbuilt,
    hbuilt']
  dsimp only
  generalize pppTransmitBegin { t with buffer := built.1 } built.2 = begun at hcarry hframe
  generalize pppTransmitBegin { t' with buffer := built'.1 } built'.2 = begun' at hcarry hframe
  obtain ⟨t₁, carry⟩ := begun
  obtain ⟨t₁', carry'⟩ := begun'
  obtain rfl : carry' = carry := hcarry
  cases carry' with
  | true => exact ⟨rfl, nofun⟩
  | false => exact ⟨rfl, hframe⟩

end Ipcp

section IpcpLayer

open IpcpLayer

variable (now : UInt32) (s : IpcpLayer)

lemma ipcpServicePending_busy (hactive : s.transmit.active = true) :
    s.servicePending now = (s, decide (s.ipcp.pendingAction ≠ .none)) := by
  unfold servicePending
  by_cases hnone : s.ipcp.pendingAction = .none
  · rw [if_pos hnone, hnone]
    rfl
  · rw [if_neg hnone, show pppIpcpBuildPending now s.receive.decoder.frameBuffer s.ram s.ipcp s.transmit =
      (s.ipcp, s.transmit, true) from if_pos hactive]
    simp [hnone]

lemma ipcpTimer_busy (hactive : s.transmit.active = true) :
    s.timer now = { s with ipcp := pppIpcpPollTimeout now s.ipcp } := by
  unfold timer
  rw [ipcpServicePending_busy now { s with ipcp := pppIpcpPollTimeout now s.ipcp } hactive]

/-- The encoder has taken the response that was pending, and the frame is released. -/
structure IpcpTaken (s s' : IpcpLayer) : Prop where
  idle : s.transmit.active = false
  active : s'.transmit.active = true
  receive : s'.receive = pppReleaseFrame s.receive
  done : s'.ipcp.pendingAction.usesFrame = false
  receiveCount : s'.ipcp.receiveCount = s.ipcp.receiveCount

/-- What becomes of a response that is owed: the encoder does not take it, and nothing but the transmit buffer
changes, or it takes it. -/
inductive IpcpServed (s s' : IpcpLayer) : Prop where
  | refused (carry : (pppIpcpBuildPending now s.receive.decoder.frameBuffer s.ram s.ipcp s.transmit).2.2 = true)
    (same : s' = { s with
      transmit := (pppIpcpBuildPending now s.receive.decoder.frameBuffer s.ram s.ipcp s.transmit).2.1 })
  | taken (carry : (pppIpcpBuildPending now s.receive.decoder.frameBuffer s.ram s.ipcp s.transmit).2.2 = false)
    (transmit : s'.transmit = (pppIpcpBuildPending now s.receive.decoder.frameBuffer s.ram s.ipcp s.transmit).2.1)
    (taken : IpcpTaken s s')

variable {now s} in
lemma IpcpServed.transmit {s' : IpcpLayer} (h : IpcpServed now s s') :
    s'.transmit = (pppIpcpBuildPending now s.receive.decoder.frameBuffer s.ram s.ipcp s.transmit).2.1 := by
  cases h with
  | refused _ hsame => rw [hsame]
  | taken _ htransmit _ => exact htransmit

lemma ipcpServicePending_served (huses : s.ipcp.pendingAction.usesFrame = true) :
    (s.servicePending now).2 =
      (pppIpcpBuildPending now s.receive.decoder.frameBuffer s.ram s.ipcp s.transmit).2.2 ∧
      IpcpServed now s (s.servicePending now).1 := by
  have hcases := ipcpBuildPending_cases now s.transmit s.receive.decoder.frameBuffer s.ram s.ipcp
  have hnone : s.ipcp.pendingAction ≠ .none := fun h => by rw [h] at huses; contradiction
  cases hbuilt : pppIpcpBuildPending now s.receive.decoder.frameBuffer s.ram s.ipcp s.transmit with
  | mk ipcp rest =>
  obtain ⟨t, carry⟩ := rest
  rw [hbuilt] at hcases
  unfold servicePending
  rw [if_neg hnone, hbuilt]
  rcases hcases with ⟨hcarry, hipcp, -⟩ | ⟨hcarry, hipcp, hidle, hbusy⟩
  · obtain rfl : carry = true := hcarry
    obtain rfl : ipcp = s.ipcp := hipcp
    exact ⟨rfl, .refused (by rw [hbuilt]) (by rw [hbuilt])⟩
  · obtain rfl : carry = false := hcarry
    obtain rfl : ipcp = afterIpcpBegin now s.ipcp := hipcp
    have hcount : (afterIpcpBegin now s.ipcp).receiveCount = s.ipcp.receiveCount := by
      unfold afterIpcpBegin
      split_ifs
      · rfl
      · rfl
    dsimp only
    unfold sent
    rw [if_pos huses]
    dsimp only
    split
    · exact ⟨rfl, .taken (by rw [hbuilt]) (by rw [hbuilt]; rfl) ⟨hidle, hbusy, rfl, rfl, hcount⟩⟩
    · exact ⟨rfl, .taken (by rw [hbuilt]) (by rw [hbuilt]; rfl) ⟨hidle, hbusy, rfl, rfl, hcount⟩⟩

lemma ipcpPollTimeout_receiveCount (p : Ipcp) : (pppIpcpPollTimeout now p).receiveCount = p.receiveCount := by
  unfold pppIpcpPollTimeout
  split
  · rfl
  extract_lets p'
  split
  · split <;> rfl
  · split <;> rfl
  · split <;> rfl
  · rfl

/-- The restart timer leaves no response behind. -/
lemma ipcpPollTimeout_usesFrame {p : Ipcp} (hdone : p.pendingAction.usesFrame = false) :
    (pppIpcpPollTimeout now p).pendingAction.usesFrame = false := by
  unfold pppIpcpPollTimeout
  split
  · exact hdone
  extract_lets p'
  split
  · split <;> rfl
  · split <;> rfl
  · split <;> rfl
  · exact hdone

/-- The timer that runs behind a response leaves the encoder and the receiver alone. -/
lemma IpcpTaken.timer {s s' : IpcpLayer} (h : IpcpTaken s s') :
    IpcpTaken s (timer now s') ∧ (timer now s').transmit = s'.transmit := by
  rw [ipcpTimer_busy now s' h.active]
  exact ⟨⟨h.idle, h.active, h.receive, ipcpPollTimeout_usesFrame now h.done,
    (ipcpPollTimeout_receiveCount now s'.ipcp).trans h.receiveCount⟩, rfl⟩

/-- Whatever follows a response, if it is what the timer does. -/
lemma IpcpServed.followed (huses : s.ipcp.pendingAction.usesFrame = true) {next : IpcpLayer → IpcpLayer}
    (hnext : ∀ s', IpcpTaken s s' → next s' = timer now s') :
    IpcpServed now s (match servicePending now s with | (s, true) => s | (s, false) => next s) := by
  obtain ⟨hcarry, hserved⟩ := ipcpServicePending_served now s huses
  generalize servicePending now s = serviced at hcarry hserved ⊢
  obtain ⟨s', carry⟩ := serviced
  cases hserved with
  | refused hrefused hsame =>
    obtain rfl : carry = true := hcarry.trans hrefused
    exact .refused hrefused hsame
  | taken htaken htransmit h =>
    obtain rfl : carry = false := hcarry.trans htaken
    obtain ⟨hafter, hsame⟩ := h.timer now
    dsimp only
    rw [hnext s' h]
    exact .taken htaken (hsame.trans htransmit) hafter

/-- **A response that is owed**, in a later poll: the released frame is not dispatched. -/
theorem ipcpService_served (huses : s.ipcp.pendingAction.usesFrame = true) :
    IpcpServed now s (s.service now) := by
  refine IpcpServed.followed now s huses fun s' h => ?_
  have hreleased : s'.receive.frameReady = false := congrArg Receive.frameReady h.receive
  rw [hreleased, if_neg Bool.false_ne_true]

end IpcpLayer

end SnesModem.Asm
