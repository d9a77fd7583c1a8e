import SnesModem.Asm.FrameStream
import SnesModem.Rust.FramingCuts

/-!
# What the peer decodes of the stack

* `Fits`: a frame that the encoder has is no longer than the transmit buffer;
* `pollLayer_keeps`: the polls of the layers keep to it;
* `peer_decodes`: from boot on, the decoder of the reference reports the frames that were given to the encoder, in their
  order, but for those that were given up.
-/

namespace SnesModem.Asm.PeerDecoding

open SnesModem.Lib SnesModem.Lib.CutStreams SnesModem.Lib.Octets SnesModem.Rust SnesModem.Rust.Framing
open SnesModem.Rust.FramingCuts SnesModem.Asm.FrameStream SnesModem.Asm.Network

/-! ### The lengths of the frames -/

/-- The encoder never has more than the transmit buffer holds. -/
def Fits (t : Transmit) : Prop := t.length ≤ maximumTransmitFrameLength

/-- A routine that does not give the encoder more. -/
def Keeps (t t' : Transmit) : Prop := Fits t → Fits t'

section Lengths

variable {t t' : Transmit}

lemma keeps_of_length (h : t'.length = t.length) : Keeps t t' := by
  intro hfits
  unfold Fits
  rw [h]
  exact hfits

/-- A routine that leaves the length, or the length of a frame that fits. -/
lemma keeps_or (h : t'.length = t.length ∨ t'.length ≤ maximumTransmitFrameLength) : Keeps t t' := by
  rcases h with hsame | hfits
  · exact keeps_of_length hsame
  · exact fun _ => hfits

lemma keeps_begin (t : Transmit) (buffer : Buffer) (length : UInt16) :
    Keeps t (pppTransmitBegin { t with buffer := buffer } length).1 := keeps_or (begin_length t buffer length)

lemma keeps_abort (t : Transmit) : Keeps t (pppTransmitAbort t) := by
  refine keeps_of_length ?_
  unfold pppTransmitAbort
  split
  · rfl
  · rfl

lemma keeps_sendFrame (t : Transmit) (frame : List UInt8) : Keeps t (sendFrame t frame).1 := keeps_begin t _ _

lemma peek_length (t : Transmit) : (pppTransmitPeek t).1.length = t.length := by
  unfold pppTransmitPeek
  split
  · rfl
  · rfl
  · rfl
  · rfl
  all_goals
    extract_lets octet t'
    split <;> rfl

lemma finishLogical_length (t : Transmit) : (finishLogical t).length = t.length := by
  unfold finishLogical
  split
  · extract_lets t'
    split <;> rfl
  · rfl
  · rfl

lemma advance_length (t : Transmit) : (pppTransmitAdvance t).length = t.length := by
  have hpeek := peek_length t
  unfold pppTransmitAdvance
  generalize pppTransmitPeek t = peeked at hpeek ⊢
  obtain ⟨t', octet⟩ := peeked
  cases octet with
  | none => exact hpeek
  | some octet =>
    dsimp only at hpeek ⊢
    split
    · exact hpeek
    · exact hpeek
    · split
      · split
        · exact (finishLogical_length _).trans hpeek
        · exact hpeek
      · exact (finishLogical_length _).trans hpeek

lemma fill_length (budget room : ℕ) (t : Transmit) : (fill budget room t).1.length = t.length := by
  induction budget generalizing room t with
  | zero => rfl
  | succ budget ih =>
    have hpeek := peek_length t
    unfold fill
    generalize pppTransmitPeek t = peeked at hpeek ⊢
    obtain ⟨t', next⟩ := peeked
    cases next with
    | none => exact hpeek
    | some octet =>
      cases room with
      | zero => exact hpeek
      | succ room =>
        have hadvance := (advance_length t').trans hpeek
        dsimp only
        split
        · exact hadvance
        · exact (ih room _).trans hadvance

lemma keeps_transmitPoll (connected : Bool) (room : ℕ) (t : Transmit) : Keeps t (pppTransmitPoll connected room t).1 := by
  unfold pppTransmitPoll
  split
  · exact keeps_abort t
  split
  · exact id
  · exact keeps_of_length (fill_length _ _ t)

end Lengths

/-! ### The polls of the layers -/

section Polls

variable (connected : Bool) (now : UInt32)

lemma lcpSteps_keeps : LcpLayer.Steps now fun s s' => Keeps s.transmit s'.transmit where
  refl _ := id
  trans h h' := h' ∘ h
  lcp _ _ := id
  release _ := id
  build s := by
    unfold pppLcpBuildPending
    split
    · exact id
    split
    · exact id
    · rename_i buffer length _
      have hbegin := keeps_begin s.transmit buffer length
      extract_lets l
      split
      · rename_i t heq
        rw [heq] at hbegin
        exact hbegin
      · rename_i t heq
        rw [heq] at hbegin
        exact hbegin

lemma ipcpSteps_keeps : IpcpLayer.Steps now fun s s' => Keeps s.transmit s'.transmit where
  refl _ := id
  trans h h' := h' ∘ h
  ipcp _ _ _ := id
  release _ := id
  build s := by
    unfold pppIpcpBuildPending
    split
    · exact id
    split
    · exact id
    · rename_i buffer length _
      have hbegin := keeps_begin s.transmit buffer length
      split
      · rename_i t heq
        rw [heq] at hbegin
        exact hbegin
      · rename_i t heq
        rw [heq] at hbegin
        exact hbegin

lemma papBuild_keeps (s : PapLayer) : Keeps s.transmit (s.build now).transmit := by
  change Keeps s.transmit (pppPapBuildPending now s.credentials s.pap s.transmit).2
  unfold pppPapBuildPending
  split
  · exact id
  split
  · split
    · exact id
    · rename_i peerId password _ _ _
      have hsent := keeps_sendFrame s.transmit (authenticateRequest s.pap.nextIdentifier peerId password)
      split
      · rename_i t heq
        rw [heq] at hsent
        exact hsent
      · rename_i t heq
        rw [heq] at hsent
        exact hsent
  · exact id

lemma papPoll_keeps (l : Lcp) (s : PapLayer) : Keeps s.transmit (pppPapPoll connected now l s).transmit := by
  unfold pppPapPoll
  split
  · have hserviced := papBuild_keeps now { s with pap := pppPapLowerUp l.peerFlags s.credentials s.pap }
    have hdispatched := FrameDelivery.papDispatchFrame_transmit (PapLayer.serviced now l.peerFlags s)
    refine Function.comp ?_ hserviced
    change Keeps (PapLayer.serviced now l.peerFlags s).transmit _
    rw [← hdispatched]
    unfold PapLayer.timer
    generalize pppPapPollTimeout now _ _ = polled
    obtain ⟨pap, credentials⟩ := polled
    exact papBuild_keeps now { (PapLayer.serviced now l.peerFlags s).dispatchFrame with pap := pap, credentials := credentials }
  · unfold PapLayer.lowerDown
    split
    · exact id
    · exact id

lemma chapBuild_keeps (s : ChapLayer) : Keeps s.transmit s.build.transmit := by
  change Keeps s.transmit (pppChapBuildPending s.credentials s.chap s.transmit).2
  unfold pppChapBuildPending
  split
  · exact id
  split
  · exact id
  split
  · rename_i peerId password _ _
    extract_lets digest
    have hsent := keeps_sendFrame s.transmit (responseFrame s.chap.lastIdentifier digest peerId)
    split
    · rename_i t heq
      rw [heq] at hsent
      exact hsent
    · rename_i t heq
      rw [heq] at hsent
      exact hsent
  · exact id

lemma chapPoll_keeps (l : Lcp) (s : ChapLayer) : Keeps s.transmit (pppChapPoll connected l s).transmit := by
  unfold pppChapPoll
  split
  · have hserviced := chapBuild_keeps { s with chap := pppChapLowerUp l.peerFlags s.credentials s.chap }
    refine Function.comp ?_ hserviced
    change Keeps (ChapLayer.serviced l.peerFlags s).transmit _
    unfold ChapLayer.dispatchFrame
    split
    · exact chapBuild_keeps { (ChapLayer.serviced l.peerFlags s).received with
        receive := pppReleaseFrame (ChapLayer.serviced l.peerFlags s).receive }
    split
    · exact id
    · exact id
  · unfold ChapLayer.lowerDown
    split
    · exact id
    · exact id

lemma mailboxPoll_keeps (s : Stack) (command : Command) :
    Keeps s.transmit (modemMailboxPoll now s command).transmit := by
  have hupload (credentials : Credentials) (copies : Bool) (o : Overrun) :
      Keeps s.transmit (s.upload credentials copies o).transmit := by
    unfold Stack.upload
    split
    · exact id
    · exact id
  cases command with
  | peerIdSet arguments b overrun => exact hupload _ _ overrun
  | passwordSet arguments b overrun => exact hupload _ _ overrun
  | selfTest left => exact fun _ => UInt16.zero_le
  | other => exact id
  | receiveStart => exact id
  | receiveStop => exact id
  | pppOpen => exact id
  | pppClose => exact id
  | credentialsClear => exact id

/-- **A poll of a layer below IPv4** gives the encoder no frame that is too long. -/
theorem pollLayer_keeps {phase : Phase} (hipv4 : phase ≠ .ipv4) (hrequest : phase ≠ .request) (s : Stack) (i : Input) :
    Keeps s.transmit (pollLayer phase s i).transmit := by
  unfold pollLayer
  cases phase with
  | mailbox => exact mailboxPoll_keeps i.now s i.command
  | receive => exact id
  | lcp => exact (lcpSteps_keeps i.now).poll s.lcpLayer i.connected fun _ => keeps_abort s.transmit
  | pap => exact papPoll_keeps i.connected i.now s.lcp s.papLayer
  | chap => exact chapPoll_keeps i.connected s.lcp s.chapLayer
  | ipcp =>
    refine (ipcpSteps_keeps i.now).poll s.ipcpLayer i.connected s.lcp.state s.authenticated fun _ => ?_
    unfold IpcpLayer.lowerDown
    split
    · exact id
    dsimp only
    split
    · exact id
    · exact keeps_abort s.transmit
  | ipv4 => exact absurd rfl hipv4
  | request => exact absurd rfl hrequest
  | transmit => exact id

lemma step_keeps (n : Node) (i : NodeInput) : Keeps n.loop.stack.transmit (n.step i).loop.stack.transmit := by
  by_cases hupper : n.loop.phase = .ipv4 ∨ n.loop.phase = .request
  · exact keeps_or (step_grants hupper).length
  rw [not_or] at hupper
  have hlayer := pollLayer_keeps hupper.1 hupper.2 (n.loop.stack.found i.lower) i.lower
  rw [step_lower hupper.1 hupper.2]
  unfold Asm.step
  dsimp only
  split
  · exact (keeps_transmitPoll i.connected i.room _) ∘ hlayer
  · exact hlayer

end Polls

/-! ### The run -/

/-- The frames that a run has given to the encoder. -/
def frames (x : Tx) : List (List UInt8) := x.handed.map Handed.frame

lemma length_frame {t : Transmit} (h : Fits t) : t.frame.length + fcs16Length ≤ defaultMaxUnescapedFrameLength := by
  unfold Transmit.frame
  rw [length_read]
  exact Nat.add_le_add_right (UInt16.le_iff_toNat_le.mp h) fcs16Length

/-- What the frames of a run fit. -/
def Sized (x : Tx) : Prop :=
  Fits x.node.loop.stack.transmit ∧ ∀ frame ∈ frames x, frame.length + fcs16Length ≤ defaultMaxUnescapedFrameLength

lemma step_sized {x : Tx} (i : NodeInput) (h : Sized x) : Sized (x.step i) := by
  have hfits := step_keeps x.node i h.1
  refine ⟨hfits, fun frame hmem => ?_⟩
  unfold frames Tx.step at hmem
  rw [List.map_append] at hmem
  rcases List.mem_append.mp hmem with hbefore | hnew
  · exact h.2 frame hbefore
  · unfold handed at hnew
    split at hnew
    · rw [List.map_singleton, List.mem_singleton] at hnew
      rw [hnew]
      exact length_frame hfits
    · cases hnew

lemma sized_after (inputs : List NodeInput) : Sized (Tx.after inputs) :=
  Run.run_preserves (fun _ i h => step_sized i h) ⟨UInt16.zero_le, fun _ hmem => absurd hmem List.not_mem_nil⟩

/-- What the decoder of the peer reports of the octets that went to the TX ring. -/
def peerEvents (accm : UInt32) (inputs : List NodeInput) : List DecodeEvent :=
  ((AsyncDecoder.new accm defaultMaxUnescapedFrameLength).feed (Node.after inputs).loop.queued).2

lemma frames_queued {inputs : List NodeInput} (hvalidates : Run.Along Node.step Validates Node.boot inputs) :
    ∃ m ≤ (Tx.after inputs).aborts + (Node.after inputs).loop.stack.transmit.active.toNat,
      Streams m ((frames (Tx.after inputs)).map fun frame => encodeAsync frame defaultAccm)
        (Node.after inputs).loop.queued := by
  obtain ⟨m, hm, hsending⟩ := (streaming_after hvalidates).sending
  rw [Tx.after_node] at hsending
  refine ⟨_, Nat.add_le_add_right hm _, ?_⟩
  unfold frames
  rw [List.map_map]
  exact hsending.streams

/-- **The peer decodes what the stack has sent.**  From boot on and as long as no upload overruns, a decoder of the
reference with any ACCM that reads the octets as they went to the TX ring reports the frames that the polls gave to the
encoder, each as it is and in their order, but for so many as were given up or are under way, and no more events than
frames. -/
theorem peer_decodes {inputs : List NodeInput} (hvalidates : Run.Along Node.step Validates Node.boot inputs)
    (accm : UInt32) :
    (∃ whole : List (List UInt8), whole.Sublist (frames (Tx.after inputs)) ∧
      (frames (Tx.after inputs)).length ≤
        whole.length + (Tx.after inputs).aborts + (Node.after inputs).loop.stack.transmit.active.toNat ∧
      (whole.map reportOf).Sublist (peerEvents accm inputs)) ∧
      (peerEvents accm inputs).length ≤ (frames (Tx.after inputs)).length := by
  obtain ⟨m, hm, hstreams⟩ := frames_queued hvalidates
  obtain ⟨⟨whole, hsub, hlength, hreported⟩, hcount⟩ := decoded_cut_stream accm
    defaultMaxUnescapedFrameLength UInt32.and_neg_one (sized_after inputs).2 hstreams
  exact ⟨⟨whole, hsub, by omega, hreported⟩, hcount⟩

set_option maxRecDepth 100000 in
theorem peer_decodes_acknowledged :
    (∃ whole : List (List UInt8), whole.Sublist (frames (Tx.after acknowledged)) ∧
      (frames (Tx.after acknowledged)).length ≤ whole.length + (Tx.after acknowledged).aborts +
        (Node.after acknowledged).loop.stack.transmit.active.toNat ∧
      (whole.map reportOf).Sublist (peerEvents defaultAccm acknowledged)) ∧
      (peerEvents defaultAccm acknowledged).length ≤ (frames (Tx.after acknowledged)).length :=
  peer_decodes (by decide +kernel) defaultAccm

end SnesModem.Asm.PeerDecoding
