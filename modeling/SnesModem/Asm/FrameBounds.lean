import SnesModem.Asm.AcceptedPackets
import SnesModem.Asm.LayerSteps
import SnesModem.Asm.Network

/-!
# The frame in the frame buffer

* `Releases`: the polls of the layers release the frame, or leave the receiver alone;
* `Fits`: the frame ends within its buffer;
* `fits_after`: it does so in every state of a run.
-/

namespace SnesModem.Asm.FrameBounds

open SnesModem.Lib SnesModem.Asm.Network

/-- The frame is released, or the receiver left alone. -/
def Releases (r r' : Receive) : Prop := r' = r ∨ r' = pppReleaseFrame r

section Releases

variable {r r' r'' : Receive}

lemma Releases.refl (r : Receive) : Releases r r := Or.inl rfl

lemma Releases.release (r : Receive) : Releases r (pppReleaseFrame r) := Or.inr rfl

lemma Releases.trans (h : Releases r r') (h' : Releases r' r'') : Releases r r'' := by
  rcases h with rfl | rfl
  · exact h'
  · rcases h' with rfl | rfl
    · exact .release r
    · exact .release r

lemma Releases.decoder (h : Releases r r') : r'.decoder = r.decoder := by
  rcases h with rfl | rfl <;> rfl

end Releases

/-! ### The polls of the layers -/

section Lcp

variable (connected : Bool) (now : UInt32) (s : LcpLayer)

lemma lcpSteps_releases : LcpLayer.Steps now fun s s' => Releases s.receive s'.receive where
  refl _ := .refl _
  trans h h' := h.trans h'
  lcp _ _ := .refl _
  release _ := .release _
  build _ := .refl _

/-- **The poll of LCP.** -/
theorem lcpPoll_releases : Releases s.receive (pppLcpPoll connected now s).receive :=
  (lcpSteps_releases now).poll s connected fun _ => .release _

end Lcp

section Authentication

variable (connected : Bool) (now : UInt32) (l : Lcp)

/-- **The poll of PAP.** -/
theorem papPoll_releases (s : PapLayer) : Releases s.receive (pppPapPoll connected now l s).receive := by
  have hdispatch (s : PapLayer) : Releases s.receive s.dispatchFrame.receive := by
    unfold PapLayer.dispatchFrame
    split
    · exact .refl _
    split
    · exact .release _
    split
    · exact .refl _
    · exact .release _
  unfold pppPapPoll
  split
  · exact hdispatch (s.serviced now l.peerFlags)
  · unfold PapLayer.lowerDown
    split
    · exact .refl _
    · exact .refl _

/-- **The poll of CHAP.** -/
theorem chapPoll_releases (s : ChapLayer) : Releases s.receive (pppChapPoll connected l s).receive := by
  have hdispatch (s : ChapLayer) : Releases s.receive s.dispatchFrame.receive := by
    unfold ChapLayer.dispatchFrame
    split
    · exact .release _
    split
    · exact .release _
    · exact .refl _
  unfold pppChapPoll
  split
  · exact hdispatch (s.serviced l.peerFlags)
  · unfold ChapLayer.lowerDown
    split
    · exact .refl _
    · exact .refl _

end Authentication

section Ipcp

variable (connected : Bool) (now : UInt32) (s : IpcpLayer)

lemma ipcpSteps_releases : IpcpLayer.Steps now fun s s' => Releases s.receive s'.receive where
  refl _ := .refl _
  trans h h' := h.trans h'
  ipcp _ _ _ := .refl _
  release _ := .release _
  build _ := .refl _

/-- **The poll of IPCP.** -/
theorem ipcpPoll_releases (state : LcpState) (authenticated : Bool) :
    Releases s.receive (pppIpcpPoll connected now state authenticated s).receive := by
  refine (ipcpSteps_releases now).poll s connected state authenticated fun _ => ?_
  unfold IpcpLayer.lowerDown
  split
  · exact .refl _
  · extract_lets s'
    split
    · exact .release _
    · exact .release _

end Ipcp

section IpLayer

variable (p : Ipcp) (now : UInt32) (s : IpLayer)

lemma receiveIcmp_releases : Releases s.receive (s.receiveIcmp p now).receive := by
  unfold IpLayer.receiveIcmp
  split
  extract_lets s'
  split
  · exact .refl _
  · exact .release _

lemma parse_releases : Releases s.receive (s.parse p now).receive := by
  unfold IpLayer.parse
  split
  · exact .release _
  extract_lets s'
  split
  · exact .release _
  split
  · exact .release _
  split
  · exact receiveIcmp_releases p now s'
  split
  · exact .release _
  · exact .release _

lemma retry_releases : Releases s.receive (s.retry p).receive := by
  unfold IpLayer.retry
  split
  extract_lets s'
  split
  · exact .refl _
  · exact .release _

/-- **The poll of IPv4.** -/
theorem ipv4Poll_releases (up : Bool) : Releases s.receive (Network.pppIpv4Poll up p now s).receive := by
  unfold Network.pppIpv4Poll
  split
  · exact .refl _
  split
  · exact .release _
  split
  · exact retry_releases p s
  · exact parse_releases p now s

end IpLayer

/-! ### The frame fits -/

/-- What is received so far fits into the buffer, and so does the last frame without its check sequence. -/
structure Fits (d : Decoder) : Prop where
  length : d.length.toNat ≤ 1506
  lastFrameLength : d.lastFrameLength.toNat ≤ 1504

section Fits

variable {d : Decoder}

lemma fits_reset (d : Decoder) : Fits (pppDecoderReset d) := ⟨Nat.zero_le _, Nat.zero_le _⟩

lemma Fits.prepared (h : Fits d) : Fits (pppPrepareNextFrame d) := ⟨Nat.zero_le _, h.lastFrameLength⟩

lemma Fits.finishAtFlag (h : Fits d) : Fits (pppFinishAtFlag d) := by
  have hminimum : minimumFrameWithFcsLength.toNat = 4 := rfl
  unfold pppFinishAtFlag
  split
  · exact ⟨Nat.zero_le _, h.lastFrameLength⟩
  split
  · exact ⟨Nat.zero_le _, h.lastFrameLength⟩
  split
  · exact ⟨Nat.zero_le _, h.lastFrameLength⟩
  split
  · exact h
  split
  · exact ⟨Nat.zero_le _, h.lastFrameLength⟩
  · rename_i hlong
    rw [UInt16.lt_iff_toNat_lt, hminimum] at hlong
    have hframe : (d.length - 2).toNat = d.length.toNat - 2 :=
      UInt16.toNat_sub_of_le _ _ (UInt16.le_iff_toNat_le.mpr (show 2 ≤ d.length.toNat by omega))
    have hlength := h.length
    split
    · refine ⟨Nat.zero_le _, ?_⟩
      change (d.length - 2).toNat ≤ 1504
      omega
    · exact ⟨Nat.zero_le _, h.lastFrameLength⟩

lemma Fits.append (h : Fits d) (octet : UInt8) : Fits (appendOctet d octet) := by
  have hmaximum : maximumUnescapedFrameLength.toNat = 1506 := rfl
  unfold appendOctet
  split
  · exact ⟨Nat.zero_le _, h.lastFrameLength⟩
  · rename_i hroom
    rw [UInt16.le_iff_toNat_le, hmaximum] at hroom
    have hone : (1 : UInt16).toNat = 1 := rfl
    refine ⟨?_, h.lastFrameLength⟩
    change (d.length + 1).toNat ≤ 1506
    rw [UInt16.toNat_add, hone]
    omega

lemma Fits.push (h : Fits d) (octet : UInt8) : Fits (pppDecoderPush d octet) := by
  have hd : Fits { d with lastEvent := .none } := ⟨h.length, h.lastFrameLength⟩
  unfold pppDecoderPush
  extract_lets d'
  split
  · exact hd.finishAtFlag
  split
  · exact hd
  split
  · exact hd
  split
  · have hplain : Fits { d' with escaped := false } := ⟨h.length, h.lastFrameLength⟩
    exact hplain.append _
  split
  · exact ⟨h.length, h.lastFrameLength⟩
  · exact hd.append octet

lemma Fits.pushConnectedByte {r : Receive} (h : Fits r.decoder) (octet : UInt8) :
    Fits (pppReceivePushConnectedByte r octet).1.decoder := by
  unfold pppReceivePushConnectedByte
  split
  · split
    · exact h.prepared
    · exact h.push octet
  · exact h.push octet

lemma Fits.drain {r : Receive} (h : Fits r.decoder) (budget : ℕ) (ring : List UInt8) :
    Fits (drain budget ring r).decoder := by
  induction budget, ring, r using Asm.drain.induct with
  | case1 ring r => exact h
  | case2 budget r hbudget => simpa [Asm.drain] using h
  | case3 budget octet ring r r' hpushed =>
    have hnext := h.pushConnectedByte octet
    rw [hpushed] at hnext
    simpa only [Asm.drain, hpushed] using hnext
  | case4 budget octet ring r r' hpushed hready =>
    have hnext := h.pushConnectedByte octet
    rw [hpushed] at hnext
    simpa only [Asm.drain, hpushed, hready, if_true] using hnext
  | case5 budget octet ring r r' hpushed hready ih =>
    have hnext := h.pushConnectedByte octet
    rw [hpushed] at hnext
    have hrest := ih hnext
    rw [Bool.not_eq_true] at hready
    simpa [Asm.drain, hpushed, hready] using hrest

lemma Fits.receivePoll {r : Receive} (h : Fits r.decoder) (connected : Bool) (ring : List UInt8) :
    Fits (pppReceivePoll connected ring r).decoder := by
  have hactivated : Fits (activate r).decoder := by
    unfold activate
    split
    · exact h
    · exact fits_reset _
  unfold pppReceivePoll
  split
  · exact h
  · extract_lets r'
    split
    · exact hactivated
    · exact hactivated.drain _ _

end Fits

section Run

variable {n : Node} {i : NodeInput}

lemma Fits.mailbox {s : Stack} (h : Fits s.receive.decoder) (now : UInt32) (command : Command) :
    Fits (modemMailboxPoll now s command).receive.decoder := by
  have hupload (credentials : Credentials) (copies : Bool) (o : Overrun) :
      Fits (s.upload credentials copies o).receive.decoder := by
    unfold Stack.upload
    split
    · exact h
    · exact ⟨h.length, h.lastFrameLength⟩
  cases command with
  | peerIdSet arguments b o => exact hupload _ _ o
  | passwordSet arguments b o => exact hupload _ _ o
  | selfTest left => exact fits_reset _
  | _ => exact h

/-- **The step lemma.** -/
lemma fits_step (h : Fits n.loop.stack.receive.decoder) : Fits (n.step i).loop.stack.receive.decoder := by
  have hreleases {r : Receive} (hreleases : Releases n.loop.stack.receive r) : Fits r.decoder := by
    rw [hreleases.decoder]
    exact h
  unfold Node.step
  cases hphase : n.loop.phase with
  | mailbox =>
    dsimp only
    rw [step_at hphase (by decide)]
    have hfound : Fits (n.loop.stack.found i.lower).receive.decoder := h
    exact hfound.mailbox i.lower.now i.lower.command
  | receive =>
    dsimp only
    rw [step_at hphase (by decide)]
    exact h.receivePoll _ _
  | lcp =>
    dsimp only
    rw [step_at hphase (by decide)]
    exact hreleases (lcpPoll_releases _ _ _)
  | pap =>
    dsimp only
    rw [step_at hphase (by decide)]
    exact hreleases (papPoll_releases _ _ _ _)
  | chap =>
    dsimp only
    rw [step_at hphase (by decide)]
    exact hreleases (chapPoll_releases _ _ _)
  | ipcp =>
    dsimp only
    rw [step_at hphase (by decide)]
    exact hreleases (ipcpPoll_releases _ _ _ _ _)
  | ipv4 => exact hreleases (ipv4Poll_releases _ _ _ _)
  | request => exact h
  | transmit =>
    dsimp only
    unfold Asm.step pollLayer
    rw [hphase]
    exact h

/-- **The run lemma.** -/
theorem fits_after (inputs : List NodeInput) : Fits (Node.after inputs).loop.stack.receive.decoder :=
  @Run.run_preserves _ _ Node.step Node.boot inputs (fun n => Fits n.loop.stack.receive.decoder) (fun _ _ h => fits_step h)
    (fits_reset _)

end Run

end SnesModem.Asm.FrameBounds
