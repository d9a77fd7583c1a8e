import SnesModem.Asm.Polls

/-!
# What every step of a poll keeps

A relation between the variables of a layer before and after, which does not depend on those of the protocol itself.

* `LcpLayer.Steps`, `IpcpLayer.Steps`: each single step is of the relation, which is a preorder;
* `LcpLayer.Steps.poll`, `IpcpLayer.Steps.poll`: so is a poll.
-/

namespace SnesModem.Asm

open SnesModem.Lib.Octets

/-! ### LCP -/

/-- The steps of a poll of LCP. -/
structure LcpLayer.Steps (now : UInt32) (R : LcpLayer → LcpLayer → Prop) : Prop where
  refl (s : LcpLayer) : R s s
  trans {s s' s'' : LcpLayer} : R s s' → R s' s'' → R s s''
  lcp (s : LcpLayer) (lcp : Lcp) : R s { s with lcp := lcp }
  release (s : LcpLayer) : R s s.release
  build (s : LcpLayer) :
    R s { s with transmit := (pppLcpBuildPending now s.receive.decoder s.lcp s.transmit).2.1 }

namespace LcpLayer.Steps

variable {now : UInt32} {R : LcpLayer → LcpLayer → Prop} (h : Steps now R) (s : LcpLayer)
include h

lemma sent (action : LcpAction) : R s (s.sent action) := by
  have hreleased := h.release s
  unfold LcpLayer.sent
  split
  · extract_lets s'
    split
    · exact h.trans hreleased (h.lcp s' _)
    · exact hreleased
  split
  · extract_lets s'
    split
    · exact hreleased
    · exact h.trans hreleased (h.lcp s' _)
  · exact h.refl s

lemma servicePending : R s (s.servicePending now).1 := by
  have hbuilt := h.build s
  unfold LcpLayer.servicePending
  split
  · exact h.refl s
  generalize pppLcpBuildPending now s.receive.decoder s.lcp s.transmit = built at hbuilt ⊢
  obtain ⟨lcp, transmit, carry⟩ := built
  have hstored : R s { s with lcp := lcp, transmit := transmit } := h.trans hbuilt (h.lcp _ lcp)
  cases carry with
  | true => exact hstored
  | false => exact h.trans hstored (h.sent _ s.lcp.pendingAction)

lemma timer : R s (s.timer now) := h.trans (h.lcp s _) (h.servicePending _)

/-- `@servicePending`, and what follows unless the encoder is busy. -/
lemma serviced {next : LcpLayer → LcpLayer} (hnext : ∀ s, R s (next s)) :
    R s (match LcpLayer.servicePending now s with | (s, true) => s | (s, false) => next s) := by
  have hserviced := h.servicePending s
  generalize LcpLayer.servicePending now s = serviced at hserviced ⊢
  obtain ⟨s', carry⟩ := serviced
  cases carry with
  | true => exact hserviced
  | false => exact h.trans hserviced (hnext s')

lemma serviceThenTimer : R s (s.serviceThenTimer now) := h.serviced s h.timer

lemma dispatchFrame : R s (s.dispatchFrame now) := by
  have hreceived (lcp : Lcp) : R s { s with lcp := lcp } := h.lcp s lcp
  unfold LcpLayer.dispatchFrame
  extract_lets protocol
  split
  · unfold LcpLayer.receiveLcp
    generalize pppLcpReceiveFrame s.receive.decoder s.lcp = received
    obtain ⟨lcp, carry⟩ := received
    dsimp only
    split
    · exact h.trans (hreceived lcp) (h.serviceThenTimer _)
    · have hreleased := h.trans (hreceived lcp) (h.release { s with lcp := lcp })
      exact h.trans (h.trans hreleased (h.servicePending _)) (h.timer _)
  split
  · exact h.trans (h.release s) (h.timer _)
  split
  · exact h.timer s
  · exact h.trans (hreceived _) (h.serviceThenTimer _)

lemma serviceExistingPending : R s (s.serviceExistingPending now) := by
  refine h.serviced s fun s' => ?_
  split
  · exact h.dispatchFrame s'
  · exact h.timer s'

/-- **The poll of LCP**, and what it does when the lower layer is gone. -/
theorem poll (connected : Bool)
    (hunavailable : (!s.receive.enabled || !connected) = true → R s s.lowerUnavailable) :
    R s (pppLcpPoll connected now s) := by
  have hclosed : R s s.closeIfIdle := by
    unfold LcpLayer.closeIfIdle
    split
    · exact h.lcp s _
    · exact h.refl s
  unfold pppLcpPoll
  split
  · rename_i hdown
    exact hunavailable hdown
  split
  · split
    · exact h.trans (h.lcp s _) (h.serviceExistingPending _)
    · exact h.refl s
  · exact h.release s
  · exact h.trans hclosed (h.serviceExistingPending _)

end LcpLayer.Steps

/-! ### IPCP -/

/-- The steps of a poll of IPCP. -/
structure IpcpLayer.Steps (now : UInt32) (R : IpcpLayer → IpcpLayer → Prop) : Prop where
  refl (s : IpcpLayer) : R s s
  trans {s s' s'' : IpcpLayer} : R s s' → R s' s'' → R s s''
  ipcp (s : IpcpLayer) (ram : Buffer) (ipcp : Ipcp) : R s { s with ram := ram, ipcp := ipcp }
  release (s : IpcpLayer) : R s s.release
  build (s : IpcpLayer) :
    R s { s with
      transmit := (pppIpcpBuildPending now s.receive.decoder.frameBuffer s.ram s.ipcp s.transmit).2.1 }

namespace IpcpLayer.Steps

variable {now : UInt32} {R : IpcpLayer → IpcpLayer → Prop} (h : Steps now R) (s : IpcpLayer)
include h

lemma sent (action : IpcpAction) : R s (s.sent action) := by
  have hreleased := h.release s
  unfold IpcpLayer.sent
  split
  · extract_lets s'
    split
    · exact h.trans hreleased (h.ipcp s' s'.ram _)
    · exact hreleased
  · exact h.refl s

lemma servicePending : R s (s.servicePending now).1 := by
  have hbuilt := h.build s
  unfold IpcpLayer.servicePending
  split
  · exact h.refl s
  generalize pppIpcpBuildPending now s.receive.decoder.frameBuffer s.ram s.ipcp s.transmit = built at hbuilt ⊢
  obtain ⟨ipcp, transmit, carry⟩ := built
  have hstored : R s { s with ipcp := ipcp, transmit := transmit } := h.trans hbuilt (h.ipcp _ s.ram ipcp)
  cases carry with
  | true => exact hstored
  | false => exact h.trans hstored (h.sent _ s.ipcp.pendingAction)

lemma timer : R s (s.timer now) := h.trans (h.ipcp s s.ram _) (h.servicePending _)

/-- `@servicePending`, and what follows unless the encoder is busy. -/
lemma serviced {next : IpcpLayer → IpcpLayer} (hnext : ∀ s, R s (next s)) :
    R s (match IpcpLayer.servicePending now s with | (s, true) => s | (s, false) => next s) := by
  have hserviced := h.servicePending s
  generalize IpcpLayer.servicePending now s = serviced at hserviced ⊢
  obtain ⟨s', carry⟩ := serviced
  cases carry with
  | true => exact hserviced
  | false => exact h.trans hserviced (hnext s')

lemma dispatchFrame : R s (s.dispatchFrame now) := by
  unfold IpcpLayer.dispatchFrame
  extract_lets protocol
  split
  · unfold IpcpLayer.receiveIpcp
    generalize pppIpcpReceiveFrame s.receive.decoder s.ram s.ipcp = received
    obtain ⟨ram, ipcp, carry⟩ := received
    have hreceived := h.ipcp s ram ipcp
    dsimp only
    split
    · exact h.trans hreceived (h.serviced _ h.timer)
    · have hreleased := h.trans hreceived (h.release { s with ram := ram, ipcp := ipcp })
      exact h.trans (h.trans hreleased (h.servicePending _)) (h.timer _)
  split
  · exact h.refl s
  · exact h.trans (h.release s) (h.timer _)

lemma service : R s (s.service now) := by
  refine h.serviced s fun s' => ?_
  split
  · exact h.dispatchFrame s'
  · exact h.timer s'

/-- **The poll of IPCP**, and what it does when the link is gone. -/
theorem poll (connected : Bool) (state : LcpState) (authenticated : Bool)
    (hdown : ¬ (linkUp connected s.receive state && authenticated) = true → R s (s.lowerDown connected)) :
    R s (pppIpcpPoll connected now state authenticated s) := by
  unfold pppIpcpPoll
  split
  · split
    · exact h.trans (h.ipcp s s.ram _) (h.service _)
    · exact h.release s
    · exact h.service s
  · rename_i hgone
    exact hdown hgone

end IpcpLayer.Steps

end SnesModem.Asm
