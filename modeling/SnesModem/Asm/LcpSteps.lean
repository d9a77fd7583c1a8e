import SnesModem.Asm.LcpNegotiation

/-!
# What a received packet does to LCP

* `Kept`: the variables that neither loop over the options writes;
* `SameParse`: the parsed fields, which the handlers keep until the response is built;
* `receivePacket_pending`: the actions that a packet leaves pending.
-/

namespace SnesModem.Asm

open SnesModem.Lib.Cpu65816 SnesModem.Lib.Octets

/-- The parsed fields are the same. -/
structure SameParse (l l' : Lcp) : Prop where
  packetLength : l'.packetLength = l.packetLength
  packetEnd : l'.packetEnd = l.packetEnd
  lastCode : l'.lastCode = l.lastCode
  lastIdentifier : l'.lastIdentifier = l.lastIdentifier

/-- What the loops over the options keep: all but the maps, the peer's configuration and the magic number. -/
structure Kept (l l' : Lcp) : Prop extends SameParse l l' where
  state : l'.state = l.state
  pendingAction : l'.pendingAction = l.pendingAction
  administrativeOpen : l'.administrativeOpen = l.administrativeOpen

section Kept

variable {l l' l'' : Lcp}

lemma SameParse.refl (l : Lcp) : SameParse l l := ⟨rfl, rfl, rfl, rfl⟩

lemma Kept.refl (l : Lcp) : Kept l l := ⟨.refl l, rfl, rfl, rfl⟩

lemma SameParse.trans (h : SameParse l l') (h' : SameParse l' l'') : SameParse l l'' :=
  ⟨h'.packetLength.trans h.packetLength, h'.packetEnd.trans h.packetEnd, h'.lastCode.trans h.lastCode,
    h'.lastIdentifier.trans h.lastIdentifier⟩

lemma Kept.trans (h : Kept l l') (h' : Kept l' l'') : Kept l l'' :=
  ⟨h.toSameParse.trans h'.toSameParse, h'.state.trans h.state, h'.pendingAction.trans h.pendingAction,
    h'.administrativeOpen.trans h.administrativeOpen⟩

end Kept

/-! ### The loops over the options -/

section Loops

variable (buffer : Buffer) (l : Lcp)

lemma commitOption_kept (y : UInt16) : Kept l (commitOption buffer l y) := by
  unfold commitOption
  dsimp only
  split
  · exact ⟨⟨rfl, rfl, rfl, rfl⟩, rfl, rfl, rfl⟩
  · exact ⟨⟨rfl, rfl, rfl, rfl⟩, rfl, rfl, rfl⟩
  · split_ifs
    · exact ⟨⟨rfl, rfl, rfl, rfl⟩, rfl, rfl, rfl⟩
    · exact ⟨⟨rfl, rfl, rfl, rfl⟩, rfl, rfl, rfl⟩
  · exact ⟨⟨rfl, rfl, rfl, rfl⟩, rfl, rfl, rfl⟩
  · exact .refl l

lemma foldl_commitOption_kept (offsets : List UInt16) : Kept l (offsets.foldl (commitOption buffer) l) := by
  induction offsets generalizing l with
  | nil => exact .refl l
  | cons y offsets ih => exact (commitOption_kept buffer l y).trans (ih _)

theorem evaluatePeerRequest_kept : Kept l (pppLcpEvaluatePeerRequest buffer l).2 := by
  have hcommit (offsets : List UInt16) (l' : Lcp) (h : Kept l l') :
      Kept l (offsets.foldl (commitOption buffer) l') := h.trans (foldl_commitOption_kept _ _ _)
  unfold pppLcpEvaluatePeerRequest
  dsimp only
  split_ifs
  · exact ⟨⟨rfl, rfl, rfl, rfl⟩, rfl, rfl, rfl⟩
  · exact ⟨⟨rfl, rfl, rfl, rfl⟩, rfl, rfl, rfl⟩
  · exact hcommit _ _ ⟨⟨rfl, rfl, rfl, rfl⟩, rfl, rfl, rfl⟩

/-- The actions that answer a Configure-Request. -/
def LcpAction.answersRequest : LcpAction → Bool
  | .configureAck | .configureNak | .configureReject => true
  | _ => false

lemma evaluatePeerRequest_action : (pppLcpEvaluatePeerRequest buffer l).1.answersRequest = true := by
  unfold pppLcpEvaluatePeerRequest
  dsimp only
  split_ifs
  · rfl
  · rfl
  · rfl

/-- A Nak or Reject writes the magic number and its flags only. -/
structure Suggested (l l' : Lcp) : Prop extends Kept l l' where
  peerFlags : l'.peerFlags = l.peerFlags

lemma Suggested.refl (l : Lcp) : Suggested l l := ⟨.refl l, rfl⟩

lemma Suggested.trans {l l' l'' : Lcp} (h : Suggested l l') (h' : Suggested l' l'') : Suggested l l'' :=
  ⟨h.toKept.trans h'.toKept, h'.peerFlags.trans h.peerFlags⟩

lemma applyNegativeMagic_suggested {y : UInt16} {l' : Lcp} (h : applyNegativeMagic buffer l y = some l') :
    Suggested l l' := by
  unfold applyNegativeMagic pppLcpAdvanceLocalMagic at h
  generalize nextMagic l.localMagic = magic at h
  split_ifs at h
  · obtain rfl := Option.some.inj h
    exact ⟨⟨⟨rfl, rfl, rfl, rfl⟩, rfl, rfl, rfl⟩, rfl⟩
  · obtain rfl := Option.some.inj h
    exact ⟨⟨⟨rfl, rfl, rfl, rfl⟩, rfl, rfl, rfl⟩, rfl⟩
  · obtain rfl := Option.some.inj h
    exact ⟨⟨⟨rfl, rfl, rfl, rfl⟩, rfl, rfl, rfl⟩, rfl⟩

/-- What a turn of the loop relates, the loop relates. -/
lemma applyNegativeOptions_related {R : Lcp → Lcp → Prop} (hrefl : ∀ l, R l l)
    (htrans : ∀ {l l' l''}, R l l' → R l' l'' → R l l'')
    (hturn : ∀ {l y l'}, applyNegativeMagic buffer l y = some l' → R l l') (offsets : List UInt16) (hasNak : Bool) :
    R l (applyNegativeOptions buffer offsets hasNak l).1 := by
  induction offsets generalizing hasNak l with
  | nil => exact hrefl l
  | cons y offsets ih =>
    unfold applyNegativeOptions
    split_ifs
    · exact hrefl l
    · cases hmagic : applyNegativeMagic buffer l y with
      | none => exact hrefl l
      | some l' => exact htrans (hturn hmagic) (ih l' true)
    · exact hrefl l
    · exact ih l hasNak

theorem applyNegativeOptions_suggested (offsets : List UInt16) (hasNak : Bool) :
    Suggested l (applyNegativeOptions buffer offsets hasNak l).1 :=
  applyNegativeOptions_related buffer l .refl .trans (applyNegativeMagic_suggested buffer _) offsets hasNak

end Loops

/-! ### The handlers -/

/-- What a packet leaves pending, beside what was pending before it. -/
inductive Pending (d : Decoder) (l : Lcp) : LcpAction → Prop where
  | kept : Pending d l l.pendingAction
  | completed : Pending d l .none
  | requested : Pending d l .configureRequest
  | terminating : Pending d l .terminateAck
  | answered {action : LcpAction} (code : (d.frameBuffer 4).toNat = 1) (answers : action.answersRequest = true) :
    Pending d l action
  | rejected : Pending d l .codeReject
  | echoed (length : headerLength + 4 ≤ l.packetLength) : Pending d l .echoReply

section Handlers

variable (d : Decoder) (l : Lcp)

lemma receiveConfigureRequest_sameParse : SameParse l (receiveConfigureRequest d l).1 := by
  have hkept := (evaluatePeerRequest_kept d.frameBuffer l).toSameParse
  unfold receiveConfigureRequest
  by_cases hclosing : l.state = .closing
  · rw [if_pos hclosing]
    exact ⟨rfl, rfl, rfl, rfl⟩
  · rw [if_neg hclosing]
    have hreturn (l' : Lcp) (h : SameParse l l') : SameParse l (returnSuccess l').1 :=
      ⟨h.packetLength, h.packetEnd, h.lastCode, h.lastIdentifier⟩
    obtain ⟨hlength, hend, hcode, hidentifier⟩ := hkept
    dsimp only
    split_ifs <;> exact hreturn _ ⟨hlength, hend, hcode, hidentifier⟩

lemma receiveConfigureRequest_pending (hcode : (d.frameBuffer 4).toNat = 1) :
    Pending d l (receiveConfigureRequest d l).1.pendingAction := by
  have haction := evaluatePeerRequest_action d.frameBuffer l
  unfold receiveConfigureRequest
  by_cases hclosing : l.state = .closing
  · rw [if_pos hclosing]
    exact .kept
  · rw [if_neg hclosing]
    dsimp only
    split_ifs <;> exact .answered hcode haction

lemma receiveConfigureAck_sameParse : SameParse l (receiveConfigureAck d l).1 := by
  unfold receiveConfigureAck
  dsimp only
  split_ifs
  · exact ⟨rfl, rfl, rfl, rfl⟩
  · exact ⟨rfl, rfl, rfl, rfl⟩
  · split <;> exact ⟨rfl, rfl, rfl, rfl⟩
  · split <;> exact ⟨rfl, rfl, rfl, rfl⟩

lemma receiveConfigureAck_pending : Pending d l (receiveConfigureAck d l).1.pendingAction := by
  unfold receiveConfigureAck
  dsimp only
  split_ifs
  · exact .kept
  · exact .kept
  · split <;> first | exact .requested | exact .kept
  · split <;> first | exact .requested | exact .kept

lemma receiveConfigureNegative_sameParse : SameParse l (receiveConfigureNegative d l).1 := by
  have hsame := applyNegativeOptions_suggested d.frameBuffer l (options d.frameBuffer l.packetEnd) false
  unfold receiveConfigureNegative
  split_ifs
  · exact ⟨rfl, rfl, rfl, rfl⟩
  · exact ⟨rfl, rfl, rfl, rfl⟩
  · split
    · rename_i l' happly
      rw [happly] at hsame
      exact ⟨hsame.packetLength, hsame.packetEnd, hsame.lastCode, hsame.lastIdentifier⟩
    · rename_i l' happly
      rw [happly] at hsame
      exact ⟨hsame.packetLength, hsame.packetEnd, hsame.lastCode, hsame.lastIdentifier⟩

lemma receiveConfigureNegative_pending : Pending d l (receiveConfigureNegative d l).1.pendingAction := by
  have hsame := applyNegativeOptions_suggested d.frameBuffer l (options d.frameBuffer l.packetEnd) false
  unfold receiveConfigureNegative
  split_ifs
  · exact .kept
  · exact .kept
  · split
    · rename_i l' happly
      rw [happly] at hsame
      have hkept : (returnFailure l' .invalidResponse).1.pendingAction = l.pendingAction := hsame.pendingAction
      rw [hkept]
      exact .kept
    · exact .requested

/-- **The handlers keep** what the parser has stored. -/
theorem receivePacket_sameParse : SameParse l (receivePacket d l).1 := by
  unfold receivePacket
  split_ifs
  · exact ⟨rfl, rfl, rfl, rfl⟩
  · split
    · exact receiveConfigureRequest_sameParse d l
    · exact receiveConfigureAck_sameParse d l
    · exact receiveConfigureNegative_sameParse d l
    · exact receiveConfigureNegative_sameParse d l
    · unfold receiveTerminateRequest
      split_ifs <;> exact ⟨rfl, rfl, rfl, rfl⟩
    · unfold receiveTerminateAck
      split_ifs <;> exact ⟨rfl, rfl, rfl, rfl⟩
    · exact ⟨rfl, rfl, rfl, rfl⟩
    · exact ⟨rfl, rfl, rfl, rfl⟩
    · unfold receiveEchoRequest
      split_ifs <;> exact ⟨rfl, rfl, rfl, rfl⟩
    · unfold receiveMaintenance
      split_ifs <;> exact ⟨rfl, rfl, rfl, rfl⟩
    · unfold receiveMaintenance
      split_ifs <;> exact ⟨rfl, rfl, rfl, rfl⟩
    · exact ⟨rfl, rfl, rfl, rfl⟩

/-- **What a packet leaves pending.** -/
theorem receivePacket_pending : Pending d l (receivePacket d l).1.pendingAction := by
  unfold receivePacket
  split_ifs
  · exact .kept
  · split
    · exact receiveConfigureRequest_pending d l (by assumption)
    · exact receiveConfigureAck_pending d l
    · exact receiveConfigureNegative_pending d l
    · exact receiveConfigureNegative_pending d l
    · exact .terminating
    · unfold receiveTerminateAck
      split_ifs
      · exact .kept
      · exact .kept
      · exact .completed
    · exact .kept
    · exact .kept
    · unfold receiveEchoRequest
      split_ifs with hopened hlength hmagic
      · exact .kept
      · exact .kept
      · exact .kept
      · exact .echoed (UInt16.not_lt.mp hlength)
    · unfold receiveMaintenance
      split_ifs <;> exact .kept
    · unfold receiveMaintenance
      split_ifs <;> exact .kept
    · exact .rejected

end Handlers

end SnesModem.Asm
