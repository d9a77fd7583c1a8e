import SnesModem.Asm.RingFifo
import SnesModem.Asm.SnapshotPairs

/-!
# The polls that store as the sequence announces

* `Sequenced`: the condition on a poll, in terms of what it finds;
* `modemReadByte_ring`, `modemQueueByte_ring`: the calls of `buffer.asm` are those of the rings, so that the condition
  can speak of what the rings hold;
* `step_guarded`: such a poll stores between the beginning and the end of a snapshot only.
-/

namespace SnesModem.Asm.Driver

open SnesModem.Lib SnesModem.Lib.Cpu65816 SnesModem.Lib.Octets SnesModem.Lib.Seqlock Diagnostic

/-! ### The condition -/

/-- Nothing but carriage returns is to be read, and no result stands. -/
def Waits (d : Driver) : Prop :=
  (∀ octet ∈ d.receiveRing.contents, octet = 0x0d) ∧
    (d.receiveRing.contents = [] ∨ d.block sessionLastResult = SessionResult.none.code)

/-- The session has nothing to do: it is not active, it waits, or the probe does not fit into the ring. -/
def SessionSilent (now : UInt32) (d : Driver) : Prop :=
  if d.block atStatus = AtStatus.running.code then
    Waits d ∧ now.toUInt16 - d.word16 atStartFrame < d.atTimeoutFrames
  else if d.block driverState = DriverState.probing.code then
    if d.probeSent then Waits d ∧ Modem.elapsed now d.probeStartFrame < Modem.probeTimeoutFrames
    else 255 < d.transmitRing.held + Modem.probe.length
  else True

/-- Whether octets in the ring complete the line that reports the loss of the carrier, within a drain. -/
def losesCarrier : ℕ → List UInt8 → Receive → Bool
  | 0, _, _ => false
  | _, [], _ => false
  | budget + 1, octet :: octets, r =>
    match pppReceivePushConnectedByte r octet with
    | (_, true) => true
    | (r, false) => !r.frameReady && losesCarrier budget octets r

/-- The receive poll takes octets that do not report the loss of the carrier, if it takes any. -/
def CarrierKept (d : Driver) : Prop :=
  d.receive.enabled = true → d.block driverState = DriverState.connected.code →
    (activate d.receive).frameReady = false →
    losesCarrier receiveDrainBudget d.receiveRing.contents (activate d.receive) = false

/-- The commands that do not store into the block by themselves. -/
def DriverCommand.sequenced : DriverCommand → Bool
  | .clearTrace | .freezeTrace | .resumeTrace | .atTransaction _ | .selfTest _ _ => false
  | _ => true

/-- A poll that stores between the beginning and the end of a snapshot only. -/
def Sequenced (d : Driver) : Poll → Prop
  | .mailbox _ c => c.sequenced = true
  | .session now => SessionSilent now d
  | .receive => CarrierKept d
  | _ => True

/-! ### The rings under the calls -/

lemma increment32_block (d : Driver) {offset i : ℕ} (hi : i < offset ∨ offset + 4 ≤ i) :
    (d.increment32 offset).block i = d.block i := by
  have hlow : (d.store16 offset (d.word16 offset + 1)).block i = d.block i := by
    rw [block_store16, Function.update_of_ne (by omega), Function.update_of_ne (by omega)]
  unfold increment32
  dsimp only
  split
  · rw [block_store16, Function.update_of_ne (by omega), Function.update_of_ne (by omega)]
    exact hlow
  · exact hlow

/-- The variables outside of the block. -/
structure SameVariables (d d' : Driver) : Prop where
  receiveBuffer : d'.receiveBuffer = d.receiveBuffer
  transmitBuffer : d'.transmitBuffer = d.transmitBuffer
  probeStartFrame : d'.probeStartFrame = d.probeStartFrame
  atTimeoutFrames : d'.atTimeoutFrames = d.atTimeoutFrames
  receive : d'.receive = d.receive

lemma increment32_same (d : Driver) (offset : ℕ) : SameVariables d (d.increment32 offset) := by
  unfold increment32
  dsimp only
  split
  · exact ⟨rfl, rfl, rfl, rfl, rfl⟩
  · exact ⟨rfl, rfl, rfl, rfl, rfl⟩

/-- A call of `modemReadByte` changes nothing but the sequence and the read index. -/
structure Taken (d d' : Driver) : Prop extends SameVariables d d' where
  block : ∀ i, 12 ≤ i → i ≠ receiveReadIndex → d'.block i = d.block i

lemma Taken.refl (d : Driver) : Taken d d := ⟨⟨rfl, rfl, rfl, rfl, rfl⟩, fun _ _ _ => rfl⟩

lemma Taken.trans {d d' d'' : Driver} (h : Taken d d') (h' : Taken d' d'') : Taken d d'' where
  receiveBuffer := h'.receiveBuffer.trans h.receiveBuffer
  transmitBuffer := h'.transmitBuffer.trans h.transmitBuffer
  probeStartFrame := h'.probeStartFrame.trans h.probeStartFrame
  atTimeoutFrames := h'.atTimeoutFrames.trans h.atTimeoutFrames
  receive := h'.receive.trans h.receive
  block i hi hne := (h'.block i hi hne).trans (h.block i hi hne)

/-- The beginning and the end of a snapshot. -/
lemma increment32_taken (d : Driver) : Taken d (d.increment32 snapshotSequence) :=
  ⟨increment32_same d _, fun _ hi _ => increment32_block d (Or.inr hi)⟩

lemma store_taken (d : Driver) (octet : UInt8) : Taken d (d.store receiveReadIndex octet) :=
  ⟨⟨rfl, rfl, rfl, rfl, rfl⟩, fun _ _ hne => Function.update_of_ne hne _ _⟩

/-- The ring as the next routine finds it. -/
lemma receiveRing_increment32 (d : Driver) : (d.increment32 snapshotSequence).receiveRing = d.receiveRing := by
  unfold receiveRing
  rw [(increment32_same d _).receiveBuffer, increment32_block d (Or.inr (by decide)),
    increment32_block d (Or.inr (by decide))]

lemma transmitRing_increment32 (d : Driver) : (d.increment32 snapshotSequence).transmitRing = d.transmitRing := by
  unfold transmitRing
  rw [(increment32_same d _).transmitBuffer, increment32_block d (Or.inr (by decide)),
    increment32_block d (Or.inr (by decide))]

lemma modemReadByte_taken (d : Driver) : Taken d (modemReadByte d).1 := by
  have hbegun := increment32_taken d
  unfold modemReadByte modemSnapshotBegin modemSnapshotEnd
  dsimp only
  split
  · exact hbegun.trans (increment32_taken _)
  · exact (hbegun.trans (store_taken _ _)).trans (increment32_taken _)

/-- **`modemReadByte` takes the first octet of the ring.** -/
lemma modemReadByte_ring (d : Driver) :
    (modemReadByte d).2 = d.receiveRing.pop.map Prod.fst ∧
      (modemReadByte d).1.receiveRing = (d.receiveRing.pop.map Prod.snd).getD d.receiveRing := by
  have hbegun := receiveRing_increment32 d
  have hbuffer : (modemSnapshotBegin d).receiveBuffer = d.receiveRing.storage := congrArg Ring.storage hbegun
  have hread : (modemSnapshotBegin d).block receiveReadIndex = d.receiveRing.readIndex :=
    congrArg Ring.readIndex hbegun
  have hwrite : (modemSnapshotBegin d).block receiveWriteIndex = d.receiveRing.writeIndex :=
    congrArg Ring.writeIndex hbegun
  unfold modemReadByte Ring.pop Ring.isEmpty
  dsimp only
  rw [hread, hwrite]
  by_cases hempty : d.receiveRing.readIndex = d.receiveRing.writeIndex
  · rw [if_pos hempty, if_pos (decide_eq_true hempty)]
    refine ⟨rfl, ?_⟩
    change (increment32 _ snapshotSequence).receiveRing = _
    rw [receiveRing_increment32]
    exact hbegun
  · rw [if_neg hempty, if_neg (by simpa using hempty), hbuffer]
    refine ⟨rfl, ?_⟩
    change (increment32 _ snapshotSequence).receiveRing = _
    rw [receiveRing_increment32]
    unfold receiveRing
    rw [block_store, Function.update_self, Function.update_of_ne (by decide)]
    exact congrArg₂ (fun storage writeIndex => Ring.mk storage (d.receiveRing.readIndex + 1) writeIndex) hbuffer hwrite

/-- What is read is the first octet of the ring. -/
lemma contents_of_some {d d' : Driver} {octet : UInt8} (h : modemReadByte d = (d', some octet)) :
    d.receiveRing.contents = octet :: d'.receiveRing.contents := by
  have hring := modemReadByte_ring d
  rw [h] at hring
  obtain ⟨hsome, hring⟩ := hring
  have hpop : d.receiveRing.pop = some (octet, d'.receiveRing) := by
    cases hpop : d.receiveRing.pop with
    | none =>
      rw [hpop] at hsome
      exact absurd hsome nofun
    | some popped =>
      rw [hpop] at hsome hring
      exact congrArg some (Prod.ext (Option.some_inj.mp hsome).symm hring.symm)
  unfold Ring.pop at hpop
  split at hpop
  · exact absurd hpop nofun
  · rename_i hsome'
    obtain ⟨hoctet, hrest⟩ := Prod.mk.inj (Option.some_inj.mp hpop)
    rw [← hoctet, ← hrest]
    exact (Ring.contents_advance d.receiveRing.storage (by simpa using hsome') fun _ _ _ => rfl).symm

/-- **`modemQueueByte` puts an octet into the ring.** -/
lemma modemQueueByte_ring (octet : UInt8) (d : Driver) :
    (modemQueueByte octet d).1.transmitRing = (d.transmitRing.push octet).1 ∧
      (modemQueueByte octet d).2 = (d.transmitRing.push octet).2 := by
  have hbegun := transmitRing_increment32 d
  have hbuffer : (modemSnapshotBegin d).transmitBuffer = d.transmitRing.storage := congrArg Ring.storage hbegun
  have hread : (modemSnapshotBegin d).block transmitReadIndex = d.transmitRing.readIndex :=
    congrArg Ring.readIndex hbegun
  have hwrite : (modemSnapshotBegin d).block transmitWriteIndex = d.transmitRing.writeIndex :=
    congrArg Ring.writeIndex hbegun
  unfold modemQueueByte Ring.push
  dsimp only
  rw [hread, hwrite]
  by_cases hfull : d.transmitRing.writeIndex + 1 = d.transmitRing.readIndex
  · rw [if_pos hfull, if_pos hfull]
    refine ⟨?_, rfl⟩
    change (increment32 (increment32 _ transmitOverflowCount) snapshotSequence).transmitRing = _
    rw [transmitRing_increment32]
    unfold transmitRing
    rw [increment32_block _ (Or.inl (by decide)), increment32_block _ (Or.inl (by decide)),
      (increment32_same _ _).transmitBuffer, block_store, Function.update_of_ne (by decide),
      Function.update_of_ne (by decide)]
    exact hbegun
  · rw [if_neg hfull, if_neg hfull]
    refine ⟨?_, rfl⟩
    change (increment32 _ snapshotSequence).transmitRing = _
    rw [transmitRing_increment32]
    unfold transmitRing
    rw [block_store, Function.update_self, Function.update_of_ne (by decide)]
    exact congrArg₂ (fun storage readIndex => Ring.mk storage readIndex (d.transmitRing.writeIndex + 1))
      (congrArg (fun storage : Buffer => Function.update storage d.transmitRing.writeIndex.toNat octet) hbuffer) hread

/-- More octets than there is room for are not all queued. -/
lemma queueBytes_full {octets : List UInt8} {d : Driver} (hfull : 255 < d.transmitRing.held + octets.length) :
    (queueBytes octets d).2 = true := by
  induction octets generalizing d with
  | nil =>
    have hlt := Ring.held_lt d.transmitRing
    rw [List.length_nil] at hfull
    omega
  | cons octet octets ih =>
    obtain ⟨hring, hcarry⟩ := modemQueueByte_ring octet d
    rw [List.length_cons] at hfull
    have hlt := Ring.held_lt d.transmitRing
    unfold queueBytes
    split
    · rfl
    · rename_i queued heq
      rw [heq] at hring hcarry
      by_cases hheld : d.transmitRing.held = 255
      · rw [Ring.push_of_full octet hheld] at hcarry
        exact absurd hcarry nofun
      · have hcontents := congrArg List.length (Ring.contents_push octet (r := d.transmitRing) (by omega)).2
        rw [Ring.length_contents, List.length_append, Ring.length_contents, List.length_singleton, ← hring] at hcontents
        change queued.transmitRing.held = d.transmitRing.held + 1 at hcontents
        exact ih (by omega)

/-! ### A session that waits -/

/-- A carriage return is dropped. -/
lemma feedByte_return (d : Driver) : feedByte 0x0d d = d := by
  unfold feedByte
  exact if_pos rfl

/-- A session that waits reads what there is to no effect. -/
lemma readResponse_waits (fuel : ℕ) {d : Driver} (hwaits : Waits d) :
    (readResponse fuel d).2 = false ∧ Guarded d (readResponse fuel d).1 ∧ Taken d (readResponse fuel d).1 := by
  induction fuel generalizing d with
  | zero => exact ⟨rfl, Guarded.refl d, Taken.refl d⟩
  | succ fuel ih =>
    have hread := modemReadByte_guarded d
    have htaken := modemReadByte_taken d
    obtain ⟨hreturns, hresult⟩ := hwaits
    unfold readResponse
    split
    · rename_i read heq
      rw [heq] at hread htaken
      exact ⟨rfl, hread, htaken⟩
    · rename_i read octet heq
      rw [heq] at hread htaken
      have hcontents := contents_of_some heq
      rw [hcontents] at hreturns hresult
      have hoctet : octet = 0x0d := hreturns octet List.mem_cons_self
      subst hoctet
      have hnone : read.block sessionLastResult = SessionResult.none.code := by
        rw [htaken.block _ (by decide) (by decide)]
        exact hresult.resolve_left (List.cons_ne_nil _ _)
      rw [feedByte_return]
      dsimp only
      rw [if_pos hnone]
      obtain ⟨hrest, hguarded, htaken'⟩ :=
        ih (d := read) ⟨fun o ho => hreturns o (List.mem_cons_of_mem _ ho), Or.inr hnone⟩
      exact ⟨hrest, hread.trans hguarded, htaken.trans htaken'⟩

lemma readProbe_guarded {now : UInt32} {d : Driver} (hwaits : Waits d)
    (hnow : Modem.elapsed now d.probeStartFrame < Modem.probeTimeoutFrames) : Guarded d (readProbe now d) := by
  obtain ⟨hnone, hguarded, htaken⟩ := readResponse_waits Modem.ringFuel hwaits
  unfold readProbe
  split
  · rename_i read heq
    rw [heq] at hguarded htaken
    have hwaiting : Modem.elapsed now read.probeStartFrame < Modem.probeTimeoutFrames := by
      rw [htaken.probeStartFrame]
      exact hnow
    unfold checkProbeTimeout
    rw [if_pos hwaiting]
    exact hguarded
  · rename_i heq
    rw [heq] at hnone
    exact absurd hnone nofun

lemma pollAt_guarded {now : UInt32} {d : Driver} (hwaits : Waits d)
    (hnow : now.toUInt16 - d.word16 atStartFrame < d.atTimeoutFrames) : Guarded d (pollAt now d) := by
  obtain ⟨hnone, hguarded, htaken⟩ := readResponse_waits Modem.ringFuel hwaits
  unfold pollAt
  split
  · rename_i read heq
    rw [heq] at hguarded htaken
    have hstart : read.word16 atStartFrame = d.word16 atStartFrame := by
      unfold word16
      rw [htaken.block _ (by decide) (by decide), htaken.block _ (by decide) (by decide)]
    unfold checkAtTimeout
    rw [hstart, htaken.atTimeoutFrames, if_pos hnow]
    exact hguarded
  · rename_i heq
    rw [heq] at hnone
    exact absurd hnone nofun

lemma modemSessionPoll_guarded {now : UInt32} {d : Driver} (hsilent : SessionSilent now d) :
    Guarded d (modemSessionPoll now d) := by
  unfold SessionSilent at hsilent
  unfold modemSessionPoll
  split
  · rename_i hrunning
    rw [if_pos hrunning] at hsilent
    exact pollAt_guarded hsilent.1 hsilent.2
  rename_i hrunning
  rw [if_neg hrunning] at hsilent
  split
  · rename_i hprobing
    rw [if_pos hprobing] at hsilent
    unfold pollProbe
    split
    · rename_i hsent
      rw [if_pos hsent] at hsilent
      exact readProbe_guarded hsilent.1 hsilent.2
    · rename_i hsent
      rw [if_neg hsent] at hsilent
      have hcarry := queueBytes_full hsilent
      have hqueued := queueBytes_guarded Modem.probe d
      split
      · rename_i heq
        rw [heq] at hqueued
        exact hqueued
      · rename_i heq
        rw [heq] at hcarry
        exact absurd hcarry nofun
  · exact Guarded.refl d

/-! ### A carrier that is kept -/

lemma drain_guarded {budget : ℕ} {d : Driver}
    (hkept : losesCarrier budget d.receiveRing.contents d.receive = false) : Guarded d (drain budget d) := by
  induction budget generalizing d with
  | zero => exact Guarded.refl d
  | succ budget ih =>
    have hread := modemReadByte_guarded d
    have htaken := modemReadByte_taken d
    unfold drain
    split
    · rename_i heq
      rw [heq] at hread
      exact hread
    · rename_i read octet heq
      rw [heq] at hread htaken
      rw [contents_of_some heq] at hkept
      unfold losesCarrier at hkept
      rw [← htaken.receive] at hkept
      split
      · rename_i hpushed
        rw [hpushed] at hkept
        cases hkept
      · rename_i r hpushed
        rw [hpushed] at hkept
        dsimp only at hkept
        split
        · exact hread
        · rename_i hready
          have hrest : losesCarrier budget read.receiveRing.contents r = false := by simpa [hready] using hkept
          exact Guarded.trans hread (ih (d := { read with receive := r }) hrest)

lemma pppReceivePoll_guarded {d : Driver} (hkept : CarrierKept d) : Guarded d (pppReceivePoll d) := by
  unfold pppReceivePoll
  split
  · exact Guarded.refl d
  · rename_i hup
    have hup' : d.receive.enabled = true ∧ d.block driverState = DriverState.connected.code := by simpa using hup
    split
    · exact Guarded.refl d
    · rename_i hready
      have hkept' := hkept hup'.1 hup'.2 (by simpa using hready)
      exact drain_guarded (d := { d with receive := activate d.receive }) hkept'

/-! ### Every such poll -/

lemma command_guarded (now : UInt32) (d : Driver) {c : DriverCommand} (hsequenced : c.sequenced = true) :
    Guarded d (command now d c) := by
  cases c with
  | reset => exact modemInitialize_guarded now d
  | quickTest => exact modemInitialize_guarded now d
  | clearTrace => exact absurd hsequenced nofun
  | freezeTrace => exact absurd hsequenced nofun
  | resumeTrace => exact absurd hsequenced nofun
  | atTransaction arguments => exact absurd hsequenced nofun
  | binaryTransmit arguments =>
    unfold command
    dsimp only
    split
    · exact Guarded.refl d
    · exact binaryQueue_guarded _ d
  | binaryReceive =>
    unfold command
    dsimp only
    split
    · exact takeBytes_guarded _ d
    · exact Guarded.refl d
  | binaryStressTransmit => exact binaryQueue_guarded _ d
  | selfTest stores receive => exact absurd hsequenced nofun

/-- The tick of the NMI lies outside of the sequence, as it is meant to. -/
lemma vBlank_guarded (d : Driver) (displayReadIndex : UInt8) : Guarded d (d.step (.vBlank displayReadIndex)) := by
  intro heven
  have hother : ∀ i ≠ pollTick, (d.store pollTick 1).block i = d.block i := fun i hi =>
    Function.update_of_ne hi _ _
  have hsame : SameSequence d.block (d.store pollTick 1).block := fun i hi => by
    rw [mem_sequence] at hi
    have htick : pollTick = 0x10 := rfl
    exact hother i (by omega)
  exact ⟨Follows.store ⟨.other hother, fun i hi => Or.inl (hsame i hi)⟩, mt (locked_congr hsame).mp heven⟩

/-- **A sequenced poll** stores as the sequence announces, and leaves it even. -/
theorem step_guarded {d : Driver} {poll : Poll} (hsequenced : Sequenced d poll) : Guarded d (d.step poll) := by
  cases poll with
  | mailbox now c => exact command_guarded now d hsequenced
  | modem now exposed joyser1 => exact modemPoll_guarded now exposed joyser1 d
  | session now => exact modemSessionPoll_guarded hsequenced
  | receive => exact pppReceivePoll_guarded hsequenced
  | queue octets => exact queueBytes_guarded octets d
  | take count => exact takeBytes_guarded count d
  | other receive => exact Guarded.refl d
  | controller ticked => exact Guarded.refl d
  | vBlank displayReadIndex => exact vBlank_guarded d displayReadIndex

end SnesModem.Asm.Driver
