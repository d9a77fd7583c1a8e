import SnesModem.Asm.DiagnosticPolls

/-!
# Which routines store between the beginning and the end of a snapshot

* `Data`: stores that leave the sequence alone, which are those of the routines inside of a snapshot;
* `Guarded`: stores as the sequence announces them; `guarded_of_data`: those between a beginning and an end;
* `modemPoll_guarded`, `modemInitialize_guarded`, `modemReadByte_guarded`, `modemQueueByte_guarded`: the drivers that
  keep to it;
* `Balanced`: whatever a poll stores, it leaves an even sequence even.
-/

namespace SnesModem.Asm.Driver

open SnesModem.Lib SnesModem.Lib.Cpu65816 SnesModem.Lib.Octets SnesModem.Lib.Seqlock Diagnostic

/-! ### The sequence -/

/-- The octets of `modemSnapshotSequence`. -/
def sequence : Finset ℕ := {8, 9, 10, 11}

/-- The sequence is odd. -/
def Locked (m : Buffer) : Prop := m snapshotSequence &&& 1 ≠ 0

def SameSequence (m m' : Buffer) : Prop := ∀ i ∈ sequence, m' i = m i

/-- A store as the sequence announces it; where it changes the sequence, it advances it. -/
structure Announced (m m' : Buffer) : Prop where
  disciplined : Disciplined sequence Locked pollTick m m'
  advances : ∀ i ∈ sequence, m' i = m i ∨ m' i = m i + 1

lemma mem_sequence {i : ℕ} : i ∈ sequence ↔ 8 ≤ i ∧ i < 12 := by
  unfold sequence
  simp only [Finset.mem_insert, Finset.mem_singleton]
  omega

lemma locked_congr {m m' : Buffer} (h : SameSequence m m') : Locked m' ↔ Locked m := by
  unfold Locked
  rw [h snapshotSequence (by decide)]

@[simp] lemma block_store (d : Driver) (offset : ℕ) (octet : UInt8) :
    (d.store offset octet).block = Function.update d.block offset octet := rfl

@[simp] lemma block_store16 (d : Driver) (offset : ℕ) (value : UInt16) :
    (d.store16 offset value).block =
      Function.update (Function.update d.block offset (low value)) (offset + 1) (high value) := rfl

/-! ### Stores into the block behind the sequence -/

/-- The stores from a state to another leave the sequence alone. -/
def Data (d d' : Driver) : Prop := Follows SameSequence d.history d'.history

lemma Data.refl (d : Driver) : Data d d := Follows.refl _

lemma Data.trans {d d' d'' : Driver} (h : Data d d') (h' : Data d' d'') : Data d d'' := Follows.trans h h'

section Data

variable {d d₀ : Driver} {offset : ℕ}

lemma store_data (h : Data d₀ d) (octet : UInt8) (hoffset : 12 ≤ offset) : Data d₀ (d.store offset octet) := by
  refine h.trans (Follows.store fun i hi => ?_)
  rw [mem_sequence] at hi
  exact Function.update_of_ne (by omega) _ _

lemma store16_data (h : Data d₀ d) (value : UInt16) (hoffset : 12 ≤ offset) : Data d₀ (d.store16 offset value) := by
  refine h.trans (Follows.store fun i hi => ?_)
  rw [mem_sequence] at hi
  rw [Function.update_of_ne (by omega), Function.update_of_ne (by omega)]
  rfl

lemma store32_data (h : Data d₀ d) (value : UInt32) (hoffset : 12 ≤ offset) : Data d₀ (d.store32 offset value) :=
  store16_data (store16_data h _ hoffset) _ (by omega)

lemma increment32_data (h : Data d₀ d) (hoffset : 12 ≤ offset) : Data d₀ (d.increment32 offset) := by
  have hlow := store16_data h (d.word16 offset + 1) hoffset
  unfold increment32
  dsimp only
  split
  · exact store16_data hlow _ (by omega)
  · exact hlow

lemma rol_data (h : Data d₀ d) (carry : Bool) (hoffset : 12 ≤ offset) : Data d₀ (d.rol offset carry).1 :=
  store_data h _ hoffset

lemma rol16_data (h : Data d₀ d) (carry : Bool) (hoffset : 12 ≤ offset) : Data d₀ (d.rol16 offset carry) :=
  rol_data (rol_data h carry hoffset) _ (by omega)

/-! ### The routines inside of a snapshot -/

lemma modemRecordTrace_data (h : Data d₀ d) (kind : TraceKind) : Data d₀ (modemRecordTrace kind d) := by
  unfold modemRecordTrace
  split
  · exact h
  extract_lets overwriting d1 d2
  have hoverwriting : Data d₀ d1 := by
    unfold d1
    split
    · exact h
    · exact increment32_data (store_data h _ (by decide)) (by decide)
  have hnext : Data d₀ d2 := increment32_data hoverwriting (by decide)
  split
  · exact store_data hnext _ (by decide)
  · exact hnext

lemma modemSetState_data (h : Data d₀ d) (state : DriverState) : Data d₀ (modemSetState state d) :=
  modemRecordTrace_data (store_data h _ (by decide)) _

lemma modemClearTrace_data (h : Data d₀ d) : Data d₀ (modemClearTrace d) := by
  unfold modemClearTrace
  iterate 9 refine store_data ?_ _ (by decide)
  exact h

lemma modemResetQueues_data (h : Data d₀ d) : Data d₀ (modemResetQueues d) := by
  unfold modemResetQueues
  iterate 12 refine store_data ?_ _ (by decide)
  exact h

lemma terminalMirrorReceivedByte_data (h : Data d₀ d) : Data d₀ (terminalMirrorReceivedByte d) := by
  unfold terminalMirrorReceivedByte
  split
  · exact increment32_data h (by decide)
  · exact h

lemma modemStoreReceivedByte_data (h : Data d₀ d) (octet : UInt8) : Data d₀ (modemStoreReceivedByte octet d).1 := by
  unfold modemStoreReceivedByte
  dsimp only
  split
  · have hreason : Data d₀
        ((d.store flags (d.block flags ||| flagReceiveOverflow)).store lastDiscardReason
          DiscardReason.rxOverflow.code) := store_data (store_data h _ (by decide)) _ (by decide)
    exact increment32_data (increment32_data hreason (by decide)) (by decide)
  · set stored := Driver.store _ lastReceiveByte octet with hstored
    have hoctet : Data d₀ stored := store_data h _ (by decide)
    have hmirrored := terminalMirrorReceivedByte_data hoctet
    exact increment32_data (store_data hmirrored _ (by decide)) (by decide)

lemma modemConsumeTransmitByte_data (h : Data d₀ d) (exposed : Bool) :
    Data d₀ (modemConsumeTransmitByte exposed d) := by
  unfold modemConsumeTransmitByte
  dsimp only
  split
  · exact h
  · set shown := Driver.store _ lastTransmitByte _ with hshown
    have hoctet : Data d₀ shown := store_data h _ (by decide)
    have hcleared : Data d₀ { shown with
        transmitBuffer := Function.update shown.transmitBuffer (d.block transmitReadIndex).toNat 0 } := hoctet
    exact increment32_data (store_data hcleared _ (by decide)) (by decide)

lemma modemRecordPollBudgetYield_data (h : Data d₀ d) : Data d₀ (modemRecordPollBudgetYield d) :=
  increment32_data (store_data h _ (by decide)) (by decide)

lemma clearReports_data (h : Data d₀ d) : Data d₀ (clearReports d) := by
  unfold clearReports
  iterate 4 refine store_data ?_ _ (by decide)
  exact h

lemma shiftReports_data (h : Data d₀ d) (data status : Bool) : Data d₀ (shiftReports data status d) :=
  rol16_data (rol16_data h data (by decide)) status (by decide)

lemma readBits_data (h : Data d₀ d) (joyser1 : ℕ → UInt8) (n : ℕ) : Data d₀ (readBits joyser1 n d) := by
  induction n with
  | zero => exact h
  | succ n ih => exact shiftReports_data ih _ _

lemma alignReports_data (h : Data d₀ d) (n : ℕ) : Data d₀ (alignReports n d) := by
  induction n with
  | zero => exact h
  | succ n ih => exact shiftReports_data ih _ _

lemma receivePresent_data (h : Data d₀ d) : Data d₀ (receivePresent d) := by
  have hreason := store_data h DiscardReason.none.code (show 12 ≤ lastDiscardReason by decide)
  have hstored := modemStoreReceivedByte_data hreason
    ((d.store lastDiscardReason DiscardReason.none.code).block (lastDataReport + 1))
  unfold receivePresent
  dsimp only
  split <;> rename_i heq <;> rw [heq] at hstored <;> exact modemRecordTrace_data hstored _

lemma transferReports_data (h : Data d₀ d) (joyser1 : ℕ → UInt8) : Data d₀ (transferReports joyser1 d) := by
  have hfirst := rol_data (rol_data h (dataLine (joyser1 0)) (show 12 ≤ lastDataReport by decide))
    (statusLine (joyser1 0)) (show 12 ≤ lastStatusReport by decide)
  exact alignReports_data (readBits_data hfirst _ _) _

lemma modemTransfer9_data (h : Data d₀ d) (exposed : Bool) (joyser1 : ℕ → UInt8) :
    Data d₀ (modemTransfer9 exposed joyser1 d) := by
  unfold modemTransfer9
  extract_lets d1 hadTransmit d2 d3 d4
  have hreports : Data d₀ d2 := transferReports_data (clearReports_data h) _
  have hsent : Data d₀ d3 := by
    unfold d3
    split
    · exact modemRecordTrace_data (modemConsumeTransmitByte_data hreports _) _
    · exact hreports
  have hreceived : Data d₀ d4 := by
    unfold d4
    split
    · exact receivePresent_data hsent
    · exact store_data hsent _ (by decide)
  exact modemRecordTrace_data hreceived _

lemma checkTransfer_data (h : Data d₀ d) (exposed : Bool) (joyser1 : ℕ → UInt8) (budget n : ℕ) :
    Data d₀ (checkTransfer exposed joyser1 budget n d) := by
  induction budget generalizing n d with
  | zero =>
    unfold checkTransfer
    split
    · have hpending : Data d₀ { d with burstPending := true } := h
      exact modemRecordPollBudgetYield_data hpending
    · exact h
  | succ budget ih =>
    unfold checkTransfer
    split
    · exact ih (modemTransfer9_data h _ _) _
    · exact h

lemma resetGuard_data (h : Data d₀ d) (now : UInt32) : Data d₀ (resetGuard now d) := by
  unfold resetGuard
  split
  · exact modemSetState_data h _
  · exact h

lemma readCompleteReport_data (h : Data d₀ d) (joyser1 : ℕ → UInt8) : Data d₀ (readCompleteReport joyser1 d) := by
  unfold readCompleteReport
  extract_lets d1 d2
  have hbits : Data d₀ d1 := readBits_data (clearReports_data h) _ _
  have htraced : Data d₀ d2 := modemRecordTrace_data (store_data hbits _ (by decide)) _
  split
  · exact htraced
  · exact receivePresent_data htraced

lemma pollReports_data (h : Data d₀ d) (now : UInt32) (exposed : Bool) (joyser1 : ℕ → UInt8) :
    Data d₀ (pollReports now exposed joyser1 d) := by
  have hticked : Data d₀ { d.store pollTick 0 with burstPending := false } := store_data h _ (by decide)
  have hreport := readCompleteReport_data (resetGuard_data hticked now) joyser1
  unfold pollReports
  dsimp only
  split
  · exact hreport
  · exact checkTransfer_data hreport _ _ _ _

end Data

/-! ### The beginning and the end of a snapshot -/

lemma low_succ (upper lower : UInt8) : low (word upper lower + 1) = lower + 1 := by
  have hone : (1 : UInt16).toNat = 1 := rfl
  have hone' : (1 : UInt8).toNat = 1 := rfl
  rw [← UInt8.toNat_inj, toNat_low, UInt16.toNat_add, toNat_word, UInt8.toNat_add, hone, hone']
  omega

lemma high_succ (upper lower : UInt8) : high (word upper lower + 1) = upper ∨ high (word upper lower + 1) = upper + 1 := by
  have hupper := upper.toNat_lt
  have hlower := lower.toNat_lt
  have hone : (1 : UInt16).toNat = 1 := rfl
  have hone' : (1 : UInt8).toNat = 1 := rfl
  rw [← UInt8.toNat_inj, ← UInt8.toNat_inj, toNat_high, UInt16.toNat_add, toNat_word, UInt8.toNat_add, hone, hone']
  omega

lemma succ_ne (octet : UInt8) : octet + 1 ≠ octet := by
  intro heq
  have htoNat := congrArg UInt8.toNat heq
  have hlt := octet.toNat_lt
  have hone : (1 : UInt8).toNat = 1 := rfl
  rw [UInt8.toNat_add, hone] at htoNat
  omega

/-- One more in a word of the sequence. -/
lemma store16_announced (d : Driver) {offset : ℕ} (hoffset : offset = 8 ∨ offset = 10) :
    Announced d.block (d.store16 offset (d.word16 offset + 1)).block := by
  set block' := (d.store16 offset (d.word16 offset + 1)).block with hblock'
  have hlow : block' offset = d.block offset + 1 := by
    rw [hblock', block_store16, Function.update_of_ne (by omega), Function.update_self]
    exact low_succ _ _
  have hhigh : block' (offset + 1) = d.block (offset + 1) ∨ block' (offset + 1) = d.block (offset + 1) + 1 := by
    rw [hblock', block_store16, Function.update_self]
    exact high_succ _ _
  have hother : ∀ i, i ≠ offset → i ≠ offset + 1 → block' i = d.block i := by
    intro i hi hi'
    rw [hblock', block_store16, Function.update_of_ne hi', Function.update_of_ne hi]
  refine ⟨.advance ⟨offset, mem_sequence.mpr (by omega), ?_⟩, fun i _ => ?_⟩
  · rw [hlow]
    exact succ_ne _
  · by_cases hi : i = offset
    · rw [hi]
      exact Or.inr hlow
    by_cases hi' : i = offset + 1
    · rw [hi']
      exact hhigh
    exact Or.inl (hother i hi hi')

/-- The low octet of the sequence after a beginning or an end. -/
lemma increment32_low (d : Driver) :
    (d.increment32 snapshotSequence).block snapshotSequence = d.block snapshotSequence + 1 := by
  have hlow : (d.store16 snapshotSequence (d.word16 snapshotSequence + 1)).block snapshotSequence =
      d.block snapshotSequence + 1 := by
    rw [block_store16, Function.update_of_ne (by decide), Function.update_self]
    exact low_succ _ _
  unfold increment32
  dsimp only
  split
  · rw [block_store16, Function.update_of_ne (by decide), Function.update_of_ne (by decide)]
    exact hlow
  · exact hlow

lemma increment32_announced (d : Driver) :
    Follows Announced d.history (d.increment32 snapshotSequence).history := by
  have hlow : Follows Announced d.history (d.store16 snapshotSequence (d.word16 snapshotSequence + 1)).history :=
    Follows.store (store16_announced d (Or.inl rfl))
  unfold increment32
  dsimp only
  split
  · exact hlow.trans (Follows.store (store16_announced _ (Or.inr rfl)))
  · exact hlow

/-- Whether a sequence is odd, by its low octet. -/
lemma locked_iff (m : Buffer) : Locked m ↔ (m snapshotSequence).toNat % 2 = 1 := by
  have hzero : (0 : UInt8).toNat = 0 := rfl
  have hone : (1 : UInt8).toNat = 1 := rfl
  unfold Locked
  rw [ne_eq, ← UInt8.toNat_inj, UInt8.toNat_and, hzero, hone, Nat.and_one_is_mod]
  omega

lemma locked_succ (m m' : Buffer) (h : m' snapshotSequence = m snapshotSequence + 1) : Locked m' ↔ ¬ Locked m := by
  have hone : (1 : UInt8).toNat = 1 := rfl
  have hlt := (m snapshotSequence).toNat_lt
  rw [locked_iff, locked_iff, h, UInt8.toNat_add, hone]
  omega

/-! ### A snapshot -/

/-- From an even sequence, the stores are as the sequence announces them, and leave it even. -/
def Guarded (d d' : Driver) : Prop :=
  ¬ Locked d.block → Follows Announced d.history d'.history ∧ ¬ Locked d'.block

lemma Guarded.refl (d : Driver) : Guarded d d := fun heven => ⟨Follows.refl _, heven⟩

lemma Guarded.trans {d d' d'' : Driver} (h : Guarded d d') (h' : Guarded d' d'') : Guarded d d'' := by
  intro heven
  obtain ⟨hfirst, heven'⟩ := h heven
  obtain ⟨hsecond, heven''⟩ := h' heven'
  exact ⟨hfirst.trans hsecond, heven''⟩

/-- Under an odd sequence, the data are announced. -/
lemma announced_of_data {d d' : Driver} (h : Data d d') (hlocked : Locked d.block) :
    Follows Announced d.history d'.history := by
  have hkept : ∀ m m' : Buffer, SameSequence m m' → Locked m → Locked m' := fun m m' hsame =>
    (locked_congr hsame).mpr
  refine (Follows.strengthen hkept h hlocked).mono fun m m' hdata => ?_
  exact ⟨.inside hdata.1 hdata.2, fun i hi => Or.inl (hdata.2 i hi)⟩

/-- **What is stored between the beginning and the end of a snapshot** is as the sequence announces it. -/
theorem guarded_of_data {d d' : Driver} (h : Data (modemSnapshotBegin d) d') : Guarded d (modemSnapshotEnd d') := by
  intro heven
  have hbegun : Locked (modemSnapshotBegin d).block := (locked_succ _ _ (increment32_low d)).mpr heven
  have hinside : Locked d'.block :=
    Follows.invariant_current (fun m m' hsame => (locked_congr hsame).mpr) h hbegun
  refine ⟨((increment32_announced d).trans (announced_of_data h hbegun)).trans (increment32_announced d'), ?_⟩
  rw [modemSnapshotEnd, locked_succ _ _ (increment32_low d'), not_not]
  exact hinside

/-! ### The drivers that keep to the sequence -/

lemma modemReadByte_guarded (d : Driver) : Guarded d (modemReadByte d).1 := by
  unfold modemReadByte
  dsimp only
  split
  · exact guarded_of_data (Data.refl _)
  · exact guarded_of_data (store_data (Data.refl _) _ (by decide))

lemma modemQueueByte_guarded (octet : UInt8) (d : Driver) : Guarded d (modemQueueByte octet d).1 := by
  unfold modemQueueByte
  dsimp only
  split
  · exact guarded_of_data (increment32_data (store_data (Data.refl _) _ (by decide)) (by decide))
  · refine guarded_of_data (store_data ?_ _ (by decide))
    exact Data.refl (modemSnapshotBegin d)

lemma modemPoll_guarded (now : UInt32) (exposed : Bool) (joyser1 : ℕ → UInt8) (d : Driver) :
    Guarded d (modemPoll now exposed joyser1 d) := by
  unfold modemPoll
  split
  · exact Guarded.refl d
  split
  · exact Guarded.refl d
  · exact guarded_of_data (pollReports_data (Data.refl _) _ _ _)

lemma modemInitialize_guarded (now : UInt32) (d : Driver) : Guarded d (modemInitialize now d) := by
  unfold modemInitialize
  extract_lets d1 d2 d3
  have hqueues : Data (modemSnapshotBegin d) d1 := modemResetQueues_data (Data.refl _)
  clear_value d1
  have hlength : Data (modemSnapshotBegin d) d2 := by
    refine store_data ?_ _ (by decide)
    exact hqueues
  have hframe : Data (modemSnapshotBegin d) d3 := increment32_data (store32_data hlength _ (by decide)) (by decide)
  exact guarded_of_data (modemSetState_data hframe _)

lemma queueBytes_guarded (octets : List UInt8) (d : Driver) : Guarded d (queueBytes octets d).1 := by
  induction octets generalizing d with
  | nil => exact Guarded.refl d
  | cons octet octets ih =>
    have hqueued := modemQueueByte_guarded octet d
    unfold queueBytes
    split <;> rename_i heq <;> rw [heq] at hqueued
    · exact hqueued
    · exact hqueued.trans (ih _)

lemma takeBytes_guarded (fuel : ℕ) (d : Driver) : Guarded d (takeBytes fuel d) := by
  induction fuel generalizing d with
  | zero => exact Guarded.refl d
  | succ fuel ih =>
    have hread := modemReadByte_guarded d
    unfold takeBytes
    split <;> rename_i heq <;> rw [heq] at hread
    · exact hread
    · exact hread.trans (ih _)

lemma binaryQueue_guarded (octets : List UInt8) (d : Driver) : Guarded d (binaryQueue octets d) := by
  unfold binaryQueue
  split
  · exact Guarded.refl d
  · exact queueBytes_guarded octets d

/-! ### Whatever a poll stores, an even sequence stays even -/

def Balanced (d d' : Driver) : Prop := ¬ Locked d.block → ¬ Locked d'.block

lemma Balanced.refl (d : Driver) : Balanced d d := fun heven => heven

lemma Balanced.trans {d d' d'' : Driver} (h : Balanced d d') (h' : Balanced d' d'') : Balanced d d'' :=
  fun heven => h' (h heven)

lemma Guarded.balanced {d d' : Driver} (h : Guarded d d') : Balanced d d' := fun heven => (h heven).2

lemma Data.balanced {d d' : Driver} (h : Data d d') : Balanced d d' := by
  have hkept : ∀ m m' : Buffer, SameSequence m m' → ¬ Locked m → ¬ Locked m' := fun m m' hsame =>
    mt (locked_congr hsame).mp
  exact Follows.invariant_current hkept h

section Balanced

variable {d : Driver}

lemma setError_data {d₀ : Driver} (h : Data d₀ d) : Data d₀ (setError d) :=
  modemRecordTrace_data (modemSetState_data h _) _

lemma finishLine_data (d : Driver) : Data d (finishLine d) := by
  unfold finishLine
  dsimp only
  split
  · exact store_data (store_data (Data.refl d) _ (by decide)) _ (by decide)
  · exact store_data (Data.refl d) _ (by decide)

lemma feedByte_data (octet : UInt8) (d : Driver) : Data d (feedByte octet d) := by
  unfold feedByte
  dsimp only
  split
  · exact Data.refl d
  split
  · exact finishLine_data d
  split
  · exact store_data (Data.refl d) _ (by decide)
  · refine store_data ?_ _ (by decide)
    exact Data.refl d

lemma readResponse_balanced (fuel : ℕ) (d : Driver) : Balanced d (readResponse fuel d).1 := by
  induction fuel generalizing d with
  | zero => exact Balanced.refl d
  | succ fuel ih =>
    have hread := (modemReadByte_guarded d).balanced
    unfold readResponse
    split <;> rename_i heq <;> rw [heq] at hread
    · exact hread
    · rename_i read octet
      have hfed := hread.trans (feedByte_data octet read).balanced
      dsimp only
      split
      · exact hfed.trans (ih _)
      · exact hfed

lemma probeRejected_data (d : Driver) : Data d (probeRejected d) := by
  have herror := store_data (Data.refl d) ModemError.probeRejected.code (show 12 ≤ lastError by decide)
  unfold probeRejected
  dsimp only
  split
  · exact setError_data herror
  · refine store_data (store_data ?_ _ (by decide)) _ (by decide)
    exact herror

lemma checkProbeTimeout_data (now : UInt32) (d : Driver) : Data d (checkProbeTimeout now d) := by
  have hcounted := increment32_data (Data.refl d) (show 12 ≤ timeoutCount by decide)
  unfold checkProbeTimeout
  dsimp only
  split
  · exact Data.refl d
  split
  · refine setError_data (store_data (store_data ?_ _ (by decide)) _ (by decide))
    exact hcounted
  · refine store_data ?_ _ (by decide)
    exact hcounted

lemma readProbe_balanced (now : UInt32) (d : Driver) : Balanced d (readProbe now d) := by
  have hread := readResponse_balanced Modem.ringFuel d
  unfold readProbe
  split <;> rename_i heq <;> rw [heq] at hread
  · exact hread.trans (checkProbeTimeout_data now _).balanced
  · split
    · exact hread.trans (modemSetState_data (Data.refl _) _).balanced
    · exact hread.trans (probeRejected_data _).balanced

lemma pollProbe_balanced (now : UInt32) (d : Driver) : Balanced d (pollProbe now d) := by
  have hqueued := (queueBytes_guarded Modem.probe d).balanced
  unfold pollProbe
  split
  · exact readProbe_balanced now d
  split <;> rename_i heq <;> rw [heq] at hqueued
  · exact hqueued
  · rename_i queued
    have hstored : Data queued
        { { queued with probeSent := true }.store sessionLastResult 0 with probeStartFrame := now } :=
      store_data (Data.refl queued) _ (by decide)
    exact (hqueued.trans hstored.balanced).trans (readProbe_balanced now _)

lemma atPassed_data (d : Driver) : Data d (atPassed d) :=
  modemSetState_data (store_data (Data.refl d) _ (by decide)) _

lemma atRejected_data (d : Driver) : Data d (atRejected d) :=
  setError_data (store_data (store_data (Data.refl d) _ (by decide)) _ (by decide))

lemma checkAtTimeout_data (now : UInt32) (d : Driver) : Data d (checkAtTimeout now d) := by
  unfold checkAtTimeout
  dsimp only
  split
  · exact Data.refl d
  · refine setError_data ?_
    iterate 3 refine store_data ?_ _ (by decide)
    exact increment32_data (Data.refl d) (by decide)

lemma pollAt_balanced (now : UInt32) (d : Driver) : Balanced d (pollAt now d) := by
  have hread := readResponse_balanced Modem.ringFuel d
  unfold pollAt
  split <;> rename_i heq <;> rw [heq] at hread
  · exact hread.trans (checkAtTimeout_data now _).balanced
  · split
    · exact hread.trans (atPassed_data _).balanced
    · exact hread.trans (atRejected_data _).balanced

lemma modemSessionPoll_balanced (now : UInt32) (d : Driver) : Balanced d (modemSessionPoll now d) := by
  unfold modemSessionPoll
  split
  · exact pollAt_balanced now d
  split
  · exact pollProbe_balanced now d
  · exact Balanced.refl d

lemma atInvalid_data (d : Driver) : Data d (atInvalid d) :=
  store_data (store_data (Data.refl d) _ (by decide)) _ (by decide)

lemma atStart_data (now : UInt32) (expected : SessionResult) (timeoutFrames : UInt16) (d : Driver) :
    Data d (atStart now expected timeoutFrames d) := by
  have hexpected : Data d { d.store atExpectedResult expected.code with atTimeoutFrames := timeoutFrames } :=
    store_data (Data.refl d) _ (by decide)
  have hline := store_data (store_data hexpected 0 (show 12 ≤ sessionLastResult by decide)) 0
    (show 12 ≤ sessionLineLength by decide)
  have hframe := store32_data hline now (show 12 ≤ atStartFrame by decide)
  exact modemSetState_data (store_data hframe _ (by decide)) _

lemma modemAtBegin_balanced (now : UInt32) (arguments : Buffer) (d : Driver) :
    Balanced d (modemAtBegin now arguments d) := by
  have hqueued := (queueBytes_guarded (read arguments 4 (arguments 3).toNat) d).balanced
  unfold modemAtBegin
  dsimp only
  split
  · exact (atInvalid_data d).balanced
  split
  · exact (atInvalid_data d).balanced
  split <;> rename_i heq <;> rw [heq] at hqueued
  · exact hqueued.trans (atInvalid_data _).balanced
  · exact hqueued.trans (atStart_data _ _ _ _).balanced

lemma carrierLost_data (d : Driver) : Data d (carrierLost d) :=
  modemSetState_data (store_data (store_data (Data.refl d) _ (by decide)) _ (by decide)) _

lemma drain_balanced (budget : ℕ) (d : Driver) : Balanced d (drain budget d) := by
  induction budget generalizing d with
  | zero => exact Balanced.refl d
  | succ budget ih =>
    have hread := (modemReadByte_guarded d).balanced
    unfold drain
    split <;> rename_i heq <;> rw [heq] at hread
    · exact hread
    split
    · rename_i read _ _ r _
      have hlost := (carrierLost_data { read with receive := r }).balanced
      exact (hread.trans hlost).trans (takeBytes_guarded _ _).balanced
    split
    · exact hread
    · rename_i read _ _ r _ _
      exact Balanced.trans hread (ih { read with receive := r })

lemma pppReceivePoll_balanced (d : Driver) : Balanced d (pppReceivePoll d) := by
  unfold pppReceivePoll
  split
  · exact Balanced.refl d
  split
  · exact Balanced.refl d
  · exact drain_balanced _ { d with receive := activate d.receive }

lemma selfTest_data (stores : List SelfTestStore) (d : Driver) : Data d (stores.foldl SelfTestStore.apply d) := by
  induction stores generalizing d with
  | nil => exact Data.refl d
  | cons stored stores ih =>
    refine Data.trans ?_ (ih _)
    cases stored with
    | driverState octet => exact store_data (Data.refl d) _ (by decide)
    | lastResult octet => exact store_data (Data.refl d) _ (by decide)
    | lineLength octet => exact store_data (Data.refl d) _ (by decide)
    | carrierLost => exact carrierLost_data d

lemma command_balanced (now : UInt32) (d : Driver) (c : DriverCommand) : Balanced d (command now d c) := by
  cases c with
  | reset => exact (modemInitialize_guarded now d).balanced
  | quickTest => exact (modemInitialize_guarded now d).balanced
  | clearTrace => exact (modemClearTrace_data (Data.refl d)).balanced
  | freezeTrace => exact (store_data (Data.refl d) _ (by decide)).balanced
  | resumeTrace => exact (store_data (Data.refl d) _ (by decide)).balanced
  | atTransaction arguments => exact modemAtBegin_balanced now arguments d
  | binaryTransmit arguments =>
    unfold command
    dsimp only
    split
    · exact Balanced.refl d
    · exact (binaryQueue_guarded _ d).balanced
  | binaryReceive =>
    unfold command
    dsimp only
    split
    · exact (takeBytes_guarded _ d).balanced
    · exact Balanced.refl d
  | binaryStressTransmit => exact (binaryQueue_guarded _ d).balanced
  | selfTest stores receive => exact (selfTest_data stores d).balanced

/-- **A poll leaves an even sequence even.** -/
theorem step_balanced (d : Driver) (poll : Poll) : Balanced d (d.step poll) := by
  cases poll with
  | mailbox now c => exact command_balanced now d c
  | modem now exposed joyser1 => exact (modemPoll_guarded now exposed joyser1 d).balanced
  | session now => exact modemSessionPoll_balanced now d
  | receive => exact pppReceivePoll_balanced d
  | queue octets => exact (queueBytes_guarded octets d).balanced
  | take count => exact (takeBytes_guarded count d).balanced
  | other receive => exact Balanced.refl d
  | controller ticked => exact Balanced.refl d
  | vBlank displayReadIndex => exact (store_data (Data.refl d) 1 (show 12 ≤ pollTick by decide)).balanced

end Balanced

end SnesModem.Asm.Driver
