import SnesModem.Asm.PortWaveforms
import SnesModem.Asm.Trace

/-!
# The counters of the diagnostic block

What the counters of the block count, over whole runs.

* `longAt_increment32`: a counter goes up by one, its words in two stores;
* `Counts`: how far a routine moves the counters, and `Keeps` for the routines that move none of them;
* `Modem.arrivals`, `Modem.yields`: the octets that the port brings in a poll, and whether the poll breaks off;
* `counters_tell`: from boot on, the host reads off how many octets were accepted, refused and sent, how many polls broke
  off, and how often the driver was initialized.
-/

namespace SnesModem.Asm

open SnesModem.Lib SnesModem.Lib.Cpu65816 SnesModem.Lib.Octets SnesModem.Lib.OctetWords SnesModem.Lib.LatchedSerial
open Diagnostic

/-! ### What is counted -/

namespace Modem

/-- An octet that arrives, and whether it is accepted. -/
def arrived (report : Report) (accepted : Bool) : List (UInt8 × Bool) :=
  (report.received.map fun octet => (octet, accepted)).toList

/-- What arrives with the transfers. -/
def transferArrivals : ℕ → Bool → Bool → List Report → Modem → List (UInt8 × Bool)
  | 0, _, _, _, _ => []
  | budget + 1, accepted, hint, reports, m =>
    if accepted || hint || !m.transmit.isEmpty then
      let report := reports.headD {}
      let (m, accepted) := storeReceived { m with transmit := m.transmit.consume } report.received
      arrived report accepted ++ transferArrivals budget accepted report.hint reports.tail m
    else []

/-- What arrives in a poll. -/
def arrivals (now : UInt32) (reports : List Report) (m : Modem) : List (UInt8 × Bool) :=
  if m.driverState = .off ∨ m.driverState = .error then []
  else if !m.pollTick && !m.burstPending && m.transmit.isEmpty then []
  else
    let m := { m with pollTick := false, burstPending := false }
    let guarded : Bool := m.driverState = .resetting && resetGuardFrames ≤ elapsed now m.resetStartFrame
    let m := if guarded then { m with driverState := .probing } else m
    let report := reports.headD {}
    let (m, accepted) := m.storeReceived report.received
    arrived report accepted ++
      if m.driverState = .resetting then [] else transferArrivals pollBudget accepted report.hint reports.tail m

/-- A poll breaks off, with more to transfer. -/
def yields (now : UInt32) (reports : List Report) (m : Modem) : Bool :=
  m.driverState ≠ .off && m.driverState ≠ .error && (modemPoll now reports m).burstPending

end Modem

/-- How far the counters move. -/
@[ext]
structure Tally where
  accepted : ℕ
  refused : ℕ
  sent : ℕ
  yields : ℕ
  initializations : ℕ
  deriving DecidableEq, Repr

namespace Tally

instance : Zero Tally := ⟨⟨0, 0, 0, 0, 0⟩⟩

instance : Add Tally :=
  ⟨fun t t' => ⟨t.accepted + t'.accepted, t.refused + t'.refused, t.sent + t'.sent, t.yields + t'.yields,
    t.initializations + t'.initializations⟩⟩

/-- The octets that arrive. -/
def ofArrivals (arrivals : List (UInt8 × Bool)) : Tally :=
  ⟨arrivals.countP fun arrival => arrival.2, arrivals.countP fun arrival => !arrival.2, 0, 0, 0⟩

variable (t t' t'' : Tally)

@[simp] lemma accepted_add : (t + t').accepted = t.accepted + t'.accepted := rfl

@[simp] lemma refused_add : (t + t').refused = t.refused + t'.refused := rfl

@[simp] lemma sent_add : (t + t').sent = t.sent + t'.sent := rfl

@[simp] lemma yields_add : (t + t').yields = t.yields + t'.yields := rfl

@[simp] lemma initializations_add : (t + t').initializations = t.initializations + t'.initializations := rfl

@[simp] lemma zero_eq : (0 : Tally) = ⟨0, 0, 0, 0, 0⟩ := rfl

instance : AddCommMonoid Tally where
  add_assoc t t' t'' := by ext <;> simp only [accepted_add, refused_add, sent_add, yields_add, initializations_add] <;> omega
  zero_add t := by ext <;> simp
  add_zero t := by ext <;> simp
  add_comm t t' := by ext <;> simp only [accepted_add, refused_add, sent_add, yields_add, initializations_add] <;> omega
  nsmul := nsmulRec

lemma ofArrivals_append (arrivals arrivals' : List (UInt8 × Bool)) :
    ofArrivals (arrivals ++ arrivals') = ofArrivals arrivals + ofArrivals arrivals' := by
  unfold ofArrivals
  ext <;> simp [List.countP_append]

end Tally

namespace Link

/-- What a poll is counted for. -/
def tally (s : Link) : Driver.Poll → Tally
  | .modem now _ joyser1 =>
    Tally.ofArrivals (s.modem.arrivals now (Driver.portReports joyser1)) +
      ⟨0, 0, s.modem.transmit.held - (modemPoll now (Driver.portReports joyser1) s.modem).transmit.held,
        (s.modem.yields now (Driver.portReports joyser1)).toNat, 0⟩
  | .mailbox _ .reset | .mailbox _ .quickTest => ⟨0, 0, 0, 0, 1⟩
  | _ => 0

def tallyOf : Link → List Driver.Poll → Tally
  | _, [] => 0
  | s, poll :: polls => s.tally poll + tallyOf (s.step poll) polls

end Link

namespace Driver

/-! ### The counters -/

/-- The octets of the counters. -/
def OfCounter (i : ℕ) : Prop := 0x20 ≤ i ∧ i < 0x30 ∨ 0x34 ≤ i ∧ i < 0x38 ∨ 0x3c ≤ i ∧ i < 0x40

instance : DecidablePred OfCounter := fun _ => inferInstanceAs (Decidable (_ ∨ _))

/-- How far a routine moves the counters. -/
structure Counts (d d' : Driver) (t : Tally) : Prop where
  accepted : longAt d'.block receiveAcceptedCount = longAt d.block receiveAcceptedCount + UInt32.ofNat t.accepted
  discarded : longAt d'.block receiveDiscardedCount = longAt d.block receiveDiscardedCount + UInt32.ofNat t.refused
  overflow : longAt d'.block receiveOverflowCount = longAt d.block receiveOverflowCount + UInt32.ofNat t.refused
  sent : longAt d'.block transmitByteCount = longAt d.block transmitByteCount + UInt32.ofNat t.sent
  yields : longAt d'.block pollBudgetYieldCount = longAt d.block pollBudgetYieldCount + UInt32.ofNat t.yields
  initializations :
    longAt d'.block reinitializeCount = longAt d.block reinitializeCount + UInt32.ofNat t.initializations

/-- A routine moves no counter. -/
def Keeps (d d' : Driver) : Prop := ∀ i, OfCounter i → d'.block i = d.block i

/-- **A counter goes up by one.** -/
theorem longAt_increment32 (d : Driver) (offset : ℕ) :
    longAt (d.increment32 offset).block offset = longAt d.block offset + 1 := by
  have hblock : (d.increment32 offset).block = Trace.modemIncrement32 d.block offset := by
    have hword : (d.store16 offset (d.word16 offset + 1)).word16 offset =
      Trace.word16 (Trace.store16 d.block offset (Trace.word16 d.block offset + 1)) offset := rfl
    unfold increment32 Trace.modemIncrement32
    dsimp only
    rw [hword]
    split <;> rfl
  have hlong : ∀ block : Buffer, longAt block offset = dwordAt block offset := by
    intro block
    rw [← UInt32.toNat_inj, toNat_longAt, Trace.toNat_dwordAt]
    unfold Trace.word16
    rw [toNat_word, toNat_word, Nat.add_assoc offset 2 1]
    omega
  rw [hblock, hlong, hlong, Trace.dwordAt_modemIncrement32]

section Counts

variable {d d' d'' : Driver} {t t' : Tally}

lemma Counts.trans (h : Counts d d' t) (h' : Counts d' d'' t') : Counts d d'' (t + t') where
  accepted := by
    change _ = _ + UInt32.ofNat (t.accepted + t'.accepted)
    rw [h'.accepted, h.accepted, UInt32.ofNat_add, UInt32.add_assoc]
  discarded := by
    change _ = _ + UInt32.ofNat (t.refused + t'.refused)
    rw [h'.discarded, h.discarded, UInt32.ofNat_add, UInt32.add_assoc]
  overflow := by
    change _ = _ + UInt32.ofNat (t.refused + t'.refused)
    rw [h'.overflow, h.overflow, UInt32.ofNat_add, UInt32.add_assoc]
  sent := by
    change _ = _ + UInt32.ofNat (t.sent + t'.sent)
    rw [h'.sent, h.sent, UInt32.ofNat_add, UInt32.add_assoc]
  yields := by
    change _ = _ + UInt32.ofNat (t.yields + t'.yields)
    rw [h'.yields, h.yields, UInt32.ofNat_add, UInt32.add_assoc]
  initializations := by
    change _ = _ + UInt32.ofNat (t.initializations + t'.initializations)
    rw [h'.initializations, h.initializations, UInt32.ofNat_add, UInt32.add_assoc]

lemma longAt_of_ofCounter {block block' : Buffer} {offset : ℕ} (hcounter : OfCounter offset) (haligned : offset % 4 = 0)
    (h : ∀ i, OfCounter i → block' i = block i) : longAt block' offset = longAt block offset :=
  longAt_congr fun i hle hlt => h i (by
    unfold OfCounter at hcounter ⊢
    omega)

lemma Keeps.counts (h : Keeps d d') : Counts d d' 0 := by
  have hsame : ∀ offset, OfCounter offset → offset % 4 = 0 →
      longAt d'.block offset = longAt d.block offset + UInt32.ofNat 0 := by
    intro offset hcounter haligned
    rw [longAt_of_ofCounter hcounter haligned h]
    exact (UInt32.add_zero _).symm
  constructor <;> exact hsame _ (by decide) (by decide)

lemma Keeps.refl (d : Driver) : Keeps d d := fun _ _ => rfl

lemma Keeps.trans (h : Keeps d d') (h' : Keeps d' d'') : Keeps d d'' := fun i hi => (h' i hi).trans (h i hi)

lemma Keeps.of_block (h : Keeps d d') (hblock : d''.block = d'.block) : Keeps d d'' := fun i hi => by
  rw [hblock, h i hi]

lemma Keeps.store (h : Keeps d d') (octet : UInt8) {offset : ℕ} (hoffset : ¬ OfCounter offset) :
    Keeps d (d'.store offset octet) := by
  intro i hi
  rw [block_store, Function.update_of_ne, h i hi]
  rintro rfl
  exact hoffset hi

lemma Keeps.increment32 (h : Keeps d d') {offset : ℕ} (hoffset : ∀ i, offset ≤ i → i < offset + 4 → ¬ OfCounter i) :
    Keeps d (d'.increment32 offset) := by
  intro i hi
  rw [increment32_block, h i hi]
  by_contra hin
  exact hoffset i (by omega) (by omega) hi

end Counts

/-! ### The routines that move no counter -/

lemma not_ofCounter_of_lt {offset : ℕ} (hoffset : offset < 0x1d) : ∀ i, offset ≤ i → i < offset + 4 → ¬ OfCounter i := by
  intro i hle hlt
  unfold OfCounter
  omega

lemma not_ofCounter_of_le {offset : ℕ} (hoffset : 0x40 ≤ offset) : ∀ i, offset ≤ i → i < offset + 4 → ¬ OfCounter i := by
  intro i hle hlt
  unfold OfCounter
  omega

section Keeps

variable {d₀ d : Driver}

lemma Keeps.store32 (h : Keeps d₀ d) (value : UInt32) {offset : ℕ}
    (hoffset : ∀ i, offset ≤ i → i < offset + 4 → ¬ OfCounter i) : Keeps d₀ (d.store32 offset value) := by
  intro i hi
  have hout : i < offset ∨ offset + 4 ≤ i := by
    by_contra hin
    exact hoffset i (by omega) (by omega) hi
  unfold Driver.store32
  rw [block_store16, block_store16, Function.update_of_ne (by omega), Function.update_of_ne (by omega),
    Function.update_of_ne (by omega), Function.update_of_ne (by omega), h i hi]

lemma Keeps.recordTrace (h : Keeps d₀ d) (kind : TraceKind) : Keeps d₀ (modemRecordTrace kind d) := by
  unfold modemRecordTrace
  split
  · exact h
  extract_lets overwriting d1 d2
  have hfirst : Keeps d₀ d1 := by
    unfold d1
    split
    · exact h
    · exact (h.store _ (by decide)).increment32 (not_ofCounter_of_le (by decide))
  have hsecond : Keeps d₀ d2 := hfirst.increment32 (not_ofCounter_of_lt (by decide))
  split
  · exact hsecond.store _ (by decide)
  · exact hsecond

lemma Keeps.setState (h : Keeps d₀ d) (state : DriverState) : Keeps d₀ (modemSetState state d) :=
  (h.store _ (by decide)).recordTrace .state

lemma Keeps.snapshot (h : Keeps d₀ d) : Keeps d₀ (d.increment32 snapshotSequence) :=
  h.increment32 (not_ofCounter_of_lt (by decide))

lemma Keeps.clearTrace (h : Keeps d₀ d) : Keeps d₀ (modemClearTrace d) := by
  unfold modemClearTrace
  dsimp only
  iterate 9 refine Keeps.store ?_ _ (by decide)
  exact h

lemma Keeps.resetQueues (h : Keeps d₀ d) : Keeps d₀ (modemResetQueues d) := by
  unfold modemResetQueues
  dsimp only
  iterate 12 refine Keeps.store ?_ _ (by decide)
  exact h

lemma Keeps.mirror (h : Keeps d₀ d) : Keeps d₀ (terminalMirrorReceivedByte d) := by
  unfold terminalMirrorReceivedByte
  dsimp only
  split
  · have hread : Keeps d₀ { d with displayReadIndex := d.displayReadIndex + 1 } := h
    have hdropped := hread.increment32 (not_ofCounter_of_le (show 0x40 ≤ terminalDroppedCount by decide))
    exact hdropped
  · exact h

lemma Keeps.clearReports (h : Keeps d₀ d) : Keeps d₀ (clearReports d) := by
  unfold Driver.clearReports
  iterate 4 refine Keeps.store ?_ _ (by decide)
  exact h

lemma Keeps.rol (h : Keeps d₀ d) {offset : ℕ} (carry : Bool) (hoffset : ¬ OfCounter offset) :
    Keeps d₀ (d.rol offset carry).1 := h.store _ hoffset

lemma Keeps.shiftReports (h : Keeps d₀ d) (data status : Bool) : Keeps d₀ (shiftReports data status d) := by
  unfold Driver.shiftReports rol16
  exact (((h.rol _ (by decide)).rol _ (by decide)).rol _ (by decide)).rol _ (by decide)

lemma Keeps.readBits (h : Keeps d₀ d) (joyser1 : ℕ → UInt8) (n : ℕ) : Keeps d₀ (readBits joyser1 n d) := by
  induction n with
  | zero => exact h
  | succ n ih => exact ih.shiftReports _ _

lemma Keeps.alignReports (h : Keeps d₀ d) (n : ℕ) : Keeps d₀ (alignReports n d) := by
  induction n with
  | zero => exact h
  | succ n ih => exact ih.shiftReports _ _

lemma Keeps.transferReports (h : Keeps d₀ d) (joyser1 : ℕ → UInt8) : Keeps d₀ (transferReports joyser1 d) := by
  rw [transferReports_eq]
  unfold firstBits
  exact (((h.rol _ (by decide)).rol _ (by decide)).readBits _ _).alignReports _

lemma Keeps.readByte (h : Keeps d₀ d) : Keeps d₀ (modemReadByte d).1 := by
  unfold modemReadByte
  dsimp only
  split
  · exact h.snapshot.snapshot
  · exact (h.snapshot.store _ (by decide)).snapshot

lemma Keeps.queueByte (h : Keeps d₀ d) (octet : UInt8) : Keeps d₀ (modemQueueByte octet d).1 := by
  have hbegun : Keeps d₀ (modemSnapshotBegin d) := h.snapshot
  unfold modemQueueByte
  dsimp only
  split
  · refine Keeps.snapshot ((hbegun.store _ (by decide)).increment32 ?_)
    intro i hle hlt
    simp only [OfCounter, transmitOverflowCount] at hle hlt ⊢
    omega
  · apply Keeps.snapshot
    apply Keeps.store (hbegun.of_block rfl)
    decide

lemma Keeps.queueBytes (h : Keeps d₀ d) (octets : List UInt8) : Keeps d₀ (queueBytes octets d).1 := by
  induction octets generalizing d with
  | nil => exact h
  | cons octet octets ih =>
    have hqueued := h.queueByte octet
    unfold Driver.queueBytes
    split
    · rename_i heq
      rw [heq] at hqueued
      exact hqueued
    · rename_i heq
      rw [heq] at hqueued
      exact ih hqueued

lemma Keeps.takeBytes (h : Keeps d₀ d) (count : ℕ) : Keeps d₀ (takeBytes count d) := by
  induction count generalizing d with
  | zero => exact h
  | succ count ih =>
    have hread := h.readByte
    unfold Driver.takeBytes
    split
    · rename_i heq
      rw [heq] at hread
      exact hread
    · rename_i heq
      rw [heq] at hread
      exact ih hread

/-! ### The session and the receive path -/

lemma Keeps.finishLine (h : Keeps d₀ d) : Keeps d₀ (finishLine d) := by
  unfold Driver.finishLine
  dsimp only
  split
  · exact (h.store _ (by decide)).store _ (by decide)
  · exact h.store _ (by decide)

lemma Keeps.feedByte (h : Keeps d₀ d) (octet : UInt8) : Keeps d₀ (feedByte octet d) := by
  unfold Driver.feedByte
  dsimp only
  split
  · exact h
  split
  · exact h.finishLine
  split
  · exact h.store _ (by decide)
  · exact Keeps.store (h.of_block rfl) _ (by decide)

lemma Keeps.readResponse (h : Keeps d₀ d) (fuel : ℕ) : Keeps d₀ (readResponse fuel d).1 := by
  induction fuel generalizing d with
  | zero => exact h
  | succ fuel ih =>
    have hread := h.readByte
    unfold Driver.readResponse
    split
    · rename_i heq
      rw [heq] at hread
      exact hread
    · rename_i octet heq
      rw [heq] at hread
      dsimp only
      split
      · exact ih (hread.feedByte octet)
      · exact hread.feedByte octet

lemma Keeps.setError (h : Keeps d₀ d) : Keeps d₀ (setError d) := (h.setState .error).recordTrace .error

lemma not_ofCounter_timeoutCount : ∀ i, timeoutCount ≤ i → i < timeoutCount + 4 → ¬ OfCounter i := by
  intro i hle hlt
  simp only [OfCounter, timeoutCount] at hle hlt ⊢
  omega

lemma Keeps.probeRejected (h : Keeps d₀ d) : Keeps d₀ (probeRejected d) := by
  have hcounted : Keeps d₀ { d.store lastError ModemError.probeRejected.code with retryCount := d.retryCount + 1 } :=
    h.store _ (by decide)
  unfold Driver.probeRejected
  dsimp only
  split
  · exact hcounted.setError
  · exact Keeps.store (Keeps.store (hcounted.of_block rfl) _ (by decide)) _ (by decide)

lemma Keeps.checkProbeTimeout (h : Keeps d₀ d) (now : UInt32) : Keeps d₀ (checkProbeTimeout now d) := by
  have hcounted : Keeps d₀ { d.increment32 timeoutCount with retryCount := d.retryCount + 1 } :=
    h.increment32 not_ofCounter_timeoutCount
  unfold Driver.checkProbeTimeout
  dsimp only
  split
  · exact h
  split
  · exact ((hcounted.store _ (by decide)).store _ (by decide)).setError
  · exact Keeps.store (hcounted.of_block rfl) _ (by decide)

lemma Keeps.readProbe (h : Keeps d₀ d) (now : UInt32) : Keeps d₀ (readProbe now d) := by
  have hread := h.readResponse Modem.ringFuel
  unfold Driver.readProbe
  split
  · rename_i heq
    rw [heq] at hread
    exact hread.checkProbeTimeout now
  · rename_i heq
    rw [heq] at hread
    split
    · exact hread.setState .ready
    · exact hread.probeRejected

lemma Keeps.pollProbe (h : Keeps d₀ d) (now : UInt32) : Keeps d₀ (pollProbe now d) := by
  have hqueued := h.queueBytes Modem.probe
  unfold Driver.pollProbe
  split
  · exact h.readProbe now
  split
  · rename_i heq
    rw [heq] at hqueued
    exact hqueued
  · rename_i heq
    rw [heq] at hqueued
    have hresult : ¬ OfCounter sessionLastResult := by decide
    apply Keeps.readProbe
    exact (hqueued.store 0 hresult).of_block rfl

lemma Keeps.pollAt (h : Keeps d₀ d) (now : UInt32) : Keeps d₀ (pollAt now d) := by
  have hread := h.readResponse Modem.ringFuel
  unfold Driver.pollAt
  split
  · rename_i heq
    rw [heq] at hread
    unfold checkAtTimeout
    split
    · exact hread
    · have hcounted := hread.increment32 not_ofCounter_timeoutCount
      exact (((hcounted.store _ (by decide)).store _ (by decide)).store _ (by decide)).setError
  · rename_i heq
    rw [heq] at hread
    split
    · exact (hread.store _ (by decide)).setState _
    · exact ((hread.store _ (by decide)).store _ (by decide)).setError

lemma Keeps.sessionPoll (h : Keeps d₀ d) (now : UInt32) : Keeps d₀ (modemSessionPoll now d) := by
  unfold modemSessionPoll
  split
  · exact h.pollAt now
  split
  · exact h.pollProbe now
  · exact h

lemma Keeps.atBegin (h : Keeps d₀ d) (now : UInt32) (arguments : Buffer) : Keeps d₀ (modemAtBegin now arguments d) := by
  have hinvalid : ∀ {d : Driver}, Keeps d₀ d → Keeps d₀ (atInvalid d) := fun h =>
    (h.store _ (by decide)).store _ (by decide)
  unfold modemAtBegin
  dsimp only
  split
  · exact hinvalid h
  split
  · exact hinvalid h
  have hqueued := h.queueBytes (read arguments 4 (arguments 3).toNat)
  split
  · rename_i heq
    rw [heq] at hqueued
    exact hinvalid hqueued
  · rename_i heq
    rw [heq] at hqueued
    unfold atStart
    refine Keeps.setState (Keeps.store (Keeps.store32 ?_ _ (not_ofCounter_of_le (by decide))) _ (by decide)) _
    refine Keeps.store (Keeps.store ?_ _ (by decide)) _ (by decide)
    exact (hqueued.store _ (by decide)).of_block rfl

lemma Keeps.carrierLost (h : Keeps d₀ d) : Keeps d₀ (carrierLost d) :=
  ((h.store _ (by decide)).store _ (by decide)).setState .ready

lemma Keeps.drain (h : Keeps d₀ d) (budget : ℕ) : Keeps d₀ (drain budget d) := by
  induction budget generalizing d with
  | zero => exact h
  | succ budget ih =>
    have hread := h.readByte
    unfold Driver.drain
    split
    · rename_i heq
      rw [heq] at hread
      exact hread
    rename_i d' octet heq
    rw [heq] at hread
    have hpath : ∀ r : Receive, Keeps d₀ { d' with receive := r } := fun _ => hread
    split
    · exact ((hpath _).carrierLost).takeBytes _
    · split
      · exact hpath _
      · exact ih (hpath _)

lemma Keeps.receivePoll (h : Keeps d₀ d) : Keeps d₀ (pppReceivePoll d) := by
  have hpath : ∀ r : Receive, Keeps d₀ { d with receive := r } := fun _ => h
  unfold pppReceivePoll
  split
  · exact hpath _
  split
  · exact hpath _
  · exact (hpath _).drain _

end Keeps

/-! ### The routines that move one -/

section Moves

variable {d d' d'' : Driver} {t : Tally}

lemma Counts.then (h : Counts d d' t) (h' : Keeps d' d'') : Counts d d'' t := by
  have hboth := h.trans h'.counts
  rwa [add_zero] at hboth

lemma Counts.after (h : Keeps d d') (h' : Counts d' d'' t) : Counts d d'' t := by
  have hboth := h.counts.trans h'
  rwa [zero_add] at hboth

/-- A counter that goes up leaves the other ones. -/
lemma longAt_increment32_of_ne (d : Driver) {offset offset' : ℕ} (hne : offset ≠ offset') (haligned : offset % 4 = 0)
    (haligned' : offset' % 4 = 0) : longAt (d.increment32 offset).block offset' = longAt d.block offset' :=
  longAt_congr fun _ hle hlt => increment32_block d (by omega)

lemma counts_sent (d : Driver) : Counts d (d.increment32 transmitByteCount) ⟨0, 0, 1, 0, 0⟩ := by
  constructor
  case sent => exact longAt_increment32 d transmitByteCount
  all_goals
    rw [longAt_increment32_of_ne d (by decide) (by decide) (by decide)]
    exact (UInt32.add_zero _).symm

lemma counts_accepted (d : Driver) : Counts d (d.increment32 receiveAcceptedCount) ⟨1, 0, 0, 0, 0⟩ := by
  constructor
  case accepted => exact longAt_increment32 d receiveAcceptedCount
  all_goals
    rw [longAt_increment32_of_ne d (by decide) (by decide) (by decide)]
    exact (UInt32.add_zero _).symm

lemma counts_yields (d : Driver) : Counts d (d.increment32 pollBudgetYieldCount) ⟨0, 0, 0, 1, 0⟩ := by
  constructor
  case yields => exact longAt_increment32 d pollBudgetYieldCount
  all_goals
    rw [longAt_increment32_of_ne d (by decide) (by decide) (by decide)]
    exact (UInt32.add_zero _).symm

lemma counts_initializations (d : Driver) : Counts d (d.increment32 reinitializeCount) ⟨0, 0, 0, 0, 1⟩ := by
  constructor
  case initializations => exact longAt_increment32 d reinitializeCount
  all_goals
    rw [longAt_increment32_of_ne d (by decide) (by decide) (by decide)]
    exact (UInt32.add_zero _).symm

/-- An octet that is refused goes into both counters. -/
lemma counts_refused (d : Driver) :
    Counts d ((d.increment32 receiveOverflowCount).increment32 receiveDiscardedCount) ⟨0, 1, 0, 0, 0⟩ := by
  constructor
  case discarded =>
    rw [longAt_increment32, longAt_increment32_of_ne d (by decide) (by decide) (by decide)]
    rfl
  case overflow =>
    rw [longAt_increment32_of_ne _ (by decide) (by decide) (by decide), longAt_increment32]
    rfl
  all_goals
    rw [longAt_increment32_of_ne _ (by decide) (by decide) (by decide),
      longAt_increment32_of_ne d (by decide) (by decide) (by decide)]
    exact (UInt32.add_zero _).symm

/-- **An octet that is received** is counted as accepted or as refused. -/
theorem modemStoreReceivedByte_counts (octet : UInt8) (d : Driver) :
    Counts d (modemStoreReceivedByte octet d).1 (Tally.ofArrivals [(octet, !(d.view.receiveRing.push octet).2)]) := by
  obtain ⟨-, hcarry⟩ := modemStoreReceivedByte_view d octet
  rw [← hcarry]
  unfold modemStoreReceivedByte
  dsimp only
  split
  · refine Counts.after (Keeps.store (Keeps.store (Keeps.refl d) _ ?_) _ ?_) (counts_refused _) <;> decide
  · refine Counts.after (Keeps.store (Keeps.mirror (Keeps.store ?_ _ ?_)) _ ?_) (counts_accepted _)
    · exact (Keeps.refl d).of_block rfl
    · decide
    · decide

/-- **An octet that is sent** is counted, if there is one. -/
theorem modemConsumeTransmitByte_counts (exposed : Bool) (d : Driver) :
    Counts d (modemConsumeTransmitByte exposed d) ⟨0, 0, (!d.transmitRing.isEmpty).toNat, 0, 0⟩ := by
  have hempty : d.transmitRing.isEmpty = decide (d.block transmitReadIndex = d.block transmitWriteIndex) := rfl
  rw [hempty]
  unfold modemConsumeTransmitByte
  dsimp only
  split
  · rename_i hsame
    rw [decide_eq_true hsame]
    exact (Keeps.refl d).counts
  · rename_i hsome
    rw [decide_eq_false hsome]
    refine Counts.after (Keeps.store ?_ _ ?_) (counts_sent _)
    · have hstored : Keeps d (d.store lastTransmitByte
          (if exposed then 0 else d.transmitBuffer (d.block transmitReadIndex).toNat)) :=
        (Keeps.refl d).store _ (by decide)
      exact hstored.of_block rfl
    · decide

lemma receivePresent_counts (d : Driver) :
    Counts d (receivePresent d) (Tally.ofArrivals [(d.block (lastDataReport + 1),
      !(d.view.receiveRing.push (d.block (lastDataReport + 1))).2)]) := by
  set cleared := d.store lastDiscardReason DiscardReason.none.code with hcleared
  have hkept : Keeps d cleared := (Keeps.refl d).store _ (by decide)
  have hview : cleared.view = d.view := view_store_hidden d _ (by decide)
  have hoctet : cleared.block (lastDataReport + 1) = d.block (lastDataReport + 1) := by
    rw [hcleared, block_store, Function.update_of_ne (by decide)]
  have hstored := modemStoreReceivedByte_counts (d.block (lastDataReport + 1)) cleared
  rw [hview] at hstored
  unfold receivePresent
  dsimp only
  rw [← hcleared, hoctet]
  split
  · rename_i heq
    rw [heq] at hstored
    exact (Counts.after hkept hstored).then ((Keeps.refl _).recordTrace _)
  · rename_i heq
    rw [heq] at hstored
    exact (Counts.after hkept hstored).then ((Keeps.refl _).recordTrace _)

end Moves

/-! ### The polls -/

section Polls

variable {d : Driver} {m : Modem} {receive : Receive} {joyser1 : ℕ → UInt8}

/-- What a report brings is counted. -/
lemma receivePresent_arrived (hview : d.view = Link.view ⟨m, receive⟩) (hreported : Reported joyser1 d)
    (hpresent : dataLine (joyser1 8) = true) :
    Counts d (receivePresent d) (Tally.ofArrivals
      (Modem.arrived (portReport joyser1) (m.storeReceived (portReport joyser1).received).2)) := by
  have hcounts := receivePresent_counts d
  have hring : d.view.receiveRing = m.receive := congrArg View.receiveRing hview
  have hreceived : (portReport joyser1).received = some (d.block (lastDataReport + 1)) := by
    simp [portReport, hpresent, hreported.octet]
  rw [hring] at hcounts
  rw [Modem.arrived, hreceived]
  exact hcounts

lemma arrived_absent (habsent : dataLine (joyser1 8) = false) (accepted : Bool) :
    Tally.ofArrivals (Modem.arrived (portReport joyser1) accepted) = 0 := by
  simp [portReport, habsent, Modem.arrived, Tally.ofArrivals]

variable (joyser1)

/-- **The complete read** counts what its report brings. -/
theorem readCompleteReport_counts (h : Shows d ⟨m, receive⟩) :
    Counts d (readCompleteReport joyser1 d) (Tally.ofArrivals
      (Modem.arrived (portReport joyser1) (m.storeReceived (portReport joyser1).received).2)) := by
  have hkept : Keeps d (completeReport joyser1 d) :=
    ((((Keeps.refl d).clearReports).readBits joyser1 16).store _ (by decide)).recordTrace .poll16
  have hview := (completeReport_view joyser1 d).trans h
  have hreported := completeReport_reported joyser1 d
  rw [readCompleteReport_eq]
  split
  · rename_i habsent
    rw [arrived_absent (hreported.absent_iff.mp habsent)]
    exact hkept.counts
  · rename_i hpresent
    rw [hreported.absent_iff] at hpresent
    exact Counts.after hkept (receivePresent_arrived hview hreported (by simpa using hpresent))

/-- **The transfer** counts the octet that it sends and what its report brings. -/
theorem modemTransfer9_counts (exposed : Bool) (h : Shows d ⟨m, receive⟩) :
    Counts d (modemTransfer9 exposed joyser1 d)
      (⟨0, 0, (!m.transmit.isEmpty).toNat, 0, 0⟩ + Tally.ofArrivals (Modem.arrived (portReport joyser1)
        (({ m with transmit := m.transmit.consume } : Modem).storeReceived (portReport joyser1).received).2)) := by
  have hkept : Keeps d (transferReports joyser1 (clearReports d)) := (Keeps.refl d).clearReports.transferReports joyser1
  have hring : (transferReports joyser1 (clearReports d)).transmitRing = m.transmit :=
    congrArg View.transmitRing ((transferReports_view _ joyser1).trans ((clearReports_view d).trans h))
  have hview := transferReport_view exposed joyser1 h
  have hreported := transferReport_reported exposed joyser1 d
  have hcounts : Counts d (transferReport exposed joyser1 d) ⟨0, 0, (!m.transmit.isEmpty).toNat, 0, 0⟩ := by
    have hconsumed := modemConsumeTransmitByte_counts exposed (transferReports joyser1 (clearReports d))
    rw [hring] at hconsumed
    rw [transferReport_eq exposed joyser1 h]
    split
    · rename_i hempty
      rw [hempty]
      exact hkept.counts
    · exact (Counts.after hkept hconsumed).then ((Keeps.refl _).recordTrace _)
  rw [modemTransfer9_eq]
  refine Counts.then (hcounts.trans ?_) ((Keeps.refl _).recordTrace _)
  split
  · rename_i hpresent
    exact receivePresent_arrived hview hreported (hreported.present_iff.mp hpresent)
  · rename_i habsent
    rw [hreported.present_iff] at habsent
    rw [arrived_absent (by simpa using habsent)]
    exact ((Keeps.refl _).store _ (by decide)).counts

/-! ### The poll of the modem -/

/-- An octet leaves the ring, if there is one. -/
lemma held_consume (r : Ring) : r.held = (!r.isEmpty).toNat + r.consume.held := by
  have hcontents := congrArg List.length (contents_consume r)
  rw [List.length_append, Ring.length_contents, Ring.length_contents] at hcontents
  rw [hcontents]
  unfold Ring.peek
  cases r.isEmpty <;> rfl

lemma storeReceived_burstPending (m : Modem) (received : Option UInt8) :
    (m.storeReceived received).1.burstPending = m.burstPending := by
  cases received <;> rfl

/-- The ring only gives while there are transfers. -/
lemma transfers_held_le (budget : ℕ) (accepted hint : Bool) (reports : List Modem.Report) (m : Modem) :
    (Modem.transfers budget accepted hint reports m).transmit.held ≤ m.transmit.held := by
  induction budget generalizing accepted hint reports m with
  | zero =>
    unfold Modem.transfers
    split <;> exact le_refl _
  | succ budget ih =>
    unfold Modem.transfers
    split
    · have hfirst := ih ((({ m with transmit := m.transmit.consume } : Modem).storeReceived (reports.headD {}).received).2)
        (reports.headD {}).hint reports.tail
        ((({ m with transmit := m.transmit.consume } : Modem).storeReceived (reports.headD {}).received).1)
      have hheld := held_consume m.transmit
      rw [storeReceived_transmit] at hfirst
      dsimp only at hfirst ⊢
      omega
    · exact le_refl _

/-- **The transfers** are counted one by one, and the end of the budget once. -/
theorem checkTransfer_counts (exposed : Bool) (budget n : ℕ) {accepted hint : Bool} (h : Shows d ⟨m, receive⟩)
    (hmore : moreToTransfer d = (accepted || hint || !m.transmit.isEmpty)) (hburst : m.burstPending = false) :
    Counts d (checkTransfer exposed joyser1 budget n d)
      (Tally.ofArrivals (m.transferArrivals budget accepted hint (transferReportsFrom joyser1 budget n)) +
        ⟨0, 0,
          m.transmit.held -
            (Modem.transfers budget accepted hint (transferReportsFrom joyser1 budget n) m).transmit.held,
          (Modem.transfers budget accepted hint (transferReportsFrom joyser1 budget n) m).burstPending.toNat, 0⟩) := by
  have hnone : Tally.ofArrivals [] + ⟨0, 0, m.transmit.held - m.transmit.held, m.burstPending.toNat, 0⟩ = 0 := by
    rw [hburst, Nat.sub_self]
    rfl
  induction budget generalizing n d m accepted hint with
  | zero =>
    unfold checkTransfer Modem.transfers Modem.transferArrivals
    rw [hmore]
    split
    · have hkept : Keeps d ({ d with burstPending := true }.store flags (d.block flags ||| flagPollBudgetYield)) :=
        Keeps.store ((Keeps.refl d).of_block rfl) _ (by decide)
      have hcounts := Counts.after hkept (counts_yields _)
      rw [Nat.sub_self]
      exact hcounts
    · rw [hnone]
      exact (Keeps.refl d).counts
  | succ budget ih =>
    unfold checkTransfer Modem.transfers Modem.transferArrivals transferReportsFrom
    rw [hmore]
    split
    · have hbrings := modemTransfer9_brings exposed (fun i => joyser1 (n + i)) h
      have hcounts := modemTransfer9_counts (fun i => joyser1 (n + i)) exposed h
      have hstored : ((({ m with transmit := m.transmit.consume } : Modem).storeReceived
          (portReport fun i => joyser1 (n + i)).received).1).burstPending = false := by
        rw [storeReceived_burstPending]
        exact hburst
      have hrest := ih (n + 9) hbrings.view hbrings.more hstored (by rw [hstored, Nat.sub_self]; rfl)
      have hheld := held_consume m.transmit
      have hle := transfers_held_le budget ((({ m with transmit := m.transmit.consume } : Modem).storeReceived
          (portReport fun i => joyser1 (n + i)).received).2) (portReport fun i => joyser1 (n + i)).hint
        (transferReportsFrom joyser1 budget (n + 9)) ((({ m with transmit := m.transmit.consume } : Modem).storeReceived
          (portReport fun i => joyser1 (n + i)).received).1)
      rw [storeReceived_transmit] at hrest hle
      refine (congrArg (Counts _ _) ?_).mp (hcounts.trans hrest)
      dsimp only at hle ⊢
      rw [Tally.ofArrivals_append]
      ext
      all_goals simp only [Tally.accepted_add, Tally.refused_add, Tally.sent_add, Tally.yields_add,
        Tally.initializations_add, Tally.ofArrivals, List.headD_cons, List.tail_cons] at hle ⊢
      all_goals omega
    · rw [hnone]
      exact (Keeps.refl d).counts

lemma Keeps.resetGuard {d₀ : Driver} (h : Keeps d₀ d) (now : UInt32) : Keeps d₀ (resetGuard now d) := by
  unfold Driver.resetGuard
  split
  · exact h.setState .probing
  · exact h

/-- What follows the guard of a reset. -/
lemma reports_counts (exposed : Bool) (h : Shows d ⟨m, receive⟩) (hburst : m.burstPending = false) :
    Counts d
      (if (readCompleteReport joyser1 d).block Diagnostic.driverState = DriverState.resetting.code then
        readCompleteReport joyser1 d
      else checkTransfer exposed joyser1 Modem.pollBudget 16 (readCompleteReport joyser1 d))
      (Tally.ofArrivals
        (Modem.arrived (portReport joyser1) (m.storeReceived (portReport joyser1).received).2 ++
          if (m.storeReceived (portReport joyser1).received).1.driverState = .resetting then []
          else
            (m.storeReceived (portReport joyser1).received).1.transferArrivals Modem.pollBudget
              (m.storeReceived (portReport joyser1).received).2 (portReport joyser1).hint
              (transferReportsFrom joyser1 Modem.pollBudget 16)) +
        ⟨0, 0,
          m.transmit.held -
            (if (m.storeReceived (portReport joyser1).received).1.driverState = .resetting then
              (m.storeReceived (portReport joyser1).received).1
            else
              Modem.transfers Modem.pollBudget (m.storeReceived (portReport joyser1).received).2
                (portReport joyser1).hint (transferReportsFrom joyser1 Modem.pollBudget 16)
                (m.storeReceived (portReport joyser1).received).1).transmit.held,
          (if (m.storeReceived (portReport joyser1).received).1.driverState = .resetting then
            (m.storeReceived (portReport joyser1).received).1
          else
            Modem.transfers Modem.pollBudget (m.storeReceived (portReport joyser1).received).2
              (portReport joyser1).hint (transferReportsFrom joyser1 Modem.pollBudget 16)
              (m.storeReceived (portReport joyser1).received).1).burstPending.toNat, 0⟩) := by
  have hbrings := readCompleteReport_brings joyser1 h
  have hcounts := readCompleteReport_counts joyser1 h
  have hstate := Shows.driverState_iff hbrings.view .resetting
  have hstored := storeReceived_burstPending m (portReport joyser1).received
  have htransmit := storeReceived_transmit m (portReport joyser1).received
  rw [Tally.ofArrivals_append, add_assoc]
  by_cases hresetting : (m.storeReceived (portReport joyser1).received).1.driverState = .resetting
  · simp only [if_pos (hstate.mpr hresetting), if_pos hresetting]
    rw [hstored, htransmit, hburst, Nat.sub_self]
    exact hcounts
  · simp only [if_neg (mt hstate.mp hresetting), if_neg hresetting]
    have hrest := checkTransfer_counts joyser1 exposed Modem.pollBudget 16 hbrings.view hbrings.more (hstored.trans hburst)
    rw [htransmit] at hrest
    exact hcounts.trans hrest

/-- **A poll of the modem** is counted. -/
theorem modemPoll_counts (now : UInt32) (exposed : Bool) (h : Shows d ⟨m, receive⟩) :
    Counts d (modemPoll now exposed joyser1 d) (Link.tally ⟨m, receive⟩ (.modem now exposed joyser1)) := by
  have hsilent : Tally.ofArrivals [] + ⟨0, 0, m.transmit.held - m.transmit.held, false.toNat, 0⟩ = 0 := by
    rw [Nat.sub_self]
    rfl
  unfold Link.tally Modem.arrivals Modem.yields modemPoll Asm.modemPoll
  simp only [h.driverState_iff .off, h.driverState_iff .error]
  by_cases hstate : m.driverState = .off ∨ m.driverState = .error
  · have hoff : (decide (m.driverState ≠ .off) && decide (m.driverState ≠ .error)) = false := by
      rcases hstate with heq | heq <;> rw [heq] <;> rfl
    simp only [if_pos hstate, hoff, Bool.false_and]
    rw [hsilent]
    exact (Keeps.refl d).counts
  have hon : (decide (m.driverState ≠ .off) && decide (m.driverState ≠ .error)) = true := by
    rw [not_or] at hstate
    simp [hstate.1, hstate.2]
  simp only [if_neg hstate, hon, Bool.true_and]
  by_cases hwaits : (!m.pollTick && !m.burstPending && m.transmit.isEmpty) = true
  · have hburst : m.burstPending = false := by
      simp only [Bool.and_eq_true, Bool.not_eq_true'] at hwaits
      exact hwaits.1.2
    rw [if_pos (h.idle_iff.mpr hwaits)]
    simp only [if_pos hwaits]
    rw [hburst, hsilent]
    exact (Keeps.refl d).counts
  rw [if_neg (mt h.idle_iff.mp hwaits)]
  simp only [if_neg hwaits]
  have hbegun : Keeps d { (modemSnapshotBegin d).store Diagnostic.pollTick 0 with burstPending := false } :=
    (((Keeps.refl d).snapshot).store 0 (by decide)).of_block rfl
  have hreports := reports_counts joyser1 exposed (resetGuard_shows now (cleared_shows h)) (by split <;> rfl)
  refine Counts.then (Counts.after (hbegun.resetGuard now) ?_) (Keeps.refl _).snapshot
  have htransmit : (if (({ m with pollTick := false, burstPending := false } : Modem).driverState = Asm.DriverState.resetting &&
      decide (Modem.resetGuardFrames ≤ Modem.elapsed now m.resetStartFrame)) = true then
      { ({ m with pollTick := false, burstPending := false } : Modem) with driverState := .probing }
      else { m with pollTick := false, burstPending := false }).transmit.held = m.transmit.held := by
    split <;> rfl
  rw [htransmit] at hreports
  exact hreports

lemma applyStores_keeps (stores : List SelfTestStore) (d : Driver) : Keeps d (stores.foldl SelfTestStore.apply d) := by
  induction stores generalizing d with
  | nil => exact Keeps.refl d
  | cons store stores ih =>
    refine Keeps.trans ?_ (ih (store.apply d))
    cases store with
    | driverState octet => exact (Keeps.refl d).store _ (by decide)
    | lastResult octet => exact (Keeps.refl d).store _ (by decide)
    | lineLength octet => exact (Keeps.refl d).store _ (by decide)
    | carrierLost => exact (Keeps.refl d).carrierLost

lemma modemInitialize_counts (now : UInt32) (d : Driver) : Counts d (modemInitialize now d) ⟨0, 0, 0, 0, 1⟩ := by
  have hreset : Keeps d (modemResetQueues (modemSnapshotBegin d)) := (Keeps.refl d).snapshot.resetQueues
  have hguard : ∀ i, resetStartFrame ≤ i → i < resetStartFrame + 4 → ¬ OfCounter i := not_ofCounter_of_le (by decide)
  unfold modemInitialize
  generalize modemResetQueues (modemSnapshotBegin d) = d' at hreset ⊢
  have hvariables : Keeps d ({ d' with probeSent := false, retryCount := 0 }.store sessionLineLength 0) :=
    Keeps.store (hreset.of_block rfl) 0 (by decide)
  have hcounted := Counts.after (hvariables.store32 now hguard) (counts_initializations _)
  exact hcounted.then ((Keeps.refl _).setState .resetting).snapshot

lemma binaryQueue_keeps (octets : List UInt8) (d : Driver) : Keeps d (binaryQueue octets d) := by
  unfold binaryQueue
  split
  · exact Keeps.refl d
  · exact (Keeps.refl d).queueBytes octets

lemma command_counts (now : UInt32) (c : DriverCommand) (s : Link) :
    Counts d (command now d c) (s.tally (.mailbox now c)) := by
  have hrefl := Keeps.refl d
  cases c with
  | reset => exact modemInitialize_counts now d
  | quickTest => exact modemInitialize_counts now d
  | clearTrace => exact hrefl.clearTrace.counts
  | freezeTrace => exact (hrefl.store _ (by decide)).counts
  | resumeTrace => exact (hrefl.store _ (by decide)).counts
  | atTransaction arguments => exact (hrefl.atBegin now arguments).counts
  | binaryTransmit arguments =>
    refine Keeps.counts ?_
    unfold command
    dsimp only
    split
    · exact hrefl
    · exact binaryQueue_keeps _ d
  | binaryReceive =>
    refine Keeps.counts ?_
    unfold command
    dsimp only
    split
    · exact hrefl.takeBytes _
    · exact hrefl
  | binaryStressTransmit => exact (binaryQueue_keeps _ d).counts
  | selfTest stores receive =>
    have hkept : Keeps d (command now d (.selfTest stores receive)) := (applyStores_keeps stores d).of_block rfl
    exact hkept.counts

/-- **Each poll is counted.** -/
theorem step_counts {s : Link} (poll : Poll) (h : Shows d s) : Counts d (d.step poll) (s.tally poll) := by
  have hrefl := Keeps.refl d
  cases poll with
  | mailbox now c => exact command_counts now c s
  | modem now exposed joyser1 => exact modemPoll_counts joyser1 now exposed h
  | session now => exact (hrefl.sessionPoll now).counts
  | receive => exact hrefl.receivePoll.counts
  | queue octets => exact (hrefl.queueBytes octets).counts
  | take count => exact (hrefl.takeBytes count).counts
  | other receive =>
    have hkept : Keeps d (d.step (.other receive)) := hrefl.of_block rfl
    exact hkept.counts
  | controller ticked => exact hrefl.counts
  | vBlank displayReadIndex =>
    have hticked : Keeps d (d.store pollTick 1) := hrefl.store 1 (by decide)
    have hkept : Keeps d (d.step (.vBlank displayReadIndex)) := hticked.of_block rfl
    exact hkept.counts

/-- **A run is counted.** -/
theorem run_counts {s : Link} {polls : List Poll} (hknown : ∀ poll ∈ polls, poll.Known) (h : Shows d s) :
    Counts d (Run.run Driver.step d polls) (s.tallyOf polls) := by
  induction polls generalizing d s with
  | nil => exact (Keeps.refl d).counts
  | cons poll polls ih =>
    have hfirst := step_counts poll h
    exact hfirst.trans (ih (fun poll hmem => hknown poll (List.mem_cons_of_mem _ hmem))
      (step_shows (hknown poll List.mem_cons_self) h))

end Polls

/-! ### The totals -/

/-- The octets that arrive in a run from boot. -/
def arrivalsOf : Link → List Poll → List (UInt8 × Bool)
  | _, [] => []
  | s, poll :: polls =>
    (match poll with
      | .modem now _ joyser1 => s.modem.arrivals now (portReports joyser1)
      | _ => []) ++ arrivalsOf (s.step poll) polls

/-- The polls of a run that break off. -/
def yieldsOf : Link → List Poll → ℕ
  | _, [] => 0
  | s, poll :: polls =>
    (match poll with
      | .modem now _ joyser1 => (s.modem.yields now (portReports joyser1)).toNat
      | _ => 0) + yieldsOf (s.step poll) polls

instance : DecidablePred Poll.Resets := fun poll => by
  unfold Poll.Resets
  split <;> infer_instance

section Totals

variable {d : Driver} {s : Link} {polls : List Poll}

lemma tallyOf_accepted (s : Link) (polls : List Poll) :
    (s.tallyOf polls).accepted = (arrivalsOf s polls).countP fun arrival => arrival.2 := by
  induction polls generalizing s with
  | nil => rfl
  | cons poll polls ih =>
    unfold Link.tallyOf arrivalsOf
    rw [Tally.accepted_add, ih, List.countP_append]
    congr 1
    cases poll with
    | mailbox now c => cases c <;> rfl
    | _ => rfl

lemma tallyOf_refused (s : Link) (polls : List Poll) :
    (s.tallyOf polls).refused = (arrivalsOf s polls).countP fun arrival => !arrival.2 := by
  induction polls generalizing s with
  | nil => rfl
  | cons poll polls ih =>
    unfold Link.tallyOf arrivalsOf
    rw [Tally.refused_add, ih, List.countP_append]
    congr 1
    cases poll with
    | mailbox now c => cases c <;> rfl
    | _ => rfl

lemma tallyOf_yields (s : Link) (polls : List Poll) : (s.tallyOf polls).yields = yieldsOf s polls := by
  induction polls generalizing s with
  | nil => rfl
  | cons poll polls ih =>
    unfold Link.tallyOf yieldsOf
    rw [Tally.yields_add, ih]
    congr 1
    cases poll with
    | mailbox now c => cases c <;> rfl
    | modem now exposed joyser1 => exact Nat.zero_add _
    | _ => rfl

lemma tallyOf_initializations (s : Link) (polls : List Poll) :
    (s.tallyOf polls).initializations = polls.countP fun poll => decide poll.Resets := by
  induction polls generalizing s with
  | nil => rfl
  | cons poll polls ih =>
    unfold Link.tallyOf
    rw [Tally.initializations_add, ih, List.countP_cons, Nat.add_comm]
    congr 1
    cases poll with
    | mailbox now c => cases c <;> rfl
    | _ => rfl

/-- **What is counted as sent is what the modem hears.** -/
theorem tallyOf_sent (h : Shows d s) (hknown : ∀ poll ∈ polls, poll.Known) :
    (s.tallyOf polls).sent = (heard (signalsOf d polls)).length := by
  have hheard : ∀ l : Listener, Settled l →
      (octets (Run.run hear l (signalsOf d polls))).length = (octets l).length + (s.tallyOf polls).sent := by
    induction polls generalizing d s with
    | nil => exact fun _ _ => rfl
    | cons poll polls ih =>
      intro l hsettled
      have hrest := ih (step_shows (hknown poll List.mem_cons_self) h)
        fun poll hmem => hknown poll (List.mem_cons_of_mem _ hmem)
      rw [signalsOf, Link.tallyOf, Tally.sent_add, Run.run_append]
      by_cases hmodem : ∃ now exposed joyser1, poll = .modem now exposed joyser1
      · obtain ⟨now, exposed, joyser1, rfl⟩ := hmodem
        obtain ⟨m, receive⟩ := s
        obtain ⟨hsettled', sent, hsent, hcontents⟩ := hears_poll now exposed joyser1 h hsettled
        have hlength := congrArg List.length hcontents
        rw [List.length_append, Ring.length_contents, Ring.length_contents] at hlength
        have htally : (Link.tally ⟨m, receive⟩ (.modem now exposed joyser1)).sent = sent.length := by
          change 0 + (m.transmit.held - (Asm.modemPoll now (portReports joyser1) m).transmit.held) = _
          omega
        have hnext := hrest _ hsettled'
        have hsignals : signals d (.modem now exposed joyser1) = pollSignals now exposed joyser1 d := rfl
        rw [hsignals, hnext, htally, hsent, List.length_append, Nat.add_assoc]
      · have hother : ∀ now exposed joyser1, poll ≠ .modem now exposed joyser1 :=
          fun now exposed joyser1 heq => hmodem ⟨now, exposed, joyser1, heq⟩
        have hzero : (s.tally poll).sent = 0 := by
          cases poll with
          | modem now exposed joyser1 => exact absurd rfl (hother now exposed joyser1)
          | mailbox now c => cases c <;> rfl
          | _ => rfl
        obtain ⟨hsettled', hsilent⟩ := hears_nothing (d := d) hother hsettled
        rw [hzero, hrest _ hsettled', hsilent, Nat.zero_add]
  have hquiet := hheard quiet ⟨rfl, rfl⟩
  have hzero : (octets quiet).length = 0 := rfl
  rw [hzero, Nat.zero_add] at hquiet
  exact hquiet.symm

end Totals

example : longAt (after resetAndPoll).block receiveAcceptedCount = 1 := by decide +kernel

end Driver

end SnesModem.Asm
