import SnesModem.Asm.Exchange
import SnesModem.Asm.PortReports
import SnesModem.Asm.SequencedPolls
import SnesModem.Asm.Snapshots

/-!
# What the diagnostic block shows of the modem

The driver that stores octet by octet, seen as the driver of reports: the variables that both have, as octets.

* `Link`: the driver of reports with the PPP receive path behind it; `Link.view` and `Driver.view`: what they show;
* `view_store_hidden`: the bookkeeping of the block is not seen;
* `modemStoreReceivedByte_view`, `modemReadByte_view`, `modemQueueByte_view`, `modemConsumeTransmitByte_view`: the calls
  of `buffer.asm` are those of the rings;
* `modemTransfer9_view`, `readCompleteReport_view`: a waveform does what its report does.
-/

namespace SnesModem.Asm

open SnesModem.Lib.Cpu65816 SnesModem.Lib.Octets Diagnostic

/-- The modem driver at the level of reports, with the PPP receive path behind it. -/
structure Link where
  modem : Modem
  receive : Receive

/-- The variables that both levels have. -/
structure View where
  header : List UInt8
  driverState : UInt8
  lastError : UInt8
  pollTick : UInt8
  burstPending : Bool
  receiveRing : Ring
  transmitRing : Ring
  resetStartFrame : UInt32
  probeSent : Bool
  probeStartFrame : UInt32
  retryCount : UInt8
  lastResult : UInt8
  lineLength : UInt8
  line : Buffer
  atStatus : UInt8
  atExpectedResult : UInt8
  atStartFrame : UInt32
  atTimeoutFrames : UInt16
  receive : Receive

/-- The magic, the version and the size of the block. -/
def header : List UInt8 := [0x4e, 0x44, 0x4d, 0x32, 0x02, 0x00, 0x80, 0x00]

def Link.view (s : Link) : View where
  header := header
  driverState := s.modem.driverState.code
  lastError := s.modem.lastError.code
  pollTick := if s.modem.pollTick then 1 else 0
  burstPending := s.modem.burstPending
  receiveRing := s.modem.receive
  transmitRing := s.modem.transmit
  resetStartFrame := s.modem.resetStartFrame
  probeSent := s.modem.probeSent
  probeStartFrame := s.modem.probeStartFrame
  retryCount := s.modem.retryCount
  lastResult := s.modem.lastResult.code
  lineLength := s.modem.lineLength
  line := s.modem.line
  atStatus := s.modem.atStatus.code
  atExpectedResult := s.modem.atExpectedResult.code
  atStartFrame := s.modem.atStartFrame
  atTimeoutFrames := s.modem.atTimeoutFrames
  receive := s.receive

namespace Driver

def view (d : Driver) : View where
  header := read d.block 0 8
  driverState := d.block driverState
  lastError := d.block lastError
  pollTick := d.block pollTick
  burstPending := d.burstPending
  receiveRing := d.receiveRing
  transmitRing := d.transmitRing
  resetStartFrame := longAt d.block resetStartFrame
  probeSent := d.probeSent
  probeStartFrame := d.probeStartFrame
  retryCount := d.retryCount
  lastResult := d.block sessionLastResult
  lineLength := d.block sessionLineLength
  line := d.sessionLine
  atStatus := d.block atStatus
  atExpectedResult := d.block atExpectedResult
  atStartFrame := longAt d.block atStartFrame
  atTimeoutFrames := d.atTimeoutFrames
  receive := d.receive

/-! ### The bookkeeping of the block -/

/-- The sequence, the flags, the registers of the port, the trace and the counters. -/
def Hidden (i : ℕ) : Prop :=
  8 ≤ i ∧ i < 0x0c ∨ i = flags ∨ i = lastDiscardReason ∨ i = traceFrozen ∨ 0x16 ≤ i ∧ i < 0x44 ∨ 0x48 ≤ i ∧ i < 0x4c

instance : DecidablePred Hidden := fun _ => inferInstanceAs (Decidable (_ ∨ _))

/-- The variables outside of the block that both levels have. -/
def Outside (d d' : Driver) : Prop :=
  d'.receiveBuffer = d.receiveBuffer ∧ d'.transmitBuffer = d.transmitBuffer ∧ d'.burstPending = d.burstPending ∧
    d'.sessionLine = d.sessionLine ∧ d'.probeSent = d.probeSent ∧ d'.retryCount = d.retryCount ∧
    d'.probeStartFrame = d.probeStartFrame ∧ d'.atTimeoutFrames = d.atTimeoutFrames ∧ d'.receive = d.receive

section Stores

variable {d d' : Driver}

lemma longAt_congr {block block' : Buffer} {offset : ℕ} (h : ∀ i, offset ≤ i → i < offset + 4 → block' i = block i) :
    longAt block' offset = longAt block offset := by
  unfold longAt
  rw [h _ (by omega) (by omega), h _ (by omega) (by omega), h _ (by omega) (by omega), h _ (by omega) (by omega)]

lemma view_congr (hblock : ∀ i, ¬ Hidden i → d'.block i = d.block i) (houtside : Outside d d') : d'.view = d.view := by
  obtain ⟨hreceive, htransmit, hburst, hline, hsent, hretry, hstart, htimeout, hpath⟩ := houtside
  have hheader : read d'.block 0 8 = read d.block 0 8 := read_congr _ fun i _ hi => hblock i (by
    simp only [Hidden, flags, lastDiscardReason, traceFrozen]
    omega)
  have hreset : longAt d'.block resetStartFrame = longAt d.block resetStartFrame :=
    longAt_congr fun i hle hlt => hblock i (by
      simp only [Hidden, flags, lastDiscardReason, traceFrozen, resetStartFrame] at hle hlt ⊢
      omega)
  have hat : longAt d'.block atStartFrame = longAt d.block atStartFrame :=
    longAt_congr fun i hle hlt => hblock i (by
      simp only [Hidden, flags, lastDiscardReason, traceFrozen, atStartFrame] at hle hlt ⊢
      omega)
  unfold view receiveRing transmitRing
  rw [hheader, hreset, hat, hreceive, htransmit, hburst, hline, hsent, hretry, hstart, htimeout, hpath]
  simp only [hblock driverState (by decide), hblock lastError (by decide), hblock pollTick (by decide),
    hblock receiveReadIndex (by decide), hblock receiveWriteIndex (by decide), hblock transmitReadIndex (by decide),
    hblock transmitWriteIndex (by decide), hblock sessionLastResult (by decide), hblock sessionLineLength (by decide),
    hblock atStatus (by decide), hblock atExpectedResult (by decide)]

variable (d)

/-- **A store into the bookkeeping is not seen.** -/
theorem view_store_hidden {offset : ℕ} (octet : UInt8) (hhidden : Hidden offset) : (d.store offset octet).view = d.view := by
  refine view_congr (fun i hi => ?_) ⟨rfl, rfl, rfl, rfl, rfl, rfl, rfl, rfl, rfl⟩
  have hne : i ≠ offset := by
    rintro rfl
    exact hi hhidden
  exact Function.update_of_ne hne _ _

lemma view_increment32 {offset : ℕ} (hhidden : ∀ i, offset ≤ i → i < offset + 4 → Hidden i) :
    (d.increment32 offset).view = d.view := by
  refine view_congr (fun i hi => ?_) ?_
  · apply increment32_block
    by_contra hin
    exact hi (hhidden i (by omega) (by omega))
  · unfold increment32
    dsimp only
    split <;> exact ⟨rfl, rfl, rfl, rfl, rfl, rfl, rfl, rfl, rfl⟩

/-! ### The stores that are seen -/

variable (octet : UInt8)

lemma view_store_driverState : (d.store driverState octet).view = { d.view with driverState := octet } := rfl

lemma view_store_lastError : (d.store lastError octet).view = { d.view with lastError := octet } := rfl

lemma view_store_pollTick : (d.store pollTick octet).view = { d.view with pollTick := octet } := rfl

lemma view_store_lastResult : (d.store sessionLastResult octet).view = { d.view with lastResult := octet } := rfl

lemma view_store_lineLength : (d.store sessionLineLength octet).view = { d.view with lineLength := octet } := rfl

lemma view_store_atStatus : (d.store atStatus octet).view = { d.view with atStatus := octet } := rfl

lemma view_store_atExpectedResult : (d.store atExpectedResult octet).view = { d.view with atExpectedResult := octet } := rfl

lemma view_store_receiveReadIndex :
    (d.store receiveReadIndex octet).view = { d.view with receiveRing := { d.view.receiveRing with readIndex := octet } } := rfl

lemma view_store_receiveWriteIndex :
    (d.store receiveWriteIndex octet).view = { d.view with receiveRing := { d.view.receiveRing with writeIndex := octet } } := rfl

lemma view_store_transmitReadIndex :
    (d.store transmitReadIndex octet).view =
      { d.view with transmitRing := { d.view.transmitRing with readIndex := octet } } := rfl

lemma view_store_transmitWriteIndex :
    (d.store transmitWriteIndex octet).view =
      { d.view with transmitRing := { d.view.transmitRing with writeIndex := octet } } := rfl

/-- A double word is stored as it is read. -/
lemma longAt_store32 (offset : ℕ) (value : UInt32) : longAt (d.store32 offset value).block offset = value := by
  have hshift : (16 : UInt32).toNat % 32 = 16 := rfl
  have hlt := value.toNat_lt
  have hlow : (value.toUInt16).toNat = value.toNat % 65536 := UInt32.toNat_toUInt16 value
  have hhigh : ((value >>> 16).toUInt16).toNat = value.toNat / 65536 := by
    rw [UInt32.toNat_toUInt16, UInt32.toNat_shiftRight, hshift, Nat.shiftRight_eq_div_pow]
    omega
  have h0 : (d.store32 offset value).block offset = low value.toUInt16 := by
    unfold store32
    rw [block_store16, block_store16, Function.update_of_ne (by omega), Function.update_of_ne (by omega),
      Function.update_of_ne (by omega), Function.update_self]
  have h1 : (d.store32 offset value).block (offset + 1) = high value.toUInt16 := by
    unfold store32
    rw [block_store16, block_store16, Function.update_of_ne (by omega), Function.update_of_ne (by omega),
      Function.update_self]
  have h2 : (d.store32 offset value).block (offset + 2) = low (value >>> 16).toUInt16 := by
    unfold store32
    rw [block_store16, Function.update_of_ne (by omega), Function.update_self]
  have h3 : (d.store32 offset value).block (offset + 3) = high (value >>> 16).toUInt16 := by
    unfold store32
    rw [block_store16, Function.update_self]
  rw [← UInt32.toNat_inj, toNat_longAt, h0, h1, h2, h3, toNat_low, toNat_high, toNat_low, toNat_high, hlow, hhigh]
  omega

lemma view_store32_resetStartFrame (value : UInt32) :
    (d.store32 resetStartFrame value).view = { d.view with resetStartFrame := value } := by
  change { d.view with resetStartFrame := longAt (d.store32 resetStartFrame value).block resetStartFrame } = _
  rw [longAt_store32]

lemma view_store32_atStartFrame (value : UInt32) :
    (d.store32 atStartFrame value).view = { d.view with atStartFrame := value } := by
  change { d.view with atStartFrame := longAt (d.store32 atStartFrame value).block atStartFrame } = _
  rw [longAt_store32]

lemma toUInt16_longAt (block : Buffer) (offset : ℕ) :
    (longAt block offset).toUInt16 = word (block (offset + 1)) (block offset) := by
  have h0 := (block offset).toNat_lt
  have h1 := (block (offset + 1)).toNat_lt
  rw [← UInt16.toNat_inj, UInt32.toNat_toUInt16, toNat_longAt, toNat_word]
  omega

end Stores

/-! ### The trace and the state -/

section Routines

variable (d : Driver)

/-- The trace is bookkeeping. -/
@[simp] lemma modemRecordTrace_view (kind : TraceKind) : (modemRecordTrace kind d).view = d.view := by
  have hcount : ∀ d : Driver, (d.increment32 traceNextSequence).view = d.view := fun d =>
    view_increment32 d fun i hle hlt => by
      simp only [Hidden, traceNextSequence] at hle hlt ⊢
      omega
  have hoverwritten : ∀ d : Driver, (d.increment32 traceOverwrittenCount).view = d.view := fun d =>
    view_increment32 d fun i hle hlt => by
      simp only [Hidden, traceOverwrittenCount] at hle hlt ⊢
      omega
  unfold modemRecordTrace
  split
  · rfl
  extract_lets overwriting d1 d2
  have hfirst : d1.view = d.view := by
    unfold d1
    split
    · rfl
    · rw [hoverwritten, view_store_hidden _ _ (by decide)]
  have hsecond : d2.view = d.view := (hcount d1).trans hfirst
  split
  · rw [view_store_hidden _ _ (by decide), hsecond]
  · exact hsecond

lemma modemSetState_view (state : DriverState) :
    (modemSetState state d).view = { d.view with driverState := state.code } := by
  unfold modemSetState
  rw [modemRecordTrace_view, view_store_driverState]

@[simp] lemma modemSnapshotBegin_view : (modemSnapshotBegin d).view = d.view :=
  view_increment32 d fun i hle hlt => by
    simp only [Hidden, snapshotSequence] at hle hlt ⊢
    omega

@[simp] lemma modemSnapshotEnd_view : (modemSnapshotEnd d).view = d.view := modemSnapshotBegin_view d

lemma modemClearTrace_view : (modemClearTrace d).view = d.view := by
  unfold modemClearTrace
  iterate 9 rw [view_store_hidden _ _ (by decide)]

lemma modemResetQueues_view :
    (modemResetQueues d).view =
      { d.view with
        lastError := 0
        pollTick := 0
        receiveRing := d.view.receiveRing.reset
        transmitRing := d.view.transmitRing.reset
        atStatus := 0
        atExpectedResult := 0
        lastResult := 0
        lineLength := 0 } := by
  have hflags : (d.store flags 0).view = d.view := view_store_hidden d 0 (by decide)
  have hreason : ∀ d : Driver, (d.store lastDiscardReason 0).view = d.view := fun d => view_store_hidden d 0 (by decide)
  unfold modemResetQueues
  simp only [view_store_lineLength, view_store_lastResult, view_store_atExpectedResult, view_store_atStatus,
    view_store_transmitWriteIndex, view_store_transmitReadIndex, view_store_receiveWriteIndex,
    view_store_receiveReadIndex, view_store_pollTick, hreason, view_store_lastError, hflags]
  rfl

/-! ### The calls of `buffer.asm` -/

variable (octet : UInt8)

/-- What the display shows of an octet is bookkeeping. -/
lemma terminalMirrorReceivedByte_view : (terminalMirrorReceivedByte d).view = d.view := by
  have hdropped : ∀ d : Driver, (d.increment32 terminalDroppedCount).view = d.view := fun d =>
    view_increment32 d fun i hle hlt => by
      simp only [Hidden, terminalDroppedCount] at hle hlt ⊢
      omega
  unfold terminalMirrorReceivedByte
  dsimp only
  split
  · exact hdropped _
  · rfl

/-- **An octet that is received** is pushed into the ring. -/
theorem modemStoreReceivedByte_view :
    (modemStoreReceivedByte octet d).1.view = { d.view with receiveRing := (d.view.receiveRing.push octet).1 } ∧
      (modemStoreReceivedByte octet d).2 = (d.view.receiveRing.push octet).2 := by
  have hcounter : ∀ (d : Driver) (offset : ℕ), 0x20 ≤ offset → offset ≤ 0x40 → (d.increment32 offset).view = d.view :=
    fun d offset hle hle' => view_increment32 d fun i hi hi' => by
      simp only [Hidden]
      omega
  unfold modemStoreReceivedByte
  dsimp only
  by_cases hfull : d.block receiveWriteIndex + 1 = d.block receiveReadIndex
  · have hpush : d.view.receiveRing.push octet = (d.view.receiveRing, true) := if_pos hfull
    rw [if_pos hfull, hpush]
    refine ⟨?_, rfl⟩
    dsimp only
    rw [hcounter _ _ (by decide) (by decide), hcounter _ _ (by decide) (by decide), view_store_hidden _ _ (by decide),
      view_store_hidden _ _ (by decide)]
  · have hpush : d.view.receiveRing.push octet = ({ d.view.receiveRing with
        storage := Function.update d.receiveBuffer (d.block receiveWriteIndex).toNat octet
        writeIndex := d.block receiveWriteIndex + 1 }, false) := if_neg hfull
    rw [if_neg hfull, hpush]
    refine ⟨?_, rfl⟩
    dsimp only
    rw [hcounter _ _ (by decide) (by decide), view_store_receiveWriteIndex, terminalMirrorReceivedByte_view,
      view_store_hidden _ _ (by decide)]
    rfl

/-- **A read** takes the first octet of the receive ring. -/
theorem modemReadByte_view :
    (modemReadByte d).1.view =
        { d.view with receiveRing := (d.view.receiveRing.pop.map Prod.snd).getD d.view.receiveRing } ∧
      (modemReadByte d).2 = d.view.receiveRing.pop.map Prod.fst := by
  have hbegun : ((modemSnapshotBegin d).block receiveReadIndex = d.block receiveReadIndex ∧
      (modemSnapshotBegin d).block receiveWriteIndex = d.block receiveWriteIndex) ∧
      (modemSnapshotBegin d).receiveBuffer = d.receiveBuffer := by
    have hring := congrArg View.receiveRing (modemSnapshotBegin_view d)
    exact ⟨⟨congrArg Ring.readIndex hring, congrArg Ring.writeIndex hring⟩, congrArg Ring.storage hring⟩
  obtain ⟨⟨hread, hwrite⟩, hbuffer⟩ := hbegun
  unfold modemReadByte
  dsimp only
  rw [hread, hwrite]
  by_cases hempty : d.block receiveReadIndex = d.block receiveWriteIndex
  · have hpop : d.view.receiveRing.pop = none := if_pos (decide_eq_true hempty)
    rw [if_pos hempty, hpop]
    refine ⟨?_, rfl⟩
    rw [modemSnapshotEnd_view, modemSnapshotBegin_view]
    rfl
  · have hpop : d.view.receiveRing.pop = some (d.receiveBuffer (d.block receiveReadIndex).toNat,
        { d.view.receiveRing with readIndex := d.block receiveReadIndex + 1 }) :=
      if_neg (ne_true_of_eq_false (decide_eq_false hempty))
    rw [if_neg hempty, hpop, hbuffer]
    refine ⟨?_, rfl⟩
    rw [modemSnapshotEnd_view, view_store_receiveReadIndex, modemSnapshotBegin_view]
    rfl

/-- **An octet that is queued** is pushed into the transmit ring. -/
theorem modemQueueByte_view :
    (modemQueueByte octet d).1.view = { d.view with transmitRing := (d.view.transmitRing.push octet).1 } ∧
      (modemQueueByte octet d).2 = (d.view.transmitRing.push octet).2 := by
  have hcounter : ∀ d : Driver, (d.increment32 transmitOverflowCount).view = d.view := fun d =>
    view_increment32 d fun i hi hi' => by
      simp only [Hidden, transmitOverflowCount] at hi hi' ⊢
      omega
  have hbegun : ((modemSnapshotBegin d).block transmitReadIndex = d.block transmitReadIndex ∧
      (modemSnapshotBegin d).block transmitWriteIndex = d.block transmitWriteIndex) ∧
      (modemSnapshotBegin d).transmitBuffer = d.transmitBuffer := by
    have hring := congrArg View.transmitRing (modemSnapshotBegin_view d)
    exact ⟨⟨congrArg Ring.readIndex hring, congrArg Ring.writeIndex hring⟩, congrArg Ring.storage hring⟩
  obtain ⟨⟨hread, hwrite⟩, hbuffer⟩ := hbegun
  unfold modemQueueByte
  dsimp only
  rw [hread, hwrite]
  by_cases hfull : d.block transmitWriteIndex + 1 = d.block transmitReadIndex
  · have hpush : d.view.transmitRing.push octet = (d.view.transmitRing, true) := if_pos hfull
    rw [if_pos hfull, hpush]
    refine ⟨?_, rfl⟩
    rw [modemSnapshotEnd_view, hcounter, view_store_hidden _ _ (by decide), modemSnapshotBegin_view]
  · have hpush : d.view.transmitRing.push octet = ({ d.view.transmitRing with
        storage := Function.update d.transmitBuffer (d.block transmitWriteIndex).toNat octet
        writeIndex := d.block transmitWriteIndex + 1 }, false) := if_neg hfull
    have hstored : ({ modemSnapshotBegin d with
        transmitBuffer := Function.update d.transmitBuffer (d.block transmitWriteIndex).toNat octet } : Driver).view =
        { (modemSnapshotBegin d).view with transmitRing := { (modemSnapshotBegin d).view.transmitRing with
            storage := Function.update d.transmitBuffer (d.block transmitWriteIndex).toNat octet } } := rfl
    rw [if_neg hfull, hpush, hbuffer]
    refine ⟨?_, rfl⟩
    rw [modemSnapshotEnd_view, view_store_transmitWriteIndex, hstored, modemSnapshotBegin_view]

/-- **The octet that was sent** is taken from the transmit ring and cleared. -/
theorem modemConsumeTransmitByte_view (exposed : Bool) :
    (modemConsumeTransmitByte exposed d).view = { d.view with transmitRing := d.view.transmitRing.consume } := by
  have hcounter : ∀ d : Driver, (d.increment32 transmitByteCount).view = d.view := fun d =>
    view_increment32 d fun i hi hi' => by
      simp only [Hidden, transmitByteCount] at hi hi' ⊢
      omega
  unfold modemConsumeTransmitByte
  dsimp only
  by_cases hempty : d.block transmitReadIndex = d.block transmitWriteIndex
  · have hconsume : d.view.transmitRing.consume = d.view.transmitRing := if_pos (decide_eq_true hempty)
    rw [if_pos hempty, hconsume]
  · have hconsume : d.view.transmitRing.consume = { d.view.transmitRing with
        storage := Function.update d.transmitBuffer (d.block transmitReadIndex).toNat 0
        readIndex := d.block transmitReadIndex + 1 } := if_neg (ne_true_of_eq_false (decide_eq_false hempty))
    rw [if_neg hempty, hconsume, hcounter]
    rfl

end Routines

/-! ### The registers of the port -/

/-- The registers of the port, and what became of the last report. -/
def OfPort (i : ℕ) : Prop := i = lastDiscardReason ∨ lastDataReport ≤ i ∧ i < traceNextSequence

section Port

variable (d : Driver)

lemma modemRecordTrace_port (kind : TraceKind) {i : ℕ} (hi : OfPort i) : (modemRecordTrace kind d).block i = d.block i := by
  simp only [OfPort, lastDiscardReason, lastDataReport, traceNextSequence] at hi
  unfold modemRecordTrace
  split
  · rfl
  extract_lets overwriting d1 d2
  have hfirst : d1.block i = d.block i := by
    unfold d1
    split
    · rfl
    · rw [increment32_block _ (by simp only [traceOverwrittenCount]; omega), block_store,
        Function.update_of_ne (by simp only [flags]; omega)]
  have hsecond : d2.block i = d.block i := by
    rw [← hfirst]
    exact increment32_block d1 (by simp only [traceNextSequence]; omega)
  split
  · rw [block_store, Function.update_of_ne (by simp only [traceFrozen]; omega), hsecond]
  · exact hsecond

lemma modemConsumeTransmitByte_port (exposed : Bool) {i : ℕ} (hi : OfPort i) :
    (modemConsumeTransmitByte exposed d).block i = d.block i := by
  simp only [OfPort, lastDiscardReason, lastDataReport, traceNextSequence] at hi
  unfold modemConsumeTransmitByte
  dsimp only
  split
  · rfl
  · rw [increment32_block _ (by simp only [transmitByteCount]; omega), block_store,
      Function.update_of_ne (by simp only [transmitReadIndex]; omega)]
    change (d.store lastTransmitByte _).block i = _
    rw [block_store, Function.update_of_ne (by simp only [lastTransmitByte]; omega)]

/-- An octet that does not fit leaves its mark. -/
lemma modemStoreReceivedByte_port (octet : UInt8) :
    (∀ i, lastDataReport ≤ i → i < traceNextSequence → (modemStoreReceivedByte octet d).1.block i = d.block i) ∧
      (modemStoreReceivedByte octet d).1.block lastDiscardReason =
        if (d.view.receiveRing.push octet).2 then DiscardReason.rxOverflow.code else d.block lastDiscardReason := by
  have hmirror : ∀ (d : Driver) (i : ℕ), i < terminalDroppedCount → (terminalMirrorReceivedByte d).block i = d.block i := by
    intro d i hi
    unfold terminalMirrorReceivedByte
    dsimp only
    split
    · exact increment32_block _ (Or.inl hi)
    · rfl
  unfold modemStoreReceivedByte
  dsimp only
  by_cases hfull : d.block receiveWriteIndex + 1 = d.block receiveReadIndex
  · have hpush : (d.view.receiveRing.push octet).2 = true := congrArg Prod.snd (if_pos hfull)
    rw [if_pos hfull, hpush, if_pos rfl]
    constructor
    · intro i hle hlt
      simp only [lastDataReport, traceNextSequence] at hle hlt
      rw [increment32_block _ (by simp only [receiveDiscardedCount]; omega),
        increment32_block _ (by simp only [receiveOverflowCount]; omega), block_store,
        Function.update_of_ne (by simp only [lastDiscardReason]; omega), block_store,
        Function.update_of_ne (by simp only [flags]; omega)]
    · rw [increment32_block _ (by decide), increment32_block _ (by decide), block_store, Function.update_self]
  · have hpush : (d.view.receiveRing.push octet).2 = false := congrArg Prod.snd (if_neg hfull)
    rw [if_neg hfull, hpush, if_neg Bool.false_ne_true]
    constructor
    · intro i hle hlt
      simp only [lastDataReport, traceNextSequence] at hle hlt
      rw [increment32_block _ (by simp only [receiveAcceptedCount]; omega), block_store,
        Function.update_of_ne (by simp only [receiveWriteIndex]; omega),
        hmirror _ _ (by simp only [terminalDroppedCount]; omega), block_store,
        Function.update_of_ne (by simp only [lastReceiveByte]; omega)]
      rfl
    · rw [increment32_block _ (by decide), block_store, Function.update_of_ne (by decide), hmirror _ _ (by decide),
        block_store, Function.update_of_ne (by decide)]
      rfl

variable (joyser1 : ℕ → UInt8)

lemma rol_view {offset : ℕ} (carry : Bool) (hhidden : Hidden offset) : (d.rol offset carry).1.view = d.view :=
  view_store_hidden d _ hhidden

lemma shiftReports_view (data status : Bool) : (shiftReports data status d).view = d.view := by
  unfold shiftReports rol16
  rw [rol_view _ _ (by decide), rol_view _ _ (by decide), rol_view _ _ (by decide), rol_view _ _ (by decide)]

lemma readBits_view (n : ℕ) : (readBits joyser1 n d).view = d.view := by
  induction n with
  | zero => rfl
  | succ n ih => exact (shiftReports_view _ _ _).trans ih

lemma alignReports_view (n : ℕ) : (alignReports n d).view = d.view := by
  induction n with
  | zero => rfl
  | succ n ih => exact (shiftReports_view _ _ _).trans ih

lemma clearReports_view : (clearReports d).view = d.view := by
  unfold clearReports
  iterate 4 rw [view_store_hidden _ _ (by decide)]

lemma transferReports_view : (transferReports joyser1 d).view = d.view := by
  rw [transferReports_eq, alignReports_view, readBits_view]
  unfold firstBits
  rw [rol_view _ _ (by decide), rol_view _ _ (by decide)]

end Port

/-! ### The waveforms -/

/-- After a waveform the block shows what its report makes of the driver, and goes on by the same conditions. -/
structure Brings (report : Modem.Report) (m : Modem) (receive : Receive) (d : Driver) : Prop where
  view : d.view = Link.view ⟨(m.storeReceived report.received).1, receive⟩
  more : moreToTransfer d =
    ((m.storeReceived report.received).2 || report.hint || !(m.storeReceived report.received).1.transmit.isEmpty)

section Waveforms

variable {d : Driver} {m : Modem} {receive : Receive} {joyser1 : ℕ → UInt8}

lemma more_eq (accepted : Bool) (hview : d.view = Link.view ⟨m, receive⟩) (hreported : Reported joyser1 d)
    (haccepted : d.block lastDiscardReason = DiscardReason.none.code ↔ accepted = true) :
    moreToTransfer d = (accepted || (portReport joyser1).hint || !m.transmit.isEmpty) := by
  have hring : d.transmitRing = m.transmit := congrArg View.transmitRing hview
  have hempty : decide (d.block transmitReadIndex ≠ d.block transmitWriteIndex) = !m.transmit.isEmpty := by
    rw [← hring]
    exact decide_not
  have hdiscard : decide (d.block lastDiscardReason = DiscardReason.none.code) = accepted := by
    simp [haccepted]
  have hhint : decide (d.block (lastStatusReport + 1) &&& transferHintMask ≠ 0) = (portReport joyser1).hint := by
    rw [Bool.eq_iff_iff, decide_eq_true_iff]
    exact hreported.hint_iff
  unfold moreToTransfer
  rw [hempty, hdiscard, hhint]

/-- Without an octet, the driver is left as it is. -/
lemma brings_absent (hview : d.view = Link.view ⟨m, receive⟩) (hreported : Reported joyser1 d)
    (habsent : dataLine (joyser1 8) = false) (hdiscard : d.block lastDiscardReason ≠ DiscardReason.none.code) :
    Brings (portReport joyser1) m receive d := by
  have hreceived : (portReport joyser1).received = none := by simp [portReport, habsent]
  have hmore := more_eq false hview hreported (by simp [hdiscard])
  constructor
  · rw [hreceived]
    exact hview
  · rw [hreceived]
    exact hmore

/-- An octet is stored, or the ring is full. -/
lemma receivePresent_brings (hview : d.view = Link.view ⟨m, receive⟩) (hreported : Reported joyser1 d)
    (hpresent : dataLine (joyser1 8) = true) : Brings (portReport joyser1) m receive (receivePresent d) := by
  have hreceived : (portReport joyser1).received = some (d.block (lastDataReport + 1)) := by
    simp [portReport, hpresent, hreported.octet]
  set cleared := d.store lastDiscardReason DiscardReason.none.code with hcleared
  have hview' : cleared.view = Link.view ⟨m, receive⟩ := (view_store_hidden d _ (by decide)).trans hview
  have hring : cleared.view.receiveRing = m.receive := congrArg View.receiveRing hview'
  have hoctet : cleared.block (lastDataReport + 1) = d.block (lastDataReport + 1) := by
    rw [hcleared, block_store, Function.update_of_ne (by decide)]
  obtain ⟨hstored, hcarry⟩ := modemStoreReceivedByte_view cleared (d.block (lastDataReport + 1))
  obtain ⟨hregisters, hreason⟩ := modemStoreReceivedByte_port cleared (d.block (lastDataReport + 1))
  have hnone : cleared.block lastDiscardReason = DiscardReason.none.code := by
    rw [hcleared, block_store, Function.update_self]
  rw [hview'] at hstored
  rw [hring] at hcarry
  rw [hring, hnone] at hreason
  -- The trace tells whether the octet was accepted, and leaves the rest alone.
  obtain ⟨kind, heq⟩ : ∃ kind, receivePresent d =
      modemRecordTrace kind (modemStoreReceivedByte (d.block (lastDataReport + 1)) cleared).1 := by
    unfold receivePresent
    dsimp only
    rw [← hcleared, hoctet]
    split
    · rename_i heq
      rw [heq]
      exact ⟨.rxDiscarded, rfl⟩
    · rename_i heq
      rw [heq]
      exact ⟨.rxAccepted, rfl⟩
  have hfinal : (receivePresent d).view =
      Link.view ⟨(m.storeReceived (portReport joyser1).received).1, receive⟩ := by
    rw [heq, modemRecordTrace_view, hstored, hreceived]
    rfl
  refine ⟨hfinal, more_eq _ hfinal (hreported.congr fun i hle hlt => ?_) ?_⟩
  · rw [heq, modemRecordTrace_port _ _ (Or.inr ⟨hle, hlt⟩), hregisters i hle hlt]
    exact Function.update_of_ne (by simp only [lastDataReport, lastDiscardReason] at hle ⊢; omega) _ _
  · rw [heq, modemRecordTrace_port _ _ (Or.inl rfl), hreason, hreceived]
    have haccepted : (m.storeReceived (some (d.block (lastDataReport + 1)))).2 =
        !(m.receive.push (d.block (lastDataReport + 1))).2 := rfl
    rw [haccepted]
    generalize (m.receive.push (d.block (lastDataReport + 1))).2 = full
    cases full <;> decide

/-- What the complete read leaves before the octet is looked at. -/
def completeReport (joyser1 : ℕ → UInt8) (d : Driver) : Driver :=
  modemRecordTrace .poll16
    ((readBits joyser1 16 (clearReports d)).store lastDiscardReason DiscardReason.fullReport.code)

/-- What the transfer leaves before the octet is looked at. -/
def transferReport (exposed : Bool) (joyser1 : ℕ → UInt8) (d : Driver) : Driver :=
  let hadTransmit : Bool :=
    (clearReports d).block transmitReadIndex ≠ (clearReports d).block transmitWriteIndex
  let reports := transferReports joyser1 (clearReports d)
  if hadTransmit then modemRecordTrace .tx (modemConsumeTransmitByte exposed reports) else reports

lemma readCompleteReport_eq (joyser1 : ℕ → UInt8) (d : Driver) :
    readCompleteReport joyser1 d =
      if (completeReport joyser1 d).block lastDataReport &&& receivePresentMask = 0 then completeReport joyser1 d
      else receivePresent (completeReport joyser1 d) := rfl

lemma modemTransfer9_eq (exposed : Bool) (joyser1 : ℕ → UInt8) (d : Driver) :
    modemTransfer9 exposed joyser1 d = modemRecordTrace .transfer9
      (if (transferReport exposed joyser1 d).block lastDataReport &&& receivePresentMask = receivePresentMask then
        receivePresent (transferReport exposed joyser1 d)
      else (transferReport exposed joyser1 d).store lastDiscardReason DiscardReason.noData.code) := rfl

lemma completeReport_view (joyser1 : ℕ → UInt8) (d : Driver) : (completeReport joyser1 d).view = d.view := by
  unfold completeReport
  rw [modemRecordTrace_view, view_store_hidden _ _ (by decide), readBits_view, clearReports_view]

lemma completeReport_reported (joyser1 : ℕ → UInt8) (d : Driver) : Reported joyser1 (completeReport joyser1 d) := by
  refine (readBits_reported joyser1 d).congr fun i hle hlt => ?_
  unfold completeReport
  rw [modemRecordTrace_port _ _ (Or.inr ⟨hle, hlt⟩), block_store,
    Function.update_of_ne (by simp only [lastDataReport, lastDiscardReason] at hle ⊢; omega)]

/-- A transfer has an octet to send, if the ring does. -/
lemma transferReport_eq (exposed : Bool) (joyser1 : ℕ → UInt8) (hview : d.view = Link.view ⟨m, receive⟩) :
    transferReport exposed joyser1 d =
      if m.transmit.isEmpty then transferReports joyser1 (clearReports d)
      else modemRecordTrace .tx (modemConsumeTransmitByte exposed (transferReports joyser1 (clearReports d))) := by
  have hring : (clearReports d).transmitRing = m.transmit :=
    congrArg View.transmitRing ((clearReports_view d).trans hview)
  have hhad : decide ((clearReports d).block transmitReadIndex ≠ (clearReports d).block transmitWriteIndex) =
      !m.transmit.isEmpty := by
    rw [← hring]
    exact decide_not
  unfold transferReport
  dsimp only
  rw [hhad]
  cases m.transmit.isEmpty <;> rfl

lemma transferReport_view (exposed : Bool) (joyser1 : ℕ → UInt8) (hview : d.view = Link.view ⟨m, receive⟩) :
    (transferReport exposed joyser1 d).view = Link.view ⟨{ m with transmit := m.transmit.consume }, receive⟩ := by
  rw [transferReport_eq exposed joyser1 hview]
  split
  · rename_i hempty
    rw [transferReports_view, clearReports_view, hview, Ring.consume, if_pos hempty]
  · rw [modemRecordTrace_view, modemConsumeTransmitByte_view, transferReports_view, clearReports_view, hview]
    rfl

lemma transferReport_reported (exposed : Bool) (joyser1 : ℕ → UInt8) (d : Driver) :
    Reported joyser1 (transferReport exposed joyser1 d) := by
  refine (transferReports_reported joyser1 d).congr fun i hle hlt => ?_
  unfold transferReport
  dsimp only
  split
  · rw [modemRecordTrace_port _ _ (Or.inr ⟨hle, hlt⟩), modemConsumeTransmitByte_port _ _ (Or.inr ⟨hle, hlt⟩)]
  · rfl

/-- **The complete read** does what its report does. -/
theorem readCompleteReport_brings (joyser1 : ℕ → UInt8) (hview : d.view = Link.view ⟨m, receive⟩) :
    Brings (portReport joyser1) m receive (readCompleteReport joyser1 d) := by
  have hviewRead := (completeReport_view joyser1 d).trans hview
  have hreported := completeReport_reported joyser1 d
  rw [readCompleteReport_eq]
  split
  · rename_i habsent
    refine brings_absent hviewRead hreported (hreported.absent_iff.mp habsent) ?_
    unfold completeReport
    rw [modemRecordTrace_port _ _ (Or.inl rfl), block_store, Function.update_self]
    decide
  · rename_i hpresent
    rw [hreported.absent_iff] at hpresent
    exact receivePresent_brings hviewRead hreported (by simpa using hpresent)

/-- **The transfer** sends the first octet of the ring, and does what its report does. -/
theorem modemTransfer9_brings (exposed : Bool) (joyser1 : ℕ → UInt8) (hview : d.view = Link.view ⟨m, receive⟩) :
    Brings (portReport joyser1) { m with transmit := m.transmit.consume } receive (modemTransfer9 exposed joyser1 d) := by
  have hviewSent := transferReport_view exposed joyser1 hview
  have hreported := transferReport_reported exposed joyser1 d
  rw [modemTransfer9_eq]
  generalize transferReport exposed joyser1 d = sent at hviewSent hreported ⊢
  have hbrings : Brings (portReport joyser1) { m with transmit := m.transmit.consume } receive
      (if sent.block lastDataReport &&& receivePresentMask = receivePresentMask then receivePresent sent
        else sent.store lastDiscardReason DiscardReason.noData.code) := by
    split
    · rename_i hpresent
      exact receivePresent_brings hviewSent hreported (hreported.present_iff.mp hpresent)
    · rename_i habsent
      rw [hreported.present_iff] at habsent
      refine brings_absent ?_ (hreported.congr fun i hle _ => ?_) (by simpa using habsent) ?_
      · rw [view_store_hidden _ _ (by decide), hviewSent]
      · exact Function.update_of_ne (by simp only [lastDataReport, lastDiscardReason] at hle ⊢; omega) _ _
      · rw [block_store, Function.update_self]
        decide
  refine ⟨(modemRecordTrace_view _ _).trans hbrings.view, ?_⟩
  rw [← hbrings.more]
  have htx : ∀ d : Driver, (modemRecordTrace .transfer9 d).transmitRing = d.transmitRing := fun d =>
    congrArg View.transmitRing (modemRecordTrace_view d .transfer9)
  unfold moreToTransfer
  rw [modemRecordTrace_port _ _ (Or.inl rfl), modemRecordTrace_port _ _ (Or.inr ⟨by decide, by decide⟩)]
  congr 1
  exact congrArg (fun r : Ring => decide (r.readIndex ≠ r.writeIndex)) (htx _)

end Waveforms

end Driver

end SnesModem.Asm
