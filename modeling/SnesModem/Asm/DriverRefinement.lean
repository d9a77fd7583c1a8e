import SnesModem.Asm.DriverView
import SnesModem.Rust.DiagnosticSnapshot

/-!
# The driver of the block refines the driver of reports

Poll by poll, from boot on: the modem that the rest of the development speaks of is the one that the diagnostic block
shows.

* `Shows`: the block and the variables beside it show a `Link`;
* `modemPoll_shows`, `modemSessionPoll_shows`, `modemAtBegin_shows`, `pppReceivePoll_shows`, `command_shows`: one rule
  for each poll;
* `Link.step`: the polls on a `Link`; `step_shows`: each step of the driver is one of the link;
* `shows_after`: so is each run.
-/

namespace SnesModem.Asm

open SnesModem.Lib SnesModem.Lib.Cpu65816 SnesModem.Lib.Octets Diagnostic

lemma DriverState.code_inj {state state' : DriverState} : state.code = state'.code ↔ state = state' := by
  cases state <;> cases state' <;> decide

lemma SessionResult.code_inj {result result' : SessionResult} : result.code = result'.code ↔ result = result' := by
  cases result <;> cases result' <;> decide

lemma AtStatus.code_inj {status status' : AtStatus} : status.code = status'.code ↔ status = status' := by
  cases status <;> cases status' <;> decide

namespace Driver

/-- The block and the variables beside it show a link. -/
def Shows (d : Driver) (s : Link) : Prop := d.view = s.view

section Reads

variable {d : Driver} {m : Modem} {receive : Receive} (h : Shows d ⟨m, receive⟩)

include h

lemma Shows.driverState_iff (state : DriverState) :
    d.block Diagnostic.driverState = state.code ↔ m.driverState = state := by
  have hstate : d.block Diagnostic.driverState = m.driverState.code := congrArg View.driverState h
  rw [hstate, DriverState.code_inj]

lemma Shows.lastResult_iff (result : SessionResult) : d.block sessionLastResult = result.code ↔ m.lastResult = result := by
  have hresult : d.block sessionLastResult = m.lastResult.code := congrArg View.lastResult h
  rw [hresult, SessionResult.code_inj]

lemma Shows.atStatus_iff (status : AtStatus) : d.block Diagnostic.atStatus = status.code ↔ m.atStatus = status := by
  have hstatus : d.block Diagnostic.atStatus = m.atStatus.code := congrArg View.atStatus h
  rw [hstatus, AtStatus.code_inj]

lemma Shows.receiveRing : d.receiveRing = m.receive := congrArg View.receiveRing h

lemma Shows.transmitRing : d.transmitRing = m.transmit := congrArg View.transmitRing h

lemma Shows.elapsed_reset (now : UInt32) :
    now.toUInt16 - d.word16 resetStartFrame = Modem.elapsed now m.resetStartFrame := by
  have hstart : longAt d.block resetStartFrame = m.resetStartFrame := congrArg View.resetStartFrame h
  unfold Modem.elapsed
  rw [← hstart, toUInt16_longAt]
  rfl

lemma Shows.elapsed_at (now : UInt32) :
    now.toUInt16 - d.word16 atStartFrame = Modem.elapsed now m.atStartFrame := by
  have hstart : longAt d.block atStartFrame = m.atStartFrame := congrArg View.atStartFrame h
  unfold Modem.elapsed
  rw [← hstart, toUInt16_longAt]
  rfl

end Reads

/-! ### The stores -/

section Stores

variable {d : Driver} {m : Modem} {receive : Receive} (h : Shows d ⟨m, receive⟩)

include h

lemma Shows.hidden {offset : ℕ} (octet : UInt8) (hhidden : Hidden offset) : Shows (d.store offset octet) ⟨m, receive⟩ :=
  (view_store_hidden d octet hhidden).trans h

lemma Shows.increment32 {offset : ℕ} (hhidden : ∀ i, offset ≤ i → i < offset + 4 → Hidden i) :
    Shows (d.increment32 offset) ⟨m, receive⟩ := (view_increment32 d hhidden).trans h

lemma Shows.setState (state : DriverState) : Shows (modemSetState state d) ⟨{ m with driverState := state }, receive⟩ := by
  have hview := modemSetState_view d state
  rw [h] at hview
  exact hview

lemma Shows.recordTrace (kind : TraceKind) : Shows (modemRecordTrace kind d) ⟨m, receive⟩ :=
  (modemRecordTrace_view d kind).trans h

lemma Shows.lastError (error : ModemError) :
    Shows (d.store Diagnostic.lastError error.code) ⟨{ m with lastError := error }, receive⟩ := by
  have hview := view_store_lastError d error.code
  rw [h] at hview
  exact hview

lemma Shows.pollTick (tick : Bool) :
    Shows (d.store Diagnostic.pollTick (if tick then 1 else 0)) ⟨{ m with pollTick := tick }, receive⟩ := by
  have hview := view_store_pollTick d (if tick then 1 else 0)
  rw [h] at hview
  exact hview

lemma Shows.lastResult (result : SessionResult) :
    Shows (d.store sessionLastResult result.code) ⟨{ m with lastResult := result }, receive⟩ := by
  have hview := view_store_lastResult d result.code
  rw [h] at hview
  exact hview

lemma Shows.lineLength (octet : UInt8) :
    Shows (d.store sessionLineLength octet) ⟨{ m with lineLength := octet }, receive⟩ := by
  have hview := view_store_lineLength d octet
  rw [h] at hview
  exact hview

lemma Shows.atStatus (status : AtStatus) :
    Shows (d.store Diagnostic.atStatus status.code) ⟨{ m with atStatus := status }, receive⟩ := by
  have hview := view_store_atStatus d status.code
  rw [h] at hview
  exact hview

lemma Shows.atExpectedResult (result : SessionResult) :
    Shows (d.store Diagnostic.atExpectedResult result.code) ⟨{ m with atExpectedResult := result }, receive⟩ := by
  have hview := view_store_atExpectedResult d result.code
  rw [h] at hview
  exact hview

lemma Shows.atStartFrame (now : UInt32) :
    Shows (d.store32 Diagnostic.atStartFrame now) ⟨{ m with atStartFrame := now }, receive⟩ := by
  have hview := view_store32_atStartFrame d now
  rw [h] at hview
  exact hview

lemma Shows.resetStartFrame (now : UInt32) :
    Shows (d.store32 Diagnostic.resetStartFrame now) ⟨{ m with resetStartFrame := now }, receive⟩ := by
  have hview := view_store32_resetStartFrame d now
  rw [h] at hview
  exact hview

lemma Shows.burstPending (pending : Bool) :
    Shows { d with burstPending := pending } ⟨{ m with burstPending := pending }, receive⟩ := by
  have hview : ({ d with burstPending := pending } : Driver).view = { d.view with burstPending := pending } := rfl
  rw [h] at hview
  exact hview

lemma Shows.probeSent (sent : Bool) : Shows { d with probeSent := sent } ⟨{ m with probeSent := sent }, receive⟩ := by
  have hview : ({ d with probeSent := sent } : Driver).view = { d.view with probeSent := sent } := rfl
  rw [h] at hview
  exact hview

lemma Shows.retryCount (count : UInt8) : Shows { d with retryCount := count } ⟨{ m with retryCount := count }, receive⟩ := by
  have hview : ({ d with retryCount := count } : Driver).view = { d.view with retryCount := count } := rfl
  rw [h] at hview
  exact hview

lemma Shows.probeStartFrame (now : UInt32) :
    Shows { d with probeStartFrame := now } ⟨{ m with probeStartFrame := now }, receive⟩ := by
  have hview : ({ d with probeStartFrame := now } : Driver).view = { d.view with probeStartFrame := now } := rfl
  rw [h] at hview
  exact hview

lemma Shows.atTimeoutFrames (frames : UInt16) :
    Shows { d with atTimeoutFrames := frames } ⟨{ m with atTimeoutFrames := frames }, receive⟩ := by
  have hview : ({ d with atTimeoutFrames := frames } : Driver).view = { d.view with atTimeoutFrames := frames } := rfl
  rw [h] at hview
  exact hview

lemma Shows.sessionLine (line : Buffer) : Shows { d with sessionLine := line } ⟨{ m with line := line }, receive⟩ := by
  have hview : ({ d with sessionLine := line } : Driver).view = { d.view with line := line } := rfl
  rw [h] at hview
  exact hview

lemma Shows.receivePath (receive' : Receive) : Shows { d with receive := receive' } ⟨m, receive'⟩ := by
  have hview : ({ d with receive := receive' } : Driver).view = { d.view with receive := receive' } := rfl
  rw [h] at hview
  exact hview

end Stores

/-! ### `poll.asm` -/

/-- The reports of so many transfers, from a read of the port on. -/
def transferReportsFrom (joyser1 : ℕ → UInt8) : ℕ → ℕ → List Modem.Report
  | 0, _ => []
  | budget + 1, n => portReport (fun i => joyser1 (n + i)) :: transferReportsFrom joyser1 budget (n + 9)

/-- The reports of a poll: the complete read, and the transfers that the budget allows. -/
def portReports (joyser1 : ℕ → UInt8) : List Modem.Report :=
  portReport joyser1 :: transferReportsFrom joyser1 Modem.pollBudget 16

section Poll

variable {d : Driver} {m : Modem} {receive : Receive}

/-- **The transfers** go on as those of the reports do. -/
theorem checkTransfer_shows (exposed : Bool) (joyser1 : ℕ → UInt8) (budget n : ℕ) {accepted hint : Bool}
    (h : Shows d ⟨m, receive⟩) (hmore : moreToTransfer d = (accepted || hint || !m.transmit.isEmpty)) :
    Shows (checkTransfer exposed joyser1 budget n d)
      ⟨Modem.transfers budget accepted hint (transferReportsFrom joyser1 budget n) m, receive⟩ := by
  induction budget generalizing n d m accepted hint with
  | zero =>
    unfold checkTransfer Modem.transfers
    rw [hmore]
    split
    · refine Shows.increment32 ((h.burstPending true).hidden _ (by decide)) fun i hle hlt => ?_
      simp only [Hidden, pollBudgetYieldCount] at hle hlt ⊢
      omega
    · exact h
  | succ budget ih =>
    have hbrings := modemTransfer9_brings exposed (fun i => joyser1 (n + i)) h
    unfold checkTransfer Modem.transfers transferReportsFrom
    rw [hmore]
    split
    · exact ih (n + 9) hbrings.view hbrings.more
    · exact h

lemma resetGuard_shows (now : UInt32) (h : Shows d ⟨m, receive⟩) :
    Shows (resetGuard now d)
      ⟨if m.driverState = .resetting && Modem.resetGuardFrames ≤ Modem.elapsed now m.resetStartFrame then
        { m with driverState := .probing } else m, receive⟩ := by
  unfold resetGuard
  simp only [h.driverState_iff, h.elapsed_reset]
  by_cases hguarded : m.driverState = .resetting ∧ Modem.resetGuardFrames ≤ Modem.elapsed now m.resetStartFrame
  · rw [if_pos hguarded, if_pos (by simpa using hguarded)]
    exact h.setState .probing
  · rw [if_neg hguarded, if_neg (by simpa using hguarded)]
    exact h

/-- What follows the guard of a reset. -/
lemma reports_shows (exposed : Bool) (joyser1 : ℕ → UInt8) (h : Shows d ⟨m, receive⟩) :
    Shows
      (if (readCompleteReport joyser1 d).block Diagnostic.driverState = DriverState.resetting.code then
        readCompleteReport joyser1 d
      else checkTransfer exposed joyser1 Modem.pollBudget 16 (readCompleteReport joyser1 d))
      ⟨if (m.storeReceived (portReport joyser1).received).1.driverState = .resetting then
        (m.storeReceived (portReport joyser1).received).1
      else
        Modem.transfers Modem.pollBudget (m.storeReceived (portReport joyser1).received).2 (portReport joyser1).hint
          (transferReportsFrom joyser1 Modem.pollBudget 16) (m.storeReceived (portReport joyser1).received).1,
        receive⟩ := by
  have hbrings := readCompleteReport_brings joyser1 h
  have hstate := Shows.driverState_iff hbrings.view .resetting
  by_cases hresetting : (m.storeReceived (portReport joyser1).received).1.driverState = .resetting
  · rw [if_pos (hstate.mpr hresetting), if_pos hresetting]
    exact hbrings.view
  · rw [if_neg (mt hstate.mp hresetting), if_neg hresetting]
    exact checkTransfer_shows exposed joyser1 Modem.pollBudget 16 hbrings.view hbrings.more

/-- A poll that has nothing to do. -/
lemma Shows.idle_iff (h : Shows d ⟨m, receive⟩) :
    (d.block Diagnostic.pollTick = 0 ∧ d.burstPending = false ∧
      d.block transmitReadIndex = d.block transmitWriteIndex) ↔
      (!m.pollTick && !m.burstPending && m.transmit.isEmpty) = true := by
  have htick : d.block Diagnostic.pollTick = if m.pollTick then 1 else 0 := congrArg View.pollTick h
  have hburst : d.burstPending = m.burstPending := congrArg View.burstPending h
  have hempty : d.block transmitReadIndex = d.block transmitWriteIndex ↔ m.transmit.isEmpty = true := by
    rw [← h.transmitRing]
    exact decide_eq_true_iff.symm
  rw [htick, hburst, hempty]
  cases m.pollTick <;> cases m.burstPending <;> simp

/-- The beginning of a poll clears the poll tick and the pending burst. -/
lemma cleared_shows (h : Shows d ⟨m, receive⟩) :
    Shows { (modemSnapshotBegin d).store Diagnostic.pollTick 0 with burstPending := false }
      ⟨{ m with pollTick := false, burstPending := false }, receive⟩ := by
  have hbegun : Shows (modemSnapshotBegin d) ⟨m, receive⟩ := (modemSnapshotBegin_view d).trans h
  exact (hbegun.pollTick false).burstPending false

/-- **A poll of the modem** does what its reports do. -/
theorem modemPoll_shows (now : UInt32) (exposed : Bool) (joyser1 : ℕ → UInt8) (h : Shows d ⟨m, receive⟩) :
    Shows (modemPoll now exposed joyser1 d) ⟨Asm.modemPoll now (portReports joyser1) m, receive⟩ := by
  unfold modemPoll Asm.modemPoll
  simp only [h.driverState_iff .off, h.driverState_iff .error]
  split
  · exact h
  by_cases hwaits : (!m.pollTick && !m.burstPending && m.transmit.isEmpty) = true
  · rw [if_pos (h.idle_iff.mpr hwaits), if_pos hwaits]
    exact h
  rw [if_neg (mt h.idle_iff.mp hwaits), if_neg hwaits]
  unfold Shows
  rw [modemSnapshotEnd_view]
  exact reports_shows exposed joyser1 (resetGuard_shows now (cleared_shows h))

end Poll

/-! ### `initialize.asm` and `session.asm` -/

section Session

variable {d : Driver} {m : Modem} {receive : Receive}

lemma modemResetQueues_shows (h : Shows d ⟨m, receive⟩) :
    Shows (modemResetQueues d) ⟨Asm.modemResetQueues m, receive⟩ := by
  unfold Shows
  rw [modemResetQueues_view, h]
  rfl

lemma resetVariables_shows (now : UInt32) (h : Shows d ⟨m, receive⟩) :
    Shows (({ d with probeSent := false, retryCount := 0 }.store sessionLineLength 0).store32 resetStartFrame now)
      ⟨{ m with probeSent := false, retryCount := 0, lineLength := 0, resetStartFrame := now }, receive⟩ :=
  (((h.probeSent false).retryCount 0).lineLength 0).resetStartFrame now

lemma modemInitialize_shows (now : UInt32) (h : Shows d ⟨m, receive⟩) :
    Shows (modemInitialize now d) ⟨Asm.modemInitialize now m, receive⟩ := by
  have hbegun : Shows (modemSnapshotBegin d) ⟨m, receive⟩ := (modemSnapshotBegin_view d).trans h
  have hvariables := resetVariables_shows now (modemResetQueues_shows hbegun)
  have hhidden : ∀ i, reinitializeCount ≤ i → i < reinitializeCount + 4 → Hidden i := by
    intro i hle hlt
    simp only [Hidden, reinitializeCount] at hle hlt ⊢
    omega
  have hcounted := hvariables.increment32 hhidden
  exact (modemSnapshotEnd_view _).trans (hcounted.setState .resetting)

/-- What a call leaves, and whether the carry is set. -/
lemma modemQueueByte_shows (octet : UInt8) (h : Shows d ⟨m, receive⟩) :
    Shows (modemQueueByte octet d).1 ⟨{ m with transmit := (m.transmit.push octet).1 }, receive⟩ ∧
      (modemQueueByte octet d).2 = (m.transmit.push octet).2 := by
  obtain ⟨hview, hcarry⟩ := modemQueueByte_view d octet
  rw [h] at hview hcarry
  exact ⟨hview, hcarry⟩

lemma queueBytes_shows (octets : List UInt8) (h : Shows d ⟨m, receive⟩) :
    Shows (queueBytes octets d).1 ⟨(Modem.queueBytes octets m).1, receive⟩ ∧
      (queueBytes octets d).2 = (Modem.queueBytes octets m).2 := by
  induction octets generalizing d m with
  | nil => exact ⟨h, rfl⟩
  | cons octet octets ih =>
    obtain ⟨hqueued, hcarry⟩ := modemQueueByte_shows octet h
    unfold queueBytes Modem.queueBytes
    rcases hdriver : modemQueueByte octet d with ⟨d', full⟩
    rcases hmodem : m.transmit.push octet with ⟨transmit, full'⟩
    rw [hdriver, hmodem] at hqueued hcarry
    obtain rfl : full = full' := hcarry
    cases full with
    | true => exact ⟨hqueued, rfl⟩
    | false => exact ih hqueued

/-- What is read, and what the ring still holds. -/
lemma modemReadByte_shows (h : Shows d ⟨m, receive⟩) :
    Shows (modemReadByte d).1 ⟨{ m with receive := (m.receive.pop.map Prod.snd).getD m.receive }, receive⟩ ∧
      (modemReadByte d).2 = m.receive.pop.map Prod.fst := by
  obtain ⟨hview, hread⟩ := modemReadByte_view d
  rw [h] at hview hread
  exact ⟨hview, hread⟩

lemma finishLine_shows (h : Shows d ⟨m, receive⟩) : Shows (finishLine d) ⟨m.finishLine, receive⟩ := by
  have hline : d.sessionLine = m.line := congrArg View.line h
  have hlength : d.block sessionLineLength = m.lineLength := congrArg View.lineLength h
  unfold finishLine Modem.finishLine
  rw [hline, hlength]
  cases Modem.lineResult (read m.line 0 m.lineLength.toNat) with
  | none => exact h.lineLength 0
  | some result => exact (h.lastResult result).lineLength 0

lemma feedByte_shows (octet : UInt8) (h : Shows d ⟨m, receive⟩) : Shows (feedByte octet d) ⟨m.feedByte octet, receive⟩ := by
  have hline : d.sessionLine = m.line := congrArg View.line h
  have hlength : d.block sessionLineLength = m.lineLength := congrArg View.lineLength h
  unfold feedByte Modem.feedByte
  dsimp only
  rw [hlength, hline]
  split
  · exact h
  split
  · exact finishLine_shows h
  split
  · exact h.lineLength 0
  · exact (h.sessionLine _).lineLength _

/-- **The lines that the session reads** are the same. -/
theorem readResponse_shows (fuel : ℕ) (h : Shows d ⟨m, receive⟩) :
    Shows (readResponse fuel d).1 ⟨(Modem.readResponse fuel m).1, receive⟩ ∧
      (readResponse fuel d).2 = (Modem.readResponse fuel m).2 := by
  induction fuel generalizing d m with
  | zero => exact ⟨h, rfl⟩
  | succ fuel ih =>
    obtain ⟨hshows, hread⟩ := modemReadByte_shows h
    unfold readResponse Modem.readResponse
    rcases hdriver : modemReadByte d with ⟨d', octet?⟩
    rw [hdriver] at hshows hread
    obtain rfl : octet? = m.receive.pop.map Prod.fst := hread
    cases hpop : m.receive.pop with
    | none =>
      rw [hpop] at hshows
      exact ⟨hshows, rfl⟩
    | some popped =>
      obtain ⟨octet, ring⟩ := popped
      rw [hpop] at hshows
      have hfed := feedByte_shows octet hshows
      have hresult := hfed.lastResult_iff .none
      dsimp only [Option.map_some] at hfed hresult ⊢
      by_cases hnone : (({ m with receive := ring } : Modem).feedByte octet).lastResult = .none
      · rw [if_pos (hresult.mpr hnone), if_pos hnone]
        exact ih hfed
      · rw [if_neg (mt hresult.mp hnone), if_neg hnone]
        exact ⟨hfed, rfl⟩

lemma setError_shows (h : Shows d ⟨m, receive⟩) : Shows (setError d) ⟨{ m with driverState := .error }, receive⟩ :=
  (h.setState .error).recordTrace .error

lemma hidden_timeoutCount : ∀ i, timeoutCount ≤ i → i < timeoutCount + 4 → Hidden i := by
  intro i hle hlt
  simp only [Hidden, timeoutCount] at hle hlt ⊢
  omega

lemma probeRejected_shows (h : Shows d ⟨m, receive⟩) : Shows (probeRejected d) ⟨m.probeRejected, receive⟩ := by
  have hcount : d.retryCount = m.retryCount := congrArg View.retryCount h
  have hcounted := (h.lastError .probeRejected).retryCount (m.retryCount + 1)
  unfold probeRejected Modem.probeRejected
  dsimp only
  rw [hcount]
  split
  · exact setError_shows hcounted
  · exact ((hcounted.probeSent false).lineLength 0).lastResult .none

lemma checkProbeTimeout_shows (now : UInt32) (h : Shows d ⟨m, receive⟩) :
    Shows (checkProbeTimeout now d) ⟨m.checkProbeTimeout now, receive⟩ := by
  have hstart : d.probeStartFrame = m.probeStartFrame := congrArg View.probeStartFrame h
  have hcount : d.retryCount = m.retryCount := congrArg View.retryCount h
  have hcounted := (h.increment32 hidden_timeoutCount).retryCount (m.retryCount + 1)
  unfold checkProbeTimeout Modem.checkProbeTimeout
  dsimp only
  rw [hstart, hcount]
  split
  · exact h
  split
  · exact setError_shows ((hcounted.hidden _ (by decide)).lastError .probeTimeout)
  · exact (hcounted.probeSent false).lineLength 0

lemma readProbe_shows (now : UInt32) (h : Shows d ⟨m, receive⟩) : Shows (readProbe now d) ⟨m.readProbe now, receive⟩ := by
  obtain ⟨hshows, hfound⟩ := readResponse_shows Modem.ringFuel h
  unfold readProbe Modem.readProbe
  rcases hdriver : readResponse Modem.ringFuel d with ⟨d', found⟩
  rcases hmodem : Modem.readResponse Modem.ringFuel m with ⟨m', found'⟩
  rw [hdriver, hmodem] at hshows hfound
  obtain rfl : found = found' := hfound
  cases found with
  | false => exact checkProbeTimeout_shows now hshows
  | true =>
    have hresult := hshows.lastResult_iff .ok
    dsimp only at hshows hresult ⊢
    by_cases hok : m'.lastResult = .ok
    · rw [if_pos (hresult.mpr hok), if_pos hok]
      exact hshows.setState .ready
    · rw [if_neg (mt hresult.mp hok), if_neg hok]
      exact probeRejected_shows hshows

lemma pollProbe_shows (now : UInt32) (h : Shows d ⟨m, receive⟩) : Shows (pollProbe now d) ⟨m.pollProbe now, receive⟩ := by
  have hsent : d.probeSent = m.probeSent := congrArg View.probeSent h
  obtain ⟨hshows, hcarry⟩ := queueBytes_shows Modem.probe h
  unfold pollProbe Modem.pollProbe
  rw [hsent]
  split
  · exact readProbe_shows now h
  rcases hdriver : queueBytes Modem.probe d with ⟨d', full⟩
  rcases hmodem : Modem.queueBytes Modem.probe m with ⟨m', full'⟩
  rw [hdriver, hmodem] at hshows hcarry
  obtain rfl : full = full' := hcarry
  cases full with
  | true => exact hshows
  | false => exact readProbe_shows now (((hshows.probeSent true).lastResult .none).probeStartFrame now)

lemma atPassed_shows (h : Shows d ⟨m, receive⟩) : Shows (atPassed d) ⟨m.atPassed, receive⟩ := by
  have hpassed := h.atStatus .passed
  have hexpected : (d.store Diagnostic.atStatus AtStatus.passed.code).block Diagnostic.atExpectedResult =
      m.atExpectedResult.code := congrArg View.atExpectedResult hpassed
  unfold atPassed Modem.atPassed
  dsimp only
  rw [hexpected]
  by_cases hconnect : m.atExpectedResult = .connect
  · rw [if_pos hconnect, if_pos (congrArg SessionResult.code hconnect)]
    exact hpassed.setState .connected
  · rw [if_neg hconnect, if_neg (mt SessionResult.code_inj.mp hconnect)]
    exact hpassed.setState .ready

lemma atRejected_shows (h : Shows d ⟨m, receive⟩) : Shows (atRejected d) ⟨m.atRejected, receive⟩ :=
  setError_shows ((h.lastError .atRejected).atStatus .failed)

lemma checkAtTimeout_shows (now : UInt32) (h : Shows d ⟨m, receive⟩) :
    Shows (checkAtTimeout now d) ⟨m.checkAtTimeout now, receive⟩ := by
  have hframes : d.atTimeoutFrames = m.atTimeoutFrames := congrArg View.atTimeoutFrames h
  unfold checkAtTimeout Modem.checkAtTimeout
  rw [h.elapsed_at, hframes]
  split
  · exact h
  · exact setError_shows
      ((((h.increment32 hidden_timeoutCount).hidden _ (by decide)).lastError .atTimeout).atStatus .failed)

lemma pollAt_shows (now : UInt32) (h : Shows d ⟨m, receive⟩) : Shows (pollAt now d) ⟨m.pollAt now, receive⟩ := by
  obtain ⟨hshows, hfound⟩ := readResponse_shows Modem.ringFuel h
  unfold pollAt Modem.pollAt
  rcases hdriver : readResponse Modem.ringFuel d with ⟨d', found⟩
  rcases hmodem : Modem.readResponse Modem.ringFuel m with ⟨m', found'⟩
  rw [hdriver, hmodem] at hshows hfound
  obtain rfl : found = found' := hfound
  cases found with
  | false => exact checkAtTimeout_shows now hshows
  | true =>
    have hexpected : d'.block Diagnostic.atExpectedResult = m'.atExpectedResult.code :=
      congrArg View.atExpectedResult hshows
    have hresult : d'.block sessionLastResult = m'.lastResult.code := congrArg View.lastResult hshows
    dsimp only
    rw [hexpected, hresult]
    simp only [SessionResult.code_inj]
    split
    · exact atPassed_shows hshows
    · exact atRejected_shows hshows

/-- **A poll of the session** is that of the driver of reports. -/
theorem modemSessionPoll_shows (now : UInt32) (h : Shows d ⟨m, receive⟩) :
    Shows (modemSessionPoll now d) ⟨Asm.modemSessionPoll now m, receive⟩ := by
  unfold modemSessionPoll Asm.modemSessionPoll
  simp only [h.atStatus_iff, h.driverState_iff]
  split
  · exact pollAt_shows now h
  split
  · exact pollProbe_shows now h
  · exact h

/-! ### `modemAtBegin` -/

lemma atInvalid_shows (h : Shows d ⟨m, receive⟩) : Shows (atInvalid d) ⟨m.atInvalid, receive⟩ :=
  (h.lastError .atInvalid).atStatus .failed

lemma atStart_shows (now : UInt32) (expected : SessionResult) (timeoutFrames : UInt16) (h : Shows d ⟨m, receive⟩) :
    Shows (atStart now expected timeoutFrames d)
      ⟨{ m with
        atExpectedResult := expected
        atTimeoutFrames := timeoutFrames
        lastResult := .none
        lineLength := 0
        atStartFrame := now
        atStatus := .running
        driverState := Modem.transactionState expected }, receive⟩ := by
  have hexpected := (h.atExpectedResult expected).atTimeoutFrames timeoutFrames
  have hcleared := ((hexpected.lastResult .none).lineLength 0).atStartFrame now
  exact (hcleared.atStatus .running).setState (Modem.transactionState expected)

/-- **The beginning of a transaction** is that of the driver of reports. -/
theorem modemAtBegin_shows (now : UInt32) (arguments : Buffer) (h : Shows d ⟨m, receive⟩) :
    Shows (modemAtBegin now arguments d) ⟨(Asm.modemAtBegin now arguments m).1, receive⟩ := by
  obtain ⟨hqueued, hcarry⟩ := queueBytes_shows (read arguments 4 (arguments 3).toNat) h
  unfold modemAtBegin Asm.modemAtBegin
  dsimp only
  cases Modem.expectedResult (arguments 0) with
  | none => exact atInvalid_shows h
  | some expected =>
    dsimp only
    simp only [ne_eq, h.driverState_iff, h.transmitRing]
    split
    · exact atInvalid_shows h
    rcases hdriver : queueBytes (read arguments 4 (arguments 3).toNat) d with ⟨d', full⟩
    rcases hmodem : Modem.queueBytes (read arguments 4 (arguments 3).toNat) m with ⟨m', full'⟩
    rw [hdriver, hmodem] at hqueued hcarry
    obtain rfl : full = full' := hcarry
    cases full with
    | true => exact atInvalid_shows hqueued
    | false => exact atStart_shows now expected _ hqueued

end Session

end Driver

/-! ### The polls of a link -/

/-- So many octets are taken, or what there is. -/
def Ring.skip (count : ℕ) (r : Ring) : Ring := (fun r => ((r.pop).map Prod.snd).getD r)^[count] r

namespace Ring

variable {r r' : Ring} {octet : UInt8}

lemma skip_succ_of_pop (h : r.pop = some (octet, r')) (count : ℕ) : r.skip (count + 1) = r'.skip count := by
  unfold skip
  rw [Function.iterate_succ_apply, h]
  rfl

lemma skip_of_pop_none (h : r.pop = none) (count : ℕ) : r.skip count = r := by
  unfold skip
  induction count with
  | zero => rfl
  | succ count ih =>
    rw [Function.iterate_succ_apply, h]
    exact ih

/-- A read moves the read index alone. -/
lemma drained_of_pop (h : r.pop = some (octet, r')) :
    ({ r' with readIndex := r'.writeIndex } : Ring) = { r with readIndex := r.writeIndex } := by
  unfold pop at h
  split at h
  · exact absurd h nofun
  · obtain ⟨-, rfl⟩ := Prod.mk.inj (Option.some_inj.mp h)
    rfl

lemma drained_of_isEmpty (h : r.isEmpty = true) : ({ r with readIndex := r.writeIndex } : Ring) = r := by
  cases r with
  | mk storage readIndex writeIndex =>
    obtain rfl : readIndex = writeIndex := by simpa [isEmpty] using h
    rfl

/-- Enough reads empty the ring. -/
lemma skip_of_le {count : ℕ} (h : r.held ≤ count) : r.skip count = { r with readIndex := r.writeIndex } := by
  induction count generalizing r with
  | zero =>
    have hempty : r.isEmpty = true := held_eq_zero_iff.mp (by omega)
    exact (drained_of_isEmpty hempty).symm
  | succ count ih =>
    cases hpop : r.pop with
    | none =>
      rw [skip_of_pop_none hpop, drained_of_isEmpty (contents_eq_nil_iff.mp (contents_of_pop_none hpop))]
    | some popped =>
      obtain ⟨octet, r'⟩ := popped
      have hlength := congrArg List.length (contents_of_pop hpop)
      rw [length_contents, List.length_cons, length_contents] at hlength
      rw [skip_succ_of_pop hpop, ih (by omega), drained_of_pop hpop]

end Ring

namespace Link

/-- How many octets a drain takes. -/
def taken : ℕ → List UInt8 → Receive → ℕ
  | 0, _, _ => 0
  | _, [], _ => 0
  | budget + 1, octet :: octets, r =>
    match pppReceivePushConnectedByte r octet with
    | (_, true) => 1
    | (r, false) => if r.frameReady then 1 else taken budget octets r + 1

/-- `pppReceivePoll` on the octets of the ring. -/
def receivePoll (s : Link) : Link :=
  let connected : Bool := s.modem.driverState = .connected
  let ring := s.modem.receive.contents
  let drains := s.receive.enabled && connected && !(activate s.receive).frameReady
  let count := if drains then taken receiveDrainBudget ring (activate s.receive) else 0
  let lost := drains && Driver.losesCarrier receiveDrainBudget ring (activate s.receive)
  ⟨Exchange.receive count lost s.modem, pppReceivePoll connected ring s.receive⟩

end Link

end SnesModem.Asm

namespace SnesModem.Asm.Driver

open SnesModem.Lib SnesModem.Lib.Cpu65816 SnesModem.Lib.Octets Diagnostic

section Receive

variable {d : Driver} {m : Modem} {receive : Receive}

lemma carrierLost_shows (h : Shows d ⟨m, receive⟩) :
    Shows (carrierLost d) ⟨{ m with lastResult := .noCarrier, lineLength := 0, driverState := .ready }, receive⟩ :=
  ((h.lastResult .noCarrier).lineLength 0).setState .ready

lemma takeBytes_shows (count : ℕ) (h : Shows d ⟨m, receive⟩) :
    Shows (takeBytes count d) ⟨{ m with receive := m.receive.skip count }, receive⟩ := by
  induction count generalizing d m with
  | zero => exact h
  | succ count ih =>
    obtain ⟨hshows, hread⟩ := modemReadByte_shows h
    unfold takeBytes
    rcases hdriver : modemReadByte d with ⟨d', octet?⟩
    rw [hdriver] at hshows hread
    obtain rfl : octet? = m.receive.pop.map Prod.fst := hread
    cases hpop : m.receive.pop with
    | none =>
      rw [hpop] at hshows
      rw [Ring.skip_of_pop_none hpop]
      exact hshows
    | some popped =>
      obtain ⟨octet, ring⟩ := popped
      rw [hpop] at hshows
      rw [Ring.skip_succ_of_pop hpop]
      exact ih hshows

/-- **The drain** takes the octets of the ring one by one, as that of a list does. -/
theorem drain_shows (budget : ℕ) (h : Shows d ⟨m, receive⟩) :
    Shows (drain budget d)
      ⟨if losesCarrier budget m.receive.contents receive then
        { m with
          receive := { m.receive with readIndex := m.receive.writeIndex }
          lastResult := .noCarrier
          lineLength := 0
          driverState := .ready }
      else { m with receive := m.receive.skip (Link.taken budget m.receive.contents receive) },
      Asm.drain budget m.receive.contents receive⟩ := by
  have hpath : d.receive = receive := congrArg View.receive h
  induction budget generalizing d m receive with
  | zero => exact h
  | succ budget ih =>
    obtain ⟨hshows, hread⟩ := modemReadByte_shows h
    unfold drain
    rcases hdriver : modemReadByte d with ⟨d', octet?⟩
    rw [hdriver] at hshows hread
    obtain rfl : octet? = m.receive.pop.map Prod.fst := hread
    cases hpop : m.receive.pop with
    | none =>
      rw [hpop] at hshows
      rw [Ring.contents_of_pop_none hpop]
      exact hshows
    | some popped =>
      obtain ⟨octet, ring⟩ := popped
      rw [hpop] at hshows
      have hpath' : d'.receive = receive := congrArg View.receive hshows
      rw [Ring.contents_of_pop hpop]
      dsimp only [Option.map_some]
      unfold losesCarrier Link.taken Asm.drain
      rw [hpath']
      rcases hpush : pppReceivePushConnectedByte receive octet with ⟨r, lost⟩
      have hpushed := hshows.receivePath r
      cases lost with
      | true =>
        -- What the ring still holds is discarded.
        have hdiscarded := takeBytes_shows Modem.ringFuel (carrierLost_shows hpushed)
        dsimp only [Option.map_some, Option.getD_some] at hdiscarded ⊢
        rw [Ring.skip_of_le (Nat.le_of_lt (Ring.held_lt _)), Ring.drained_of_pop hpop] at hdiscarded
        exact hdiscarded
      | false =>
        dsimp only
        have hpath'' : ({ d' with receive := r } : Driver).receive = r := rfl
        by_cases hready : r.frameReady = true
        · have hone : m.receive.skip 1 = ring := Ring.skip_succ_of_pop hpop 0
          simp only [hready, if_true, Bool.not_true, Bool.false_and, Bool.false_eq_true, if_false, hone]
          exact hpushed
        · have hrest := ih hpushed hpath''
          simp only [Option.map_some, Option.getD_some] at hrest
          simp only [hready, Bool.not_false, Bool.true_and, Bool.false_eq_true, if_false, Ring.skip_succ_of_pop hpop]
          rw [Ring.drained_of_pop hpop] at hrest
          exact hrest

lemma receive_of_connected (hconnected : m.driverState = .connected) (count : ℕ) (lost : Bool) :
    Exchange.receive count lost m =
      if lost then
        { m with
          receive := { m.receive with readIndex := m.receive.writeIndex }
          lastResult := .noCarrier
          lineLength := 0
          driverState := .ready }
      else { m with receive := m.receive.skip count } := if_neg (not_not_intro hconnected)

lemma receive_of_not_connected (hconnected : m.driverState ≠ .connected) (count : ℕ) (lost : Bool) :
    Exchange.receive count lost m = m := if_pos hconnected

/-- **The receive poll** is that of the link: the ring that it drains is what the ring of the block holds. -/
theorem pppReceivePoll_shows (h : Shows d ⟨m, receive⟩) : Shows (pppReceivePoll d) (Link.receivePoll ⟨m, receive⟩) := by
  have hpath : d.receive = receive := congrArg View.receive h
  unfold pppReceivePoll Link.receivePoll Asm.pppReceivePoll
  dsimp only
  rw [hpath]
  by_cases hconnected : m.driverState = .connected
  · have hstate : d.block Diagnostic.driverState = DriverState.connected.code := (h.driverState_iff .connected).mpr hconnected
    rw [receive_of_connected hconnected, decide_eq_true hconnected]
    by_cases henabled : receive.enabled = true
    · by_cases hready : (activate receive).frameReady = true
      · simp only [hstate, henabled, hready, ne_eq, not_true_eq_false, decide_false, Bool.not_true, Bool.or_false,
          Bool.and_false, Bool.false_and, Bool.false_eq_true, if_false, if_true]
        exact h.receivePath (activate receive)
      · have hdrained := drain_shows receiveDrainBudget (h.receivePath (activate receive))
        simp only [hstate, henabled, hready, ne_eq, not_true_eq_false, decide_false, Bool.not_true, Bool.not_false,
          Bool.or_false, Bool.and_true, Bool.true_and, Bool.false_eq_true, if_false, if_true]
        exact hdrained
    · have hdisabled : receive.enabled = false := by simpa using henabled
      have hidle := h.receivePath { receive with active := false }
      rw [hdisabled] at hidle
      simp only [hstate, hdisabled, ne_eq, not_true_eq_false, decide_false, Bool.not_false, Bool.or_false,
        Bool.false_and, Bool.false_eq_true, if_false, if_true]
      exact hidle
  · have hstate : d.block Diagnostic.driverState ≠ DriverState.connected.code :=
      mt (h.driverState_iff .connected).mp hconnected
    rw [receive_of_not_connected hconnected, decide_eq_false hconnected]
    simp only [hstate, ne_eq, not_false_eq_true, decide_true, Bool.not_false, Bool.or_true, if_true]
    exact h.receivePath { receive with active := false }

end Receive

end SnesModem.Asm.Driver

/-! ### The main loop on a link -/

namespace SnesModem.Asm

open SnesModem.Lib SnesModem.Lib.Cpu65816 SnesModem.Lib.Octets Diagnostic

def DriverState.ofCode (octet : UInt8) : Option DriverState :=
  [DriverState.off, .resetting, .probing, .ready, .error, .atCommand, .dialing, .connected, .disconnecting].find?
    fun state => state.code = octet

def SessionResult.ofCode (octet : UInt8) : Option SessionResult :=
  [SessionResult.none, .ok, .error, .connect, .noCarrier, .busy, .noDialtone].find? fun result => result.code = octet

/-- A store of the self-test that leaves a state or a result which the drivers know. -/
def Driver.SelfTestStore.Known : Driver.SelfTestStore → Prop
  | .driverState octet => (DriverState.ofCode octet).isSome
  | .lastResult octet => (SessionResult.ofCode octet).isSome
  | _ => True

def Driver.DriverCommand.Known : Driver.DriverCommand → Prop
  | .selfTest stores _ => ∀ store ∈ stores, store.Known
  | _ => True

def Driver.Poll.Known : Driver.Poll → Prop
  | .mailbox _ command => command.Known
  | _ => True

namespace Link

def applyStore (m : Modem) : Driver.SelfTestStore → Modem
  | .driverState octet => { m with driverState := (DriverState.ofCode octet).getD m.driverState }
  | .lastResult octet => { m with lastResult := (SessionResult.ofCode octet).getD m.lastResult }
  | .lineLength octet => { m with lineLength := octet }
  | .carrierLost => { m with lastResult := .noCarrier, lineLength := 0, driverState := .ready }

def queue (octets : List UInt8) (s : Link) : Link := { s with modem := (Modem.queueBytes octets s.modem).1 }

def take (count : ℕ) (s : Link) : Link :=
  { s with modem := { s.modem with receive := s.modem.receive.skip count } }

/-- The octets are queued, which takes a connection and an empty ring. -/
def binaryQueue (octets : List UInt8) (s : Link) : Link :=
  if s.modem.driverState ≠ .connected ∨ !s.modem.transmit.isEmpty then s else s.queue octets

def command (now : UInt32) (s : Link) : Driver.DriverCommand → Link
  | .reset => { s with modem := modemInitialize now s.modem }
  | .quickTest => { s with modem := modemInitialize now s.modem }
  | .clearTrace => s
  | .freezeTrace => s
  | .resumeTrace => s
  | .atTransaction arguments => { s with modem := (modemAtBegin now arguments s.modem).1 }
  | .binaryTransmit arguments =>
    let length := (arguments 0).toNat
    if length = 0 ∨ Driver.binaryChunkMaxLength < length then s else s.binaryQueue (read arguments 1 length)
  | .binaryReceive =>
    if s.modem.driverState = .connected ∨ s.modem.driverState = .ready then s.take Driver.binaryChunkMaxLength else s
  | .binaryStressTransmit => s.binaryQueue ((List.range Driver.ringCapacity).map UInt8.ofNat)
  | .selfTest stores receive => ⟨stores.foldl applyStore s.modem, receive⟩

/-- The polls of the main loop, with the reports instead of the reads of the port. -/
def step (s : Link) : Driver.Poll → Link
  | .mailbox now c => s.command now c
  | .modem now _ joyser1 => { s with modem := modemPoll now (Driver.portReports joyser1) s.modem }
  | .session now => { s with modem := modemSessionPoll now s.modem }
  | .receive => s.receivePoll
  | .queue octets => s.queue octets
  | .take count => s.take count
  | .other receive => { s with receive := receive }
  | .controller _ => s
  | .vBlank _ => { s with modem := { s.modem with pollTick := true } }

def boot : Link := ⟨modemInitializeDiagnostics, pppReceiveInitialize default⟩

/-- The link after a run from boot. -/
def after (polls : List Driver.Poll) : Link := Run.run step boot polls

end Link

namespace Driver

section Steps

variable {d : Driver} {m : Modem} {receive : Receive}

lemma applyStore_shows {store : SelfTestStore} (hknown : store.Known) (h : Shows d ⟨m, receive⟩) :
    Shows (store.apply d) ⟨Link.applyStore m store, receive⟩ := by
  cases store with
  | driverState octet =>
    obtain ⟨state, hstate⟩ := Option.isSome_iff_exists.mp hknown
    have hcode : state.code = octet := by simpa using List.find?_some hstate
    have hstored := view_store_driverState d octet
    rw [h] at hstored
    unfold Link.applyStore
    dsimp only
    rw [hstate]
    subst hcode
    exact hstored
  | lastResult octet =>
    obtain ⟨result, hresult⟩ := Option.isSome_iff_exists.mp hknown
    have hcode : result.code = octet := by simpa using List.find?_some hresult
    unfold Link.applyStore
    dsimp only
    rw [hresult]
    subst hcode
    exact h.lastResult result
  | lineLength octet => exact h.lineLength octet
  | carrierLost => exact carrierLost_shows h

lemma applyStores_shows {stores : List SelfTestStore} (hknown : ∀ store ∈ stores, store.Known)
    (h : Shows d ⟨m, receive⟩) :
    Shows (stores.foldl SelfTestStore.apply d) ⟨stores.foldl Link.applyStore m, receive⟩ := by
  induction stores generalizing d m with
  | nil => exact h
  | cons store stores ih =>
    have hfirst := applyStore_shows (hknown store List.mem_cons_self) h
    exact ih (fun store hmem => hknown store (List.mem_cons_of_mem _ hmem)) hfirst

lemma binaryQueue_shows (octets : List UInt8) (h : Shows d ⟨m, receive⟩) :
    Shows (binaryQueue octets d) (Link.binaryQueue octets ⟨m, receive⟩) := by
  unfold binaryQueue Link.binaryQueue
  simp only [ne_eq, h.driverState_iff, h.transmitRing]
  split
  · exact h
  · exact (queueBytes_shows octets h).1

/-- **A command** does what it does to the link. -/
theorem command_shows (now : UInt32) {c : DriverCommand} (hknown : c.Known) (h : Shows d ⟨m, receive⟩) :
    Shows (command now d c) (Link.command now ⟨m, receive⟩ c) := by
  cases c with
  | reset => exact modemInitialize_shows now h
  | quickTest => exact modemInitialize_shows now h
  | clearTrace => exact (modemClearTrace_view d).trans h
  | freezeTrace => exact h.hidden _ (by decide)
  | resumeTrace => exact h.hidden _ (by decide)
  | atTransaction arguments => exact modemAtBegin_shows now arguments h
  | binaryTransmit arguments =>
    unfold command Link.command
    dsimp only
    split
    · exact h
    · exact binaryQueue_shows _ h
  | binaryReceive =>
    unfold command Link.command
    simp only [h.driverState_iff]
    split
    · exact takeBytes_shows _ h
    · exact h
  | binaryStressTransmit => exact binaryQueue_shows _ h
  | selfTest stores receive' => exact (applyStores_shows hknown h).receivePath receive'

/-- **A step of the driver is one of the link.** -/
theorem step_shows {s : Link} {poll : Poll} (hknown : poll.Known) (h : Shows d s) : Shows (d.step poll) (s.step poll) := by
  obtain ⟨m, receive⟩ := s
  cases poll with
  | mailbox now c => exact command_shows now hknown h
  | modem now exposed joyser1 => exact modemPoll_shows now exposed joyser1 h
  | session now => exact modemSessionPoll_shows now h
  | receive => exact pppReceivePoll_shows h
  | queue octets => exact (queueBytes_shows octets h).1
  | take count => exact takeBytes_shows count h
  | other receive' => exact h.receivePath receive'
  | controller ticked => exact h
  | vBlank displayReadIndex => exact h.pollTick true

/-- **A run of the driver is one of the link.** -/
theorem shows_after {polls : List Poll} (hknown : ∀ poll ∈ polls, poll.Known) : Shows (after polls) (Link.after polls) := by
  have hboot : Shows boot Link.boot := rfl
  unfold after Link.after
  generalize boot = d at hboot ⊢
  generalize Link.boot = s at hboot ⊢
  induction polls generalizing d s with
  | nil => exact hboot
  | cons poll polls ih =>
    exact ih (fun poll hmem => hknown poll (List.mem_cons_of_mem _ hmem)) _ _
      (step_shows (hknown poll List.mem_cons_self) hboot)

end Steps

/-! ### What the host decodes -/

open SnesModem.Rust.Protocol (DiagnosticSnapshot)
open SnesModem.Lib.Md5 (leWord leNat toNat_leWord)

/-- The state as the host names it. -/
def hostState : Asm.DriverState → SnesModem.Rust.Protocol.DriverState
  | .off => .off
  | .resetting => .resetting
  | .probing => .probing
  | .ready => .ready
  | .error => .error
  | .atCommand => .atCommand
  | .dialing => .dialing
  | .connected => .connected
  | .disconnecting => .disconnecting

/-- A snapshot tells what a modem is like. -/
structure Tells (snapshot : DiagnosticSnapshot) (m : Modem) : Prop where
  driverState : snapshot.driverState = hostState m.driverState
  lastError : snapshot.lastError = m.lastError.code
  pollTick : snapshot.pollTick = m.pollTick
  receiveIndexes : snapshot.rxReadIndex = m.receive.readIndex ∧ snapshot.rxWriteIndex = m.receive.writeIndex
  transmitIndexes : snapshot.txReadIndex = m.transmit.readIndex ∧ snapshot.txWriteIndex = m.transmit.writeIndex
  receiveUsed : snapshot.rxUsed.toNat = m.receive.contents.length
  transmitUsed : snapshot.txUsed.toNat = m.transmit.contents.length
  resetStartFrame : snapshot.resetStartFrame = m.resetStartFrame
  atStatus : snapshot.atStatus = m.atStatus.code
  atExpectedResult : snapshot.atExpectedResult = m.atExpectedResult.code
  lastResult : snapshot.sessionLastResult = m.lastResult.code
  lineLength : snapshot.sessionLineLength = m.lineLength
  atStartFrame : snapshot.atStartFrame = m.atStartFrame

section Decode

variable (block : Buffer)

lemma readU16_block {offset : ℕ} (hoffset : offset + 2 ≤ blockSize) :
    SnesModem.Rust.Protocol.readU16 (read block 0 blockSize) offset =
      .ok (word (block (offset + 1)) (block offset)) := by
  unfold SnesModem.Rust.Protocol.readU16
  rw [length_read, if_neg (by omega), getD_read _ _ (by omega), getD_read _ _ (by omega), Nat.zero_add, Nat.zero_add]

lemma leWord_read (offset : ℕ) : leWord (read block offset 4) = longAt block offset := by
  have hread : read block offset 4 = [block offset, block (offset + 1), block (offset + 2), block (offset + 3)] := rfl
  rw [← UInt32.toNat_inj, hread, toNat_leWord, toNat_longAt]
  unfold leNat
  omega

lemma readU32_block {offset : ℕ} (hoffset : offset + 4 ≤ blockSize) :
    SnesModem.Rust.Protocol.readU32 (read block 0 blockSize) offset = .ok (longAt block offset) := by
  unfold SnesModem.Rust.Protocol.readU32
  rw [length_read, if_neg (by omega), drop_read _ _ (by omega), take_read _ _ (by omega), Nat.zero_add, leWord_read]

lemma tryFrom_code (state : Asm.DriverState) :
    SnesModem.Rust.Protocol.DriverState.tryFrom state.code = .ok (hostState state) := by
  cases state <;> rfl

/-- **The host decodes what a driver shows**, while the sequence is even. -/
theorem decode_of_shows {d : Driver} {m : Modem} {receive : Receive} (h : Shows d ⟨m, receive⟩)
    (heven : ¬ Locked d.block) :
    ∃ snapshot, DiagnosticSnapshot.decode (read d.block 0 blockSize) = .ok snapshot ∧ Tells snapshot m := by
  have hheader : read d.block 0 8 = header := congrArg View.header h
  have hstate : d.block 12 = m.driverState.code := congrArg View.driverState h
  have hmagic : (read d.block 0 blockSize).take 4 = SnesModem.Rust.Protocol.diagnosticMagic := by
    rw [take_read _ _ (by decide), ← take_read d.block 0 (show 4 ≤ 8 by decide), hheader]
    rfl
  have hoctet : ∀ i < 8, d.block i = header.getD i 0 := by
    intro i hi
    rw [← hheader, getD_read _ _ hi, Nat.zero_add]
  have hversion : word (d.block (4 + 1)) (d.block 4) = 2 := by
    rw [hoctet _ (by decide), hoctet _ (by decide)]
    rfl
  have hsize : (word (d.block (6 + 1)) (d.block 6)).toNat = 128 := by
    rw [hoctet _ (by decide), hoctet _ (by decide)]
    rfl
  have hsequence : longAt d.block 8 &&& 1 = 0 := by
    rw [locked_iff] at heven
    have hone : (1 : UInt32).toNat = 1 := rfl
    rw [← UInt32.toNat_inj, UInt32.toNat_and, hone, Nat.and_one_is_mod, toNat_longAt]
    have hzero : (0 : UInt32).toNat = 0 := rfl
    simp only [snapshotSequence] at heven
    omega
  have hgetD : ∀ i < 128, (read d.block 0 blockSize).getD i 0 = d.block i := by
    intro i hi
    rw [getD_read _ _ hi, Nat.zero_add]
  have hlength : (read d.block 0 blockSize).length = 128 := length_read _ _ _
  unfold DiagnosticSnapshot.decode
  simp (disch := decide) only [SnesModem.Rust.Protocol.ensure, hlength, hmagic, readU16_block, readU32_block, hgetD,
    hstate, tryFrom_code, bind, Except.bind, pure, Except.pure, hversion, hsize, hsequence, decide_true, if_true,
    le_refl]
  have htick : d.block 16 = if m.pollTick then 1 else 0 := congrArg View.pollTick h
  have hreceive := h.receiveRing
  have htransmit := h.transmitRing
  refine ⟨_, rfl, ?_⟩
  exact
    { driverState := rfl
      lastError := congrArg View.lastError h
      pollTick := by
        dsimp only
        rw [htick]
        cases m.pollTick <;> decide
      receiveIndexes := ⟨congrArg Ring.readIndex hreceive, congrArg Ring.writeIndex hreceive⟩
      transmitIndexes := ⟨congrArg Ring.readIndex htransmit, congrArg Ring.writeIndex htransmit⟩
      receiveUsed := by
        rw [Ring.length_contents, ← hreceive]
        rfl
      transmitUsed := by
        rw [Ring.length_contents, ← htransmit]
        rfl
      resetStartFrame := congrArg View.resetStartFrame h
      atStatus := congrArg View.atStatus h
      atExpectedResult := congrArg View.atExpectedResult h
      lastResult := congrArg View.lastResult h
      lineLength := congrArg View.lineLength h
      atStartFrame := congrArg View.atStartFrame h }

end Decode

/-- A reset, and a poll that brings an octet from a port whose lines are all asserted. -/
def resetAndPoll : List Poll := [.mailbox 0 .reset, .vBlank 0, .modem 1 false fun _ => 3]

end Driver

end SnesModem.Asm
