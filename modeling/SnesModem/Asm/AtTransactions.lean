import SnesModem.Asm.Exchange

/-!
# AT transactions and the state of the driver

* `Consistent`: the driver is in a state of a transaction exactly while one is running;
* `Leaves`: a refused transaction leaves the one in progress and the TX ring alone;
* `transactions_consistent`: the first holds in every run that begins no transaction while one is running, and the
  second exactly while none is.
-/

namespace SnesModem.Asm.AtTransactions

open SnesModem.Lib SnesModem.Lib.Cpu65816 SnesModem.Lib.Octets

/-- `AT_COMMAND`, `DIALING` and `DISCONNECTING`. -/
def inTransaction (state : DriverState) : Prop := state = .atCommand ∨ state = .dialing ∨ state = .disconnecting

/-- The driver is in a state of a transaction exactly while one is running. -/
def Consistent (m : Modem) : Prop := inTransaction m.driverState ↔ m.atStatus = .running

/-- The state of the driver and the status of the transaction are left alone. -/
structure SameDriver (m m' : Modem) : Prop where
  driverState : m'.driverState = m.driverState
  atStatus : m'.atStatus = m.atStatus

lemma SameDriver.refl (m : Modem) : SameDriver m m := ⟨rfl, rfl⟩

lemma SameDriver.trans {m m' m'' : Modem} (h : SameDriver m m') (h' : SameDriver m' m'') : SameDriver m m'' :=
  ⟨h'.driverState.trans h.driverState, h'.atStatus.trans h.atStatus⟩

lemma SameDriver.consistent {m m' : Modem} (h : SameDriver m m') (hconsistent : Consistent m) : Consistent m' := by
  unfold Consistent
  rw [h.driverState, h.atStatus]
  exact hconsistent

/-- A driver out of all transactions, none of which is running. -/
lemma consistent_of_neither {m : Modem} (hstate : ¬ inTransaction m.driverState) (hstatus : m.atStatus ≠ .running) :
    Consistent m := iff_of_false hstate hstatus

lemma resetting_out : ¬ inTransaction .resetting := by simp [inTransaction]

lemma probing_out : ¬ inTransaction .probing := by simp [inTransaction]

lemma ready_out : ¬ inTransaction .ready := by simp [inTransaction]

lemma error_out : ¬ inTransaction .error := by simp [inTransaction]

lemma connected_out : ¬ inTransaction .connected := by simp [inTransaction]

/-! ### What leaves the driver alone -/

lemma queueBytes_same (octets : List UInt8) (m : Modem) : SameDriver m (Modem.queueBytes octets m).1 := by
  induction octets generalizing m with
  | nil => exact .refl m
  | cons octet octets ih =>
    unfold Modem.queueBytes
    split
    · exact ⟨rfl, rfl⟩
    · rename_i transmit _
      have hqueued : SameDriver m { m with transmit := transmit } := ⟨rfl, rfl⟩
      exact hqueued.trans (ih _)

lemma storeReceived_same (m : Modem) (received : Option UInt8) : SameDriver m (m.storeReceived received).1 := by
  cases received with
  | none => exact .refl m
  | some octet => exact ⟨rfl, rfl⟩

lemma transfers_same (budget : ℕ) (accepted hint : Bool) (reports : List Modem.Report) (m : Modem) :
    SameDriver m (Modem.transfers budget accepted hint reports m) := by
  induction budget generalizing accepted hint reports m with
  | zero =>
    unfold Modem.transfers
    split
    · exact ⟨rfl, rfl⟩
    · exact .refl m
  | succ budget ih =>
    unfold Modem.transfers
    split
    · have hconsumed : SameDriver m { m with transmit := m.transmit.consume } := ⟨rfl, rfl⟩
      have hstored := storeReceived_same { m with transmit := m.transmit.consume } (reports.headD {}).received
      exact (hconsumed.trans hstored).trans (ih _ _ _ _)
    · exact .refl m

lemma feedByte_same (m : Modem) (octet : UInt8) : SameDriver m (m.feedByte octet) := by
  unfold Modem.feedByte Modem.finishLine
  split
  · exact .refl m
  split
  · split <;> exact ⟨rfl, rfl⟩
  split <;> exact ⟨rfl, rfl⟩

lemma readResponse_same (fuel : ℕ) (m : Modem) : SameDriver m (Modem.readResponse fuel m).1 := by
  induction fuel generalizing m with
  | zero => exact .refl m
  | succ fuel ih =>
    unfold Modem.readResponse
    split
    · exact .refl m
    · rename_i octet receive _
      have htaken : SameDriver m { m with receive := receive } := ⟨rfl, rfl⟩
      have hfed := htaken.trans (feedByte_same { m with receive := receive } octet)
      dsimp only
      split
      · exact hfed.trans (ih _)
      · exact hfed

/-! ### The polls -/

lemma modemInitialize_consistent (now : UInt32) (m : Modem) : Consistent (modemInitialize now m) :=
  consistent_of_neither resetting_out nofun

lemma modemPoll_consistent (now : UInt32) (reports : List Modem.Report) {m : Modem} (h : Consistent m) :
    Consistent (modemPoll now reports m) := by
  unfold modemPoll
  split
  · exact h
  split
  · exact h
  extract_lets m1 guarded m2 report
  have hm2 : Consistent m2 := by
    by_cases hguarded : guarded = true
    · -- The guard time of a reset is over: the driver is in no transaction, before and after.
      have hresetting : m.driverState = .resetting := by
        simp only [guarded, Bool.and_eq_true, decide_eq_true_eq] at hguarded
        exact hguarded.1
      have hnot : m.atStatus ≠ .running := by
        intro hrunning
        have hstate := h.mpr hrunning
        rw [hresetting] at hstate
        exact resetting_out hstate
      have hprobing : m2 = { m1 with driverState := .probing } := if_pos hguarded
      rw [hprobing]
      exact consistent_of_neither probing_out hnot
    · have hsame : m2 = m1 := if_neg hguarded
      rw [hsame]
      exact h
  have hstored := (storeReceived_same m2 report.received).consistent hm2
  split
  rename_i m3 accepted hreport
  rw [hreport] at hstored
  split
  · exact hstored
  · exact (transfers_same _ _ _ _ _).consistent hstored

lemma pollProbe_consistent (now : UInt32) {m : Modem} (hstatus : m.atStatus ≠ .running)
    (hstate : m.driverState = .probing) : Consistent (m.pollProbe now) := by
  -- Whatever the probe comes to, no transaction is running, and the driver is probing, ready or in error.
  have hread : ∀ m : Modem, m.atStatus ≠ .running → m.driverState = .probing → Consistent (m.readProbe now) := by
    intro m hstatus hstate
    have hsame := readResponse_same Modem.ringFuel m
    have hstatus' := hsame.atStatus ▸ hstatus
    have hstate' := hsame.driverState.trans hstate
    unfold Modem.readProbe
    split
    · rename_i m' heq
      rw [heq] at hstatus' hstate'
      unfold Modem.checkProbeTimeout
      split
      · exact consistent_of_neither (by rw [hstate']; exact probing_out) hstatus'
      extract_lets m1
      split
      · exact consistent_of_neither error_out hstatus'
      · refine consistent_of_neither ?_ hstatus'
        change ¬ inTransaction m'.driverState
        rw [hstate']
        exact probing_out
    · rename_i m' heq
      rw [heq] at hstatus' hstate'
      split
      · exact consistent_of_neither ready_out hstatus'
      unfold Modem.probeRejected
      extract_lets m1
      split
      · exact consistent_of_neither error_out hstatus'
      · refine consistent_of_neither ?_ hstatus'
        change ¬ inTransaction m'.driverState
        rw [hstate']
        exact probing_out
  unfold Modem.pollProbe
  split
  · exact hread m hstatus hstate
  have hsame := queueBytes_same Modem.probe m
  have hstatus' := hsame.atStatus ▸ hstatus
  have hstate' := hsame.driverState.trans hstate
  split
  · rename_i m' heq
    rw [heq] at hstatus' hstate'
    exact consistent_of_neither (by rw [hstate']; exact probing_out) hstatus'
  · rename_i m' heq
    rw [heq] at hstatus' hstate'
    exact hread _ hstatus' hstate'

lemma pollAt_consistent (now : UInt32) {m : Modem} (h : Consistent m) : Consistent (m.pollAt now) := by
  have hresponse := (readResponse_same Modem.ringFuel m).consistent h
  unfold Modem.pollAt
  split
  · rename_i m' heq
    rw [heq] at hresponse
    unfold Modem.checkAtTimeout
    split
    · exact hresponse
    · exact consistent_of_neither error_out nofun
  · split
    · unfold Modem.atPassed
      refine consistent_of_neither ?_ nofun
      dsimp only
      split
      · exact connected_out
      · exact ready_out
    · exact consistent_of_neither error_out nofun

lemma modemSessionPoll_consistent (now : UInt32) {m : Modem} (h : Consistent m) :
    Consistent (modemSessionPoll now m) := by
  unfold modemSessionPoll
  split
  · exact pollAt_consistent now h
  split
  · exact pollProbe_consistent now (by assumption) (by assumption)
  · exact h

lemma receive_consistent (taken : ℕ) (carrierLost : Bool) {m : Modem} (h : Consistent m) :
    Consistent (Exchange.receive taken carrierLost m) := by
  unfold Exchange.receive
  by_cases hconnected : m.driverState = .connected
  · have hstatus : m.atStatus ≠ .running := by
      intro hrunning
      have hstate := h.mpr hrunning
      rw [hconnected] at hstate
      exact connected_out hstate
    rw [if_neg (not_not_intro hconnected)]
    split
    · exact consistent_of_neither ready_out hstatus
    · exact h
  · rw [if_pos hconnected]
    exact h

lemma transmit_consistent (octets : List UInt8) {m : Modem} (h : Consistent m) :
    Consistent (Exchange.transmit octets m) := by
  unfold Exchange.transmit
  split
  · exact h
  · exact (queueBytes_same octets m).consistent h

/-! ### The beginning of a transaction -/

/-- A ring takes what it has room for. -/
lemma queueBytes_fits (octets : List UInt8) (m : Modem)
    (h : (m.transmit.writeIndex - m.transmit.readIndex).toNat + octets.length ≤ 255) :
    (Modem.queueBytes octets m).2 = false := by
  induction octets generalizing m with
  | nil => rfl
  | cons octet octets ih =>
    rw [List.length_cons] at h
    have hread := m.transmit.readIndex.toNat_lt
    have hwrite := m.transmit.writeIndex.toNat_lt
    have hroom : ¬ m.transmit.writeIndex + 1 = m.transmit.readIndex := by
      intro hfull
      have hfull' := congrArg UInt8.toNat hfull
      rw [UInt8.toNat_add, UInt8.toNat_one] at hfull'
      rw [UInt8.toNat_sub] at h
      omega
    have hpush : m.transmit.push octet = ({ m.transmit with
        storage := Function.update m.transmit.storage m.transmit.writeIndex.toNat octet
        writeIndex := m.transmit.writeIndex + 1 }, false) := if_neg hroom
    unfold Modem.queueBytes
    rw [hpush]
    refine ih _ ?_
    change (m.transmit.writeIndex + 1 - m.transmit.readIndex).toNat + octets.length ≤ 255
    rw [UInt8.toNat_sub] at h ⊢
    rw [UInt8.toNat_add, UInt8.toNat_one]
    omega

/-- A transaction is refused as a whole, or it runs in a driver that was in none. -/
lemma modemAtBegin_cases (now : UInt32) (arguments : Buffer) (m : Modem) :
    modemAtBegin now arguments m = (m.atInvalid, true) ∨
      (m.driverState = .ready ∨ m.driverState = .connected) ∧ (modemAtBegin now arguments m).2 = false ∧
        inTransaction (modemAtBegin now arguments m).1.driverState ∧
        (modemAtBegin now arguments m).1.atStatus = .running := by
  unfold modemAtBegin
  extract_lets timeoutFrames length
  split
  · exact Or.inl rfl
  · rename_i expected _
    split
    · exact Or.inl rfl
    · rename_i hvalid
      push Not at hvalid
      obtain ⟨hstate, hempty, -, hlength, -⟩ := hvalid
      have hfits : (Modem.queueBytes (read arguments 4 length) m).2 = false := by
        refine queueBytes_fits _ _ ?_
        have hsame : m.transmit.readIndex = m.transmit.writeIndex := by simpa [Ring.isEmpty] using hempty
        rw [hsame, sub_self, length_read]
        exact (Nat.zero_add length).trans_le (hlength.trans (by decide))
      right
      refine ⟨by cases expected <;> simp_all [Modem.expectedState], ?_⟩
      split
      · rename_i m' heq
        rw [heq] at hfits
        contradiction
      · refine ⟨rfl, ?_, rfl⟩
        cases expected <;> simp [inTransaction, Modem.transactionState]

/-- What `modemAtBegin` must leave alone if it refuses: the octets that wait, and the transaction in progress. -/
def Leaves (now : UInt32) (arguments : Buffer) (m : Modem) : Prop :=
  (modemAtBegin now arguments m).2 = true →
    (modemAtBegin now arguments m).1.transmit = m.transmit ∧
      (m.atStatus = .running →
        (modemAtBegin now arguments m).1.atStatus = m.atStatus ∧
        (modemAtBegin now arguments m).1.atExpectedResult = m.atExpectedResult ∧
        (modemAtBegin now arguments m).1.atStartFrame = m.atStartFrame ∧
        (modemAtBegin now arguments m).1.atTimeoutFrames = m.atTimeoutFrames ∧
        (modemAtBegin now arguments m).1.line = m.line ∧
        (modemAtBegin now arguments m).1.lineLength = m.lineLength)

/-- A transaction in progress is left alone by no refusal, and every begin is refused. -/
lemma leaves_iff {m : Modem} (h : Consistent m) (now : UInt32) (arguments : Buffer) :
    Leaves now arguments m ↔ m.atStatus ≠ .running := by
  rcases modemAtBegin_cases now arguments m with hrefused | ⟨hstate, haccepted, -, -⟩
  · unfold Leaves
    rw [hrefused]
    constructor
    · intro hleaves hrunning
      obtain ⟨-, htransaction⟩ := hleaves rfl
      have hstatus : AtStatus.failed = m.atStatus := (htransaction hrunning).1
      rw [hrunning] at hstatus
      contradiction
    · intro hidle _
      exact ⟨rfl, fun hrunning => absurd hrunning hidle⟩
  · constructor
    · intro _ hrunning
      have hin := h.mpr hrunning
      rcases hstate with hstate | hstate
      · rw [hstate] at hin
        exact ready_out hin
      · rw [hstate] at hin
        exact connected_out hin
    · intro _ hrefused
      rw [haccepted] at hrefused
      contradiction

/-! ### The commands -/

lemma speedTestTransmit_same (now : UInt32) (fuel : ℕ) (c : Console) :
    SameDriver c.modem (c.speedTestTransmit now fuel).modem := by
  induction fuel generalizing c with
  | zero => exact .refl _
  | succ fuel ih =>
    unfold Console.speedTestTransmit
    split
    · split
      · exact .refl _
      · exact .refl _
    extract_lets t c'
    split
    · exact .refl _
    split
    · exact .refl _
    · refine SameDriver.trans ?_ (ih _)
      exact ⟨rfl, rfl⟩

lemma speedTestReceive_same (now : UInt32) (fuel : ℕ) (c : Console) :
    SameDriver c.modem (c.speedTestReceive now fuel).modem := by
  induction fuel generalizing c with
  | zero => exact .refl _
  | succ fuel ih =>
    unfold Console.speedTestReceive
    split
    · exact .refl _
    split
    · exact .refl _
    · refine SameDriver.trans ?_ (ih _)
      exact ⟨rfl, rfl⟩

lemma speedTestPoll_same (now : UInt32) (c : Console) : SameDriver c.modem (c.speedTestPoll now).modem := by
  unfold Console.speedTestPoll
  split
  · exact .refl _
  · split
    · exact speedTestTransmit_same now _ c
    · exact .refl _
  · split
    · exact speedTestReceive_same now _ c
    · exact .refl _

lemma binaryQueue_same (octets : List UInt8) (c : Console) : SameDriver c.modem (c.binaryQueue octets).modem := by
  have hqueued := queueBytes_same octets c.modem
  unfold Console.binaryQueue
  split
  · exact .refl _
  split
  · rename_i m heq
    rw [heq] at hqueued
    exact hqueued
  · rename_i m heq
    rw [heq] at hqueued
    exact hqueued

lemma binaryReceiveLoop_same (left : ℕ) (x : UInt8) (c : Console) :
    SameDriver c.modem (c.binaryReceiveLoop left x).modem := by
  induction left generalizing x c with
  | zero => exact .refl _
  | succ left ih =>
    unfold Console.binaryReceiveLoop
    split
    · exact .refl _
    · refine SameDriver.trans ?_ (ih _ _)
      exact ⟨rfl, rfl⟩

lemma stackCommand_same (answer : Console.Answer) (c : Console) :
    SameDriver c.modem (c.stackCommand answer).modem := by
  unfold Console.stackCommand
  split
  · exact .refl _
  · exact .refl _

lemma speedTestBegin_same (mode : SpeedTestMode) (now : UInt32) (c : Console) :
    SameDriver c.modem (c.speedTestBegin mode now).1.modem := by
  unfold Console.speedTestBegin
  extract_lets length seed bytesPerFrame
  split
  · exact .refl _
  · exact .refl _

lemma prbs_same {m : Modem} {begun : Console × Bool} (h : SameDriver m begun.1.modem) :
    SameDriver m (Console.prbs begun).modem := by
  unfold Console.prbs
  split
  · exact h
  · exact h

/-- A command of the mailbox keeps the driver consistent, unless it begins a transaction while one is running. -/
lemma dispatch_consistent (now : UInt32) (answer : Console.Answer) {c : Console} (h : Consistent c.modem)
    (hguard : c.mailbox.command = Console.commandAtTransaction → c.modem.atStatus ≠ .running) :
    Consistent (c.dispatch now answer).modem := by
  unfold Console.dispatch
  extract_lets _ c'
  split
  · exact modemInitialize_consistent now c.modem
  · exact modemInitialize_consistent now c.modem
  · exact h
  · exact h
  · exact h
  · rename_i hcommand
    have hidle := hguard (UInt8.toNat_inj.mp hcommand)
    have hcases := modemAtBegin_cases now c.mailbox.arguments c.modem
    unfold Console.atTransaction
    split
    · rename_i m heq
      have heq' : modemAtBegin now c.mailbox.arguments c.modem = (m, true) := heq
      rcases hcases with hrefused | ⟨-, haccepted, -⟩
      · have hm : m = c.modem.atInvalid := by
          rw [hrefused] at heq'
          exact (Prod.mk.inj heq').1.symm
        subst hm
        exact consistent_of_neither (fun hin => hidle (h.mp hin)) nofun
      · rw [heq'] at haccepted
        contradiction
    · rename_i m heq
      have heq' : modemAtBegin now c.mailbox.arguments c.modem = (m, false) := heq
      rcases hcases with hrefused | ⟨-, -, hin, hrunning⟩
      · rw [hrefused] at heq'
        cases heq'
      · rw [heq'] at hin hrunning
        exact iff_of_true hin hrunning
  · unfold Console.binaryTransmit
    extract_lets length
    split
    · exact h
    · exact (binaryQueue_same _ _).consistent h
  · unfold Console.binaryReceive
    split
    · exact (binaryReceiveLoop_same _ _ _).consistent h
    · exact h
  · exact (binaryQueue_same _ _).consistent h
  · exact (stackCommand_same answer _).consistent h
  · exact h
  · exact h
  · exact (stackCommand_same answer _).consistent h
  · exact (stackCommand_same answer _).consistent h
  · exact (stackCommand_same answer _).consistent h
  · exact h
  · exact h
  · exact h
  · exact (stackCommand_same answer _).consistent h
  · exact (stackCommand_same answer _).consistent h
  · refine (prbs_same ?_).consistent h
    unfold Console.speedTestBeginTransmit
    split
    · exact .refl _
    · exact speedTestBegin_same .transmit now c'
  · refine (prbs_same ?_).consistent h
    unfold Console.speedTestBeginReceive
    split
    · exact .refl _
    · exact speedTestBegin_same .receive now c'
  · exact h

/-! ### The runs -/

/-- No transaction is begun while one is running. -/
def Unhurried (s : Exchange) : ExchangeStep → Prop
  | .dispatch _ _ => s.phase = .newCommand → s.console.mailbox.command = Console.commandAtTransaction →
    s.console.modem.atStatus ≠ .running
  | _ => True

instance (s : Exchange) (i : ExchangeStep) : Decidable (Unhurried s i) := by
  cases i with
  | dispatch now answer => exact inferInstanceAs (Decidable (_ → _ → _))
  | _ => exact inferInstanceAs (Decidable True)

lemma step_consistent (s : Exchange) (i : ExchangeStep) (h : Consistent s.console.modem) (hguard : Unhurried s i) :
    Consistent (s.step i).console.modem := by
  cases i with
  | hostRead => exact h
  | hostPost command arguments =>
    unfold Exchange.step
    dsimp only
    split
    · split
      · exact h
      · exact h
    · exact h
  | hostGiveUp => exact h
  | look =>
    have hlook : (s.look).console.modem = s.console.modem := by
      change s.console.look.1.modem = s.console.modem
      unfold Console.look Console.pollQuickTest Console.pollAtTransaction
      split
      · split <;> rfl
      split
      · split <;> rfl
      · rfl
    unfold Exchange.step
    dsimp only
    split
    · rw [hlook]
      exact h
    · exact h
  | dispatch now answer =>
    unfold Exchange.step
    dsimp only
    split
    · rename_i hphase
      exact dispatch_consistent now answer h (hguard hphase)
    · exact h
  | commit =>
    unfold Exchange.step
    dsimp only
    split
    · exact h
    · exact h
  | vBlank => exact h
  | modemPoll now reports =>
    unfold Exchange.step
    dsimp only
    split
    · exact modemPoll_consistent now reports h
    · exact h
  | speedTestPoll now =>
    unfold Exchange.step
    dsimp only
    split
    · exact (speedTestPoll_same now s.console).consistent h
    · exact h
  | sessionPoll now =>
    unfold Exchange.step
    dsimp only
    split
    · exact modemSessionPoll_consistent now h
    · exact h
  | receivePoll taken carrierLost =>
    unfold Exchange.step
    dsimp only
    split
    · exact receive_consistent taken carrierLost h
    · exact h
  | transmitPoll octets =>
    unfold Exchange.step
    dsimp only
    split
    · exact transmit_consistent octets h
    · exact h

section Scenario

/-- A command of the host that the console runs at once. -/
def command (number : UInt8) (arguments : List UInt8) (now : UInt32) : List ExchangeStep :=
  [.hostRead, .hostPost number arguments, .look, .dispatch now {}, .commit]

/-- The modem is initialized, and answers the probe with `OK`. -/
def powerUp : List ExchangeStep :=
  command 0x01 [] 0 ++ [.vBlank, .modemPoll 600 [], .sessionPoll 600, .modemPoll 601
    ([0x4f, 0x4b, 0x0d, 0x0a].map fun octet => ⟨some octet, false⟩), .sessionPoll 601]

/-- `AT`, a carriage return, and a minute for `OK`. -/
def attention : List UInt8 := [1, 0x10, 0x0e, 3, 0x41, 0x54, 0x0d]

/-- A transaction that is left running. -/
def begun : List ExchangeStep := powerUp ++ command 0x06 attention 700

/-- The same with another command, and with the same transaction after it. -/
def hurried : List ExchangeStep := begun ++ command 0x03 [] 701 ++ command 0x06 attention 702

end Scenario

end SnesModem.Asm.AtTransactions
