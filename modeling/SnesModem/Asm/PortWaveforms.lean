import SnesModem.Asm.AtTransactions
import SnesModem.Asm.DriverRefinement
import SnesModem.Lib.LatchedSerial

/-!
# What the modem hears on the controller port

The stores into `JOYOUT` and `WRIO` and the reads of `JOYSER1`, in the order in which `poll.asm`, `transfer9.asm` and
`initialize.asm` make them, and a modem that samples the line at the reads.

* `transferSignals`, `pollSignals`: the signals of a transfer and of a poll;
* `rawInitializeSignals`: those of the raw `R`, which has no start bit;
* `hears_transfer`: a transfer is heard as the octet that it takes from the transmit ring, or as nothing;
* `hears_poll`: a poll is heard as what it takes from the ring, and ends with a line at rest;
* `wire_conserves`: what the modem hears is what was queued, octet by octet and in order, but for what still waits.
-/

namespace SnesModem.Asm.Driver

open SnesModem.Lib SnesModem.Lib.Cpu65816 SnesModem.Lib.Octets SnesModem.Lib.LatchedSerial Diagnostic
open SnesModem.Lib.ShiftRegister (bits value value_bits length_bits)

/-! ### The signals -/

abbrev txRelease : UInt8 := 0x80

/-- A store into `WRIO`, whose top bit is the line of the second port. -/
def wrio (octet : UInt8) : Signal := .line (0x80 ≤ octet)

/-- `@bitLoop`. -/
def bitLoop : ℕ → UInt8 → List Signal
  | 0, _ => []
  | n + 1, a => wrio a :: .clock :: bitLoop n (a <<< 1)

/-- The release of the line and the latch, before a complete read and at the end of a poll. -/
def latchSignals : List Signal := [wrio txRelease, .latch]

def fullSignals : List Signal := latchSignals ++ List.replicate 16 .clock

/-- Without an octet there is no start bit, and the release itself is shifted out. -/
def transferSignals (d : Driver) : List Signal :=
  let hadTransmit : Bool := d.block transmitReadIndex ≠ d.block transmitWriteIndex
  let a := if hadTransmit then d.transmitBuffer (d.block transmitReadIndex).toNat else txRelease
  [.latch] ++ (if hadTransmit then [wrio 0] else []) ++ [.clock] ++ bitLoop 8 a ++ [wrio txRelease]

/-- The signals of `@checkTransfer`. -/
def checkSignals (exposed : Bool) (joyser1 : ℕ → UInt8) : ℕ → ℕ → Driver → List Signal
  | 0, _, _ => []
  | budget + 1, n, d =>
    if moreToTransfer d then
      transferSignals d ++
        checkSignals exposed joyser1 budget (n + 9) (modemTransfer9 exposed (fun i => joyser1 (n + i)) d)
    else []

/-- The signals of `modemPoll`. -/
def pollSignals (now : UInt32) (exposed : Bool) (joyser1 : ℕ → UInt8) (d : Driver) : List Signal :=
  if d.block driverState = DriverState.off.code ∨ d.block driverState = DriverState.error.code then []
  else if d.block pollTick = 0 ∧ d.burstPending = false ∧ d.block transmitReadIndex = d.block transmitWriteIndex then []
  else
    let d := readCompleteReport joyser1
      (resetGuard now { (modemSnapshotBegin d).store pollTick 0 with burstPending := false })
    fullSignals ++
      (if d.block driverState = DriverState.resetting.code then []
        else checkSignals exposed joyser1 Modem.pollBudget 16 d) ++ latchSignals

/-- `@writeR`: the top bit goes through the carry into an accumulator without others. -/
def writeR : ℕ → UInt8 → List Signal
  | 0, _ => []
  | n + 1, a => wrio (a &&& 0x80) :: .clock :: writeR n (a <<< 1)

/-- `modemSendRawInitialize`: a complete read, then the bits of `R` behind a clock on the released line. -/
def rawInitializeSignals : List Signal :=
  [.latch] ++ List.replicate 16 .clock ++ [.latch, wrio txRelease, .clock] ++ writeR 8 0x52 ++ [wrio txRelease, .latch]

/-- The signals of a command. -/
def commandSignals : DriverCommand → List Signal
  | .reset | .quickTest => rawInitializeSignals
  | _ => []

/-- The signals of a poll of the main loop.  `readController1` clocks the first port, but latches both. -/
def signals (d : Driver) : Poll → List Signal
  | .mailbox _ c => commandSignals c
  | .modem now exposed joyser1 => pollSignals now exposed joyser1 d
  | .controller ticked => if ticked then [.latch] else []
  | _ => []

/-- The signals of a run. -/
def signalsOf : Driver → List Poll → List Signal
  | _, [] => []
  | d, poll :: polls => signals d poll ++ signalsOf (d.step poll) polls

/-! ### What is heard -/

/-- The octets of the frames that are over, and of the one that goes on. -/
def pending (l : Listener) : List UInt8 := octets l ++ (octetOf l.frame).toList

lemma bitLoop_eq (a : UInt8) : bitLoop 8 a = (bits a).flatMap fun bit => [.line bit, .clock] :=
  octet_forall (P := fun a => bitLoop 8 a = (bits a).flatMap fun bit => [.line bit, .clock]) (by decide +kernel) a

lemma bits_ne_nil (a : UInt8) : bits a ≠ [] := List.ne_nil_of_length_pos (by rw [length_bits]; decide)

lemma octetOf_started (a : UInt8) : octetOf (false :: bits a) = some a := by
  unfold octetOf
  dsimp only
  rw [if_pos (length_bits a), value_bits, UInt8.ofNat_toNat]

lemma octets_latched (level : Bool) (goesOn frame : List Bool) (frames : List (List Bool)) :
    octets ⟨level, goesOn, frames ++ [frame]⟩ = frames.filterMap octetOf ++ (octetOf frame).toList := by
  unfold octets
  rw [List.filterMap_append]
  cases hoctet : octetOf frame <;> simp [hoctet]

section Hears

variable {d : Driver} {m : Modem} {receive : Receive} {l : Listener}

/-- **A transfer is heard** as the octet that it takes from the ring; a frame without a start bit carries none. -/
theorem hears_transfer (h : Shows d ⟨m, receive⟩) (hlevel : l.level = true) :
    (Run.run hear l (transferSignals d)).level = true ∧
      pending (Run.run hear l (transferSignals d)) = pending l ++ m.transmit.peek.toList := by
  have hring := h.transmitRing
  have hrelease : decide ((0x80 : UInt8) ≤ txRelease) = true := by decide
  have hstart : decide ((0x80 : UInt8) ≤ 0) = false := by decide
  unfold transferSignals
  dsimp only
  rw [bitLoop_eq]
  have hhad : decide (d.block transmitReadIndex ≠ d.block transmitWriteIndex) = !m.transmit.isEmpty := by
    rw [← hring]
    exact decide_not
  rw [hhad]
  by_cases hempty : m.transmit.isEmpty = true
  · have hpeek : m.transmit.peek = none := if_pos hempty
    rw [hempty, hpeek]
    simp only [Bool.not_true, Run.run_append, Run.run_cons, Run.run_nil, Bool.false_eq_true, if_false, run_bits _ (bits_ne_nil _),
      hear, wrio, hrelease, List.nil_append, List.append_nil, Option.toList_none]
    refine ⟨trivial, ?_⟩
    unfold pending
    dsimp only
    have hsilent : octetOf ([true] ++ bits txRelease) = none := rfl
    rw [octets_latched, hlevel, hsilent, Option.toList_none, List.append_nil]
    rfl
  · have hpeek : m.transmit.peek = some (d.transmitBuffer (d.block transmitReadIndex).toNat) := by
      rw [← hring] at hempty ⊢
      exact if_neg hempty
    rw [Bool.eq_false_iff.mpr hempty, hpeek]
    simp only [Bool.not_false, Run.run_append, Run.run_cons, Run.run_nil, if_true, run_bits _ (bits_ne_nil _), hear, wrio, hrelease,
      hstart, List.nil_append]
    refine ⟨trivial, ?_⟩
    unfold pending
    dsimp only
    rw [octets_latched, List.singleton_append, octetOf_started]
    rfl

/-- What a ring holds, with what it gives next in front. -/
lemma contents_consume (r : Ring) : r.contents = r.peek.toList ++ r.consume.contents := by
  unfold Ring.peek Ring.consume
  by_cases hempty : r.isEmpty = true
  · rw [if_pos hempty, if_pos hempty]
    rfl
  · rw [if_neg hempty, if_neg hempty]
    exact (Ring.contents_advance _ (by simpa using hempty) fun _ _ hother => Function.update_of_ne hother _ _).symm

lemma storeReceived_transmit (m : Modem) (received : Option UInt8) :
    (m.storeReceived received).1.transmit = m.transmit := by
  cases received <;> rfl

/-- **The transfers of a poll** are heard as what they take from the ring. -/
theorem hears_check (exposed : Bool) (joyser1 : ℕ → UInt8) (budget n : ℕ) {accepted hint : Bool}
    (h : Shows d ⟨m, receive⟩) (hmore : moreToTransfer d = (accepted || hint || !m.transmit.isEmpty))
    (hlevel : l.level = true) :
    (Run.run hear l (checkSignals exposed joyser1 budget n d)).level = true ∧
      ∃ sent, pending (Run.run hear l (checkSignals exposed joyser1 budget n d)) = pending l ++ sent ∧
        m.transmit.contents =
          sent ++ (Modem.transfers budget accepted hint (transferReportsFrom joyser1 budget n) m).transmit.contents := by
  induction budget generalizing n d m accepted hint l with
  | zero =>
    refine ⟨hlevel, [], by simp [checkSignals], ?_⟩
    unfold Modem.transfers
    split <;> rfl
  | succ budget ih =>
    unfold checkSignals Modem.transfers transferReportsFrom
    rw [hmore]
    split
    · obtain ⟨hlevel', hpending⟩ := hears_transfer h hlevel
      have hbrings := modemTransfer9_brings exposed (fun i => joyser1 (n + i)) h
      obtain ⟨hrest, sent, hsent, hcontents⟩ := ih (n + 9) hbrings.view hbrings.more hlevel'
      rw [Run.run_append]
      refine ⟨hrest, m.transmit.peek.toList ++ sent, ?_, ?_⟩
      · rw [hsent, hpending, List.append_assoc]
      · rw [contents_consume, List.append_assoc]
        rw [storeReceived_transmit] at hcontents
        rw [hcontents]
        rfl
    · exact ⟨hlevel, [], by simp, rfl⟩

/-- What follows the guard of a reset: the ring gives what is heard, whether there are transfers or not. -/
lemma hears_reports (exposed : Bool) (joyser1 : ℕ → UInt8) (h : Shows d ⟨m, receive⟩) (hlevel : l.level = true) :
    (Run.run hear l
        (if (readCompleteReport joyser1 d).block driverState = DriverState.resetting.code then []
          else checkSignals exposed joyser1 Modem.pollBudget 16 (readCompleteReport joyser1 d))).level = true ∧
      ∃ sent, pending (Run.run hear l
          (if (readCompleteReport joyser1 d).block driverState = DriverState.resetting.code then []
            else checkSignals exposed joyser1 Modem.pollBudget 16 (readCompleteReport joyser1 d))) = pending l ++ sent ∧
        m.transmit.contents = sent ++
          (if (m.storeReceived (portReport joyser1).received).1.driverState = .resetting then
            (m.storeReceived (portReport joyser1).received).1
          else
            Modem.transfers Modem.pollBudget (m.storeReceived (portReport joyser1).received).2 (portReport joyser1).hint
              (transferReportsFrom joyser1 Modem.pollBudget 16)
              (m.storeReceived (portReport joyser1).received).1).transmit.contents := by
  have hbrings := readCompleteReport_brings joyser1 h
  have hstate := Shows.driverState_iff hbrings.view .resetting
  by_cases hresetting : (m.storeReceived (portReport joyser1).received).1.driverState = .resetting
  · rw [if_pos (hstate.mpr hresetting), if_pos hresetting, storeReceived_transmit]
    exact ⟨hlevel, [], by simp, rfl⟩
  · rw [if_neg (mt hstate.mp hresetting), if_neg hresetting]
    obtain ⟨hlevel', sent, hsent, hcontents⟩ :=
      hears_check exposed joyser1 Modem.pollBudget 16 hbrings.view hbrings.more hlevel
    rw [storeReceived_transmit] at hcontents
    exact ⟨hlevel', sent, hsent, hcontents⟩

/-- The complete read is heard as nothing, and the latch at the end of a poll ends the last frame. -/
lemma hears_full (hsettled : Settled l) :
    (Run.run hear l fullSignals).level = true ∧ pending (Run.run hear l fullSignals) = octets l := by
  obtain ⟨hlevel, hframe⟩ := hsettled
  have hrelease : decide ((0x80 : UInt8) ≤ txRelease) = true := by decide
  unfold fullSignals latchSignals
  simp only [Run.run_append, Run.run_cons, Run.run_nil, hear, wrio, hrelease, run_clocks, hframe]
  refine ⟨trivial, ?_⟩
  unfold pending
  rw [octets_latched]
  simp [octetOf, octets, List.replicate_succ]

lemma hears_latch (l : Listener) :
    Settled (Run.run hear l latchSignals) ∧ octets (Run.run hear l latchSignals) = pending l := by
  have hrelease : decide ((0x80 : UInt8) ≤ txRelease) = true := by decide
  unfold latchSignals
  simp only [Run.run_cons, Run.run_nil, hear, wrio, hrelease]
  refine ⟨⟨rfl, rfl⟩, ?_⟩
  rw [octets_latched]
  rfl

/-- **Every other poll is heard as nothing**, the raw `R` and the latch of the controllers included. -/
theorem hears_nothing {poll : Poll} (hmodem : ∀ now exposed joyser1, poll ≠ .modem now exposed joyser1)
    (hsettled : Settled l) :
    Settled (Run.run hear l (signals d poll)) ∧ octets (Run.run hear l (signals d poll)) = octets l := by
  have hquiet : Settled (Run.run hear quiet (signals d poll)) ∧ heard (signals d poll) = [] := by
    cases poll with
    | modem now exposed joyser1 => exact absurd rfl (hmodem now exposed joyser1)
    | mailbox now c => cases c <;> exact ⟨⟨rfl, rfl⟩, rfl⟩
    | controller ticked => cases ticked <;> exact ⟨⟨rfl, rfl⟩, rfl⟩
    | _ => exact ⟨⟨rfl, rfl⟩, rfl⟩
  exact ⟨settled_run hsettled hquiet.1, by rw [octets_run hsettled, hquiet.2, List.append_nil]⟩

/-- **A poll is heard** as what it takes from the transmit ring, and leaves the line at rest. -/
theorem hears_poll (now : UInt32) (exposed : Bool) (joyser1 : ℕ → UInt8) (h : Shows d ⟨m, receive⟩)
    (hsettled : Settled l) :
    Settled (Run.run hear l (pollSignals now exposed joyser1 d)) ∧
      ∃ sent, octets (Run.run hear l (pollSignals now exposed joyser1 d)) = octets l ++ sent ∧
        m.transmit.contents = sent ++ (Asm.modemPoll now (portReports joyser1) m).transmit.contents := by
  have hsilent : Settled (Run.run hear l []) ∧ ∃ sent, octets (Run.run hear l []) = octets l ++ sent ∧
      m.transmit.contents = sent ++ m.transmit.contents := ⟨hsettled, [], by simp, rfl⟩
  unfold pollSignals Asm.modemPoll
  simp only [h.driverState_iff .off, h.driverState_iff .error]
  split
  · exact hsilent
  by_cases hwaits : (!m.pollTick && !m.burstPending && m.transmit.isEmpty) = true
  · rw [if_pos (h.idle_iff.mpr hwaits), if_pos hwaits]
    exact hsilent
  rw [if_neg (mt h.idle_iff.mp hwaits), if_neg hwaits]
  obtain ⟨hlevel, hpending⟩ := hears_full hsettled
  obtain ⟨-, sent, hsent, hcontents⟩ := hears_reports (l := Run.run hear l fullSignals) exposed joyser1
    (resetGuard_shows now (cleared_shows h)) hlevel
  rw [hpending] at hsent
  rw [Run.run_append, Run.run_append]
  obtain ⟨hrest, hoctets⟩ := hears_latch (Run.run hear (Run.run hear l fullSignals)
    (if (readCompleteReport joyser1 (resetGuard now { (modemSnapshotBegin d).store pollTick 0 with
        burstPending := false })).block driverState = DriverState.resetting.code then []
      else checkSignals exposed joyser1 Modem.pollBudget 16 (readCompleteReport joyser1
        (resetGuard now { (modemSnapshotBegin d).store pollTick 0 with burstPending := false }))))
  refine ⟨hrest, sent, hoctets.trans hsent, Eq.trans ?_ hcontents⟩
  -- The guard of a reset leaves the ring alone.
  split <;> rfl

end Hears

end SnesModem.Asm.Driver

/-! ### What is queued -/

namespace SnesModem.Asm

open SnesModem.Lib SnesModem.Lib.Cpu65816 SnesModem.Lib.Octets SnesModem.Lib.LatchedSerial

namespace Link

/-- What a poll has for the transmit ring. -/
def queues (s : Link) : Driver.Poll → List UInt8
  | .mailbox now (.atTransaction arguments) =>
    if (modemAtBegin now arguments s.modem).2 then [] else read arguments 4 (arguments 3).toNat
  | .mailbox _ (.binaryTransmit arguments) =>
    let length := (arguments 0).toNat
    if length = 0 ∨ Driver.binaryChunkMaxLength < length ∨ s.modem.driverState ≠ .connected ∨ !s.modem.transmit.isEmpty
    then [] else read arguments 1 length
  | .mailbox _ .binaryStressTransmit =>
    if s.modem.driverState ≠ .connected ∨ !s.modem.transmit.isEmpty then []
    else (List.range Driver.ringCapacity).map UInt8.ofNat
  | .session _ =>
    if s.modem.atStatus = .running ∨ s.modem.driverState ≠ .probing ∨ s.modem.probeSent then [] else Modem.probe
  | .queue octets => octets
  | _ => []

/-- What the ring takes of it. -/
def queued (s : Link) (poll : Driver.Poll) : List UInt8 := (s.queues poll).take (255 - s.modem.transmit.contents.length)

/-- What the polls of a run put into the ring. -/
def queuedOf : Link → List Driver.Poll → List UInt8
  | _, [] => []
  | s, poll :: polls => s.queued poll ++ queuedOf (s.step poll) polls

end Link

/-- The commands that empty the rings. -/
def Driver.Poll.Resets : Driver.Poll → Prop
  | .mailbox _ .reset | .mailbox _ .quickTest => True
  | _ => False

section Transmit

variable (m : Modem)

/-- **The ring takes what there is room for**, from the front. -/
theorem contents_queueBytes (octets : List UInt8) :
    (Modem.queueBytes octets m).1.transmit.contents =
      m.transmit.contents ++ octets.take (255 - m.transmit.contents.length) := by
  induction octets generalizing m with
  | nil => simp [Modem.queueBytes]
  | cons octet octets ih =>
    have hle := transmitRing_represents.bounded m.transmit
    unfold Modem.queueBytes
    by_cases hfull : m.transmit.held = 255
    · rw [Ring.push_of_full octet hfull]
      simp [hfull]
    · rw [Ring.length_contents] at hle
      obtain ⟨hcarry, hcontents⟩ := Ring.contents_push octet (r := m.transmit) (by omega)
      rcases hpush : m.transmit.push octet with ⟨transmit, full⟩
      rw [hpush] at hcarry hcontents
      obtain rfl : full = false := hcarry
      dsimp only at hcontents ⊢
      have hroom : 255 - m.transmit.contents.length = 255 - transmit.contents.length + 1 := by
        rw [hcontents, List.length_append, List.length_singleton, Ring.length_contents]
        omega
      rw [ih, hroom, List.take_succ_cons]
      dsimp only
      rw [hcontents, List.append_assoc, List.singleton_append]

lemma feedByte_transmit (octet : UInt8) : (m.feedByte octet).transmit = m.transmit := by
  unfold Modem.feedByte Modem.finishLine
  split
  · rfl
  split
  · split <;> rfl
  split <;> rfl

lemma readResponse_transmit (fuel : ℕ) : (Modem.readResponse fuel m).1.transmit = m.transmit := by
  induction fuel generalizing m with
  | zero => rfl
  | succ fuel ih =>
    unfold Modem.readResponse
    split
    · rfl
    · rename_i octet receive _
      have hfed : (({ m with receive := receive } : Modem).feedByte octet).transmit = m.transmit := feedByte_transmit _ _
      dsimp only
      split
      · exact (ih _).trans hfed
      · exact hfed

lemma readProbe_transmit (now : UInt32) : (m.readProbe now).transmit = m.transmit := by
  have hread := readResponse_transmit m Modem.ringFuel
  unfold Modem.readProbe
  split
  · rename_i m' heq
    rw [heq] at hread
    unfold Modem.checkProbeTimeout
    split
    · exact hread
    extract_lets m1
    split <;> exact hread
  · rename_i m' heq
    rw [heq] at hread
    split
    · exact hread
    unfold Modem.probeRejected
    extract_lets m1
    split <;> exact hread

lemma pollAt_transmit (now : UInt32) : (m.pollAt now).transmit = m.transmit := by
  have hread := readResponse_transmit m Modem.ringFuel
  unfold Modem.pollAt
  split
  · rename_i m' heq
    rw [heq] at hread
    unfold Modem.checkAtTimeout
    split <;> exact hread
  · rename_i m' heq
    rw [heq] at hread
    split <;> exact hread

end Transmit

namespace Link

variable (s : Link)

lemma queued_nil {poll : Driver.Poll} (h : s.queues poll = []) : s.queued poll = [] := by
  unfold queued
  rw [h, List.take_nil]

lemma session_queued (now : UInt32) :
    (modemSessionPoll now s.modem).transmit.contents = s.modem.transmit.contents ++ s.queued (.session now) := by
  unfold modemSessionPoll
  by_cases hrunning : s.modem.atStatus = .running
  · rw [if_pos hrunning, pollAt_transmit, queued_nil s (by simp [queues, hrunning]), List.append_nil]
  rw [if_neg hrunning]
  by_cases hprobing : s.modem.driverState = .probing
  · rw [if_pos hprobing]
    unfold Modem.pollProbe
    by_cases hsent : s.modem.probeSent = true
    · rw [if_pos hsent, readProbe_transmit, queued_nil s (by simp [queues, hsent]), List.append_nil]
    · have hqueues : s.queues (.session now) = Modem.probe := by simp [queues, hrunning, hprobing, hsent]
      have hqueued := contents_queueBytes s.modem Modem.probe
      unfold queued
      rw [if_neg hsent, hqueues, ← hqueued]
      split
      · rename_i m' heq
        rw [heq]
      · rename_i m' heq
        rw [heq]
        exact congrArg Ring.contents (readProbe_transmit _ _)
  · rw [if_neg hprobing, queued_nil s (by simp [queues, hprobing]), List.append_nil]

lemma at_queued (now : UInt32) (arguments : Buffer) :
    (modemAtBegin now arguments s.modem).1.transmit.contents =
      s.modem.transmit.contents ++ s.queued (.mailbox now (.atTransaction arguments)) := by
  have hqueues : s.queues (.mailbox now (.atTransaction arguments)) =
      if (modemAtBegin now arguments s.modem).2 then [] else read arguments 4 (arguments 3).toNat := rfl
  rcases AtTransactions.modemAtBegin_cases now arguments s.modem with hrefused | ⟨-, haccepted, -, -⟩
  · rw [queued_nil s (by rw [hqueues, hrefused]; rfl), hrefused, List.append_nil]
    rfl
  · have hqueued := contents_queueBytes s.modem (read arguments 4 (arguments 3).toNat)
    unfold queued
    rw [hqueues, haccepted, if_neg Bool.false_ne_true, ← hqueued]
    unfold modemAtBegin at haccepted ⊢
    dsimp only at haccepted ⊢
    cases hexpected : Modem.expectedResult (arguments 0) with
    | none =>
      rw [hexpected] at haccepted
      exact absurd haccepted Bool.true_eq_false_eq_False
    | some expected =>
      rw [hexpected] at haccepted
      dsimp only at haccepted ⊢
      split at haccepted
      · exact absurd haccepted nofun
      rename_i hvalid
      rw [if_neg hvalid]
      split at haccepted
      · exact absurd haccepted nofun
      · rename_i m' heq
        rw [heq]

lemma binaryQueue_queued (octets : List UInt8) :
    (s.binaryQueue octets).modem.transmit.contents =
      s.modem.transmit.contents ++
        (if s.modem.driverState ≠ .connected ∨ !s.modem.transmit.isEmpty then [] else octets).take
          (255 - s.modem.transmit.contents.length) := by
  unfold binaryQueue
  split
  · rw [List.take_nil, List.append_nil]
  · exact contents_queueBytes s.modem octets

lemma receive_transmit (count : ℕ) (lost : Bool) (m : Modem) : (Exchange.receive count lost m).transmit = m.transmit := by
  unfold Exchange.receive
  split
  · rfl
  split <;> rfl

lemma take_transmit (count : ℕ) : (s.take count).modem.transmit = s.modem.transmit := rfl

lemma applyStores_transmit (stores : List Driver.SelfTestStore) (m : Modem) :
    (stores.foldl applyStore m).transmit = m.transmit := by
  induction stores generalizing m with
  | nil => rfl
  | cons store stores ih =>
    rw [List.foldl_cons, ih]
    cases store <;> rfl

/-- **Every poll but that of the modem** only adds to the ring, and what it adds is what it queues. -/
theorem step_queued {poll : Driver.Poll} (hresets : ¬ poll.Resets) (hmodem : ∀ now exposed joyser1, poll ≠ .modem now exposed joyser1) :
    (s.step poll).modem.transmit.contents = s.modem.transmit.contents ++ s.queued poll := by
  have hsame : ∀ m : Modem, m.transmit = s.modem.transmit → s.queues poll = [] →
      m.transmit.contents = s.modem.transmit.contents ++ s.queued poll := by
    intro m htransmit hnone
    rw [queued_nil s hnone, List.append_nil, htransmit]
  cases poll with
  | modem now exposed joyser1 => exact absurd rfl (hmodem now exposed joyser1)
  | session now => exact session_queued s now
  | receive => exact hsame _ (receive_transmit _ _ _) rfl
  | queue octets => exact contents_queueBytes s.modem octets
  | take count => exact hsame _ rfl rfl
  | other receive => exact hsame _ rfl rfl
  | controller ticked => exact hsame _ rfl rfl
  | vBlank displayReadIndex => exact hsame _ rfl rfl
  | mailbox now command =>
    cases command with
    | reset => exact absurd trivial hresets
    | quickTest => exact absurd trivial hresets
    | clearTrace => exact hsame _ rfl rfl
    | freezeTrace => exact hsame _ rfl rfl
    | resumeTrace => exact hsame _ rfl rfl
    | atTransaction arguments => exact at_queued s now arguments
    | binaryTransmit arguments =>
      have hbinary := binaryQueue_queued s (read arguments 1 (arguments 0).toNat)
      change (if _ then s else s.binaryQueue _).modem.transmit.contents = _
      unfold queued queues
      dsimp only
      by_cases hlength : (arguments 0).toNat = 0 ∨ Driver.binaryChunkMaxLength < (arguments 0).toNat
      · rw [if_pos hlength, if_pos (by tauto), List.take_nil, List.append_nil]
      · rw [if_neg hlength, hbinary]
        congr 2
        refine if_congr ?_ rfl rfl
        tauto
    | binaryReceive =>
      refine hsame _ ?_ rfl
      unfold step command
      dsimp only
      split
      · exact take_transmit s _
      · rfl
    | binaryStressTransmit =>
      have hbinary := binaryQueue_queued s ((List.range Driver.ringCapacity).map UInt8.ofNat)
      unfold queued queues
      exact hbinary
    | selfTest stores receive => exact hsame _ (applyStores_transmit _ _) rfl

end Link

namespace Driver

/-- The probe after a reset: the guard time ends, the probe is queued, and the next poll sends it. -/
def probing : List Poll := [.modem 600 false fun _ => 0, .session 600, .modem 600 false fun _ => 0]

example : heard (signalsOf (after [.mailbox 0 .reset, .vBlank 0]) probing) = Modem.probe := by decide +kernel

end Driver

end SnesModem.Asm
