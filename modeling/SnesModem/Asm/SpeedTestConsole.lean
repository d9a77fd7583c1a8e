import SnesModem.Asm.Snapshots
import SnesModem.Asm.SpeedTestRuns

/-!
# The speed test of the console

The console has the speed test with numbers of 32 bits, and reads the frame counter once in a routine.  As long as the
frame counter stands still in each routine, the routines on pairs of words do the same.

* `Tester.console`: the tester with numbers in place of the pairs;
* `begin_console`, `poll_console`: one routine; `calls_console`: every sequence of them.
-/

namespace SnesModem.Asm.Speed

open SnesModem.Lib SnesModem.Lib.Cpu65816 SnesModem.Lib.Octets SnesModem.Lib.Words
open SnesModem.Asm.SpeedTestRuns (pollFuel hasRemaining_iff modemQueueByte_of_room)

/-! ### Numbers -/

section Value

variable {x : Long}

lemma toUInt32_eq_zero : x.toUInt32 = 0 ↔ x = ⟨0, 0⟩ := by
  rw [← UInt32.toNat_inj, Long.toNat_toUInt32]
  exact Long.toNat_eq_zero

lemma toUInt32_inc (x : Long) : x.inc.toUInt32 = x.toUInt32 + 1 := by
  rw [← UInt32.toNat_inj, UInt32.toNat_add, Long.toNat_toUInt32, Long.toNat_toUInt32, Long.toNat_inc]
  rfl

lemma toUInt32_dec (h : x.toNat ≠ 0) : x.dec.toUInt32 = x.toUInt32 - 1 := by
  have hlt := x.toNat_lt
  have hone : (1 : UInt32).toNat = 1 := rfl
  rw [← UInt32.toNat_inj, UInt32.toNat_sub, Long.toNat_toUInt32, Long.toNat_toUInt32, Long.toNat_dec h, hone]
  omega

/-- The low word of the number. -/
lemma toUInt16_toUInt32 (x : Long) : x.toUInt32.toUInt16 = x.low := by
  have hlow := x.low.toNat_lt
  rw [← UInt16.toNat_inj, UInt32.toNat_toUInt16, Long.toNat_toUInt32, Long.toNat]
  omega

/-- The octets of the number are those of its words. -/
lemma longOctets_toUInt32 (x : Long) : Asm.longOctets x.toUInt32 = Test.longOctets x := by
  have hlow := x.low.toNat_lt
  have hhigh := x.high.toNat_lt
  have h8 : 2 ^ ((8 : UInt32).toNat % 32) = 256 := rfl
  have h16 : 2 ^ ((16 : UInt32).toNat % 32) = 65536 := rfl
  have h24 : 2 ^ ((24 : UInt32).toNat % 32) = 16777216 := rfl
  unfold Asm.longOctets Test.longOctets
  simp only [List.cons.injEq, and_true, ← UInt8.toNat_inj, UInt32.toNat_toUInt8, UInt32.toNat_shiftRight,
    Long.toNat_toUInt32, toNat_low, toNat_high, Nat.shiftRight_eq_div_pow, h8, h16, h24, Long.toNat]
  refine ⟨?_, ?_, ?_, ?_⟩ <;> omega

/-- The number that four octets of a buffer are. -/
lemma longAt_eq (buffer : Buffer) (offset : ℕ) :
    longAt buffer offset = Long.toUInt32
      ⟨word (buffer (offset + 1)) (buffer offset), word (buffer (offset + 3)) (buffer (offset + 2))⟩ := by
  rw [← UInt32.toNat_inj, Driver.toNat_longAt, Long.toNat_toUInt32, Long.toNat, toNat_word, toNat_word]
  omega

end Value

/-! ### The test in numbers -/

/-- The test with its long numbers in one piece. -/
def Test.wide (t : Test) : SpeedTest where
  mode := t.mode
  remaining := t.remaining.toUInt32
  processed := t.processed.toUInt32
  lfsr := t.lfsr
  mismatchCount := t.mismatchCount.toUInt32
  firstMismatch := t.firstMismatch.toUInt32
  expected := t.expected
  actual := t.actual
  startFrame := t.startFrame.toUInt32
  endFrame := t.endFrame.toUInt32
  lastFrame := t.lastFrame
  frameQuota := t.frameQuota

/-- The test behind an octet of a receive test. -/
def Test.compare (octet : UInt8) (t : Test) : Test :=
  let t := { t with actual := octet, expected := t.lfsr.toUInt8 }
  (if t.expected = t.actual then t else t.recordMismatch).advance

def Tester.console (s : Tester) : Console := ⟨s.modem, s.mailbox, s.test.wide⟩

section Test

variable {t : Test}

lemma wide_advance (h : t.hasRemaining = true) : t.advance.wide = t.wide.advance := by
  unfold Test.advance SpeedTest.advance Test.wide
  dsimp only
  rw [toUInt32_inc, toUInt32_dec (hasRemaining_iff.mp h)]

lemma wide_recordMismatch (t : Test) : t.recordMismatch.wide = t.wide.recordMismatch := by
  unfold Test.recordMismatch SpeedTest.recordMismatch Test.wide
  dsimp only
  rw [toUInt32_inc]
  by_cases hfirst : t.mismatchCount = ⟨0, 0⟩
  · rw [if_pos hfirst, if_pos (toUInt32_eq_zero.mpr hfirst)]
  · rw [if_neg hfirst, if_neg (mt toUInt32_eq_zero.mp hfirst)]

lemma wide_compare (octet : UInt8) (h : t.hasRemaining = true) : (t.compare octet).wide = t.wide.receive octet := by
  have hadvance : ∀ t' : Test, t'.remaining = t.remaining → t'.advance.wide = t'.wide.advance := by
    intro t' hsame
    apply wide_advance
    unfold Test.hasRemaining at h ⊢
    rw [hsame]
    exact h
  unfold Test.compare SpeedTest.receive
  dsimp only
  by_cases hequal : t.lfsr.toUInt8 = octet
  · have hwide : t.wide.lfsr.toUInt8 = octet := hequal
    rw [if_pos hequal, if_pos hwide]
    exact hadvance _ rfl
  · have hwide : ¬ t.wide.lfsr.toUInt8 = octet := hequal
    rw [if_neg hequal, if_neg hwide]
    have hadvanced := hadvance ({ t with actual := octet, expected := t.lfsr.toUInt8 } : Test).recordMismatch rfl
    exact hadvanced.trans (congrArg SpeedTest.advance (wide_recordMismatch _))

lemma wide_report (t : Test) : t.wide.report = t.report := by
  unfold SpeedTest.report Test.report Test.wide
  dsimp only
  rw [longOctets_toUInt32, longOctets_toUInt32, longOctets_toUInt32, longOctets_toUInt32, longOctets_toUInt32]

lemma hasRemaining_eq (t : Test) : (!t.hasRemaining) = true ↔ t.wide.remaining = 0 := by
  rw [show t.wide.remaining = t.remaining.toUInt32 from rfl, toUInt32_eq_zero]
  simp [Test.hasRemaining]

end Test

/-! ### Routines -/

section Routines

variable {x : Long} {s : Tester}

/-- A frame counter that stands still. -/
abbrev still (x : Long) : ℕ → Long := fun _ => x

/-- The quota of the frame is that of the console, which leaves the rest alone. -/
lemma refreshQuota_console (x : Long) (s : Tester) : ∃ t,
    s.refreshQuota x.low = { s with test := t } ∧ t.hasRemaining = s.test.hasRemaining ∧
      s.console.speedTest.refreshQuota x.toUInt32 s.console.mailbox.arguments = t.wide := by
  unfold Tester.refreshQuota SpeedTest.refreshQuota
  rw [toUInt16_toUInt32]
  by_cases hsame : x.low = s.test.lastFrame
  · have hconsole : x.low = s.console.speedTest.lastFrame := hsame
    rw [if_pos hsame, if_pos hconsole]
    exact ⟨s.test, rfl, rfl, rfl⟩
  · have hconsole : ¬ x.low = s.console.speedTest.lastFrame := hsame
    rw [if_neg hsame, if_neg hconsole]
    exact ⟨_, rfl, rfl, rfl⟩

lemma finish_console (x : Long) (s : Tester) : (s.finish (still x)).console = s.console.speedTestFinish x.toUInt32 := by
  have hreport := wide_report { s.test with endFrame := x }
  have hresult := toUInt16_toUInt32 s.test.mismatchCount
  unfold Tester.finish Console.speedTestFinish
  change Console.mk _ _ _ = Console.mk _ _ _
  congr 1
  change Mailbox.mk _ _ _ _ _ _ _ = Mailbox.mk _ _ _ _ _ _ _
  congr 1
  · exact hresult.symm
  · exact congrArg _ hreport.symm

/-- **A transmit test**, with as much fuel as the ring has room. -/
lemma transmit_console (x : Long) (fuel : ℕ) (hfuel : 255 < fuel + s.modem.transmit.held) :
    ∃ s', Tester.transmit fuel (still x) s = some s' ∧
      s'.console = s.console.speedTestTransmit x.toUInt32 fuel := by
  induction fuel generalizing s with
  | zero =>
    have hlt := s.modem.transmit.held_lt
    omega
  | succ fuel ih =>
    unfold Tester.transmit Console.speedTestTransmit
    by_cases hremaining : (!s.test.hasRemaining) = true
    · have hends : s.console.speedTest.remaining = 0 := (hasRemaining_eq s.test).mp hremaining
      rw [if_pos hremaining, if_pos hends]
      refine ⟨_, rfl, ?_⟩
      by_cases hempty : s.modem.transmit.readIndex = s.modem.transmit.writeIndex
      · have hconsole : s.console.modem.transmit.isEmpty = true := decide_eq_true hempty
        rw [if_neg (not_not_intro hempty), if_pos hconsole]
        exact finish_console x s
      · have hconsole : ¬ s.console.modem.transmit.isEmpty = true := mt of_decide_eq_true hempty
        rw [if_pos hempty, if_neg hconsole]
    · have hgoes : ¬ s.console.speedTest.remaining = 0 := mt (hasRemaining_eq s.test).mpr hremaining
      rw [if_neg hremaining, if_neg hgoes]
      obtain ⟨t, hrefresh, hsame, hwide⟩ := refreshQuota_console x s
      have hleft : t.hasRemaining = true := by
        rw [hsame]
        simpa using hremaining
      dsimp only
      rw [hrefresh, hwide]
      by_cases hquota : t.frameQuota = 0
      · have hconsole : t.wide.frameQuota = 0 := hquota
        rw [if_pos hquota, if_pos hconsole]
        exact ⟨_, rfl, rfl⟩
      · have hconsole : ¬ t.wide.frameQuota = 0 := hquota
        rw [if_neg hquota, if_neg hconsole]
        by_cases hfull : s.modem.transmit.writeIndex + 1 = s.modem.transmit.readIndex
        · have hpush : s.console.modem.transmit.push t.wide.lfsr.toUInt8 = (s.modem.transmit, true) := if_pos hfull
          rw [if_pos hfull, hpush]
          exact ⟨_, rfl, rfl⟩
        · -- There is room, so the octet is queued.
          obtain ⟨ring, hqueue, -, hheld⟩ := modemQueueByte_of_room t.lfsr.toUInt8 hfull
          have hpush : s.console.modem.transmit.push t.wide.lfsr.toUInt8 = (ring, false) := by
            obtain ⟨hmodem, haccepted⟩ := Prod.mk.inj hqueue
            exact Prod.ext (congrArg Modem.transmit hmodem) haccepted
          rw [if_neg hfull, hqueue, hpush]
          obtain ⟨s', htransmit, hs'⟩ := ih
            (s := { s with
              modem := { s.modem with transmit := ring }
              test := { t.advance with frameQuota := t.frameQuota - 1 } })
            (by dsimp only; omega)
          refine ⟨s', htransmit, hs'.trans ?_⟩
          unfold Tester.console
          dsimp only
          rw [← wide_advance hleft]
          rfl

/-- **A receive test**, with more fuel than the ring holds octets. -/
lemma receive_console (x : Long) (fuel : ℕ) (hfuel : s.modem.receive.held < fuel) :
    ∃ s', Tester.receive (still x) fuel s = some s' ∧ s'.console = s.console.speedTestReceive x.toUInt32 fuel := by
  induction fuel generalizing s with
  | zero => omega
  | succ fuel ih =>
    unfold Tester.receive Console.speedTestReceive
    by_cases hremaining : (!s.test.hasRemaining) = true
    · have hends : s.console.speedTest.remaining = 0 := (hasRemaining_eq s.test).mp hremaining
      rw [if_pos hremaining, if_pos hends]
      exact ⟨_, rfl, finish_console x s⟩
    · have hgoes : ¬ s.console.speedTest.remaining = 0 := mt (hasRemaining_eq s.test).mpr hremaining
      rw [if_neg hremaining, if_neg hgoes]
      have hring : s.console.modem.receive = s.modem.receive := rfl
      unfold modemReadByte
      rw [hring]
      cases hpop : s.modem.receive.pop with
      | none => exact ⟨_, rfl, rfl⟩
      | some popped =>
        obtain ⟨octet, rest⟩ := popped
        have hheld : rest.held < fuel := by
          have hlength := congrArg List.length (Ring.contents_of_pop hpop)
          rw [List.length_cons, Ring.length_contents, Ring.length_contents] at hlength
          omega
        have hleft : s.test.hasRemaining = true := by simpa using hremaining
        obtain ⟨s', hreceive, hs'⟩ := ih
          (s := { s with modem := { s.modem with receive := rest }, test := s.test.compare octet }) hheld
        refine ⟨s', hreceive, hs'.trans ?_⟩
        unfold Tester.console
        dsimp only
        rw [wide_compare octet hleft]

/-- **A poll.** -/
lemma poll_console (x : Long) (s : Tester) : ∃ s', s.modemSpeedTestPoll pollFuel (still x) = some s' ∧
    s'.console = s.console.speedTestPoll x.toUInt32 := by
  have htransmit := transmit_console (s := s) x pollFuel (by unfold pollFuel; omega)
  have hreceive := receive_console (s := s) x pollFuel (Nat.lt_trans s.modem.receive.held_lt (by decide))
  unfold Tester.modemSpeedTestPoll Console.speedTestPoll
  have hmode : s.console.speedTest.mode = s.test.mode := rfl
  rw [hmode]
  cases s.test.mode with
  | idle => exact ⟨s, rfl, rfl⟩
  | transmit =>
    dsimp only
    by_cases hconnected : s.modem.driverState = .connected
    · have hconsole : s.console.modem.driverState = .connected := hconnected
      rw [if_neg (not_not_intro hconnected), if_pos hconsole]
      exact htransmit
    · have hconsole : ¬ s.console.modem.driverState = .connected := hconnected
      rw [if_pos hconnected, if_neg hconsole]
      exact ⟨s.abandon, rfl, rfl⟩
  | receive =>
    dsimp only
    by_cases hconnected : s.modem.driverState = .connected
    · have hconsole : s.console.modem.driverState = .connected := hconnected
      rw [if_neg (not_not_intro hconnected), if_pos hconsole]
      exact hreceive
    · have hconsole : ¬ s.console.modem.driverState = .connected := hconnected
      rw [if_pos hconnected, if_neg hconsole]
      exact ⟨s.abandon, rfl, rfl⟩

/-- The beginning of a test, with the carry. -/
lemma modemSpeedTestBegin_console (mode : SpeedTestMode) (x : Long) (s : Tester) :
    Prod.map Tester.console id (s.modemSpeedTestBegin mode (still x)) = s.console.speedTestBegin mode x.toUInt32 := by
  have hlength : longAt s.console.mailbox.arguments 0 = s.argumentLength.toUInt32 := longAt_eq s.mailbox.arguments 0
  have hseed : word (s.console.mailbox.arguments 5) (s.console.mailbox.arguments 4) = s.argumentSeed := rfl
  have hquota : s.console.mailbox.arguments 6 = s.argumentBytesPerFrame := rfl
  have hzero : s.argumentLength.toUInt32 = 0 ↔ s.argumentLength = ⟨0, 0⟩ := toUInt32_eq_zero
  unfold Tester.modemSpeedTestBegin Console.speedTestBegin
  dsimp only
  rw [hlength, hseed, hquota, toUInt16_toUInt32]
  by_cases hrefused : s.argumentLength = ⟨0, 0⟩ ∨ s.argumentSeed = 0 ∨ s.argumentBytesPerFrame = 0
  · rw [if_pos hrefused, if_pos (hrefused.imp_left hzero.mpr)]
    rfl
  · have hnone : (Long.mk 0 0).toUInt32 = 0 := by decide
    have hfirst : (Long.mk 0xffff 0xffff).toUInt32 = 0xffffffff := by decide
    rw [if_neg hrefused, if_neg (mt (Or.imp_left hzero.mp) hrefused), ← hnone, ← hfirst]
    rfl

/-- **The routines that begin a test.** -/
lemma begin_console (x : Long) (s : Tester) :
    Prod.map Tester.console id (s.modemSpeedTestBeginTransmit (still x)) =
        s.console.speedTestBeginTransmit x.toUInt32 ∧
      Prod.map Tester.console id (s.modemSpeedTestBeginReceive (still x)) =
        s.console.speedTestBeginReceive x.toUInt32 := by
  have hstate : s.console.modem.driverState = s.modem.driverState := rfl
  have hempty : s.console.modem.transmit.isEmpty = decide (s.modem.transmit.readIndex = s.modem.transmit.writeIndex) :=
    rfl
  constructor
  · unfold Tester.modemSpeedTestBeginTransmit Console.speedTestBeginTransmit
    rw [hstate, hempty]
    by_cases hconnected : s.modem.driverState = .connected
    · by_cases hfree : s.modem.transmit.readIndex = s.modem.transmit.writeIndex
      · rw [if_neg (not_not_intro hconnected), if_neg (not_not_intro hfree), if_neg (by simp [hconnected, hfree])]
        exact modemSpeedTestBegin_console .transmit x s
      · rw [if_neg (not_not_intro hconnected), if_pos hfree, if_pos (by simp [hfree])]
        rfl
    · rw [if_pos hconnected, if_pos (Or.inl hconnected)]
      rfl
  · unfold Tester.modemSpeedTestBeginReceive Console.speedTestBeginReceive
    rw [hstate]
    by_cases hconnected : s.modem.driverState = .connected
    · rw [if_neg (not_not_intro hconnected), if_neg (not_not_intro hconnected)]
      exact modemSpeedTestBegin_console .receive x s
    · rw [if_pos hconnected, if_pos hconnected]
      rfl

end Routines

/-! ### Runs -/

/-- What happens to the speed test, with the frame counter at the time. -/
inductive Call where
  /-- The rest of the program, the modem and the host. -/
  | environment (modem : Modem) (mailbox : Mailbox)
  | beginTransmit (now : Long)
  | beginReceive (now : Long)
  | poll (now : Long)

/-- The tester behind a call. -/
def Tester.call (s : Tester) : Call → Tester
  | .environment modem mailbox => { s with modem := modem, mailbox := mailbox }
  | .beginTransmit now => (s.modemSpeedTestBeginTransmit (still now)).1
  | .beginReceive now => (s.modemSpeedTestBeginReceive (still now)).1
  | .poll now => (s.modemSpeedTestPoll pollFuel (still now)).getD s

/-- The console behind a call. -/
def consoleCall (c : Console) : Call → Console
  | .environment modem mailbox => { c with modem := modem, mailbox := mailbox }
  | .beginTransmit now => (c.speedTestBeginTransmit now.toUInt32).1
  | .beginReceive now => (c.speedTestBeginReceive now.toUInt32).1
  | .poll now => c.speedTestPoll now.toUInt32

/-- **The step lemma.** -/
lemma call_console (s : Tester) (call : Call) : (s.call call).console = consoleCall s.console call := by
  cases call with
  | environment modem mailbox => rfl
  | beginTransmit now => exact congrArg Prod.fst (begin_console now s).1
  | beginReceive now => exact congrArg Prod.fst (begin_console now s).2
  | poll now =>
    obtain ⟨s', hpoll, hs'⟩ := poll_console now s
    unfold Tester.call consoleCall
    dsimp only
    rw [hpoll, Option.getD_some, hs']

/-- **The two models agree**: in every sequence of calls the console's test is the one that the routines on pairs of
words leave, with the same modem and the same mailbox. -/
theorem calls_console (s : Tester) (calls : List Call) :
    (Run.run Tester.call s calls).console = Run.run consoleCall s.console calls := by
  induction calls generalizing s with
  | nil => rfl
  | cons call calls ih =>
    rw [Run.run_cons, Run.run_cons, ih, call_console]

end SnesModem.Asm.Speed
