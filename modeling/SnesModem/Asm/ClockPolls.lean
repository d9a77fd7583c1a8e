import SnesModem.Asm.ClockFrames
import SnesModem.Lib.Run

/-!
# Polls of the clock under interrupts

The NMI counts a frame between any two instructions.  A poll reads the counter twice: for the frames since the last
poll, and for the point from which the next poll counts.

* `Machine`: the instructions of a poll, with the frames that have elapsed, have been passed on and have been lost;
* `Books`: at each instruction, where the elapsed frames are accounted for;
* `books_run`: every run with a poll at least every 65535 frames keeps the books;
* `accounts_iff`: no frame is missing exactly if no tick has come between the two reads of a poll.
-/

namespace SnesModem.Asm.ClockPolls

open SnesModem.Lib SnesModem.Lib.Words SnesModem.Asm.ClockCalendar SnesModem.Asm.ClockFrames

/-- As many looks as the loops of the clock can need. -/
@[irreducible]
def pollFuel : ℕ := frameFuel

lemma frameFuel_le : frameFuel ≤ pollFuel := by
  unfold pollFuel
  exact le_rfl

lemma clockFuel_le : clockFuel ≤ pollFuel := le_trans (by decide : 256 ≤ 65536) frameFuel_le

/-- The instruction that comes next: of `clockSetUnixTime` behind its read of the counter, or of `clockPoll`. -/
inductive Place where
  | setStore | setRest
  | outside
  | entry | read | sec | sbc | beq | tax | reread | store
  | m8 | loadValid | beqValid | m16 | advance | bra | done16 | done
  deriving DecidableEq, Repr

/-- The low word of the counter, the clock and the registers; and the frames since the counter was read for the
synchronisation, those passed to `clockAdvanceFrames`, those since the last poll and those that no poll sees. -/
structure Machine where
  frameCounter : UInt16
  clock : Clock
  place : Place
  a : UInt16
  x : UInt16
  carry : Bool
  zero : Bool
  elapsed : ℕ
  passed : ℕ
  unpolled : ℕ
  lost : ℕ

inductive Event where
  | tick
  | turn
  | poll
  deriving DecidableEq, Repr

namespace Machine

variable (m : Machine)

/-- A poll has read the counter, there are frames to take, and it is to read the counter again. -/
def BetweenReadsAt : Place → Prop
  | .sec | .sbc => m.a ≠ m.clock.lastFrame
  | .beq => m.zero = false
  | .tax | .reread => True
  | _ => False

def BetweenReads : Prop := m.BetweenReadsAt m.place

instance : Decidable m.BetweenReads := by
  unfold BetweenReads BetweenReadsAt
  split <;> infer_instance

/-- The NMI. -/
def tick : Machine :=
  { m with
    frameCounter := m.frameCounter + 1
    elapsed := m.elapsed + 1
    unpolled := m.unpolled + 1
    lost := if m.BetweenReads then m.lost + 1 else m.lost }

/-- The instructions from `m8` on of `clockSetUnixTime`. -/
def setRest : Option Clock := do
  let c ← decomposeJst pollFuel { m.clock with valid := true }
  clockFormatDisplay pollFuel c

/-- One instruction; those that save and restore registers are taken together. -/
def turnAt : Place → Machine
  | .setStore => { m with clock := { m.clock with lastFrame := m.a }, place := .setRest }
  | .setRest =>
    match m.setRest with
    | none => m
    | some c => { m with clock := c, place := .outside }
  | .outside => m
  | .entry => { m with place := .read }
  | .read => { m with a := m.frameCounter, unpolled := 0, place := .sec }
  | .sec => { m with carry := true, place := .sbc }
  | .sbc =>
    let difference := Words.sbc m.a m.clock.lastFrame m.carry
    { m with a := difference.1, carry := difference.2, zero := difference.1 = 0, place := .beq }
  | .beq => { m with place := if m.zero then .done else .tax }
  | .tax => { m with x := m.a, place := .reread }
  | .reread => { m with a := m.frameCounter, place := .store }
  | .store => { m with clock := { m.clock with lastFrame := m.a }, place := .m8 }
  | .m8 => { m with place := .loadValid }
  | .loadValid =>
    { m with a := (m.a &&& 0xff00) + (if m.clock.valid then 1 else 0), zero := !m.clock.valid, place := .beqValid }
  | .beqValid => { m with place := if m.zero then .done16 else .m16 }
  | .m16 => { m with place := .advance }
  | .advance =>
    match clockAdvanceFrames pollFuel m.x m.clock with
    | none => m
    | some c => { m with clock := c, passed := m.passed + m.x.toNat, x := 0, place := .bra }
  | .bra => { m with place := .done }
  | .done16 => { m with place := .done }
  | .done => { m with place := .outside }

def turn : Machine := m.turnAt m.place

def step : Event → Machine
  | .tick => m.tick
  | .turn => m.turn
  | .poll => if m.place = .outside then { m with place := .entry } else m

/-- The frames since the counter had this value, as far as 16 bits go. -/
def since (frameCounter : UInt16) : ℕ := (m.frameCounter - frameCounter).toNat

/-- `clockSetUnixTime` has just read the counter. -/
structure Synchronizing : Prop where
  place : m.place = .setStore
  a : m.a = m.frameCounter
  elapsed : m.elapsed = 0
  passed : m.passed = 0
  unpolled : m.unpolled = 0
  lost : m.lost = 0

/-- The frames that a poll has taken over and is about to pass on. -/
def inFlight : ℕ :=
  match m.place with
  | .m8 | .loadValid | .beqValid | .m16 | .advance => m.x.toNat
  | _ => 0

/-- No poll is between its first read and its store, and the clock has its first reference. -/
def Settled : Prop :=
  match m.place with
  | .setStore | .sec | .sbc | .beq | .tax | .reread | .store => False
  | _ => True

/-- The elapsed frames are those passed on and those that the next poll is to see. -/
def Accounts : Prop := m.passed + m.inFlight + m.since m.clock.lastFrame = m.elapsed

end Machine

/-- A poll reads the counter at least once every 65535 frames. -/
def Polled (m : Machine) (event : Event) : Prop := event = .tick → m.unpolled < 65535

/-- A tick does not come between the two reads of a poll. -/
def Seen (m : Machine) (event : Event) : Prop := event = .tick → ¬ m.BetweenReads

instance (m : Machine) (event : Event) : Decidable (Polled m event) := inferInstanceAs (Decidable (_ → _))

instance (m : Machine) (event : Event) : Decidable (Seen m event) := inferInstanceAs (Decidable (_ → _))

/-! ### The books -/

/-- The frames that the next poll is to see make up the account. -/
def Even (m : Machine) (inFlight : ℕ) : Prop :=
  m.passed + inFlight + m.lost + m.since m.clock.lastFrame = m.elapsed ∧ m.since m.clock.lastFrame ≤ m.unpolled

/-- The frames that the poll takes make up the account. -/
def Open (m : Machine) (count : UInt16) : Prop := m.passed + m.lost + count.toNat = m.elapsed

/-- The counter has been read once. -/
def Taken (m : Machine) (first : UInt16) : Prop :=
  if first = m.clock.lastFrame then Even m 0 else Open m (first - m.clock.lastFrame)

/-- Where the elapsed frames are before the instruction. -/
def BooksAt (m : Machine) : Place → Prop
  | .setStore => m.passed + m.lost + m.since m.a = m.elapsed ∧ m.since m.a ≤ m.unpolled
  | .setRest => Even m 0
  | .sec => m.clock.valid = true ∧ Taken m m.a
  | .sbc => m.clock.valid = true ∧ m.carry = true ∧ Taken m m.a
  | .beq => m.clock.valid = true ∧ m.zero = decide (m.a = 0) ∧ Taken m (m.a + m.clock.lastFrame)
  | .tax => (m.clock.valid = true ∧ m.a ≠ 0) ∧ Open m m.a
  | .reread => (m.clock.valid = true ∧ m.x ≠ 0) ∧ Open m m.x
  | .store => (m.clock.valid = true ∧ m.x ≠ 0) ∧
      m.passed + m.x.toNat + m.lost + m.since m.a = m.elapsed ∧ m.since m.a ≤ m.unpolled
  | .m8 | .loadValid | .m16 | .advance => (m.clock.valid = true ∧ m.x ≠ 0) ∧ Even m m.x.toNat
  | .beqValid => (m.clock.valid = true ∧ m.x ≠ 0) ∧ m.zero = false ∧ Even m m.x.toNat
  | _ => m.clock.valid = true ∧ Even m 0

def Books (m : Machine) : Prop := BooksAt m m.place

section Steps

variable {m : Machine}

lemma since_tick {first : UInt16} (h : m.since first < 65535) : m.tick.since first = m.since first + 1 := by
  have hone : (1 : UInt16).toNat = 1 := rfl
  unfold Machine.since at h ⊢
  show (m.frameCounter + 1 - first).toNat = _
  rw [add_sub_right_comm, UInt16.toNat_add, hone]
  omega

lemma even_tick {count : ℕ} (h : Even m count) (hpolled : m.unpolled < 65535) (hlost : ¬ m.BetweenReads) :
    Even m.tick count := by
  obtain ⟨hsum, hle⟩ := h
  have hsince : m.tick.since m.clock.lastFrame = _ := since_tick (lt_of_le_of_lt hle hpolled)
  have hsame : m.tick.lost = m.lost := if_neg hlost
  refine ⟨?_, ?_⟩
  · show m.passed + count + m.tick.lost + m.tick.since m.clock.lastFrame = m.elapsed + 1
    omega
  · show m.tick.since m.clock.lastFrame ≤ m.unpolled + 1
    omega

lemma open_tick {count : UInt16} (h : Open m count) (hlost : m.BetweenReads) : Open m.tick count := by
  have hmore : m.tick.lost = m.lost + 1 := if_pos hlost
  unfold Open at h ⊢
  show m.passed + m.tick.lost + count.toNat = m.elapsed + 1
  omega

lemma taken_tick {first : UInt16} (h : Taken m first) (hpolled : m.unpolled < 65535)
    (hlost : m.BetweenReads ↔ first ≠ m.clock.lastFrame) : Taken m.tick first := by
  unfold Taken at h ⊢
  show if first = m.clock.lastFrame then _ else Open m.tick (first - m.clock.lastFrame)
  split_ifs at h ⊢ with hfirst
  · exact even_tick h hpolled (fun hbetween => hlost.mp hbetween hfirst)
  · exact open_tick h (hlost.mpr hfirst)

/-- Behind a read the tick is seen by the next poll. -/
lemma read_tick (count : ℕ) (h : m.passed + count + m.lost + m.since m.a = m.elapsed ∧ m.since m.a ≤ m.unpolled)
    (hpolled : m.unpolled < 65535) (hlost : ¬ m.BetweenReads) :
    m.tick.passed + count + m.tick.lost + m.tick.since m.tick.a = m.tick.elapsed ∧
      m.tick.since m.tick.a ≤ m.tick.unpolled := by
  obtain ⟨hsum, hle⟩ := h
  have hsince : m.tick.since m.a = _ := since_tick (lt_of_le_of_lt hle hpolled)
  have hsame : m.tick.lost = m.lost := if_neg hlost
  refine ⟨?_, ?_⟩
  · show m.passed + count + m.tick.lost + m.tick.since m.a = m.elapsed + 1
    omega
  · show m.tick.since m.a ≤ m.unpolled + 1
    omega

/-- **A tick** is booked where it is seen, or as lost. -/
lemma books_tick (h : Books m) (hpolled : m.unpolled < 65535) : Books m.tick := by
  unfold Books at h ⊢
  show BooksAt m.tick m.place
  have hbetween : m.BetweenReads ↔ m.BetweenReadsAt m.place := Iff.rfl
  cases hplace : m.place <;> rw [hplace] at h hbetween
  case setStore => exact read_tick 0 h hpolled hbetween.mp
  case setRest => exact even_tick h hpolled hbetween.mp
  case sec => exact ⟨h.1, taken_tick h.2 hpolled hbetween⟩
  case sbc => exact ⟨h.1, h.2.1, taken_tick h.2.2 hpolled hbetween⟩
  case beq =>
    obtain ⟨hvalid, hzero, htaken⟩ := h
    refine ⟨hvalid, hzero, taken_tick htaken hpolled (hbetween.trans ?_)⟩
    show m.zero = false ↔ m.a + m.clock.lastFrame ≠ m.clock.lastFrame
    rw [hzero, decide_eq_false_iff_not, ne_eq, add_eq_right]
  case tax => exact ⟨h.1, open_tick h.2 (hbetween.mpr trivial)⟩
  case reread => exact ⟨h.1, open_tick h.2 (hbetween.mpr trivial)⟩
  case store => exact ⟨h.1, read_tick _ h.2 hpolled hbetween.mp⟩
  case beqValid => exact ⟨h.1, h.2.1, even_tick h.2.2 hpolled hbetween.mp⟩
  all_goals exact ⟨h.1, even_tick h.2 hpolled hbetween.mp⟩

/-! ### Instructions -/

lemma clockAdvanceFrame_keeps (c : Clock) :
    ∃ c', (∀ fuel, clockFuel ≤ fuel → clockAdvanceFrame fuel c = some c') ∧ c'.lastFrame = c.lastFrame ∧
      c'.valid = c.valid := by
  unfold clockAdvanceFrame
  dsimp only
  split_ifs with hcarry
  · have hkept : ∀ c : Clock, (clockIncrementCalendar c).lastFrame = c.lastFrame ∧
        (clockIncrementCalendar c).valid = c.valid := by
      intro c
      unfold clockIncrementCalendar
      dsimp only
      split_ifs <;> exact ⟨rfl, rfl⟩
    obtain ⟨text, hdisplay⟩ := clockFormatDisplay_halts (clockIncrementCalendar { c with
      subsecond := (c.subsecond.add Clock.frameFraction).1, unixSeconds := c.unixSeconds.inc })
    exact ⟨_, hdisplay, hkept _⟩
  · exact ⟨_, fun _ _ => rfl, rfl, rfl⟩

lemma frameLoop_keeps (x : UInt16) (c : Clock) (hx : x ≠ 0) :
    ∃ c', (∀ fuel turns, clockFuel ≤ fuel → x.toNat ≤ turns → frameLoop fuel turns x c = some c') ∧
      c'.lastFrame = c.lastFrame ∧ c'.valid = c.valid := by
  refine ClockFrames.frameLoop_rule (P := fun _ c' => c'.lastFrame = c.lastFrame ∧ c'.valid = c.valid) hx ?_ ⟨rfl, rfl⟩
  rintro k - c' ⟨hlast, hvalid⟩
  obtain ⟨c'', hturn, hlast', hvalid'⟩ := clockAdvanceFrame_keeps c'
  exact ⟨c'', hturn, hlast'.trans hlast, hvalid'.trans hvalid⟩

lemma setRest_keeps (m : Machine) :
    ∃ c, m.setRest = some c ∧ c.lastFrame = m.clock.lastFrame ∧ c.valid = true := by
  obtain ⟨c, hdecompose, -, -, -, hlast, hvalid⟩ := decomposeJst_halts { m.clock with valid := true }
  obtain ⟨text, hdisplay⟩ := clockFormatDisplay_halts c
  refine ⟨{ c with displayText := text }, ?_, hlast, hvalid⟩
  unfold Machine.setRest
  rw [hdecompose pollFuel clockFuel_le, Option.bind_eq_bind, Option.bind_some]
  exact hdisplay pollFuel clockFuel_le

lemma taken_of_read (h : Even m 0) :
    Taken { m with a := m.frameCounter, unpolled := 0, place := .sec } m.frameCounter := by
  obtain ⟨hsum, -⟩ := h
  unfold Taken
  show if m.frameCounter = m.clock.lastFrame then _ else _
  split_ifs with hsame
  · have hzero : m.since m.clock.lastFrame = 0 := by
      unfold Machine.since
      rw [hsame, sub_self]
      rfl
    refine ⟨hsum, ?_⟩
    show m.since m.clock.lastFrame ≤ 0
    rw [hzero]
  · unfold Open
    unfold Machine.since at hsum
    show m.passed + m.lost + (m.frameCounter - m.clock.lastFrame).toNat = m.elapsed
    omega

/-- **An instruction** moves the frames from one account to the next. -/
lemma books_turn (h : Books m) : Books m.turn := by
  unfold Books at h ⊢
  unfold Machine.turn
  cases hplace : m.place <;> rw [hplace] at h
  case setStore =>
    obtain ⟨hsum, hle⟩ := h
    exact ⟨hsum, hle⟩
  case setRest =>
    obtain ⟨c, hrest, hlast, hvalid⟩ := setRest_keeps m
    have hturn : m.turnAt .setRest = { m with clock := c, place := .outside } := by
      rw [Machine.turnAt, hrest]
    rw [hturn]
    refine ⟨hvalid, ?_⟩
    obtain ⟨hsum, hle⟩ := h
    unfold Machine.since at hsum hle
    unfold Even Machine.since
    dsimp only
    rw [hlast]
    exact ⟨hsum, hle⟩
  case outside =>
    show BooksAt m m.place
    rw [hplace]
    exact h
  case read => exact ⟨h.1, taken_of_read h.2⟩
  case sec => exact ⟨h.1, rfl, h.2⟩
  case sbc =>
    obtain ⟨hvalid, hcarry, htaken⟩ := h
    have hdifference : (Words.sbc m.a m.clock.lastFrame m.carry).1 = m.a - m.clock.lastFrame := by
      rw [hcarry]
      exact sub_zero _
    refine ⟨hvalid, rfl, ?_⟩
    show Taken _ ((Words.sbc m.a m.clock.lastFrame m.carry).1 + m.clock.lastFrame)
    rw [hdifference, sub_add_cancel]
    exact htaken
  case beq =>
    obtain ⟨hvalid, hzero, htaken⟩ := h
    unfold Taken at htaken
    simp only [add_eq_right, add_sub_cancel_right] at htaken
    show BooksAt { m with place := if m.zero then .done else .tax } (if m.zero then .done else .tax)
    by_cases ha : m.a = 0
    · rw [if_pos ha] at htaken
      rw [hzero, ha]
      exact ⟨hvalid, htaken⟩
    · rw [if_neg ha] at htaken
      rw [hzero, decide_eq_false ha]
      exact ⟨⟨hvalid, ha⟩, htaken⟩
  case tax => exact h
  case reread =>
    obtain ⟨hvalid, hopen⟩ := h
    have hsince : (m.turnAt .reread).since m.frameCounter = 0 := by
      show (m.frameCounter - m.frameCounter).toNat = 0
      rw [sub_self]
      rfl
    unfold Open at hopen
    refine ⟨hvalid, ?_, ?_⟩
    · show m.passed + m.x.toNat + m.lost + (m.turnAt .reread).since m.frameCounter = m.elapsed
      omega
    · show (m.turnAt .reread).since m.frameCounter ≤ m.unpolled
      omega
  case store => exact h
  case loadValid =>
    obtain ⟨⟨hvalid, hx⟩, heven⟩ := h
    refine ⟨⟨hvalid, hx⟩, ?_, heven⟩
    show (!m.clock.valid) = false
    rw [hvalid]
    rfl
  case beqValid =>
    obtain ⟨hvalid, hzero, heven⟩ := h
    show BooksAt { m with place := if m.zero then .done16 else .m16 } (if m.zero then .done16 else .m16)
    rw [hzero]
    exact ⟨hvalid, heven⟩
  case advance =>
    obtain ⟨⟨hvalid, hx⟩, hsum, hle⟩ := h
    obtain ⟨c, hadvance, hlast, hvalid'⟩ := frameLoop_keeps m.x m.clock hx
    have hcall : clockAdvanceFrames pollFuel m.x m.clock = some c :=
      hadvance pollFuel pollFuel clockFuel_le (le_trans m.x.toNat_lt.le frameFuel_le)
    have hturn : m.turnAt .advance =
        { m with clock := c, passed := m.passed + m.x.toNat, x := 0, place := .bra } := by
      rw [Machine.turnAt, hcall]
    rw [hturn]
    refine ⟨hvalid'.trans hvalid, ?_⟩
    unfold Machine.since at hsum hle
    unfold Even Machine.since
    dsimp only
    rw [hlast]
    exact ⟨hsum, hle⟩
  all_goals exact h

/-- **Every event** keeps the books, if polls are frequent. -/
theorem books_step (h : Books m) (event : Event) (hpolled : Polled m event) : Books (m.step event) := by
  cases event with
  | tick => exact books_tick h (hpolled rfl)
  | turn => exact books_turn h
  | poll =>
    show Books (if m.place = .outside then { m with place := .entry } else m)
    split_ifs with hplace
    · unfold Books at h
      rw [hplace] at h
      exact h
    · exact h

lemma books_start (h : m.Synchronizing) : Books m := by
  have hsince : m.since m.a = 0 := by
    unfold Machine.since
    rw [h.a, sub_self]
    rfl
  unfold Books
  rw [h.place]
  refine ⟨?_, ?_⟩
  · rw [h.passed, h.lost, h.elapsed, hsince]
  · rw [hsince]
    exact Nat.zero_le _

/-- In a settled state the frames that are missing are those lost. -/
lemma accounts_iff_lost (h : Books m) (hsettled : m.Settled) : m.Accounts ↔ m.lost = 0 := by
  have heven : Even m m.inFlight := by
    unfold Books at h
    unfold Machine.Settled at hsettled
    unfold Machine.inFlight
    cases hplace : m.place <;> rw [hplace] at h hsettled
    case setRest => exact h
    case beqValid => exact h.2.2
    all_goals first | exact h.2 | exact hsettled.elim
  obtain ⟨hsum, -⟩ := heven
  unfold Machine.Accounts
  omega

end Steps

/-! ### Runs -/

section Runs

variable {m : Machine} {events : List Event}

theorem books_run (h : m.Synchronizing) (hpolled : Run.Along Machine.step Polled m events) :
    Books (Run.run Machine.step m events) :=
  Run.run_invariant (fun _ event hbooks hpolled => books_step hbooks event hpolled) (books_start h) hpolled

lemma turnAt_lost (m : Machine) (place : Place) : (m.turnAt place).lost = m.lost := by
  cases place
  case setRest =>
    rw [Machine.turnAt]
    cases m.setRest <;> rfl
  case advance =>
    rw [Machine.turnAt]
    cases clockAdvanceFrames pollFuel m.x m.clock <;> rfl
  all_goals rfl

lemma lost_step (m : Machine) (event : Event) : (m.step event).lost = 0 ↔ m.lost = 0 ∧ Seen m event := by
  unfold Seen
  cases event with
  | tick =>
    show (if m.BetweenReads then m.lost + 1 else m.lost) = 0 ↔ _
    split_ifs with hbetween
    · simp [hbetween]
    · simp [hbetween]
  | turn =>
    have hsame : m.turn.lost = m.lost := turnAt_lost m m.place
    show m.turn.lost = 0 ↔ _
    simp [hsame]
  | poll =>
    show (if m.place = .outside then { m with place := .entry } else m : Machine).lost = 0 ↔ _
    split_ifs <;> simp

lemma lost_run (m : Machine) (events : List Event) :
    (Run.run Machine.step m events).lost = 0 ↔ m.lost = 0 ∧ Run.Along Machine.step Seen m events := by
  induction events generalizing m with
  | nil => simp [Run.Along]
  | cons event events ih =>
    rw [Run.run_cons, ih, lost_step, and_assoc]
    rfl

/-- From a synchronisation on, with polls at least every 65535 frames: where the reference is settled, no frame is
missing exactly if no tick has come between the two reads of a poll. -/
theorem accounts_iff (h : m.Synchronizing) (hpolled : Run.Along Machine.step Polled m events)
    (hsettled : (Run.run Machine.step m events).Settled) :
    (Run.run Machine.step m events).Accounts ↔ Run.Along Machine.step Seen m events := by
  rw [accounts_iff_lost (books_run h hpolled) hsettled, lost_run, h.lost]
  simp

end Runs

/-! ### A frame that is lost -/

lemma Machine.settled_of_outside {m : Machine} (h : m.place = .outside) : m.Settled := by
  unfold Settled
  rw [h]
  trivial

/-- The clock is set to the first second of 1970. -/
def synchronizing : Machine :=
  { frameCounter := 0
    clock := default
    place := .setStore
    a := 0, x := 0, carry := false, zero := false
    elapsed := 0, passed := 0, unpolled := 0, lost := 0 }

lemma synchronizing_spec : synchronizing.Synchronizing := ⟨rfl, rfl, rfl, rfl, rfl, rfl⟩

/-- A frame before a poll, and one after it. -/
def seenTicks : List Event := [.turn, .turn, .tick, .poll] ++ List.replicate 15 .turn ++ [.tick]

theorem accounts_iff_seen :
    (Run.run Machine.step synchronizing seenTicks).Accounts ↔ Run.Along Machine.step Seen synchronizing seenTicks :=
  accounts_iff synchronizing_spec (by decide +kernel) (Machine.settled_of_outside (by decide +kernel))

/-- A frame before a poll, and one between its two reads. -/
def lostTick : List Event := [.turn, .turn, .tick, .poll, .turn, .turn, .tick] ++ List.replicate 13 .turn

/-- The second frame is in no account. -/
theorem frame_lost :
    synchronizing.Synchronizing ∧ Run.Along Machine.step Polled synchronizing lostTick ∧
      (Run.run Machine.step synchronizing lostTick).place = .outside ∧
      ¬ (Run.run Machine.step synchronizing lostTick).Accounts := by
  refine ⟨synchronizing_spec, by decide +kernel, by decide +kernel, ?_⟩
  unfold Machine.Accounts
  decide +kernel

end SnesModem.Asm.ClockPolls
