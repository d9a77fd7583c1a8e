import SnesModem.Asm.AtTransactions
import SnesModem.Asm.SessionLines

/-!
# The result of a probe or of an AT transaction

* `DriverCall`: the entries of the driver, in any order from the reset on;
* `Begun`: a modem that has just begun a transaction, or a probe in such a run;
* `Transaction`: its polls, the octets that they read and the result that ends it;
* `ReadsLines`: the result is set at the LF of the first line that reports one;
* `readsLines_iff`: this holds exactly when no line of the transaction is misread.
-/

namespace SnesModem.Asm.SessionResults

open SnesModem.Lib SnesModem.Lib.Octets SnesModem.Asm.AtTransactions SnesModem.Asm.SessionLines

/-! ### The driver -/

inductive DriverCall where
  | reset (now : UInt32)
  | vBlank
  | pollModem (now : UInt32) (reports : List Modem.Report)
  | pollSession (now : UInt32)
  | beginAt (now : UInt32) (arguments : Buffer)
  | receivePoll (taken : ℕ) (carrierLost : Bool)
  | transmitPoll (octets : List UInt8)
  | ring (call : RingCall)

def DriverCall.step (m : Modem) : DriverCall → Modem
  | .reset now => modemInitialize now m
  | .vBlank => { m with pollTick := true }
  | .pollModem now reports => modemPoll now reports m
  | .pollSession now => modemSessionPoll now m
  | .beginAt now arguments => (modemAtBegin now arguments m).1
  | .receivePoll taken carrierLost => Exchange.receive taken carrierLost m
  | .transmitPoll octets => Exchange.transmit octets m
  | .ring call => call.step m

/-- A probe that has not been sent finds the line buffer empty, and no transaction runs outside its states. -/
structure Clean (m : Modem) : Prop where
  running : m.atStatus = .running → inTransaction m.driverState
  unsent : m.driverState = .resetting ∨ m.driverState = .probing → m.probeSent = false → m.lineLength = 0

/-- The variables of the session are left alone. -/
structure SameSession (m m' : Modem) : Prop where
  driverState : m'.driverState = m.driverState
  atStatus : m'.atStatus = m.atStatus
  probeSent : m'.probeSent = m.probeSent
  lastResult : m'.lastResult = m.lastResult
  line : m'.line = m.line
  lineLength : m'.lineLength = m.lineLength

section Driver

variable {m m' m'' : Modem}

lemma SameSession.refl (m : Modem) : SameSession m m := ⟨rfl, rfl, rfl, rfl, rfl, rfl⟩

lemma SameSession.trans (h : SameSession m m') (h' : SameSession m' m'') : SameSession m m'' :=
  ⟨h'.driverState.trans h.driverState, h'.atStatus.trans h.atStatus, h'.probeSent.trans h.probeSent,
    h'.lastResult.trans h.lastResult, h'.line.trans h.line, h'.lineLength.trans h.lineLength⟩

lemma SameSession.clean (h : SameSession m m') (hclean : Clean m) : Clean m' := by
  refine ⟨?_, ?_⟩
  · rw [h.atStatus, h.driverState]
    exact hclean.running
  · rw [h.driverState, h.probeSent, h.lineLength]
    exact hclean.unsent

lemma SameSession.follows (h : SameSession m m') {stream : List UInt8} (hfollows : Follows m stream) :
    Follows m' stream := hfollows.congr h.lastResult h.line h.lineLength

lemma queueBytes_session (octets : List UInt8) (m : Modem) : SameSession m (Modem.queueBytes octets m).1 := by
  induction octets generalizing m with
  | nil => exact .refl m
  | cons octet octets ih =>
    unfold Modem.queueBytes
    split
    · exact ⟨rfl, rfl, rfl, rfl, rfl, rfl⟩
    · rename_i transmit _
      have hqueued : SameSession m { m with transmit := transmit } := ⟨rfl, rfl, rfl, rfl, rfl, rfl⟩
      exact hqueued.trans (ih _)

lemma storeReceived_session (m : Modem) (received : Option UInt8) : SameSession m (m.storeReceived received).1 := by
  cases received with
  | none => exact .refl m
  | some octet => exact ⟨rfl, rfl, rfl, rfl, rfl, rfl⟩

lemma transfers_session (budget : ℕ) (accepted hint : Bool) (reports : List Modem.Report) (m : Modem) :
    SameSession m (Modem.transfers budget accepted hint reports m) := by
  induction budget generalizing accepted hint reports m with
  | zero =>
    unfold Modem.transfers
    split
    · exact ⟨rfl, rfl, rfl, rfl, rfl, rfl⟩
    · exact .refl m
  | succ budget ih =>
    unfold Modem.transfers
    split
    · have hconsumed : SameSession m { m with transmit := m.transmit.consume } := ⟨rfl, rfl, rfl, rfl, rfl, rfl⟩
      have hstored := storeReceived_session { m with transmit := m.transmit.consume } (reports.headD {}).received
      exact (hconsumed.trans hstored).trans (ih _ _ _ _)
    · exact .refl m

/-- A poll of the port leaves the session alone, but for the end of a reset. -/
lemma modemPoll_session (now : UInt32) (reports : List Modem.Report) (m : Modem) :
    SameSession m (modemPoll now reports m) ∨
      (m.driverState = .resetting ∧ SameSession { m with driverState := .probing } (modemPoll now reports m)) := by
  unfold modemPoll
  split
  · exact Or.inl (.refl m)
  split
  · exact Or.inl (.refl m)
  extract_lets m1 guarded m2 report
  have hsame1 : SameSession m m1 := ⟨rfl, rfl, rfl, rfl, rfl, rfl⟩
  -- What follows the end of the reset leaves the session alone.
  have hrest : SameSession m2 (if (m2.storeReceived report.received).1.driverState = .resetting then
      (m2.storeReceived report.received).1
      else Modem.transfers Modem.pollBudget (m2.storeReceived report.received).2 report.hint reports.tail
        (m2.storeReceived report.received).1) := by
    have hstored := storeReceived_session m2 report.received
    split
    · exact hstored
    · exact hstored.trans (transfers_session _ _ _ _ _)
  by_cases hguarded : guarded = true
  · have hresetting : m.driverState = .resetting := by
      simp only [guarded, Bool.and_eq_true, decide_eq_true_eq] at hguarded
      exact hguarded.1
    have hprobing : m2 = { m1 with driverState := .probing } := if_pos hguarded
    have hsame2 : SameSession { m with driverState := .probing } m2 := by
      rw [hprobing]
      exact ⟨rfl, rfl, rfl, rfl, rfl, rfl⟩
    exact Or.inr ⟨hresetting, hsame2.trans hrest⟩
  · have hsame2 : m2 = m1 := if_neg hguarded
    refine Or.inl (hsame1.trans ?_)
    rw [hsame2] at hrest
    rw [hsame2]
    exact hrest

/-- A driver in no transaction, and out of the states in which a probe is to come. -/
lemma clean_of_out (hstatus : m.atStatus ≠ .running) (hresetting : m.driverState ≠ .resetting)
    (hprobing : m.driverState ≠ .probing) : Clean m :=
  ⟨fun hrunning => absurd hrunning hstatus, fun hstate => absurd hstate (by tauto)⟩

/-- A driver in no transaction with an empty line buffer. -/
lemma clean_of_empty (hstatus : m.atStatus ≠ .running) (hlength : m.lineLength = 0) : Clean m :=
  ⟨fun hrunning => absurd hrunning hstatus, fun _ _ => hlength⟩

lemma modemPoll_clean (now : UInt32) (reports : List Modem.Report) (h : Clean m) : Clean (modemPoll now reports m) := by
  rcases modemPoll_session now reports m with hsame | ⟨hresetting, hsame⟩
  · exact hsame.clean h
  · refine hsame.clean ⟨?_, fun _ => h.unsent (Or.inl hresetting)⟩
    intro hrunning
    have hin := h.running hrunning
    rw [hresetting] at hin
    exact absurd hin resetting_out

/-- What is read of the ring leaves the driver and the probe where they are. -/
lemma readResponse_driver (fuel : ℕ) (m : Modem) :
    (Modem.readResponse fuel m).1.driverState = m.driverState ∧ (Modem.readResponse fuel m).1.atStatus = m.atStatus ∧
      (Modem.readResponse fuel m).1.probeSent = m.probeSent := by
  have hfeed : ∀ (m : Modem) octet, (m.feedByte octet).probeSent = m.probeSent := by
    intro m octet
    unfold Modem.feedByte Modem.finishLine
    split
    · rfl
    split
    · split <;> rfl
    split <;> rfl
  have hsame := readResponse_same fuel m
  refine ⟨hsame.driverState, hsame.atStatus, ?_⟩
  clear hsame
  induction fuel generalizing m with
  | zero => rfl
  | succ fuel ih =>
    unfold Modem.readResponse
    split
    · rfl
    · rename_i octet receive _
      dsimp only
      split
      · rw [ih, hfeed]
      · exact hfeed _ _

lemma readProbe_clean (now : UInt32) (hstatus : m.atStatus ≠ .running) (hsent : m.probeSent = true) :
    Clean (m.readProbe now) := by
  obtain ⟨-, hstatus', hsent'⟩ := readResponse_driver Modem.ringFuel m
  unfold Modem.readProbe
  split
  · rename_i m' heq
    rw [heq] at hstatus' hsent'
    have hidle : m'.atStatus ≠ .running := hstatus' ▸ hstatus
    unfold Modem.checkProbeTimeout
    split
    · exact ⟨fun hrunning => absurd hrunning hidle, fun _ hunsent => absurd (hsent'.trans hsent) (by rw [hunsent]; nofun)⟩
    extract_lets m1
    split
    · exact clean_of_out hidle nofun nofun
    · exact clean_of_empty hidle rfl
  · rename_i m' heq
    rw [heq] at hstatus'
    have hidle : m'.atStatus ≠ .running := hstatus' ▸ hstatus
    split
    · exact clean_of_out hidle nofun nofun
    unfold Modem.probeRejected
    extract_lets m1
    split
    · exact clean_of_out hidle nofun nofun
    · exact clean_of_empty hidle rfl

lemma modemSessionPoll_clean (now : UInt32) (h : Clean m) : Clean (modemSessionPoll now m) := by
  unfold modemSessionPoll
  split
  · rename_i hrunning
    -- A transaction is in none of the states of the probe, and ends outside of them.
    obtain ⟨hstate, hstatus, -⟩ := readResponse_driver Modem.ringFuel m
    unfold Modem.pollAt
    split
    · rename_i m' heq
      rw [heq] at hstate hstatus
      have hin : inTransaction m'.driverState := by
        rw [hstate]
        exact h.running hrunning
      unfold Modem.checkAtTimeout
      split
      · refine ⟨fun _ => hin, ?_⟩
        rintro (hresetting | hprobing) -
        · exact absurd (hresetting ▸ hin) resetting_out
        · exact absurd (hprobing ▸ hin) probing_out
      · exact clean_of_out nofun nofun nofun
    · split
      · unfold Modem.atPassed
        refine clean_of_out nofun ?_ ?_
        · dsimp only
          split <;> nofun
        · dsimp only
          split <;> nofun
      · exact clean_of_out nofun nofun nofun
  · rename_i hidle
    split
    · rename_i hprobing
      unfold Modem.pollProbe
      split
      · rename_i hsent
        exact readProbe_clean now hidle hsent
      · have hqueued := queueBytes_session Modem.probe m
        split
        · rename_i m' heq
          rw [heq] at hqueued
          exact hqueued.clean h
        · rename_i m' heq
          rw [heq] at hqueued
          exact readProbe_clean now (hqueued.atStatus ▸ hidle) rfl
    · exact h

lemma modemAtBegin_clean (now : UInt32) (arguments : Buffer) (h : Clean m) : Clean (modemAtBegin now arguments m).1 := by
  rcases modemAtBegin_cases now arguments m with hrefused | ⟨-, -, hin, -⟩
  · rw [hrefused]
    exact ⟨nofun, h.unsent⟩
  · refine ⟨fun _ => hin, ?_⟩
    rintro (hresetting | hprobing) -
    · exact absurd (hresetting ▸ hin) resetting_out
    · exact absurd (hprobing ▸ hin) probing_out

lemma receive_clean (taken : ℕ) (carrierLost : Bool) (h : Clean m) : Clean (Exchange.receive taken carrierLost m) := by
  unfold Exchange.receive
  by_cases hconnected : m.driverState = .connected
  · have hidle : m.atStatus ≠ .running := by
      intro hrunning
      have hin := h.running hrunning
      rw [hconnected] at hin
      exact connected_out hin
    rw [if_neg (not_not_intro hconnected)]
    split
    · exact clean_of_out hidle nofun nofun
    · exact clean_of_out hidle (by rw [hconnected]; nofun) (by rw [hconnected]; nofun)
  · rw [if_pos hconnected]
    exact h

lemma transmit_clean (octets : List UInt8) (h : Clean m) : Clean (Exchange.transmit octets m) := by
  unfold Exchange.transmit
  split
  · exact h
  · exact (queueBytes_session octets m).clean h

lemma ring_session (call : RingCall) (m : Modem) : SameSession m (call.step m) := by
  cases call with
  | readByte =>
    show SameSession m (modemReadByte m).1
    unfold modemReadByte
    split
    · exact .refl m
    · exact ⟨rfl, rfl, rfl, rfl, rfl, rfl⟩
  | _ => exact ⟨rfl, rfl, rfl, rfl, rfl, rfl⟩

/-- **Every call** of the driver keeps it clean. -/
theorem clean_step (h : Clean m) (call : DriverCall) : Clean (call.step m) := by
  cases call with
  | reset now => exact clean_of_empty nofun rfl
  | vBlank =>
    have hsame : SameSession m { m with pollTick := true } := ⟨rfl, rfl, rfl, rfl, rfl, rfl⟩
    exact hsame.clean h
  | pollModem now reports => exact modemPoll_clean now reports h
  | pollSession now => exact modemSessionPoll_clean now h
  | beginAt now arguments => exact modemAtBegin_clean now arguments h
  | receivePoll taken carrierLost => exact receive_clean taken carrierLost h
  | transmitPoll octets => exact transmit_clean octets h
  | ring call => exact (ring_session call m).clean h

theorem clean_run (calls : List DriverCall) : Clean (Run.run DriverCall.step modemInitializeDiagnostics calls) :=
  Run.run_preserves (fun _ call h => clean_step h call) (clean_of_out nofun nofun nofun)

end Driver

/-! ### Transactions -/

/-- A modem that has just begun a transaction, or a probe in a run of the driver. -/
inductive Begun : Modem → Prop where
  | transaction {m m' : Modem} {now : UInt32} {arguments : Buffer} (h : modemAtBegin now arguments m = (m', false)) :
      Begun m'
  | probe {m' : Modem} {now : UInt32} (calls : List DriverCall)
      (hstate : (Run.run DriverCall.step modemInitializeDiagnostics calls).driverState = .probing)
      (hstatus : (Run.run DriverCall.step modemInitializeDiagnostics calls).atStatus ≠ .running)
      (hunsent : (Run.run DriverCall.step modemInitializeDiagnostics calls).probeSent = false)
      (h : Modem.queueBytes Modem.probe (Run.run DriverCall.step modemInitializeDiagnostics calls) = (m', false)) :
      Begun { m' with probeSent := true, lastResult := .none, probeStartFrame := now }

/-- The session reads the ring, for a transaction or for a probe that has been sent. -/
def Reading (m : Modem) : Prop := m.atStatus = .running ∨ (m.driverState = .probing ∧ m.probeSent = true)

instance (m : Modem) : Decidable (Reading m) := inferInstanceAs (Decidable (_ ∨ _))

inductive Poll where
  | vBlank
  | modem (now : UInt32) (reports : List Modem.Report)
  | session (now : UInt32)

/-- The octets that the session has read of the ring since it has begun, and the result that it has found. -/
structure Transaction where
  modem : Modem
  consumed : List UInt8
  result : Option SessionResult

namespace Transaction

def begin (m : Modem) : Transaction := ⟨m, [], none⟩

/-- A result ends a transaction, and so does what the session no longer reads for. -/
def step (t : Transaction) (poll : Poll) : Transaction :=
  if t.result.isSome ∨ ¬ Reading t.modem then t
  else
    match poll with
    | .vBlank => { t with modem := { t.modem with pollTick := true } }
    | .modem now reports => { t with modem := modemPoll now reports t.modem }
    | .session now =>
      let response := Modem.readResponse Modem.ringFuel t.modem
      let taken := t.modem.receive.held - response.1.receive.held
      { modem := modemSessionPoll now t.modem
        consumed := t.consumed ++ t.modem.receive.contents.take taken
        result := if response.2 then some response.1.lastResult else none }

end Transaction

/-- The result is that of the first line that reports one, and is set as soon as that line has ended. -/
def ReadsLines (t : Transaction) : Prop :=
  match t.result with
  | none => ∀ n, resultAt t.consumed n = none
  | some result => ∃ n, t.consumed.length = n + 1 ∧ resultAt t.consumed n = some result ∧
      ∀ k < n, resultAt t.consumed k = none

/-- The result, if there is one, is what the buffer reports at the end of what has been read. -/
structure Reads (t : Transaction) : Prop where
  quiet : t.result = none → Quiet t.consumed
  follows : t.result = none → Reading t.modem → Follows t.modem t.consumed
  reports : ∀ result, t.result = some result → Reports t.consumed result

section Transactions

variable {m : Modem} {t : Transaction}

lemma Begun.follows (h : Begun m) : Follows m [] := by
  cases h with
  | transaction h =>
    unfold modemAtBegin at h
    extract_lets timeoutFrames length at h
    split at h
    · cases h
    split at h
    · cases h
    split at h
    · cases h
    · cases h
      exact follows_nil rfl rfl
  | probe calls hstate hstatus hunsent h =>
    have hqueued := (queueBytes_session Modem.probe (Run.run DriverCall.step modemInitializeDiagnostics calls)).lineLength
    rw [h] at hqueued
    exact follows_nil rfl (hqueued.trans ((clean_run calls).unsent (Or.inr hstate) hunsent))

/-- A poll that finds no result and reads on has left the buffer as the ring has filled it. -/
lemma modemSessionPoll_follows (now : UInt32) {stream : List UInt8} (hreading : Reading m)
    (hnone : (Modem.readResponse Modem.ringFuel m).2 = false)
    (h : Follows (Modem.readResponse Modem.ringFuel m).1 stream) (hreading' : Reading (modemSessionPoll now m)) :
    Follows (modemSessionPoll now m) stream := by
  obtain ⟨-, hstatus, -⟩ := readResponse_driver Modem.ringFuel m
  revert h hreading'
  unfold modemSessionPoll
  split
  · unfold Modem.pollAt
    split
    · rename_i m' heq
      rw [heq]
      unfold Modem.checkAtTimeout
      split
      · exact fun h _ => h
      · exact fun _ hreading' => absurd hreading' (by simp [Reading])
    · rename_i m' heq
      rw [heq] at hnone
      cases hnone
  · rename_i hidle
    obtain ⟨hprobing, hsent⟩ := hreading.resolve_left hidle
    rw [if_pos hprobing]
    unfold Modem.pollProbe
    rw [if_pos hsent]
    unfold Modem.readProbe
    split
    · rename_i m' heq
      rw [heq] at hstatus ⊢
      have hidle' : m'.atStatus ≠ .running := hstatus ▸ hidle
      unfold Modem.checkProbeTimeout
      split
      · exact fun h _ => h
      extract_lets m1
      split
      · exact fun _ hreading' => absurd hreading' (by simp [Reading, m1, hidle'])
      · exact fun _ hreading' => absurd hreading' (by simp [Reading, m1, hidle'])
    · rename_i m' heq
      rw [heq] at hnone
      cases hnone

/-- **Every poll** keeps the account of what has been read. -/
theorem reads_step (h : Reads t) (poll : Poll) : Reads (t.step poll) := by
  unfold Transaction.step
  split_ifs with hover
  · exact h
  push Not at hover
  obtain ⟨hresult, hreading⟩ := hover
  have hnone : t.result = none := by simpa using hresult
  have hfollows := h.follows hnone hreading
  cases poll with
  | vBlank => exact ⟨h.quiet, fun _ _ => hfollows.congr rfl rfl rfl, h.reports⟩
  | modem now reports =>
    refine ⟨h.quiet, fun _ _ => ?_, h.reports⟩
    rcases modemPoll_session now reports t.modem with hsame | ⟨-, hsame⟩
    · exact hsame.follows hfollows
    · exact hsame.follows (hfollows.congr rfl rfl rfl)
  | session now =>
    dsimp only
    have hheld : t.modem.receive.held < Modem.ringFuel := Nat.mod_lt _ (by decide)
    have hlength := t.modem.receive.length_contents
    rcases readResponse_of_follows Modem.ringFuel hfollows hheld with ⟨hfound, hempty, hread⟩ | ⟨hfound, taken, htaken, hreports⟩
    · have hzero : (Modem.readResponse Modem.ringFuel t.modem).1.receive.held = 0 := by
        rw [← Ring.length_contents, hempty]
        rfl
      rw [hzero, Nat.sub_zero, List.take_of_length_le hlength.le, hfound]
      refine ⟨fun _ => hread.quiet, fun _ hreading' => ?_, nofun⟩
      exact modemSessionPoll_follows now hreading hfound hread hreading'
    · have htake : t.modem.receive.contents.take (t.modem.receive.held -
          (Modem.readResponse Modem.ringFuel t.modem).1.receive.held) = taken := by
        have hboth := congrArg List.length htaken
        rw [List.length_append, Ring.length_contents, hlength] at hboth
        rw [← htaken, List.take_left' (by omega)]
      rw [htake, hfound]
      refine ⟨nofun, nofun, ?_⟩
      rintro result ⟨⟩
      exact hreports

theorem reads_run (h : Begun m) (polls : List Poll) :
    Reads (Run.run Transaction.step (Transaction.begin m) polls) :=
  Run.run_preserves (fun _ poll h => reads_step h poll)
    { quiet := fun _ => quiet_nil
      follows := fun _ _ => h.follows
      reports := nofun }

end Transactions

/-! ### The lines that are misread -/

/-- The buffer reports what the lines do exactly if no line is misread. -/
lemma keptAt_eq_resultAt_iff (stream : List UInt8) :
    (∀ n, keptAt stream n = resultAt stream n) ↔ ∀ before, before ++ [lineFeed] <+: stream → ¬ Misread (line before) := by
  constructor
  · rintro h before ⟨behind, rfl⟩ ⟨-, hne⟩
    have hn := h before.length
    unfold keptAt resultAt at hn
    rw [List.append_assoc, List.take_left, List.getElem?_append_right le_rfl, Nat.sub_self] at hn
    exact hne hn
  · intro h n
    unfold keptAt resultAt
    by_cases hfeed : stream[n]? = some lineFeed
    · rw [if_pos hfeed, if_pos hfeed]
      have hprefix : stream.take n ++ [lineFeed] <+: stream := by
        have htake : stream.take (n + 1) = stream.take n ++ [lineFeed] := by
          rw [List.take_add_one, hfeed]
          rfl
        rw [← htake]
        exact List.take_prefix _ _
      have hline := h _ hprefix
      by_cases hlong : 32 ≤ (line (stream.take n)).length
      · by_contra hne
        exact hline ⟨hlong, hne⟩
      · rw [kept_of_short (by omega)]
    · rw [if_neg hfeed, if_neg hfeed]

lemma Reads.keeps_iff {t : Transaction} (h : Reads t) :
    ReadsLines t ↔ ∀ n, keptAt t.consumed n = resultAt t.consumed n := by
  unfold ReadsLines
  cases hresult : t.result with
  | none =>
    have hquiet := h.quiet hresult
    constructor
    · intro hnone n
      rw [hquiet n, hnone n]
    · intro hagree n
      rw [← hagree n, hquiet n]
  | some result =>
    obtain ⟨before, hstream, hquiet, hreports⟩ := (h.reports result hresult).ends
    dsimp only
    rw [hstream]
    have hlast : keptAt (before ++ [lineFeed]) before.length = some result := by
      rw [keptAt_last, if_pos rfl, hreports]
    have hearlier : ∀ n < before.length, keptAt (before ++ [lineFeed]) n = none := by
      intro n hn
      rw [keptAt_append hn, hquiet n]
    constructor
    · rintro ⟨n, hlength, hn, hnone⟩ k
      rw [List.length_append, List.length_singleton] at hlength
      have hsame : before.length = n := by omega
      rcases Nat.lt_trichotomy k n with hk | rfl | hk
      · rw [hearlier k (by omega), hnone k hk]
      · rw [← hsame, hlast, hsame, hn]
      · rw [keptAt_of_le (by rw [List.length_append, List.length_singleton]; omega)]
        unfold resultAt
        rw [List.getElem?_eq_none (by rw [List.length_append, List.length_singleton]; omega)]
        rfl
    · intro hagree
      refine ⟨before.length, by rw [List.length_append, List.length_singleton], ?_, fun k hk => ?_⟩
      · rw [← hagree, hlast]
      · rw [← hagree, hearlier k hk]

/-- A transaction reads its lines exactly if it misreads none. -/
theorem readsLines_iff {m : Modem} (h : Begun m) (polls : List Poll) :
    ReadsLines (Run.run Transaction.step (Transaction.begin m) polls) ↔
      ∀ before, before ++ [lineFeed] <+: (Run.run Transaction.step (Transaction.begin m) polls).consumed →
        ¬ Misread (line before) :=
  (reads_run h polls).keeps_iff.trans (keptAt_eq_resultAt_iff _)

/-! ### A line that is misread -/

/-- A reset, and the poll of the port that ends its guard time. -/
def resetCalls : List DriverCall := [.reset 0, .vBlank, .pollModem 600 []]

/-- The first probe after a reset. -/
def firstProbe : Modem :=
  { (Modem.queueBytes Modem.probe (Run.run DriverCall.step modemInitializeDiagnostics resetCalls)).1 with
    probeSent := true, lastResult := .none, probeStartFrame := 600 }

lemma begun_firstProbe : Begun firstProbe :=
  .probe resetCalls (by decide +kernel) (by decide +kernel) (by decide +kernel) (Prod.ext rfl (by decide +kernel))

/-- The answer comes in polls of the port that the budget ends, and is read after each. -/
def answerPolls (now : UInt32) : List (List UInt8) → List Poll
  | [] => []
  | octets :: answer =>
    .vBlank :: .modem now (octets.map fun octet => { received := some octet, hint := true }) :: .session now ::
      answerPolls now answer

theorem readsLines_iff_ok :
    (ReadsLines (Run.run Transaction.step (Transaction.begin firstProbe)
        (answerPolls 601 [[0x0d, 0x0a, 0x4f, 0x4b, 0x0d, 0x0a]])) ↔
      ∀ before, before ++ [lineFeed] <+: (Run.run Transaction.step (Transaction.begin firstProbe)
        (answerPolls 601 [[0x0d, 0x0a, 0x4f, 0x4b, 0x0d, 0x0a]])).consumed → ¬ Misread (line before)) ∧
      (Run.run Transaction.step (Transaction.begin firstProbe)
        (answerPolls 601 [[0x0d, 0x0a, 0x4f, 0x4b, 0x0d, 0x0a]])).result = some .ok :=
  ⟨readsLines_iff begun_firstProbe _, by decide +kernel⟩

lemma not_readsLines {t : Transaction} {n : ℕ} {result : SessionResult} (hresult : t.result = some result)
    (hlength : t.consumed.length = n + 1) (hsilent : resultAt t.consumed n = none) : ¬ ReadsLines t := by
  intro h
  unfold ReadsLines at h
  rw [hresult] at h
  obtain ⟨last, hends, hreported, -⟩ := h
  have hlast : last = n := by omega
  rw [hlast, hsilent] at hreported
  cases hreported

/-- A line of 32 octets that reports nothing, with the tail `OK` behind it. -/
def overlongRun : Transaction :=
  Run.run Transaction.step (Transaction.begin firstProbe)
    (answerPolls 601 [List.replicate 32 0x58, [0x4f, 0x4b, 0x0d, 0x0a]])

/-- The tail of the line sets a result. -/
theorem tail_reported : Begun firstProbe ∧ ¬ ReadsLines overlongRun :=
  ⟨begun_firstProbe, not_readsLines (by decide +kernel : overlongRun.result = some .ok)
    (by decide +kernel : overlongRun.consumed.length = 35 + 1) (by decide +kernel)⟩

end SnesModem.Asm.SessionResults
