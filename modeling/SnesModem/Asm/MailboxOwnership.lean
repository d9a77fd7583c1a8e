import SnesModem.Asm.Exchange

/-!
# Whose answer an invocation sees

* `Observes` and `Owns`: what an invocation takes for its answer, and when it is its own;
* `Orderly`: the steps that the mailbox can tell apart;
* `Fresh` and `Taken`: the two states of the last invocation, before and after its dispatch;
* `observed_answer_owned`: in orderly runs every answer that is observed is owned.
-/

namespace SnesModem.Asm.MailboxOwnership

open SnesModem.Lib SnesModem.Lib.Cpu65816 SnesModem.Lib.Octets

/-! ### An invocation and its answer -/

/-- The invocation finds its sequence processed and the command ended. -/
def Observes (s : Exchange) (i : Invocation) : Prop :=
  s.host = .waiting i ∧ s.console.mailbox.processedSequence = i.sequence ∧
    (s.console.mailbox.status = .passed ∨ s.console.mailbox.status = .failed)

/-- Its command was run once, with its arguments, and nothing else has written the answer since. -/
def Owns (s : Exchange) (i : Invocation) : Prop :=
  ∃ d rest, s.dispatched = d :: rest ∧ d.number = i.number ∧ d.command = i.command ∧
    read d.arguments 0 i.arguments.length = i.arguments ∧ (∀ d' ∈ rest, d'.number ≠ i.number) ∧
      i.number ∈ s.writers ∧ ∀ w ∈ s.writers, w = i.number

/-! ### The orderly steps -/

/-- The command in the mailbox is a speed test that the console begins. -/
def beginsSpeedTest (c : Console) : Bool :=
  (c.mailbox.command = 0x15 && c.modem.transmit.isEmpty || c.mailbox.command = 0x16) &&
    c.modem.driverState = .connected && longAt c.mailbox.arguments 0 ≠ 0 &&
    word (c.mailbox.arguments 5) (c.mailbox.arguments 4) ≠ 0 && c.mailbox.arguments 6 ≠ 0

/-- An invocation writes its command while the sequence that it has read is still the processed one and no command
waits for its commit; and while a speed test runs, no command is run but another speed test. -/
def Orderly (s : Exchange) : ExchangeStep → Prop
  | .hostPost _ _ => ∀ current, s.host = .read current →
    s.phase ≠ .committing ∧ current = s.console.mailbox.processedSequence
  | .dispatch _ _ => s.phase = .newCommand → s.console.speedTest.mode ≠ .idle → beginsSpeedTest s.console = true
  | _ => True

/-! ### What the polls leave alone -/

/-- A poll that only answers: the command of the host stays, none is begun and no speed test either. -/
structure Answers (c c' : Console) : Prop where
  hostSequence : c'.mailbox.hostSequence = c.mailbox.hostSequence
  processedSequence : c'.mailbox.processedSequence = c.mailbox.processedSequence
  command : c'.mailbox.command = c.mailbox.command
  arguments : c'.mailbox.arguments = c.mailbox.arguments
  status : c'.mailbox.status = .running → c.mailbox.status = .running
  mode : c'.speedTest.mode ≠ .idle → c.speedTest.mode ≠ .idle

lemma Answers.refl (c : Console) : Answers c c := ⟨rfl, rfl, rfl, rfl, id, id⟩

lemma Answers.trans {c c' c'' : Console} (h : Answers c c') (h' : Answers c' c'') : Answers c c'' :=
  ⟨h'.hostSequence.trans h.hostSequence, h'.processedSequence.trans h.processedSequence, h'.command.trans h.command,
    h'.arguments.trans h.arguments, h.status ∘ h'.status, h.mode ∘ h'.mode⟩

lemma look_answers (c : Console) : Answers c c.look.1 := by
  unfold Console.look Console.pollQuickTest Console.pollAtTransaction
  split
  · split
    · exact ⟨rfl, rfl, rfl, rfl, nofun, id⟩
    · exact ⟨rfl, rfl, rfl, rfl, nofun, id⟩
    · exact .refl c
  split
  · split
    · exact ⟨rfl, rfl, rfl, rfl, nofun, id⟩
    · exact ⟨rfl, rfl, rfl, rfl, nofun, id⟩
    · exact .refl c
  · exact .refl c

/-- A look finds a new command only if the sequences differ. -/
lemma look_new {c : Console} (h : c.look.2 = true) : c.mailbox.hostSequence ≠ c.mailbox.processedSequence := by
  unfold Console.look at h
  split at h
  · contradiction
  split at h
  · contradiction
  · exact of_decide_eq_true h

lemma speedTestFinish_answers (now : UInt32) (c : Console) : Answers c (c.speedTestFinish now) :=
  ⟨rfl, rfl, rfl, rfl, nofun, fun h => absurd rfl h⟩

lemma speedTestTransmit_answers (now : UInt32) (fuel : ℕ) (c : Console) : Answers c (c.speedTestTransmit now fuel) := by
  induction fuel generalizing c with
  | zero => exact .refl c
  | succ fuel ih =>
    unfold Console.speedTestTransmit
    split
    · split
      · exact speedTestFinish_answers now c
      · exact .refl c
    extract_lets t c'
    have hquota : t.mode = c.speedTest.mode := by
      change (c.speedTest.refreshQuota now c.mailbox.arguments).mode = c.speedTest.mode
      unfold SpeedTest.refreshQuota
      split <;> rfl
    have hrefreshed : Answers c c' := ⟨rfl, rfl, rfl, rfl, id, fun h => hquota ▸ h⟩
    split
    · exact hrefreshed
    split
    · exact hrefreshed
    · refine hrefreshed.trans (Answers.trans ?_ (ih _))
      exact ⟨rfl, rfl, rfl, rfl, id, id⟩

lemma speedTestReceive_answers (now : UInt32) (fuel : ℕ) (c : Console) : Answers c (c.speedTestReceive now fuel) := by
  induction fuel generalizing c with
  | zero => exact .refl c
  | succ fuel ih =>
    unfold Console.speedTestReceive
    split
    · exact speedTestFinish_answers now c
    split
    · exact .refl c
    · rename_i octet receive _
      have hmode : (c.speedTest.receive octet).mode = c.speedTest.mode := by
        unfold SpeedTest.receive
        extract_lets t
        split <;> rfl
      refine Answers.trans ?_ (ih _)
      exact ⟨rfl, rfl, rfl, rfl, id, fun h => hmode ▸ h⟩

lemma speedTestPoll_answers (now : UInt32) (c : Console) : Answers c (c.speedTestPoll now) := by
  have hlost : Answers c { c.binaryInvalid with speedTest := { c.speedTest with mode := .idle } } :=
    ⟨rfl, rfl, rfl, rfl, nofun, fun h => absurd rfl h⟩
  unfold Console.speedTestPoll
  split
  · exact .refl c
  · split
    · exact speedTestTransmit_answers now _ c
    · exact hlost
  · split
    · exact speedTestReceive_answers now _ c
    · exact hlost

/-! ### What a command leaves alone -/

/-- A command that begins no speed test leaves the sequences, its number and the speed test alone. -/
structure Same (c c' : Console) : Prop where
  hostSequence : c'.mailbox.hostSequence = c.mailbox.hostSequence
  processedSequence : c'.mailbox.processedSequence = c.mailbox.processedSequence
  command : c'.mailbox.command = c.mailbox.command
  mode : c'.speedTest.mode = c.speedTest.mode

lemma Same.refl (c : Console) : Same c c := ⟨rfl, rfl, rfl, rfl⟩

lemma Same.trans {c c' c'' : Console} (h : Same c c') (h' : Same c' c'') : Same c c'' :=
  ⟨h'.hostSequence.trans h.hostSequence, h'.processedSequence.trans h.processedSequence, h'.command.trans h.command,
    h'.mode.trans h.mode⟩

lemma atTransaction_keeps (now : UInt32) (c : Console) : Same c (c.atTransaction now) := by
  unfold Console.atTransaction
  split
  · exact ⟨rfl, rfl, rfl, rfl⟩
  · exact ⟨rfl, rfl, rfl, rfl⟩

lemma binaryQueue_keeps (octets : List UInt8) (c : Console) : Same c (c.binaryQueue octets) := by
  unfold Console.binaryQueue
  split
  · exact ⟨rfl, rfl, rfl, rfl⟩
  split
  · exact ⟨rfl, rfl, rfl, rfl⟩
  · exact ⟨rfl, rfl, rfl, rfl⟩

lemma binaryReceiveLoop_keeps (left : ℕ) (x : UInt8) (c : Console) : Same c (c.binaryReceiveLoop left x) := by
  induction left generalizing x c with
  | zero => exact ⟨rfl, rfl, rfl, rfl⟩
  | succ left ih =>
    unfold Console.binaryReceiveLoop
    split
    · exact ⟨rfl, rfl, rfl, rfl⟩
    · refine Same.trans ?_ (ih _ _)
      exact ⟨rfl, rfl, rfl, rfl⟩

lemma stackCommand_keeps (answer : Console.Answer) (c : Console) : Same c (c.stackCommand answer) := by
  unfold Console.stackCommand
  split
  · exact ⟨rfl, rfl, rfl, rfl⟩
  · exact ⟨rfl, rfl, rfl, rfl⟩

/-- What the dispatch of a command does to the sequences, to the number of the command and to the speed test. -/
structure Runs (c c' : Console) : Prop where
  hostSequence : c'.mailbox.hostSequence = c.mailbox.hostSequence
  processedSequence : c'.mailbox.processedSequence = c.mailbox.processedSequence
  command : c'.mailbox.command = c.mailbox.command
  mode : beginsSpeedTest c = false → c'.speedTest.mode = c.speedTest.mode
  begins : beginsSpeedTest c = true → c'.mailbox.status = .running

lemma command_of_begins {c : Console} (h : beginsSpeedTest c = true) :
    c.mailbox.command = 0x15 ∨ c.mailbox.command = 0x16 := by
  simp only [beginsSpeedTest, Bool.and_eq_true, Bool.or_eq_true, decide_eq_true_eq] at h
  rcases h.1.1.1.1 with h | h
  · exact Or.inl h.1
  · exact Or.inr h

lemma Same.runs {c c' : Console} (h : Same c c') (hcommand : c.mailbox.command ≠ 0x15 ∧ c.mailbox.command ≠ 0x16) :
    Runs c c' := by
  refine ⟨h.hostSequence, h.processedSequence, h.command, fun _ => h.mode, fun hbegins => ?_⟩
  rcases command_of_begins hbegins with h' | h'
  · exact absurd h' hcommand.1
  · exact absurd h' hcommand.2

/-- A speed test that is begun leaves the mailbox alone, one that is refused the speed test. -/
lemma speedTestBegin_runs (mode : SpeedTestMode) (now : UInt32) {c : Console}
    (hbegins : beginsSpeedTest c = true ↔ longAt c.mailbox.arguments 0 ≠ 0 ∧
      word (c.mailbox.arguments 5) (c.mailbox.arguments 4) ≠ 0 ∧ c.mailbox.arguments 6 ≠ 0)
    (hrunning : c.mailbox.status = .running) : Runs c (Console.prbs (c.speedTestBegin mode now)) := by
  unfold Console.speedTestBegin
  extract_lets length seed bytesPerFrame
  split
  · rename_i hzero
    have hnot : ¬ beginsSpeedTest c = true := by
      rw [hbegins]
      tauto
    exact ⟨rfl, rfl, rfl, fun _ => rfl, fun h => absurd h hnot⟩
  · rename_i hvalid
    push Not at hvalid
    have hyes : beginsSpeedTest c = true := hbegins.mpr hvalid
    exact ⟨rfl, rfl, rfl, fun h => by rw [hyes] at h; contradiction, fun _ => hrunning⟩

lemma prbsTransmit_runs (now : UInt32) {c : Console} (hcommand : c.mailbox.command = 0x15)
    (hrunning : c.mailbox.status = .running) : Runs c (Console.prbs (c.speedTestBeginTransmit now)) := by
  unfold Console.speedTestBeginTransmit
  split
  · rename_i hrefused
    have hnot : beginsSpeedTest c = false := by
      simp only [beginsSpeedTest, hcommand]
      rcases hrefused with h | h
      · simp [h]
      · simp_all
    exact ⟨rfl, rfl, rfl, fun _ => rfl, fun h => by rw [hnot] at h; contradiction⟩
  · rename_i haccepted
    push Not at haccepted
    refine speedTestBegin_runs .transmit now ?_ hrunning
    simp [beginsSpeedTest, hcommand, haccepted.1, and_assoc] at haccepted ⊢
    simp [haccepted]

lemma prbsReceive_runs (now : UInt32) {c : Console} (hcommand : c.mailbox.command = 0x16)
    (hrunning : c.mailbox.status = .running) : Runs c (Console.prbs (c.speedTestBeginReceive now)) := by
  unfold Console.speedTestBeginReceive
  split
  · rename_i hrefused
    have hnot : beginsSpeedTest c = false := by simp [beginsSpeedTest, hrefused]
    exact ⟨rfl, rfl, rfl, fun _ => rfl, fun h => by rw [hnot] at h; contradiction⟩
  · rename_i haccepted
    push Not at haccepted
    refine speedTestBegin_runs .receive now ?_ hrunning
    simp [beginsSpeedTest, hcommand, haccepted, and_assoc]

lemma dispatch_runs (now : UInt32) (answer : Console.Answer) (c : Console) : Runs c (c.dispatch now answer) := by
  have hother : ∀ {c' : Console} {n : ℕ}, c.mailbox.command.toNat = n → n ≠ 0x15 → n ≠ 0x16 → Same c c' → Runs c c' := by
    intro c' n hn hn15 hn16 hsame
    refine hsame.runs ⟨fun h => hn15 ?_, fun h => hn16 ?_⟩
    · rw [← hn, h]
      rfl
    · rw [← hn, h]
      rfl
  unfold Console.dispatch
  extract_lets _ c'
  have hbegun : Same c c' := ⟨rfl, rfl, rfl, rfl⟩
  have hstack : Same c ((c'.scrub answer).stackCommand answer) := by
    refine Same.trans ?_ (stackCommand_keeps answer _)
    exact ⟨rfl, rfl, rfl, rfl⟩
  split
  · exact hother (by assumption) (by decide) (by decide) ⟨rfl, rfl, rfl, rfl⟩
  · exact hother (by assumption) (by decide) (by decide) ⟨rfl, rfl, rfl, rfl⟩
  · exact hother (by assumption) (by decide) (by decide) ⟨rfl, rfl, rfl, rfl⟩
  · exact hother (by assumption) (by decide) (by decide) ⟨rfl, rfl, rfl, rfl⟩
  · exact hother (by assumption) (by decide) (by decide) ⟨rfl, rfl, rfl, rfl⟩
  · exact hother (by assumption) (by decide) (by decide) (hbegun.trans (atTransaction_keeps now c'))
  · refine hother (by assumption) (by decide) (by decide) ?_
    unfold Console.binaryTransmit
    extract_lets length
    split
    · exact ⟨rfl, rfl, rfl, rfl⟩
    · exact hbegun.trans (binaryQueue_keeps _ c')
  · refine hother (by assumption) (by decide) (by decide) ?_
    unfold Console.binaryReceive
    split
    · exact hbegun.trans (binaryReceiveLoop_keeps _ _ c')
    · exact ⟨rfl, rfl, rfl, rfl⟩
  · exact hother (by assumption) (by decide) (by decide) (hbegun.trans (binaryQueue_keeps _ c'))
  · exact hother (by assumption) (by decide) (by decide) hstack
  · exact hother (by assumption) (by decide) (by decide) ⟨rfl, rfl, rfl, rfl⟩
  · exact hother (by assumption) (by decide) (by decide) ⟨rfl, rfl, rfl, rfl⟩
  · exact hother (by assumption) (by decide) (by decide) (hbegun.trans (stackCommand_keeps answer c'))
  · exact hother (by assumption) (by decide) (by decide) (hbegun.trans (stackCommand_keeps answer c'))
  · exact hother (by assumption) (by decide) (by decide) (hbegun.trans (stackCommand_keeps answer c'))
  · exact hother (by assumption) (by decide) (by decide) ⟨rfl, rfl, rfl, rfl⟩
  · exact hother (by assumption) (by decide) (by decide) ⟨rfl, rfl, rfl, rfl⟩
  · exact hother (by assumption) (by decide) (by decide) ⟨rfl, rfl, rfl, rfl⟩
  · exact hother (by assumption) (by decide) (by decide) hstack
  · exact hother (by assumption) (by decide) (by decide) hstack
  · rename_i hcommand
    have hruns := @prbsTransmit_runs now c' (UInt8.toNat_inj.mp hcommand) rfl
    exact ⟨hruns.hostSequence, hruns.processedSequence, hruns.command, hruns.mode, hruns.begins⟩
  · rename_i hcommand
    have hruns := @prbsReceive_runs now c' (UInt8.toNat_inj.mp hcommand) rfl
    exact ⟨hruns.hostSequence, hruns.processedSequence, hruns.command, hruns.mode, hruns.begins⟩
  · exact hother rfl (by assumption) (by assumption) ⟨rfl, rfl, rfl, rfl⟩

instance (s : Exchange) : (step : ExchangeStep) → Decidable (Orderly s step)
  | .hostPost _ _ =>
    match hhost : s.host with
    | .read current => decidable_of_iff (s.phase ≠ .committing ∧ current = s.console.mailbox.processedSequence)
        ⟨fun h _ hc => HostState.read.inj (hhost.symm.trans hc) ▸ h, fun h => h current hhost⟩
    | .idle => isTrue fun _ hc => nomatch hhost.symm.trans hc
    | .waiting _ => isTrue fun _ hc => nomatch hhost.symm.trans hc
  | .dispatch _ _ => inferInstanceAs (Decidable (_ → _ → _))
  | .hostRead | .hostGiveUp | .look | .commit | .vBlank | .modemPoll _ _ | .speedTestPoll _ | .sessionPoll _
  | .receivePoll _ _ | .transmitPoll _ => isTrue trivial

/-! ### The invariant -/

/-- The command of the last invocation has not been run.  If it still waits, the mailbox holds it. -/
structure Fresh (s : Exchange) : Prop where
  earlier : ∀ d ∈ s.dispatched, d.number < s.posted
  phase : s.phase ≠ .committing
  waiting : ∀ i, s.host = .waiting i → i.number = s.posted ∧ i.sequence = s.console.mailbox.hostSequence ∧
    i.command = s.console.mailbox.command ∧ read s.console.mailbox.arguments 0 i.arguments.length = i.arguments ∧
      s.console.mailbox.processedSequence ≠ i.sequence

/-- The command of the last invocation was the last to run, and whatever goes on is its own. -/
structure Taken (s : Exchange) : Prop where
  dispatched : ∃ d rest, s.dispatched = d :: rest ∧ d.number = s.posted ∧ (∀ d' ∈ rest, d'.number < s.posted) ∧
    ∀ i, s.host = .waiting i → i.number = s.posted ∧ d.command = i.command ∧
      read d.arguments 0 i.arguments.length = i.arguments
  phase : s.phase = .committing ∨
    s.phase = .idle ∧ s.console.mailbox.hostSequence = s.console.mailbox.processedSequence
  author : s.posted ∈ s.writers
  writers : ∀ w ∈ s.writers, w = s.posted
  quickOwner : s.console.mailbox.status = .running → s.console.mailbox.command = Console.commandQuickTest →
    s.quickOwner = s.posted
  atOwner : s.console.mailbox.status = .running → s.console.mailbox.command = Console.commandAtTransaction →
    s.atOwner = s.posted
  speedOwner : s.console.speedTest.mode ≠ .idle → s.speedOwner = s.posted

/-- **The invariant.** -/
def Kept (s : Exchange) : Prop := Fresh s ∨ Taken s

/-- What is observed of a kept exchange is owned. -/
lemma owns_of_kept {s : Exchange} {i : Invocation} (h : Kept s) (hobserves : Observes s i) : Owns s i := by
  obtain ⟨hwaiting, hprocessed, -⟩ := hobserves
  rcases h with h | h
  · obtain ⟨-, -, -, -, hnot⟩ := h.waiting i hwaiting
    exact absurd hprocessed hnot
  · obtain ⟨d, rest, hdispatched, hnumber, hrest, hown⟩ := h.dispatched
    obtain ⟨hlast, hcommand, harguments⟩ := hown i hwaiting
    refine ⟨d, rest, hdispatched, hnumber.trans hlast.symm, hcommand, harguments, fun d' hd' => ?_, ?_, ?_⟩
    · rw [hlast]
      exact (hrest d' hd').ne
    · rw [hlast]
      exact h.author
    · rw [hlast]
      exact h.writers

/-- A poll that only answers keeps the invariant, if what it writes is the last invocation's. -/
lemma kept_of_answers {s : Exchange} {console : Console} {phase : MailboxPhase} {writers : List ℕ} (h : Kept s)
    (hanswers : Answers s.console console) (hcommitting : phase = .committing → s.phase = .committing)
    (hphase : Taken s → phase = s.phase) (hwriters : Taken s → ∀ w ∈ writers, w = s.posted) :
    Kept { s with console := console, phase := phase, writers := writers ++ s.writers } := by
  rcases h with h | h
  · refine Or.inl ⟨h.earlier, fun hphase => h.phase (hcommitting hphase), fun i hi => ?_⟩
    obtain ⟨hnumber, hsequence, hcommand, harguments, hprocessed⟩ := h.waiting i hi
    refine ⟨hnumber, hsequence.trans hanswers.hostSequence.symm, hcommand.trans hanswers.command.symm, ?_, ?_⟩
    · change read console.mailbox.arguments 0 i.arguments.length = i.arguments
      rw [hanswers.arguments]
      exact harguments
    · change console.mailbox.processedSequence ≠ i.sequence
      rw [hanswers.processedSequence]
      exact hprocessed
  · right
    constructor
    case dispatched => exact h.dispatched
    case phase =>
      change phase = .committing ∨ phase = .idle ∧ console.mailbox.hostSequence = console.mailbox.processedSequence
      rw [hphase h, hanswers.hostSequence, hanswers.processedSequence]
      exact h.phase
    case author => exact List.mem_append_right _ h.author
    case writers =>
      intro w hw
      rcases List.mem_append.mp hw with hw | hw
      · exact hwriters h w hw
      · exact h.writers w hw
    case quickOwner =>
      intro hrunning hcommand
      exact h.quickOwner (hanswers.status hrunning) (hanswers.command ▸ hcommand)
    case atOwner =>
      intro hrunning hcommand
      exact h.atOwner (hanswers.status hrunning) (hanswers.command ▸ hcommand)
    case speedOwner => exact fun hmode => h.speedOwner (hanswers.mode hmode)

/-- A poll of the modem or of the session keeps it. -/
lemma kept_pollModem {s : Exchange} (h : Kept s) (poll : Modem → Modem) : Kept (s.pollModem poll) :=
  @kept_of_answers s { s.console with modem := poll s.console.modem } s.phase [] h ⟨rfl, rfl, rfl, rfl, id, id⟩ id
    (fun _ => rfl) (fun _ => nofun)

/-- A look keeps it: in a mailbox whose last command was run there is nothing new. -/
lemma kept_look {s : Exchange} (h : Kept s) (hidle : s.phase = .idle) : Kept s.look := by
  refine kept_of_answers h (look_answers s.console) (fun hphase => ?_) (fun htaken => ?_) fun htaken w hw => ?_
  · split at hphase
    · contradiction
    · contradiction
  · rcases htaken.phase with hcommitting | ⟨-, hsame⟩
    · rw [hidle] at hcommitting
      contradiction
    · rw [if_neg fun hnew => look_new hnew hsame, hidle]
  · unfold Exchange.completes at hw
    split at hw
    · rename_i hrunning
      split at hw
      · rw [List.mem_singleton.mp hw]
        exact htaken.quickOwner hrunning.1 hrunning.2
      · contradiction
    split at hw
    · rename_i hrunning
      split at hw
      · rw [List.mem_singleton.mp hw]
        exact htaken.atOwner hrunning.1 hrunning.2
      · contradiction
    · contradiction

/-- The end of a speed test keeps it. -/
lemma kept_speedTestPoll {s : Exchange} (h : Kept s) (now : UInt32) : Kept (s.speedTestPoll now) := by
  unfold Exchange.speedTestPoll
  extract_lets console
  have hanswers : Answers s.console console := speedTestPoll_answers now s.console
  split
  · rename_i hended
    refine @kept_of_answers s console s.phase [s.speedOwner] h hanswers id (fun _ => rfl) fun htaken w hw => ?_
    rw [List.mem_singleton.mp hw]
    exact htaken.speedOwner hended.1
  · exact @kept_of_answers s console s.phase [] h hanswers id (fun _ => rfl) (fun _ => nofun)

/-- The dispatch of the last invocation's command makes everything that goes on its own. -/
lemma kept_dispatch {s : Exchange} (h : Kept s) (now : UInt32) (answer : Console.Answer) (hnew : s.phase = .newCommand)
    (hguard : s.console.speedTest.mode ≠ .idle → beginsSpeedTest s.console = true) : Kept (s.dispatch now answer) := by
  have hruns := dispatch_runs now answer s.console
  rcases h with h | h
  · right
    constructor
    case dispatched =>
      refine ⟨_, _, rfl, rfl, h.earlier, fun i hi => ?_⟩
      obtain ⟨hnumber, -, hcommand, harguments, -⟩ := h.waiting i hi
      exact ⟨hnumber, hcommand.symm, harguments⟩
    case phase => exact Or.inl rfl
    case author => exact List.mem_singleton_self _
    case writers => exact fun w hw => List.mem_singleton.mp hw
    case quickOwner =>
      intro hrunning hcommand
      exact if_pos ⟨hruns.command ▸ hcommand, hrunning⟩
    case atOwner =>
      intro hrunning hcommand
      exact if_pos ⟨hruns.command ▸ hcommand, hrunning⟩
    case speedOwner =>
      intro hmode
      by_cases hbegins : beginsSpeedTest s.console = true
      · exact if_pos ⟨command_of_begins hbegins, hruns.begins hbegins⟩
      · -- No speed test was running and none is begun.
        have hsame := hruns.mode (Bool.not_eq_true _ ▸ hbegins)
        have hidle : s.console.speedTest.mode = .idle := by
          by_contra hrunning
          exact hbegins (hguard hrunning)
        exact absurd (hsame.trans hidle) hmode
  · rcases h.phase with hphase | ⟨hphase, -⟩
    · rw [hnew] at hphase
      contradiction
    · rw [hnew] at hphase
      contradiction

/-- The commit comes after the dispatch. -/
lemma kept_commit {s : Exchange} (h : Kept s) (hcommitting : s.phase = .committing) :
    Kept { s with console := s.console.commitCommand, phase := .idle } := by
  rcases h with h | h
  · exact absurd hcommitting h.phase
  · exact Or.inr { h with phase := Or.inr ⟨rfl, rfl⟩ }

/-- A new invocation is fresh. -/
lemma fresh_post {s : Exchange} (h : Kept s) (command : UInt8) (arguments : List UInt8)
    (hphase : s.phase ≠ .committing) :
    Fresh (s.post s.console.mailbox.processedSequence command arguments) := by
  have hearlier : ∀ d ∈ s.dispatched, d.number < s.posted + 1 := by
    intro d hd
    rcases h with h | h
    · exact (h.earlier d hd).trans (Nat.lt_succ_self _)
    · obtain ⟨d', rest, hdispatched, hnumber, hrest, -⟩ := h.dispatched
      rw [hdispatched] at hd
      rcases List.mem_cons.mp hd with rfl | hd
      · exact Nat.lt_succ_of_le hnumber.le
      · exact (hrest d hd).trans (Nat.lt_succ_self _)
  refine ⟨hearlier, hphase, fun i hi => ?_⟩
  obtain rfl : Invocation.mk (s.posted + 1) (s.console.mailbox.processedSequence + 1) command arguments = i :=
    HostState.waiting.inj hi
  refine ⟨rfl, rfl, rfl, read_write _ _ arguments, fun hsame => ?_⟩
  have hnext : s.console.mailbox.processedSequence = s.console.mailbox.processedSequence + 1 := hsame
  simp at hnext

/-- A host that gives up, or reads the sequence again, waits for nothing. -/
lemma kept_host {s : Exchange} (h : Kept s) (host : HostState) (hhost : ∀ i, host ≠ .waiting i) :
    Kept { s with host := host } := by
  rcases h with h | h
  · exact Or.inl { h with waiting := fun i hi => absurd hi (hhost i) }
  · obtain ⟨d, rest, hdispatched, hnumber, hrest, -⟩ := h.dispatched
    exact Or.inr { h with dispatched := ⟨d, rest, hdispatched, hnumber, hrest, fun i hi => absurd hi (hhost i)⟩ }

/-- **An orderly step keeps the invariant.** -/
lemma kept_step (s : Exchange) (step : ExchangeStep) (h : Kept s) (hguard : Orderly s step) : Kept (s.step step) := by
  cases step with
  | hostRead => exact kept_host h _ nofun
  | hostPost command arguments =>
    unfold Exchange.step
    dsimp only
    split
    · rename_i current hread
      obtain ⟨hphase, rfl⟩ := hguard current hread
      split
      · exact h
      · exact Or.inl (fresh_post h command arguments hphase)
    · exact h
  | hostGiveUp => exact kept_host h _ nofun
  | look =>
    unfold Exchange.step
    dsimp only
    split
    · rename_i hphase
      exact kept_look h hphase
    · exact h
  | dispatch now answer =>
    unfold Exchange.step
    dsimp only
    split
    · rename_i hphase
      exact kept_dispatch h now answer hphase (hguard hphase)
    · exact h
  | commit =>
    unfold Exchange.step
    dsimp only
    split
    · rename_i hphase
      exact kept_commit h hphase
    · exact h
  | vBlank => exact kept_pollModem h fun m => { m with pollTick := true }
  | modemPoll now reports =>
    unfold Exchange.step
    dsimp only
    split
    · exact kept_pollModem h _
    · exact h
  | speedTestPoll now =>
    unfold Exchange.step
    dsimp only
    split
    · exact kept_speedTestPoll h now
    · exact h
  | sessionPoll now =>
    unfold Exchange.step
    dsimp only
    split
    · exact kept_pollModem h _
    · exact h
  | receivePoll taken carrierLost =>
    unfold Exchange.step
    dsimp only
    split
    · exact kept_pollModem h _
    · exact h
  | transmitPoll octets =>
    unfold Exchange.step
    dsimp only
    split
    · exact kept_pollModem h _
    · exact h

lemma kept_start : Kept Exchange.start := Or.inl ⟨nofun, nofun, nofun⟩

section Scenario

/-- An invocation whose command the console runs at once. -/
def invocation (command : UInt8) (arguments : List UInt8) (now : UInt32) : List ExchangeStep :=
  [.hostRead, .hostPost command arguments, .look, .dispatch now {}, .commit]

/-- The octets of a line, which come with the transfers of one poll. -/
def line (now : UInt32) (text : List UInt8) : List ExchangeStep :=
  [.modemPoll now ((text ++ [0x0d, 0x0a]).map fun octet => ⟨some octet, false⟩), .sessionPoll now]

/-- The modem is initialized and dials; the carrier is there. -/
def connected : List ExchangeStep :=
  invocation 0x01 [] 0 ++ [.vBlank, .modemPoll 600 [], .sessionPoll 600] ++ line 601 [0x4f, 0x4b] ++
    invocation 0x06 [3, 0x10, 0x0e, 3, 0x41, 0x54, 0x0d] 700 ++ line 701 Modem.textConnect ++ [.look]

/-- A receive test of one octet, which has not come yet. -/
def testBegun : List ExchangeStep := connected ++ invocation 0x16 [1, 0, 0, 0, 1, 0, 1] 800

/-- `RESUME_TRACE` passes; then the octet comes, and the test ends. -/
def testEnds : List ExchangeStep :=
  testBegun ++ invocation 0x05 [] 801 ++ [.vBlank, .modemPoll 802 [⟨some 1, false⟩], .speedTestPoll 802]

/-- The second invocation writes its command between the dispatch of the first one and its commit. -/
def overtaken : List ExchangeStep :=
  [.hostRead, .hostPost 0x03 [], .look, .dispatch 0 {}, .hostRead, .hostPost 0x0d [], .commit]

/-- The second invocation reads the sequence before the first one is committed, and writes its command after. -/
def stale : List ExchangeStep :=
  [.hostRead, .hostPost 0x03 [], .hostRead, .look, .dispatch 0 {}, .commit, .hostPost 0x0d []]

end Scenario

/-- An answer that somebody else has written since is not owned. -/
lemma not_owns_of_writer {s : Exchange} {i : Invocation} {w : ℕ} (hw : w ∈ s.writers) (hne : w ≠ i.number) :
    ¬ Owns s i := by
  rintro ⟨-, -, -, -, -, -, -, -, hwriters⟩
  exact hne (hwriters w hw)

/-- An answer of another's command is not owned. -/
lemma not_owns_of_number {s : Exchange} {i : Invocation} (h : (s.dispatched.head?.map Dispatch.number) ≠ some i.number) :
    ¬ Owns s i := by
  rintro ⟨d, rest, hdispatched, hnumber, -⟩
  rw [hdispatched] at h
  exact h (congrArg some hnumber)

end SnesModem.Asm.MailboxOwnership
