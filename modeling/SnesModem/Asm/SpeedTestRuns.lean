import SnesModem.Asm.SpeedTest
import SnesModem.Lib.Mismatches
import SnesModem.Lib.Run
import SnesModem.Rust.Prbs

/-!
# Speed tests and the sequence of the host

* `Progress`: the test stands where the octets so far have brought it;
* `Reported`: what the host reads in the mailbox of a test that has finished;
* `transmit_goes`, `receive_goes`: a poll goes on from there, and finishes exactly at the end;
* `Session`: a test under polls, with the octets that it queues or consumes;
* `Agrees`: what holds of a session; `session_agrees`: it holds in every run.
-/

namespace SnesModem.Asm.SpeedTestRuns

open SnesModem.Lib SnesModem.Lib.Mismatches SnesModem.Lib.Octets SnesModem.Lib.Words SnesModem.Rust
open SnesModem.Lib.Md5 (leWord leNat toNat_leWord)
open SnesModem.Rust.Prbs (Prbs16 PrbsOutcome)
open SnesModem.Asm.Speed

/-- The first octets of the sequence. -/
def sequence (seed : UInt16) (n : ℕ) : List UInt8 := Prbs16.take n ⟨seed⟩

/-- The test stands behind these octets. -/
structure Progress (seed : UInt16) (length : ℕ) (octets : List UInt8) (t : Test) : Prop where
  length_lt : length < 2 ^ 32
  lfsr : t.lfsr = Prbs.advance^[octets.length] seed
  processed : t.processed.toNat = octets.length
  total : octets.length + t.remaining.toNat = length
  mismatchCount : t.mismatchCount.toNat = mismatches octets (sequence seed octets.length)
  firstMismatch : t.firstMismatch.toNat = (firstMismatch octets (sequence seed octets.length)).getD 0xffffffff

section Progress

variable {seed : UInt16} {length : ℕ} {octets : List UInt8} {t t' : Test}

/-- The other variables of the test do not matter. -/
lemma Progress.congr (h : Progress seed length octets t) (hlfsr : t'.lfsr = t.lfsr)
    (hprocessed : t'.processed = t.processed) (hremaining : t'.remaining = t.remaining)
    (hcount : t'.mismatchCount = t.mismatchCount) (hfirst : t'.firstMismatch = t.firstMismatch) :
    Progress seed length octets t' where
  length_lt := h.length_lt
  lfsr := hlfsr.trans h.lfsr
  processed := by rw [hprocessed, h.processed]
  total := by rw [hremaining, h.total]
  mismatchCount := by rw [hcount, h.mismatchCount]
  firstMismatch := by rw [hfirst, h.firstMismatch]

lemma hasRemaining_iff : t.hasRemaining = true ↔ t.remaining.toNat ≠ 0 := by
  rw [ne_eq, Long.toNat_eq_zero]
  simp [Test.hasRemaining]

/-- The two shift registers are one. -/
lemma advance_lfsr (t : Test) : t.advance.lfsr = Prbs.advance t.lfsr := by
  unfold Test.advance Prbs.advance Prbs16.next
  by_cases hlow : t.lfsr &&& 1 = 0
  · simp [hlow]
  · simp [hlow]

lemma length_sequence (seed : UInt16) (n : ℕ) : (sequence seed n).length = n := by simp [sequence]

lemma sequence_succ (h : Progress seed length octets t) :
    sequence seed (octets.length + 1) = sequence seed octets.length ++ [t.lfsr.toUInt8] := by
  rw [h.lfsr]
  exact Prbs16.take_succ _ _

/-- **One octet**: it is compared with the one that comes next in the sequence. -/
lemma Progress.next (h : Progress seed length octets t) (hremaining : t.hasRemaining = true) (octet : UInt8) :
    Progress seed length (octets ++ [octet])
      (if t.lfsr.toUInt8 = octet then t.advance else t.recordMismatch.advance) := by
  have hmore := hasRemaining_iff.mp hremaining
  have hlength := h.length_lt
  have htotal := h.total
  have hprocessed := h.processed
  have hcount := h.mismatchCount
  have hcountLe : mismatches octets (sequence seed octets.length) ≤ octets.length := mismatches_le
  have hsame : octets.length = (sequence seed octets.length).length := (length_sequence _ _).symm
  have hsucc : (octets ++ [octet]).length = octets.length + 1 := by simp
  have hlfsr : ∀ t' : Test, t'.lfsr = t.lfsr → t'.advance.lfsr = Prbs.advance^[octets.length + 1] seed := by
    intro t' ht'
    rw [advance_lfsr, ht', h.lfsr, Function.iterate_succ_apply']
  have hinc : t.processed.inc.toNat = octets.length + 1 := by
    rw [Long.toNat_inc, hprocessed]
    omega
  have hdec : octets.length + 1 + t.remaining.dec.toNat = length := by
    rw [Long.toNat_dec hmore]
    omega
  split_ifs with hequal
  · refine ⟨hlength, ?_, ?_, ?_, ?_, ?_⟩
    · rw [hsucc]
      exact hlfsr t rfl
    · rw [hsucc]
      exact hinc
    · rw [hsucc]
      exact hdec
    · rw [hsucc, sequence_succ h, mismatches_concat hsame, if_pos hequal.symm]
      exact hcount
    · rw [hsucc, sequence_succ h, firstMismatch_concat hsame, if_pos hequal.symm, Option.or_none]
      exact h.firstMismatch
  · have hdiffers : ¬ octet = t.lfsr.toUInt8 := fun heq => hequal heq.symm
    refine ⟨hlength, ?_, ?_, ?_, ?_, ?_⟩
    · rw [hsucc]
      exact hlfsr t.recordMismatch rfl
    · rw [hsucc]
      exact hinc
    · rw [hsucc]
      exact hdec
    · rw [hsucc, sequence_succ h, mismatches_concat hsame, if_neg hdiffers]
      show t.mismatchCount.inc.toNat = _
      rw [Long.toNat_inc, hcount]
      omega
    · rw [hsucc, sequence_succ h, firstMismatch_concat hsame, if_neg hdiffers]
      show (if t.mismatchCount = ⟨0, 0⟩ then t.processed else t.firstMismatch).toNat = _
      cases hfirst : Mismatches.firstMismatch octets (sequence seed octets.length) with
      | none =>
        have hzero := Long.toNat_eq_zero.mp (hcount.trans (firstMismatch_eq_none.mp hfirst))
        rw [if_pos hzero]
        exact hprocessed
      | some i =>
        have hsome : t.mismatchCount ≠ ⟨0, 0⟩ := by
          intro hzero
          have hnone := firstMismatch_eq_none.mpr (hcount.symm.trans (Long.toNat_eq_zero.mpr hzero))
          rw [hfirst] at hnone
          cases hnone
        rw [if_neg hsome, h.firstMismatch, hfirst]
        rfl

end Progress

/-! ### The end -/

/-- What the host reads of a test that has moved these octets, against those expected: it has passed, the result is the
low word of its mismatches, and the output decodes to the number of octets, the mismatches and the first one of them. -/
structure Reported (octets expected : List UInt8) (s : Tester) : Prop where
  status : s.mailbox.status = .passed
  result : s.mailbox.result.toNat = mismatches octets expected % 2 ^ 16
  decoded : ∀ size, 22 ≤ size → ∃ outcome, PrbsOutcome.decode (read s.mailbox.output 0 size) = .ok outcome ∧
    outcome.processed.toNat = octets.length ∧ outcome.mismatchCount.toNat = mismatches octets expected ∧
    outcome.firstMismatch.map UInt32.toNat = firstMismatch octets expected ∧
    outcome.expected = s.test.expected ∧ outcome.actual = s.test.actual ∧
    outcome.startFrame = s.test.startFrame.toUInt32 ∧ outcome.endFrame = s.test.endFrame.toUInt32

section End

/-- The octets of a number decode to it. -/
lemma leWord_longOctets (x : Long) : leWord (Test.longOctets x) = x.toUInt32 := by
  have hlow := x.low.toNat_lt
  rw [← UInt32.toNat_inj, Long.toNat_toUInt32]
  unfold Test.longOctets
  rw [toNat_leWord, leNat, toNat_low, toNat_high, toNat_low, toNat_high, Long.toNat]
  omega

/-- **The report decodes** to the numbers of the test. -/
lemma decode_report (t : Test) (rest : List UInt8) : PrbsOutcome.decode (t.report ++ rest) = .ok {
    processed := t.processed.toUInt32
    mismatchCount := t.mismatchCount.toUInt32
    firstMismatch := if t.firstMismatch.toUInt32 ≠ 0xffffffff then some t.firstMismatch.toUInt32 else none
    expected := t.expected
    actual := t.actual
    startFrame := t.startFrame.toUInt32
    endFrame := t.endFrame.toUInt32 } := by
  have hlength : 22 ≤ (t.report ++ rest).length := by
    rw [List.length_append]
    exact Nat.le_add_right 22 _
  rw [← leWord_longOctets t.processed, ← leWord_longOctets t.mismatchCount, ← leWord_longOctets t.firstMismatch,
    ← leWord_longOctets t.startFrame, ← leWord_longOctets t.endFrame]
  exact if_pos hlength

/-- **The end of a test** that stands behind its octets is reported. -/
lemma reported_finish {seed : UInt16} {length : ℕ} {octets : List UInt8} {s : Tester} (frames : ℕ → Long)
    (h : Progress seed length octets s.test) :
    Reported octets (sequence seed octets.length) (s.finish frames) where
  status := rfl
  result := by
    have hlow := s.test.mismatchCount.low.toNat_lt
    rw [← h.mismatchCount, Long.toNat]
    change s.test.mismatchCount.low.toNat = _
    omega
  decoded size hsize := by
    obtain ⟨more, rfl⟩ := Nat.exists_eq_add_of_le hsize
    have hreport : read (s.finish frames).mailbox.output 0 22 = (s.finish frames).test.report := read_write _ _ _
    have hread : read (s.finish frames).mailbox.output 0 (22 + more) =
        (s.finish frames).test.report ++ read (s.finish frames).mailbox.output (0 + 22) more := by
      rw [read_append, hreport]
    refine ⟨_, (congrArg PrbsOutcome.decode hread).trans (decode_report _ _), ?_, ?_, ?_, rfl, rfl, rfl, rfl⟩
    · exact (Long.toNat_toUInt32 _).trans h.processed
    · exact (Long.toNat_toUInt32 _).trans h.mismatchCount
    · have hfirst := h.firstMismatch
      have htotal := h.total
      have hlength := h.length_lt
      change Option.map _ (if s.test.firstMismatch.toUInt32 ≠ 0xffffffff then _ else none) = _
      rw [← Long.toNat_toUInt32] at hfirst
      cases hfound : Mismatches.firstMismatch octets (sequence seed octets.length) with
      | none =>
        rw [hfound] at hfirst
        rw [if_neg (not_not_intro (UInt32.toNat_inj.mp hfirst))]
        rfl
      | some i =>
        -- The index is below the length, so it is not the mark for none.
        have hi := firstMismatch_lt hfound
        rw [hfound, Option.getD_some] at hfirst
        rw [if_pos]
        · exact congrArg some hfirst
        intro hnone
        rw [hnone] at hfirst
        change 0xffffffff = i at hfirst
        omega

end End

/-! ### A poll -/

/-- What a poll has come to that has moved these octets: it has finished the test exactly if nothing remains, and all
that was queued has been sent; then it has reported it. -/
structure Goes (mode : SpeedTestMode) (seed : UInt16) (length : ℕ) (octets : List UInt8) (s : Tester) : Prop where
  progress : Progress seed length octets s.test
  queued : mode = .transmit → octets = sequence seed octets.length
  running : s.test.mode = mode ∨ s.test.mode = .idle
  finishes : s.test.mode = .idle ↔ s.test.remaining = ⟨0, 0⟩ ∧ (mode = .transmit → s.modem.transmit.isEmpty = true)
  reports : s.test.mode = .idle → Reported octets (sequence seed octets.length) s

section Polls

variable {seed : UInt16} {length : ℕ} {octets : List UInt8} {s : Tester}

/-- A test with octets left is not finished. -/
lemma goes_of_remaining {mode : SpeedTestMode} (hprogress : Progress seed length octets s.test)
    (hqueued : mode = .transmit → octets = sequence seed octets.length) (hmode : s.test.mode = mode)
    (hrunning : mode ≠ .idle) (hremaining : s.test.hasRemaining = true) : Goes mode seed length octets s where
  progress := hprogress
  queued := hqueued
  running := Or.inl hmode
  finishes := by
    have hmore := hasRemaining_iff.mp hremaining
    rw [ne_eq, Long.toNat_eq_zero] at hmore
    rw [hmode]
    exact iff_of_false hrunning fun hends => hmore hends.1
  reports hidle := absurd (hmode.symm.trans hidle) hrunning

lemma goes_of_finish {mode : SpeedTestMode} (frames : ℕ → Long) (hprogress : Progress seed length octets s.test)
    (hqueued : mode = .transmit → octets = sequence seed octets.length) (hremaining : s.test.remaining = ⟨0, 0⟩)
    (hdrained : mode = .transmit → s.modem.transmit.isEmpty = true) :
    Goes mode seed length octets (s.finish frames) where
  progress := hprogress.congr rfl rfl rfl rfl rfl
  queued := hqueued
  running := Or.inr rfl
  finishes := iff_of_true rfl ⟨hremaining, hdrained⟩
  reports _ := reported_finish frames hprogress

lemma remaining_of_not {t : Test} (h : ¬ t.hasRemaining = true) : t.remaining = ⟨0, 0⟩ := by
  rw [hasRemaining_iff, ne_eq, not_not] at h
  exact Long.toNat_eq_zero.mp h

/-- The quota of a frame changes neither the modem nor what has come of the test. -/
lemma refreshQuota_kept (frameCounter : UInt16) (s : Tester) :
    (s.refreshQuota frameCounter).modem = s.modem ∧ ∃ lastFrame frameQuota, (s.refreshQuota frameCounter).test =
      { s.test with lastFrame := lastFrame, frameQuota := frameQuota } := by
  unfold Tester.refreshQuota
  split_ifs
  · exact ⟨rfl, _, _, rfl⟩
  · exact ⟨rfl, _, _, rfl⟩

/-- An octet is queued if the ring is not full. -/
lemma modemQueueByte_of_room {m : Modem} (octet : UInt8) (hroom : ¬ m.transmit.writeIndex + 1 = m.transmit.readIndex) :
    ∃ ring : Ring, modemQueueByte octet m = ({ m with transmit := ring }, false) ∧
      ring.contents = m.transmit.contents ++ [octet] ∧ ring.held = m.transmit.held + 1 := by
  have hheld : m.transmit.held < 255 := by
    have hlt := m.transmit.held_lt
    have hne : m.transmit.held ≠ 255 := fun heq => hroom (Ring.held_eq_iff_full.mp heq)
    omega
  obtain ⟨haccepted, hcontents⟩ := Ring.contents_push octet hheld
  refine ⟨_, ?_, hcontents, ?_⟩
  · unfold modemQueueByte
    rw [haccepted]
  · rw [← Ring.length_contents, hcontents, List.length_append, Ring.length_contents, List.length_singleton]

/-- A test whose octets are all queued finishes once the ring is empty. -/
lemma goes_of_drain (frames : ℕ → Long) (hmode : s.test.mode = .transmit) (h : Progress seed length octets s.test)
    (hqueued : octets = sequence seed octets.length) (hends : s.test.remaining = ⟨0, 0⟩) :
    let s' := if s.modem.transmit.readIndex ≠ s.modem.transmit.writeIndex then s else s.finish frames
    s'.modem.transmit.contents = s.modem.transmit.contents ∧ Goes .transmit seed length octets s' := by
  dsimp only
  split_ifs with hempty
  · have hfull : ¬ s.modem.transmit.isEmpty = true := by simpa [Ring.isEmpty] using hempty
    exact ⟨rfl, {
      progress := h
      queued := fun _ => hqueued
      running := Or.inl hmode
      finishes := by
        rw [hmode]
        exact iff_of_false (by decide) fun hdrained => hfull (hdrained.2 rfl)
      reports := fun hidle => by
        rw [hmode] at hidle
        cases hidle }⟩
  · refine ⟨rfl, goes_of_finish frames h (fun _ => hqueued) hends fun _ => ?_⟩
    simpa [Ring.isEmpty] using hempty

/-- **A poll of a transmit test** queues the octets that come next. -/
lemma transmit_goes (fuel : ℕ) (frames : ℕ → Long) (hmode : s.test.mode = .transmit)
    (h : Progress seed length octets s.test) (hqueued : octets = sequence seed octets.length)
    (hfuel : 255 < fuel + s.modem.transmit.held) :
    ∃ s' moved, Tester.transmit fuel frames s = some s' ∧
      s'.modem.transmit.contents = s.modem.transmit.contents ++ moved ∧
      Goes .transmit seed length (octets ++ moved) s' := by
  induction fuel generalizing frames octets s with
  | zero =>
    have hlt := s.modem.transmit.held_lt
    omega
  | succ fuel ih =>
    unfold Tester.transmit
    by_cases hremaining : s.test.hasRemaining = true
    · rw [hremaining, Bool.not_true, if_neg Bool.false_ne_true]
      dsimp only
      obtain ⟨hmodem, lastFrame, frameQuota, htest⟩ := refreshQuota_kept (frames 0).low s
      generalize s.refreshQuota (frames 0).low = r at hmodem htest ⊢
      have hmode' : r.test.mode = .transmit := by
        rw [htest]
        exact hmode
      have hremaining' : r.test.hasRemaining = true := by
        rw [htest]
        exact hremaining
      have hprogress : Progress seed length octets r.test := by
        rw [htest]
        exact h.congr rfl rfl rfl rfl rfl
      have hnone : ∃ s' moved, some r = some s' ∧ s'.modem.transmit.contents = s.modem.transmit.contents ++ moved ∧
          Goes .transmit seed length (octets ++ moved) s' := by
        refine ⟨r, [], rfl, ?_, ?_⟩
        · rw [hmodem, List.append_nil]
        · rw [List.append_nil]
          exact goes_of_remaining hprogress (fun _ => hqueued) hmode' nofun hremaining'
      split_ifs with hquota hfull
      · exact hnone
      · exact hnone
      · -- There is room, so the octet is queued.
        obtain ⟨ring, hqueue, hcontents, hheld⟩ := modemQueueByte_of_room r.test.lfsr.toUInt8 hfull
        rw [hqueue]
        rw [hmodem] at hcontents hheld
        dsimp only
        have hnext := hprogress.next hremaining' r.test.lfsr.toUInt8
        rw [if_pos rfl] at hnext
        have hqueued' : octets ++ [r.test.lfsr.toUInt8] =
            sequence seed (octets ++ [r.test.lfsr.toUInt8]).length := by
          rw [List.length_append, List.length_singleton, sequence_succ hprogress, ← hqueued]
        obtain ⟨s', moved, hpoll, hmoved, hgoes⟩ := ih (fun i => frames (i + 1))
          (s := { r with
            modem := { r.modem with transmit := ring }
            test := { r.test.advance with frameQuota := r.test.frameQuota - 1 } })
          hmode' (hnext.congr rfl rfl rfl rfl rfl) hqueued' (by dsimp only; omega)
        refine ⟨s', r.test.lfsr.toUInt8 :: moved, hpoll, ?_, ?_⟩
        · rw [hmoved]
          dsimp only
          rw [hcontents, List.append_assoc, List.singleton_append]
        · rw [List.append_assoc, List.singleton_append] at hgoes
          exact hgoes
    · have hnot : (!s.test.hasRemaining) = true := by simpa using hremaining
      obtain ⟨hcontents, hgoes⟩ := goes_of_drain frames hmode h hqueued (remaining_of_not hremaining)
      rw [if_pos hnot]
      refine ⟨_, [], rfl, ?_, ?_⟩
      · rw [hcontents, List.append_nil]
      · rw [List.append_nil]
        exact hgoes

/-- **A poll of a receive test** compares the octets that the ring holds. -/
lemma receive_goes (fuel : ℕ) (frames : ℕ → Long) (hmode : s.test.mode = .receive)
    (h : Progress seed length octets s.test) (hfuel : s.modem.receive.held < fuel) :
    ∃ s' moved, Tester.receive frames fuel s = some s' ∧
      s.modem.receive.contents = moved ++ s'.modem.receive.contents ∧
      Goes .receive seed length (octets ++ moved) s' := by
  induction fuel generalizing octets s with
  | zero => omega
  | succ fuel ih =>
    unfold Tester.receive
    by_cases hremaining : s.test.hasRemaining = true
    · rw [hremaining, Bool.not_true, if_neg Bool.false_ne_true]
      unfold modemReadByte
      cases hempty : s.modem.receive.isEmpty with
      | true =>
        have hpop : s.modem.receive.pop = none := if_pos hempty
        rw [hpop]
        refine ⟨s, [], rfl, rfl, ?_⟩
        rw [List.append_nil]
        exact goes_of_remaining h nofun hmode nofun hremaining
      | false =>
        have hpop : s.modem.receive.pop = some (s.modem.receive.storage s.modem.receive.readIndex.toNat,
            { s.modem.receive with readIndex := s.modem.receive.readIndex + 1 }) := if_neg (by rw [hempty]; nofun)
        have hcontents := Ring.contents_advance s.modem.receive.storage hempty fun _ _ _ => rfl
        rw [hpop]
        dsimp only
        generalize s.modem.receive.storage s.modem.receive.readIndex.toNat = octet at hcontents ⊢
        generalize ({ s.modem.receive with readIndex := s.modem.receive.readIndex + 1 } : Ring) = rest at hcontents ⊢
        have hheld : rest.held < fuel := by
          have hlength := congrArg List.length hcontents
          rw [List.length_cons, Ring.length_contents, Ring.length_contents] at hlength
          omega
        generalize htest : (if s.test.lfsr.toUInt8 = octet then
            ({ s.test with actual := octet, expected := s.test.lfsr.toUInt8 } : Test)
          else ({ s.test with actual := octet, expected := s.test.lfsr.toUInt8 } : Test).recordMismatch).advance = t
        have hnext : Progress seed length (octets ++ [octet]) t := by
          have hnext := h.next hremaining octet
          rw [← htest]
          split_ifs at hnext ⊢
          · exact hnext.congr rfl rfl rfl rfl rfl
          · exact hnext.congr rfl rfl rfl rfl rfl
        have hmode' : t.mode = .receive := by
          rw [← htest]
          split_ifs
          · exact hmode
          · exact hmode
        obtain ⟨s', moved, hpoll, hmoved, hgoes⟩ := ih
          (s := { s with modem := { s.modem with receive := rest }, test := t }) hmode' hnext hheld
        refine ⟨s', octet :: moved, hpoll, ?_, ?_⟩
        · rw [← hcontents, hmoved, List.cons_append]
        · rw [List.append_assoc, List.singleton_append] at hgoes
          exact hgoes
    · have hends := remaining_of_not hremaining
      have hnot : (!s.test.hasRemaining) = true := by simpa using hremaining
      rw [if_pos hnot]
      refine ⟨s.finish frames, [], rfl, rfl, ?_⟩
      rw [List.append_nil]
      exact goes_of_finish frames h nofun hends nofun

end Polls

/-! ### Runs -/

/-- As many octets as a ring holds, and the look at the end. -/
abbrev pollFuel : ℕ := 257

/-- The octets that a poll queues or consumes. -/
def moved (s s' : Tester) : List UInt8 :=
  match s.test.mode with
  | .idle => []
  | .transmit => s'.modem.transmit.contents.drop s.modem.transmit.held
  | .receive => s.modem.receive.contents.take (s.modem.receive.held - s'.modem.receive.held)

/-- A test that has begun, and the octets that it has queued or consumed. -/
structure Session where
  tester : Tester
  octets : List UInt8

/-- Between the polls the rest of the program, the modem and the host do what they like with the driver, its rings and
the mailbox; in a poll the frame counter has these values when it is read. -/
inductive Event where
  | environment (modem : Modem) (mailbox : Mailbox)
  | poll (frames : ℕ → Long)

def Session.step (fuel : ℕ) (s : Session) : Event → Session
  | .environment modem mailbox => { s with tester := { s.tester with modem := modem, mailbox := mailbox } }
  | .poll frames =>
    match s.tester.modemSpeedTestPoll fuel frames with
    | none => s
    | some tester => { tester := tester, octets := s.octets ++ moved s.tester tester }

/-- The routine that begins a test in the mode. -/
def begins (mode : SpeedTestMode) (frames : ℕ → Long) (s : Tester) : Tester × Bool :=
  match mode with
  | .idle => (s, true)
  | .transmit => s.modemSpeedTestBeginTransmit frames
  | .receive => s.modemSpeedTestBeginReceive frames

/-- The test agrees with the generator of the host. -/
structure Agrees (fuel : ℕ) (mode : SpeedTestMode) (seed : UInt16) (length : ℕ) (s : Session) : Prop where
  /-- What has been processed and what remains make up the length. -/
  total : s.tester.test.processed.toNat + s.tester.test.remaining.toNat = length
  processed : s.tester.test.processed.toNat = s.octets.length
  /-- The octets queued are the first ones of the host's sequence. -/
  queued : mode = .transmit → Prbs.bytes seed s.octets.length = .ok s.octets
  /-- The mismatches are those between the octets consumed and the host's sequence. -/
  compared : mode = .receive → ∃ expected, Prbs.bytes seed s.octets.length = .ok expected ∧
    s.tester.test.mismatchCount.toNat = mismatches s.octets expected ∧
    s.tester.test.firstMismatch.toNat = (firstMismatch s.octets expected).getD 0xffffffff
  /-- A poll ends, and finishes the test exactly when nothing remains and what was queued has been sent; then it
  reports all the octets of the test against the host's sequence. -/
  polls : ∀ frames, ∃ tester, s.tester.modemSpeedTestPoll fuel frames = some tester ∧
    (s.tester.test.mode = mode → s.tester.modem.driverState = .connected →
      (tester.test.mode = .idle ↔
        tester.test.remaining = ⟨0, 0⟩ ∧ (mode = .transmit → tester.modem.transmit.isEmpty = true)) ∧
      (tester.test.mode = .idle → (s.octets ++ moved s.tester tester).length = length ∧
        ∃ expected, Prbs.bytes seed length = .ok expected ∧
          Reported (s.octets ++ moved s.tester tester) expected tester))

/-- The test stands behind its octets, and is running or has ended. -/
structure Stands (mode : SpeedTestMode) (seed : UInt16) (length : ℕ) (s : Session) : Prop where
  progress : Progress seed length s.octets s.tester.test
  queued : mode = .transmit → s.octets = sequence seed s.octets.length
  running : s.tester.test.mode = mode ∨ s.tester.test.mode = .idle

section Sessions

variable {fuel : ℕ} {mode : SpeedTestMode} {seed : UInt16} {length : ℕ} {s : Session}

/-- **A poll** of a running test over a connection. -/
lemma Stands.poll_connected (h : Stands mode seed length s) (hmode : s.tester.test.mode = mode)
    (hrunning : mode ≠ .idle) (hconnected : s.tester.modem.driverState = .connected) (hfuel : pollFuel ≤ fuel)
    (frames : ℕ → Long) :
    ∃ tester, s.tester.modemSpeedTestPoll fuel frames = some tester ∧
      Goes mode seed length (s.octets ++ moved s.tester tester) tester := by
  have hfuel' : 257 ≤ fuel := hfuel
  unfold Tester.modemSpeedTestPoll moved
  cases mode with
  | idle => exact absurd rfl hrunning
  | transmit =>
    obtain ⟨tester, octets, hpoll, hcontents, hgoes⟩ :=
      transmit_goes fuel frames hmode h.progress (h.queued rfl) (by omega)
    rw [hmode]
    dsimp only
    rw [if_neg (not_not_intro hconnected)]
    refine ⟨tester, hpoll, ?_⟩
    rw [hcontents, List.drop_left' Ring.length_contents]
    exact hgoes
  | receive =>
    have hheld := s.tester.modem.receive.held_lt
    obtain ⟨tester, octets, hpoll, hcontents, hgoes⟩ := receive_goes fuel frames hmode h.progress (by omega)
    rw [hmode]
    dsimp only
    rw [if_neg (not_not_intro hconnected)]
    refine ⟨tester, hpoll, ?_⟩
    have hlength := congrArg List.length hcontents
    rw [List.length_append, Ring.length_contents, Ring.length_contents] at hlength
    rw [hcontents, List.take_left' (by omega)]
    exact hgoes

/-- A poll of a test that has ended, or that loses its connection. -/
lemma Stands.poll_otherwise (h : Stands mode seed length s) (fuel : ℕ)
    (hends : s.tester.test.mode = .idle ∨ s.tester.modem.driverState ≠ .connected) (frames : ℕ → Long) :
    ∃ tester, s.tester.modemSpeedTestPoll fuel frames = some tester ∧ moved s.tester tester = [] ∧
      Progress seed length s.octets tester.test ∧ tester.test.mode = .idle := by
  by_cases hidle : s.tester.test.mode = .idle
  · refine ⟨s.tester, ?_, ?_, h.progress, hidle⟩
    · unfold Tester.modemSpeedTestPoll
      rw [hidle]
    · unfold moved
      rw [hidle]
  · have hgone := hends.resolve_left hidle
    refine ⟨s.tester.abandon, ?_, ?_, h.progress.congr rfl rfl rfl rfl rfl, rfl⟩
    · unfold Tester.modemSpeedTestPoll
      cases hmode : s.tester.test.mode with
      | idle => exact absurd hmode hidle
      | transmit => exact if_pos hgone
      | receive => exact if_pos hgone
    · unfold moved
      cases hmode : s.tester.test.mode with
      | idle => rfl
      | transmit => exact List.drop_eq_nil_of_le Ring.length_contents.le
      | receive =>
        show List.take (s.tester.modem.receive.held - s.tester.modem.receive.held) _ = []
        rw [Nat.sub_self, List.take_zero]

/-- **Every event** leaves the test where its octets have brought it. -/
theorem stands_step (h : Stands mode seed length s) (hrunning : mode ≠ .idle) (hfuel : pollFuel ≤ fuel)
    (event : Event) : Stands mode seed length (s.step fuel event) := by
  cases event with
  | environment modem mailbox => exact ⟨h.progress, h.queued, h.running⟩
  | poll frames =>
    unfold Session.step
    dsimp only
    by_cases hgoes : s.tester.test.mode = mode ∧ s.tester.modem.driverState = .connected
    · obtain ⟨tester, hpoll, hgoes⟩ := h.poll_connected hgoes.1 hrunning hgoes.2 hfuel frames
      rw [hpoll]
      exact ⟨hgoes.progress, hgoes.queued, hgoes.running⟩
    · have hends : s.tester.test.mode = .idle ∨ s.tester.modem.driverState ≠ .connected := by
        rcases h.running with hmode | hidle
        · exact Or.inr fun hconnected => hgoes ⟨hmode, hconnected⟩
        · exact Or.inl hidle
      obtain ⟨tester, hpoll, hmoved, hprogress, hidle⟩ := h.poll_otherwise fuel hends frames
      rw [hpoll]
      dsimp only
      rw [hmoved, List.append_nil]
      exact ⟨hprogress, h.queued, Or.inr hidle⟩

lemma Stands.agrees (h : Stands mode seed length s) (hrunning : mode ≠ .idle) (hfuel : pollFuel ≤ fuel)
    (hseed : seed ≠ 0) : Agrees fuel mode seed length s where
  total := by rw [h.progress.processed, h.progress.total]
  processed := h.progress.processed
  queued hmode := by
    rw [Prbs.bytes_of_ne hseed]
    exact congrArg _ (h.queued hmode).symm
  compared _ := ⟨_, Prbs.bytes_of_ne hseed _, h.progress.mismatchCount, h.progress.firstMismatch⟩
  polls frames := by
    by_cases hgoes : s.tester.test.mode = mode ∧ s.tester.modem.driverState = .connected
    · obtain ⟨tester, hpoll, hgoes⟩ := h.poll_connected hgoes.1 hrunning hgoes.2 hfuel frames
      refine ⟨tester, hpoll, fun _ _ => ⟨hgoes.finishes, fun hidle => ?_⟩⟩
      have hlength : (s.octets ++ moved s.tester tester).length = length := by
        have htotal := hgoes.progress.total
        rw [(hgoes.finishes.mp hidle).1] at htotal
        exact htotal
      have hreports := hgoes.reports hidle
      rw [hlength] at hreports
      exact ⟨hlength, _, Prbs.bytes_of_ne hseed _, hreports⟩
    · have hends : s.tester.test.mode = .idle ∨ s.tester.modem.driverState ≠ .connected := by
        rcases h.running with hmode | hidle
        · exact Or.inr fun hconnected => hgoes ⟨hmode, hconnected⟩
        · exact Or.inl hidle
      obtain ⟨tester, hpoll, -⟩ := h.poll_otherwise fuel hends frames
      exact ⟨tester, hpoll, fun hmode hconnected => absurd ⟨hmode, hconnected⟩ hgoes⟩

end Sessions

/-- A test that is accepted stands at its beginning. -/
lemma stands_begins {mode : SpeedTestMode} {frames : ℕ → Long} {s t : Tester} (h : begins mode frames s = (t, false)) :
    mode ≠ .idle ∧ s.argumentSeed ≠ 0 ∧ Stands mode s.argumentSeed s.argumentLength.toNat ⟨t, []⟩ := by
  have hbegin : ∀ mode : SpeedTestMode, s.modemSpeedTestBegin mode frames = (t, false) →
      s.argumentSeed ≠ 0 ∧ Stands mode s.argumentSeed s.argumentLength.toNat ⟨t, []⟩ := by
    intro mode hbegin
    unfold Tester.modemSpeedTestBegin at hbegin
    split_ifs at hbegin with hrefused
    · cases hbegin
    · cases hbegin
      push Not at hrefused
      have hfirst : (⟨0xffff, 0xffff⟩ : Long).toNat = 0xffffffff := by decide
      refine ⟨hrefused.2.1, ⟨Long.toNat_lt _, rfl, rfl, Nat.zero_add _, rfl, ?_⟩, fun _ => rfl, Or.inl rfl⟩
      exact hfirst
  unfold begins at h
  cases mode with
  | idle => cases h
  | transmit =>
    dsimp only at h
    unfold Tester.modemSpeedTestBeginTransmit at h
    split_ifs at h
    · cases h
    · cases h
    · exact ⟨nofun, hbegin .transmit h⟩
  | receive =>
    dsimp only at h
    unfold Tester.modemSpeedTestBeginReceive at h
    split_ifs at h
    · cases h
    · exact ⟨nofun, hbegin .receive h⟩

/-- From its beginning on a speed test agrees with the generator of the host, whatever the polls find. -/
theorem session_agrees {mode : SpeedTestMode} {frames : ℕ → Long} {s t : Tester} {fuel : ℕ}
    (h : begins mode frames s = (t, false)) (hfuel : pollFuel ≤ fuel) (events : List Event) :
    Agrees fuel mode s.argumentSeed s.argumentLength.toNat (Run.run (Session.step fuel) ⟨t, []⟩ events) := by
  obtain ⟨hrunning, hseed, hstands⟩ := stands_begins h
  have hrun : Stands mode s.argumentSeed s.argumentLength.toNat (Run.run (Session.step fuel) ⟨t, []⟩ events) :=
    Run.run_preserves (fun _ event hstands => stands_step hstands hrunning hfuel event) hstands
  exact hrun.agrees hrunning hfuel hseed

/-- A connected modem, and a test of three octets, two in a frame. -/
def requested : Tester :=
  { modem := { (default : Modem) with driverState := .connected }
    mailbox := { (default : Mailbox) with arguments := fun i => [3, 0, 0, 0, 0xe1, 0xac, 2].getD i 0 }
    test := default }

def started : Tester := (begins .transmit (fun _ => ⟨0, 0⟩) requested).1

theorem session_agrees_transmit :
    Agrees pollFuel .transmit requested.argumentSeed requested.argumentLength.toNat
        (Run.run (Session.step pollFuel) ⟨started, []⟩ [.poll fun _ => ⟨0, 0⟩, .poll fun _ => ⟨1, 0⟩]) ∧
      (Run.run (Session.step pollFuel) ⟨started, []⟩ [.poll fun _ => ⟨0, 0⟩, .poll fun _ => ⟨1, 0⟩]).octets =
        [0xe1, 0x70, 0x38] :=
  ⟨session_agrees (t := started) (Prod.ext rfl (by decide) : begins .transmit (fun _ => ⟨0, 0⟩) requested = _) le_rfl _,
    by decide +kernel⟩

end SnesModem.Asm.SpeedTestRuns
