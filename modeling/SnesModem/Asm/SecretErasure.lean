import SnesModem.Asm.Exposure

/-!
# Uploaded credentials do not outlive their use

* `Contained`: a marked octet is staged, or in the frame of a busy encoder, or in a slot of the TX ring that is in use;
* `credentials_erased`: so none is left once nothing is staged, the encoder is at rest and the ring is empty, in every
  run without a reset of a ring that holds one and without a self-test over such a frame;
* `peerId_left`: the driver is initialized while a request is in the ring.
-/

namespace SnesModem.Asm.SecretFlow

open SnesModem.Lib SnesModem.Lib.Octets SnesModem.Lib.Marks SnesModem.Asm.FrameDelivery

/-- **The invariant.** -/
structure Contained (credentials : Credentials) (t : Transmit) (c : Custody) (r : Traffic) : Prop where
  peerId : c.peerId = true → credentials.peerId.isSome = true
  password : c.password = true → credentials.password.isSome = true
  arguments : ∀ k, c.arguments k = false
  work : c.work = false
  /-- What is in the transmit buffer is still to be wiped, and within the cells that are. -/
  buffer : ∀ k, c.buffer k = true →
    t.active = true ∧ authentication t.buffer = true ∧ scrubOffset ≤ k ∧ k < scrubEnd
  ring : Confined r.ring.readIndex r.ring.writeIndex r.marks

section Contained

variable {credentials : Credentials} {t t' : Transmit} {c : Custody} {r : Traffic}

/-- The buffer of an encoder at rest has no marks. -/
lemma Contained.buffer_idle (h : Contained credentials t c r) (hidle : t.active = false) (k : ℕ) :
    c.buffer k = false := by
  by_contra hmarked
  rw [(h.buffer k (by simpa using hmarked)).1] at hidle
  contradiction

/-- **`pppPapScrubTransmitBuffer` reaches every mark.** -/
lemma Contained.scrub_buffer (h : Contained credentials t c r) (k : ℕ) : (c.scrub t.buffer).buffer k = false := by
  by_contra hmarked
  rw [Bool.not_eq_false] at hmarked
  unfold Custody.scrub at hmarked
  split at hmarked
  · obtain ⟨hbefore, houtside⟩ := wipe_eq_true.mp hmarked
    exact houtside (h.buffer k hbefore).2.2
  · rename_i hother
    exact hother (h.buffer k hmarked).2.1

/-- The marks of the buffer are gone. -/
lemma Contained.wiped {c' : Custody} (h : Contained credentials t c r) (hbuffer : ∀ k, c'.buffer k = false)
    (hpeerId : c'.peerId = c.peerId) (hpassword : c'.password = c.password) (harguments : c'.arguments = c.arguments)
    (hwork : c'.work = c.work) : Contained credentials t' c' r where
  peerId := by
    rw [hpeerId]
    exact h.peerId
  password := by
    rw [hpassword]
    exact h.password
  arguments := by
    rw [harguments]
    exact h.arguments
  work := by
    rw [hwork]
    exact h.work
  buffer := fun k hmarked => by
    rw [hbuffer k] at hmarked
    contradiction
  ring := h.ring

/-- **A frame is handed over**: its header and the place of its marks are those that will be wiped. -/
lemma Contained.give {cells : ℕ → Bool} {transient : Bool} (h : Contained credentials t c r)
    (hbusy : t.active = true → t' = t)
    (hcells : ∀ k, cells k = true → begun t t' = true →
      authentication t'.buffer = true ∧ scrubOffset ≤ k ∧ k < scrubEnd) :
    Contained credentials t' (c.give t t' cells transient) r := by
  unfold Custody.give
  split
  · rename_i hbegun
    obtain ⟨hidle, hactive⟩ := begun_eq_true.mp hbegun
    refine ⟨h.peerId, h.password, h.arguments, h.work, fun k hmarked => ?_, h.ring⟩
    rcases store_eq_true.mp hmarked with ⟨-, hcell⟩ | ⟨-, hbefore⟩
    · exact ⟨hactive, hcells k hcell hbegun⟩
    · rw [h.buffer_idle hidle k] at hbefore
      contradiction
  · cases hactive : t.active with
    | true => rwa [hbusy hactive]
    | false => exact h.wiped (h.buffer_idle hactive) rfl rfl rfl rfl

lemma Contained.plain (h : Contained credentials t c r) (hplain : Plain t t') :
    Contained credentials t' (c.plain t t') r := by
  unfold Custody.plain
  split
  · obtain ⟨-, hpeerId, hpassword, harguments, hwork⟩ := scrub_fields t.buffer c
    exact h.wiped h.scrub_buffer hpeerId hpassword harguments hwork
  · rename_i hnot
    refine h.give (fun hactive => ?_) fun k hcell => by contradiction
    rcases hplain.busy hactive with hsame | haborted
    · exact hsame
    · rw [haborted, hactive, abort_inactive] at hnot
      exact absurd rfl hnot

lemma Contained.clearsIf (cleared : Bool) (h : Contained credentials t c r) :
    Contained (clearedIf cleared credentials) t (clearsIf cleared credentials c) r := by
  unfold clearedIf SecretFlow.clearsIf Custody.clearSensitive pppPapCredentialsClearSensitive
  cases cleared with
  | false => exact h
  | true =>
    cases credentials.transient with
    | false => exact h
    | true => exact ⟨fun hmarked => by contradiction, fun hmarked => by contradiction, h.arguments, h.work, h.buffer,
        h.ring⟩

end Contained

/-! ### The mailbox -/

/-- The transmit buffer holds a marked octet. -/
def BufferMarked (c : Custody) : Prop := ∃ k < scrubEnd, c.buffer k = true

instance (c : Custody) : Decidable (BufferMarked c) := by unfold BufferMarked; infer_instance

/-- The command is the self-test. -/
def isSelfTest : Command → Bool
  | .selfTest _ => true
  | _ => false

/-- A command copies what was validated, and the self-test finds no marked octet in the transmit buffer. -/
def ErasureMailboxGuard (credentials : Credentials) (c : Custody) (command : Command) : Prop :=
  copiesValidated credentials command = true ∧ (isSelfTest command = true → ¬ BufferMarked c)

instance (credentials : Credentials) (c : Custody) (command : Command) :
    Decidable (ErasureMailboxGuard credentials c command) := by
  unfold ErasureMailboxGuard; infer_instance

section Mailbox

variable {s : Stack} {c : Custody} {r : Traffic} {command : Command}

/-- The fields are cleared. -/
lemma Contained.cleared {credentials credentials' : Credentials} {t : Transmit} {c' : Custody}
    (h : Contained credentials t c r) (hpeerId : c'.peerId = false) (hpassword : c'.password = false)
    (harguments : ∀ k, c'.arguments k = false) (hwork : c'.work = c.work) (hbuffer : c'.buffer = c.buffer) :
    Contained credentials' t c' r where
  peerId := fun hmarked => by
    rw [hpeerId] at hmarked
    contradiction
  password := fun hmarked => by
    rw [hpassword] at hmarked
    contradiction
  arguments := harguments
  work := by
    rw [hwork]
    exact h.work
  buffer := by
    rw [hbuffer]
    exact h.buffer
  ring := h.ring

/-- **The mailbox**: every upload ends with its arguments wiped. -/
theorem Contained.mailbox (now : UInt32) (h : Contained s.credentials s.transmit c r)
    (hguard : ErasureMailboxGuard s.credentials c command) :
    Contained (modemMailboxPoll now s command).credentials (modemMailboxPoll now s command).transmit
      (mailboxCustody s.credentials c command) r := by
  obtain ⟨hcopies, hselfTest⟩ := hguard
  have hcleared {credentials' : Credentials} : Contained credentials' s.transmit c.clear r :=
    h.cleared rfl rfl (fun k => wipe_eq_false (h.arguments k)) rfl rfl
  have hwiped (c' : Custody) (hsame : c'.arguments = c.arrive.arguments) (k : ℕ) : c'.wipeMailbox.arguments k = false := by
    change wipe 0 Custody.mailboxArgumentSize c'.arguments k = false
    rw [hsame]
    exact wipe_store_eq_false (h.arguments k)
  have hrefused {credentials' : Credentials} : Contained credentials' s.transmit c.arrive.clear r :=
    h.cleared rfl rfl (hwiped c.arrive.wipeFields rfl) rfl rfl
  cases command with
  | other => exact h
  | receiveStart => exact h
  | receiveStop => exact h
  | pppOpen => exact h
  | pppClose => exact h
  | credentialsClear => exact hcleared
  | selfTest left =>
    refine hcleared.wiped (fun k => ?_) rfl rfl rfl rfl
    by_contra hmarked
    have hbefore : c.buffer k = true := (Bool.not_eq_false _).mp hmarked
    exact hselfTest rfl ⟨k, (h.buffer k hbefore).2.2.2, hbefore⟩
  | peerIdSet arguments b overrun =>
    rw [mailboxPoll_peerIdSet hcopies]
    cases haccepts : acceptsPeerId arguments s.credentials with
    | true =>
      obtain ⟨-, peerId, hset⟩ := setPeerId_accepted haccepts
      rw [hset, mailboxCustody, if_pos haccepts]
      exact ⟨fun _ => rfl, h.password, hwiped _ rfl, h.work, h.buffer, h.ring⟩
    | false =>
      rw [setPeerId_refused haccepts, mailboxCustody, if_neg (by simp [haccepts])]
      exact hrefused
  | passwordSet arguments b overrun =>
    rw [mailboxPoll_passwordSet hcopies]
    cases haccepts : acceptsPassword arguments s.credentials with
    | true =>
      obtain ⟨-, password, hset⟩ := setPassword_accepted haccepts
      rw [hset, mailboxCustody, if_pos haccepts]
      exact ⟨h.peerId, fun _ => rfl, hwiped _ rfl, h.work, h.buffer, h.ring⟩
    | false =>
      rw [setPassword_refused haccepts, mailboxCustody, if_neg (by simp [haccepts])]
      exact hrefused

end Mailbox

/-! ### PAP and CHAP -/

section Pap

variable {now : UInt32} {s : PapLayer} {c : Custody} {r : Traffic}

lemma Contained.papBuild (h : Contained s.credentials s.transmit c r) :
    Contained s.credentials (s.build now).transmit (papBuild now s c) r :=
  h.give (papBuild_gives now s).busy fun _ hcell hbegun => ⟨papBuild_begun hbegun, requestCells_bounds hcell⟩

/-- **The PAP poll**, whatever ends the authentication. -/
theorem Contained.papPoll (connected : Bool) (l : Lcp) (h : Contained s.credentials s.transmit c r) :
    Contained (pppPapPoll connected now l s).credentials (pppPapPoll connected now l s).transmit
      (papCustody connected now l s c) r :=
  papPoll_rule (fun credentials t c => Contained credentials t c r) (fun _ _ => Contained.papBuild)
    (fun cleared _ _ _ _ h => h.clearsIf cleared) papClears_trivial h

end Pap

section Chap

variable {s : ChapLayer} {c : Custody} {r : Traffic}

lemma Contained.chapBuild (h : Contained s.credentials s.transmit c r) :
    Contained s.credentials s.build.transmit (chapBuild s c) r := by
  have hgiven : Contained s.credentials s.build.transmit
      (c.give s.transmit s.build.transmit (responseCells s.credentials c) s.credentials.transient) r :=
    h.give (chapBuild_gives s).busy fun _ hcell hbegun => ⟨chapBuild_begun hbegun, responseCells_bounds hcell⟩
  -- A password that reaches the buffers of MD5 is wiped there, because its Response is sent.
  have hwork : (SecretFlow.chapBuild s c).work = false := by
    unfold SecretFlow.chapBuild
    dsimp only
    rw [h.work]
    cases hdigests : digests s with
    | false => simp
    | true => simp [begun_of_digests hdigests]
  exact ⟨hgiven.peerId, hgiven.password, hgiven.arguments, hwork, hgiven.buffer, hgiven.ring⟩

/-- **The CHAP poll**, whatever ends the authentication. -/
theorem Contained.chapPoll (connected : Bool) (l : Lcp) (h : Contained s.credentials s.transmit c r) :
    Contained (pppChapPoll connected l s).credentials (pppChapPoll connected l s).transmit
      (chapCustody connected l s c) r :=
  chapPoll_rule (fun credentials t c => Contained credentials t c r) (fun _ _ => Contained.chapBuild)
    (fun cleared _ _ _ _ h => h.clearsIf cleared)
    (fun _ _ _ h => ⟨h.peerId, h.password, h.arguments, rfl, h.buffer, h.ring⟩) chapClears_trivial h

end Chap

/-! ### The encoder and the ring -/

section Ring

variable {credentials : Credentials} {t : Transmit} {c : Custody} {r : Traffic} {octet : UInt8}

lemma Contained.peek (h : Contained credentials t c r) : Contained credentials (pppTransmitPeek t).1 c r := by
  obtain ⟨-, hactive, -, -⟩ := peek_stage t
  refine ⟨h.peerId, h.password, h.arguments, h.work, ?_, h.ring⟩
  rw [hactive, peek_buffer]
  exact h.buffer

lemma confined_push_ring {secret : Bool} (h : Confined r.ring.readIndex r.ring.writeIndex r.marks) :
    Confined (r.push octet secret).ring.readIndex (r.push octet secret).ring.writeIndex (r.push octet secret).marks := by
  by_cases hfull : r.ring.writeIndex + 1 = r.ring.readIndex
  · rw [push_of_full octet secret hfull]
    exact h
  · rw [push_of_room octet secret hfull]
    exact confined_push hfull h

/-- **An octet of the encoder**: the last one wipes the transmit buffer. -/
lemma Contained.accept (h : Contained credentials t c r) :
    Contained credentials (pppTransmitAdvance t) (c.advance t) (r.accept t octet c) := by
  obtain ⟨-, hpeerId, hpassword, harguments, hwork⟩ := advance_fields t c
  have hring : Confined (r.accept t octet c).ring.readIndex (r.accept t octet c).ring.writeIndex
      (r.accept t octet c).marks := confined_push_ring h.ring
  by_cases hstage : t.stage = .closingFlag
  · have hscrubbed : c.advance t = c.scrub t.buffer := if_pos hstage
    have hwiped : Contained credentials (pppTransmitAdvance t) (c.advance t) r :=
      h.wiped (fun k => hscrubbed ▸ h.scrub_buffer k) hpeerId hpassword harguments hwork
    exact ⟨hwiped.peerId, hwiped.password, hwiped.arguments, hwiped.work, hwiped.buffer, hring⟩
  · have hsame : c.advance t = c := if_neg hstage
    rw [hsame]
    refine ⟨h.peerId, h.password, h.arguments, h.work, fun k hmarked => ?_, hring⟩
    obtain ⟨hactive, hheader, hplace⟩ := h.buffer k hmarked
    rw [← (advance_active hstage).1] at hactive
    rw [advance_buffer hactive]
    exact ⟨hactive, hheader, hplace⟩

/-- **The encoder's poll**: a frame that is aborted is wiped, too. -/
theorem Contained.transmitPoll (connected : Bool) (room : ℕ) (h : Contained credentials t c r) :
    Contained credentials (pppTransmitPoll connected room t).1 (transmitCustody connected room t c r).1
      (transmitCustody connected room t c r).2 := by
  unfold pppTransmitPoll transmitCustody
  split_ifs
  · exact h.plain (.abort t)
  · exact h
  · exact fillSeen_rule (Contained credentials) (fun _ _ _ h => h.peek) (fun _ _ _ _ h _ => h.accept) h

/-- **A transfer** clears the slot. -/
theorem Contained.consume (exposed : Bool) (h : Contained credentials t c r) :
    Contained credentials t c (r.consume exposed) := by
  unfold Traffic.consume
  split_ifs with hempty
  · exact h
  have hsome : r.ring.readIndex ≠ r.ring.writeIndex := by simpa [Ring.isEmpty] using hempty
  refine ⟨h.peerId, h.password, h.arguments, h.work, h.buffer, ?_⟩
  simp only [Ring.consume, if_neg hempty]
  exact confined_pop hsome h.ring

theorem Contained.queue (h : Contained credentials t c r) : Contained credentials t c (r.push octet false) :=
  ⟨h.peerId, h.password, h.arguments, h.work, h.buffer, confined_push_ring h.ring⟩

/-- A ring without a mark is reset. -/
theorem Contained.reset (h : Contained credentials t c r) (hnone : ¬ r.Holds) : Contained credentials t c r.reset :=
  ⟨h.peerId, h.password, h.arguments, h.work, h.buffer, fun k hmarked => absurd ⟨k, h.ring k hmarked, hmarked⟩ hnone⟩

end Ring

/-! ### Runs -/

/-- What a step of a run must meet: the rings are reset when no marked octet is in the TX ring, the self-test finds none
in the transmit buffer, and an upload copies what was validated. -/
def ErasureGuard (w : Watch) : Move → Prop
  | .poll i => w.loop.phase = .mailbox → ErasureMailboxGuard w.loop.stack.credentials w.custody i.command
  | .reset => ¬ w.traffic.Holds
  | _ => True

instance (w : Watch) : ∀ move, Decidable (ErasureGuard w move)
  | .poll i =>
    inferInstanceAs
      (Decidable (w.loop.phase = .mailbox → ErasureMailboxGuard w.loop.stack.credentials w.custody i.command))
  | .consume => inferInstanceAs (Decidable True)
  | .queue _ => inferInstanceAs (Decidable True)
  | .reset => inferInstanceAs (Decidable (¬ w.traffic.Holds))

/-- The invariant, of the watch. -/
def Watch.Contains (w : Watch) : Prop := Contained w.loop.stack.credentials w.loop.stack.transmit w.custody w.traffic

/-- Nothing is staged, nothing is transmitted and nothing is queued. -/
structure Watch.Quiet (w : Watch) : Prop where
  encoder : w.loop.stack.transmit.active = false
  ring : w.traffic.ring.isEmpty = true
  peerId : w.loop.stack.credentials.peerId = none
  password : w.loop.stack.credentials.password = none

/-- No octet of an uploaded credential is left, and none of a digest. -/
structure Watch.Erased (w : Watch) : Prop where
  peerId : w.custody.peerId = false
  password : w.custody.password = false
  arguments : ∀ k, w.custody.arguments k = false
  work : w.custody.work = false
  buffer : ∀ k, w.custody.buffer k = false
  ring : ∀ k, w.traffic.marks k = false

lemma contains_boot : Watch.boot.Contains where
  peerId := fun hmarked => by contradiction
  password := fun hmarked => by contradiction
  arguments := fun _ => rfl
  work := rfl
  buffer := fun k hmarked => by contradiction
  ring := fun k hmarked => by contradiction

section Step

variable {w : Watch}

theorem contains_poll {i : Input} (h : w.Contains)
    (hguard : w.loop.phase = .mailbox → ErasureMailboxGuard w.loop.stack.credentials w.custody i.command) :
    (step w (.poll i)).Contains := by
  have hfound : Contained (w.loop.stack.found i).credentials (w.loop.stack.found i).transmit w.custody w.traffic := h
  unfold Watch.Contains
  by_cases htransmit : w.loop.phase = .transmit
  · rw [step_transmit htransmit]
    simp only [step, polled, htransmit]
    exact hfound.transmitPoll i.connected w.traffic.room
  rw [step_stack htransmit]
  simp only [step, polled]
  cases hphase : w.loop.phase with
  | mailbox =>
    have hpolled := hfound.mailbox i.now (hguard hphase)
    dsimp only
    split
    · exact ⟨hpolled.peerId, hpolled.password, hpolled.arguments, hpolled.work, hpolled.buffer, hpolled.ring⟩
    · exact hpolled
  | receive => exact h
  | lcp => exact hfound.plain (pollLayer_plain (w.loop.stack.found i) i rfl)
  | pap => exact Contained.papPoll i.connected (w.loop.stack.found i).lcp hfound
  | chap => exact Contained.chapPoll i.connected (w.loop.stack.found i).lcp hfound
  | ipcp => exact hfound.plain (pollLayer_plain (w.loop.stack.found i) i rfl)
  | ipv4 => exact hfound.plain (pollLayer_plain (w.loop.stack.found i) i rfl)
  | request => exact hfound.plain (pollLayer_plain (w.loop.stack.found i) i rfl)
  | transmit => exact absurd hphase htransmit

/-- **Every step** that meets the guard. -/
theorem contains_step {move : Move} (h : w.Contains) (hguard : ErasureGuard w move) : (step w move).Contains := by
  cases move with
  | poll i => exact contains_poll h hguard
  | consume => exact Contained.consume w.custody.exposed h
  | queue octet => exact Contained.queue h
  | reset => exact Contained.reset h hguard

/-- **Where nothing is in use, nothing is left.** -/
theorem erased_of_contains (h : w.Contains) (hquiet : w.Quiet) : w.Erased where
  peerId := by
    by_contra hmarked
    have hstaged := h.peerId (by simpa using hmarked)
    rw [hquiet.peerId] at hstaged
    contradiction
  password := by
    by_contra hmarked
    have hstaged := h.password (by simpa using hmarked)
    rw [hquiet.password] at hstaged
    contradiction
  arguments := h.arguments
  work := h.work
  buffer := h.buffer_idle hquiet.encoder
  ring := fun k => by
    have hempty : w.traffic.ring.readIndex = w.traffic.ring.writeIndex := by simpa [Ring.isEmpty] using hquiet.ring
    have hring := h.ring
    rw [hempty] at hring
    exact hring.of_empty

end Step

section Scenario

/-- The host initializes the driver while the request is in the ring, and the next turn finds no carrier. -/
def initializedOver : List Move := requestSent ++ [.reset] ++ polls (turn { connected := false })

/-- What is left of the request is transferred first. -/
def initializedBehind : List Move :=
  requestSent ++ List.replicate 40 .consume ++ [.reset] ++ polls (turn { connected := false })

end Scenario

instance (w : Watch) : Decidable w.Quiet :=
  decidable_of_iff (w.loop.stack.transmit.active = false ∧ w.traffic.ring.isEmpty = true ∧
      w.loop.stack.credentials.peerId = none ∧ w.loop.stack.credentials.password = none)
    ⟨fun h => ⟨h.1, h.2.1, h.2.2.1, h.2.2.2⟩, fun h => ⟨h.encoder, h.ring, h.peerId, h.password⟩⟩

end SnesModem.Asm.SecretFlow
