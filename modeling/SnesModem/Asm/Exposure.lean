import SnesModem.Asm.SecretSteps

/-!
# What the diagnostic octets show of uploaded credentials

* `InFlight`: a marked octet is left in the encoder or in the TX ring;
* `Hidden`: as long as one is, the flag is up, and neither diagnostic octet is marked;
* `credentials_hidden`: so it is in every run in which no routine lowers the flag before;
* `peerId_shown`: the host clears the credentials while a request is in the ring.
-/

namespace SnesModem.Asm.SecretFlow

open SnesModem.Lib SnesModem.Lib.Octets SnesModem.Lib.Marks SnesModem.Asm.FrameDelivery

/-- A marked octet of the frame has not been accepted yet. -/
def InEncoder (t : Transmit) (c : Custody) : Prop :=
  t.active = true ∧ ∃ k < t.length.toNat, t.position.toNat ≤ k ∧ c.buffer k = true

instance (t : Transmit) (c : Custody) : Decidable (InEncoder t c) := by unfold InEncoder; infer_instance

/-- A marked octet is left in the encoder or in the ring. -/
def InFlight (t : Transmit) (c : Custody) (r : Traffic) : Prop := InEncoder t c ∨ r.Holds

instance (t : Transmit) (c : Custody) (r : Traffic) : Decidable (InFlight t c r) := by unfold InFlight; infer_instance

/-- **The invariant.** -/
structure Hidden (credentials : Credentials) (t : Transmit) (c : Custody) (r : Traffic) : Prop where
  sound : t.active = true → TransmitRefinement.Sound t
  /-- Only what was uploaded is marked, and an upload needs the transient mode. -/
  transient : c.peerId = true ∨ c.password = true → credentials.transient = true
  flight : InFlight t c r → c.exposed = true
  lastWireByte : r.lastWireByte.secret = false
  lastTransmitByte : r.lastTransmitByte.secret = false

/-- If the credentials are cleared here, nothing is in flight. -/
def Spares (cleared : Bool) (credentials : Credentials) (t : Transmit) (c : Custody) (r : Traffic) : Prop :=
  cleared = true → credentials.transient = true → ¬ InFlight t c r

instance (cleared : Bool) (credentials : Credentials) (t : Transmit) (c : Custody) (r : Traffic) :
    Decidable (Spares cleared credentials t c r) := by unfold Spares; infer_instance

section Hidden

variable {credentials : Credentials} {t t' : Transmit} {c : Custody} {r : Traffic}

lemma not_inEncoder (hidle : t.active = false) : ¬ InEncoder t c := by
  rintro ⟨hactive, -⟩
  rw [hidle] at hactive
  contradiction

/-- An encoder at rest holds nothing back. -/
lemma Hidden.rest {c' : Custody} (h : Hidden credentials t c r) (hidle : t'.active = false)
    (hexposed : c'.exposed = c.exposed) (hpeerId : c'.peerId = c.peerId) (hpassword : c'.password = c.password) :
    Hidden credentials t' c' r where
  sound := fun hactive => by
    rw [hidle] at hactive
    contradiction
  transient := by
    rw [hpeerId, hpassword]
    exact h.transient
  flight := by
    rw [hexposed]
    rintro (hencoder | hring)
    · exact absurd hencoder (not_inEncoder hidle)
    · exact h.flight (Or.inr hring)
  lastWireByte := h.lastWireByte
  lastTransmitByte := h.lastTransmitByte

/-- **A frame is handed over**: the flag goes up with the first mark. -/
lemma Hidden.give {cells : ℕ → Bool} {transient : Bool} (h : Hidden credentials t c r)
    (hbusy : t.active = true → t' = t) (hfresh : t.active = false → t'.active = true → TransmitRefinement.Sound t')
    (hcells : ∀ k, cells k = true → transient = true) :
    Hidden credentials t' (c.give t t' cells transient) r := by
  unfold Custody.give
  split
  · rename_i hbegun
    obtain ⟨hidle, hactive⟩ := begun_eq_true.mp hbegun
    refine ⟨fun _ => hfresh hidle hactive, h.transient, ?_, h.lastWireByte, h.lastTransmitByte⟩
    rintro (⟨-, k, hk, -, hmarked⟩ | hring)
    · rcases store_eq_true.mp hmarked with ⟨-, hcell⟩ | ⟨hbehind, -⟩
      · exact Bool.or_eq_true_iff.mpr (Or.inr (hcells k hcell))
      · omega
    · exact Bool.or_eq_true_iff.mpr (Or.inl (h.flight (Or.inr hring)))
  · rename_i hnot
    cases hactive : t.active with
    | true => rwa [hbusy hactive]
    | false =>
      have hidle : t'.active = false := by
        by_contra hbegun
        exact hnot (begun_eq_true.mpr ⟨hactive, by simpa using hbegun⟩)
      exact h.rest hidle rfl rfl rfl

/-- A poll that knows no credential. -/
lemma Hidden.plain (h : Hidden credentials t c r) (hplain : Plain t t') : Hidden credentials t' (c.plain t t') r := by
  unfold Custody.plain
  split
  · rename_i haborted
    rw [Bool.and_eq_true, Bool.not_eq_true'] at haborted
    obtain ⟨hexposed, hpeerId, hpassword, -, -⟩ := scrub_fields t.buffer c
    exact h.rest haborted.2 hexposed hpeerId hpassword
  · rename_i hnot
    refine h.give (fun hactive => ?_) hplain.fresh fun k hcell => by contradiction
    rcases hplain.busy hactive with hsame | haborted
    · exact hsame
    · rw [haborted, hactive, abort_inactive] at hnot
      exact absurd rfl hnot

/-- **The credentials are cleared** when nothing is in flight. -/
lemma Hidden.clearsIf {cleared : Bool} (h : Hidden credentials t c r) (hspares : Spares cleared credentials t c r) :
    Hidden (clearedIf cleared credentials) t (clearsIf cleared credentials c) r := by
  unfold clearedIf SecretFlow.clearsIf Custody.clearSensitive pppPapCredentialsClearSensitive
  cases hcleared : cleared with
  | false => exact h
  | true =>
    cases htransient : credentials.transient with
    | false => exact h
    | true =>
      have hnone : ¬ InFlight t c r := hspares hcleared htransient
      exact ⟨h.sound, fun _ => rfl, fun hflight => absurd hflight hnone, h.lastWireByte, h.lastTransmitByte⟩

end Hidden

/-! ### The mailbox -/

/-- The command lowers the flag. -/
def lowersFlag (credentials : Credentials) : Command → Bool
  | .credentialsClear | .selfTest _ => true
  | .peerIdSet arguments _ _ => !acceptsPeerId arguments credentials
  | .passwordSet arguments _ _ => !acceptsPassword arguments credentials
  | _ => false

/-- A command copies what was validated, and it does not lower the flag over an octet in flight. -/
def MailboxGuard (s : Stack) (c : Custody) (r : Traffic) (command : Command) : Prop :=
  copiesValidated s.credentials command = true ∧
    (lowersFlag s.credentials command = true → ¬ InFlight s.transmit c r)

instance (s : Stack) (c : Custody) (r : Traffic) (command : Command) : Decidable (MailboxGuard s c r command) := by
  unfold MailboxGuard; infer_instance

section Mailbox

variable {s : Stack} {c : Custody} {r : Traffic}

/-- What is marked after an upload: nothing but what is staged. -/
lemma Hidden.upload {credentials credentials' : Credentials} {t : Transmit} {c' : Custody}
    (h : Hidden credentials t c r) (htransient : credentials'.transient = true) (hbuffer : c'.buffer = c.buffer)
    (hexposed : c'.exposed = c.exposed) : Hidden credentials' t c' r where
  sound := h.sound
  transient := fun _ => htransient
  flight := by
    intro hflight
    rw [hexposed]
    refine h.flight ?_
    unfold InFlight InEncoder at hflight ⊢
    rwa [hbuffer] at hflight
  lastWireByte := h.lastWireByte
  lastTransmitByte := h.lastTransmitByte

/-- The fields are cleared when nothing is in flight, and the encoder stays as it is or comes to rest. -/
lemma Hidden.clear {credentials credentials' : Credentials} {t t' : Transmit}
    (h : Hidden credentials t c r) (hsame : t' = t ∨ t'.active = false) (hnone : ¬ InFlight t c r) :
    Hidden credentials' t' c.clear r := by
  have hfields : ¬ (c.clear.peerId = true ∨ c.clear.password = true) := by
    rintro (hpeerId | hpassword)
    · contradiction
    · contradiction
  rcases hsame with rfl | hidle
  · exact ⟨h.sound, fun hmarked => absurd hmarked hfields, fun hflight => absurd hflight hnone, h.lastWireByte,
      h.lastTransmitByte⟩
  · refine ⟨fun hactive => ?_, fun hmarked => absurd hmarked hfields, ?_, h.lastWireByte, h.lastTransmitByte⟩
    · rw [hidle] at hactive
      contradiction
    · rintro (hencoder | hring)
      · exact absurd hencoder (not_inEncoder hidle)
      · exact absurd (Or.inr hring) hnone

/-- **The mailbox.** -/
theorem Hidden.mailbox (now : UInt32) {command : Command} (h : Hidden s.credentials s.transmit c r)
    (hguard : MailboxGuard s c r command) :
    Hidden (modemMailboxPoll now s command).credentials (modemMailboxPoll now s command).transmit
      (mailboxCustody s.credentials c command) r := by
  obtain ⟨hcopies, hlowers⟩ := hguard
  cases command with
  | other => exact h
  | receiveStart => exact h
  | receiveStop => exact h
  | pppOpen => exact h
  | pppClose => exact h
  | credentialsClear => exact h.clear (Or.inl rfl) (hlowers rfl)
  | selfTest left => exact h.clear (Or.inr rfl) (hlowers rfl)
  | peerIdSet arguments b overrun =>
    rw [mailboxPoll_peerIdSet hcopies]
    cases haccepts : acceptsPeerId arguments s.credentials with
    | true =>
      obtain ⟨htransient, peerId, hset⟩ := setPeerId_accepted haccepts
      rw [hset, mailboxCustody, if_pos haccepts]
      exact h.upload htransient rfl rfl
    | false =>
      rw [setPeerId_refused haccepts, mailboxCustody, if_neg (by simp [haccepts])]
      have harrived : Hidden s.credentials s.transmit c.arrive r := ⟨h.sound, h.transient, h.flight, h.lastWireByte,
        h.lastTransmitByte⟩
      exact harrived.clear (Or.inl rfl) (hlowers (by simp [lowersFlag, haccepts]))
  | passwordSet arguments b overrun =>
    rw [mailboxPoll_passwordSet hcopies]
    cases haccepts : acceptsPassword arguments s.credentials with
    | true =>
      obtain ⟨htransient, password, hset⟩ := setPassword_accepted haccepts
      rw [hset, mailboxCustody, if_pos haccepts]
      exact h.upload htransient rfl rfl
    | false =>
      rw [setPassword_refused haccepts, mailboxCustody, if_neg (by simp [haccepts])]
      have harrived : Hidden s.credentials s.transmit c.arrive r := ⟨h.sound, h.transient, h.flight, h.lastWireByte,
        h.lastTransmitByte⟩
      exact harrived.clear (Or.inl rfl) (hlowers (by simp [lowersFlag, haccepts]))

end Mailbox

/-! ### PAP and CHAP -/

section Pap

variable {now : UInt32} {s : PapLayer} {c : Custody} {r : Traffic}

lemma Hidden.papBuild (h : Hidden s.credentials s.transmit c r) :
    Hidden s.credentials (s.build now).transmit (papBuild now s c) r := by
  have hgives := papBuild_gives now s
  refine h.give hgives.busy (fun hidle hactive => (hgives.fresh hidle hactive).1) fun k hcell => ?_
  simp only [requestCells, Bool.or_eq_true, Bool.and_eq_true] at hcell
  exact h.transient (hcell.imp And.left And.left)

/-- **The PAP poll.** -/
theorem Hidden.papPoll {connected : Bool} {l : Lcp} (h : Hidden s.credentials s.transmit c r)
    (hspares : PapClears (fun cleared credentials t c => Spares cleared credentials t c r) connected now l s c) :
    Hidden (pppPapPoll connected now l s).credentials (pppPapPoll connected now l s).transmit
      (papCustody connected now l s c) r :=
  papPoll_rule (fun credentials t c => Hidden credentials t c r) (fun _ _ => Hidden.papBuild)
    (fun _ _ _ _ hspares h => h.clearsIf hspares) hspares h

end Pap

section Chap

variable {s : ChapLayer} {c : Custody} {r : Traffic}

lemma Hidden.chapBuild (h : Hidden s.credentials s.transmit c r) :
    Hidden s.credentials s.build.transmit (chapBuild s c) r := by
  have hgives := chapBuild_gives s
  have hgiven : Hidden s.credentials s.build.transmit
      (c.give s.transmit s.build.transmit (responseCells s.credentials c) s.credentials.transient) r := by
    refine h.give hgives.busy (fun hidle hactive => (hgives.fresh hidle hactive).1) fun k hcell => ?_
    simp only [responseCells, Bool.or_eq_true, Bool.and_eq_true] at hcell
    exact h.transient ((hcell.imp And.left And.left).symm)
  exact ⟨hgiven.sound, hgiven.transient, hgiven.flight, hgiven.lastWireByte, hgiven.lastTransmitByte⟩

/-- **The CHAP poll.** -/
theorem Hidden.chapPoll {connected : Bool} {l : Lcp} (h : Hidden s.credentials s.transmit c r)
    (hspares : ChapClears (fun cleared credentials t c => Spares cleared credentials t c r) connected l s c) :
    Hidden (pppChapPoll connected l s).credentials (pppChapPoll connected l s).transmit
      (chapCustody connected l s c) r :=
  chapPoll_rule (fun credentials t c => Hidden credentials t c r) (fun _ _ => Hidden.chapBuild)
    (fun _ _ _ _ hspares h => h.clearsIf hspares)
    (fun _ _ _ h => ⟨h.sound, h.transient, h.flight, h.lastWireByte, h.lastTransmitByte⟩) hspares h

end Chap

/-! ### The encoder and the ring -/

section Ring

variable {credentials : Credentials} {t : Transmit} {c : Custody} {r : Traffic} {octet : UInt8}

lemma noted_hidden {exposed secret : Bool} (hsecret : secret = true → exposed = true) :
    (noted exposed octet secret).secret = false := by
  unfold noted
  cases hexposed : exposed with
  | true => rfl
  | false =>
    by_contra hshown
    rw [hsecret (by simpa using hshown)] at hexposed
    contradiction

/-- The octet at a marked cell is still in the encoder. -/
lemma inEncoder_of_secretNext (hsound : TransmitRefinement.Sound t) (hsecret : secretNext t c = true) :
    InEncoder t c := by
  rw [secretNext, Bool.and_eq_true, decide_eq_true_eq] at hsecret
  have hactive : ¬ t.active = false := by
    rw [hsound.active, hsecret.1]
    simp
  exact ⟨by simpa using hactive, _, hsound.position hsecret.1, Nat.le_refl _, hsecret.2⟩

lemma inEncoder_of_advance (hsound : TransmitRefinement.Sound t)
    (h : InEncoder (pppTransmitAdvance t) (c.advance t)) : InEncoder t c := by
  obtain ⟨hactive, k, hk, hposition, hmarked⟩ := h
  have hstage : t.stage ≠ .closingFlag := by
    intro hclosing
    rw [advance_closing hclosing] at hactive
    contradiction
  have hkept : c.advance t = c := if_neg hstage
  rw [(advance_active hstage).1] at hactive
  rw [(advance_active hstage).2] at hk
  rw [hkept] at hmarked
  exact ⟨hactive, k, hk, (advance_position hsound.position).trans hposition, hmarked⟩

lemma holds_of_push {secret : Bool} (h : (r.push octet secret).Holds) : secret = true ∨ r.Holds := by
  by_cases hfull : r.ring.writeIndex + 1 = r.ring.readIndex
  · rw [push_of_full octet secret hfull] at h
    exact Or.inr h
  · rw [push_of_room octet secret hfull] at h
    exact live_push hfull h

lemma Hidden.peek (h : Hidden credentials t c r) : Hidden credentials (pppTransmitPeek t).1 c r := by
  obtain ⟨-, hactive, hlength, hposition⟩ := peek_stage t
  refine ⟨fun hbusy => peek_sound (h.sound (hactive ▸ hbusy)), h.transient, ?_, h.lastWireByte, h.lastTransmitByte⟩
  unfold InFlight InEncoder
  rw [hactive, hlength, hposition]
  exact h.flight

/-- **An octet of the encoder** is hidden if it is marked. -/
lemma Hidden.accept (hsound : TransmitRefinement.Sound t) (h : Hidden credentials t c r) :
    Hidden credentials (pppTransmitAdvance t) (c.advance t) (r.accept t octet c) := by
  obtain ⟨hexposed, hpeerId, hpassword, -, -⟩ := advance_fields t c
  refine ⟨fun _ => (TransmitRefinement.advance_remaining hsound).1, ?_, ?_, ?_, ?_⟩
  · rw [hpeerId, hpassword]
    exact h.transient
  · rw [hexposed]
    rintro (hencoder | hring)
    · exact h.flight (Or.inl (inEncoder_of_advance hsound hencoder))
    · rcases holds_of_push hring with hsecret | hbefore
      · exact h.flight (Or.inl (inEncoder_of_secretNext hsound hsecret))
      · exact h.flight (Or.inr hbefore)
  · exact noted_hidden fun hsecret => h.flight (Or.inl (inEncoder_of_secretNext hsound hsecret))
  · change (r.push octet (secretNext t c)).lastTransmitByte.secret = false
    rw [push_lastTransmitByte]
    exact h.lastTransmitByte

/-- **The encoder's poll.** -/
theorem Hidden.transmitPoll {connected : Bool} {room : ℕ} (h : Hidden credentials t c r) :
    Hidden credentials (pppTransmitPoll connected room t).1 (transmitCustody connected room t c r).1
      (transmitCustody connected room t c r).2 := by
  unfold pppTransmitPoll transmitCustody
  split_ifs with hdown hidle
  · exact h.plain (.abort t)
  · exact h
  · rw [Bool.not_eq_true', Bool.not_eq_false] at hidle
    exact (fillSeen_rule (fun t c r => TransmitRefinement.Sound t ∧ Hidden credentials t c r)
      (fun t c r holds => ⟨peek_sound holds.1, holds.2.peek⟩)
      (fun t c r octet holds _ => ⟨(TransmitRefinement.advance_remaining holds.1).1, holds.2.accept holds.1⟩)
      ⟨h.sound hidle, h⟩).2

/-- **A transfer** takes an octet out of flight. -/
theorem Hidden.consume (h : Hidden credentials t c r) : Hidden credentials t c (r.consume c.exposed) := by
  unfold Traffic.consume
  split_ifs with hempty
  · exact h
  have hsome : r.ring.readIndex ≠ r.ring.writeIndex := by simpa [Ring.isEmpty] using hempty
  refine ⟨h.sound, h.transient, ?_, h.lastWireByte, noted_hidden fun hmarked => ?_⟩
  · rintro (hencoder | hring)
    · exact h.flight (Or.inl hencoder)
    · simp only [Traffic.Holds, Ring.consume, if_neg hempty] at hring
      exact h.flight (Or.inr (live_pop hsome hring))
  · exact h.flight (Or.inr (live_front hsome hmarked))

/-- An octet without a mark. -/
theorem Hidden.queue (h : Hidden credentials t c r) : Hidden credentials t c (r.push octet false) := by
  refine ⟨h.sound, h.transient, ?_, ?_, ?_⟩
  · rintro (hencoder | hring)
    · exact h.flight (Or.inl hencoder)
    · rcases holds_of_push hring with hmarked | hbefore
      · contradiction
      · exact h.flight (Or.inr hbefore)
  · rw [push_lastWireByte]
    exact h.lastWireByte
  · rw [push_lastTransmitByte]
    exact h.lastTransmitByte

/-- The rings are reset: no octet is left in the ring. -/
theorem Hidden.reset (h : Hidden credentials t c r) : Hidden credentials t c r.reset := by
  refine ⟨h.sound, h.transient, ?_, h.lastWireByte, h.lastTransmitByte⟩
  rintro (hencoder | ⟨k, hbetween, -⟩)
  · exact h.flight (Or.inl hencoder)
  · exact absurd hbetween not_between_self

end Ring

/-! ### Runs -/

/-- What a poll must meet. -/
def ExposurePollGuard (w : Watch) (i : Input) : Prop :=
  let s := w.loop.stack.found i
  let spares := fun cleared credentials t c => Spares cleared credentials t c w.traffic
  (w.loop.phase = .mailbox → MailboxGuard s w.custody w.traffic i.command) ∧
    (w.loop.phase = .pap → PapClears spares i.connected i.now s.lcp s.papLayer w.custody) ∧
    (w.loop.phase = .chap → ChapClears spares i.connected s.lcp s.chapLayer w.custody)

/-- What a step of a run must meet: **no routine lowers the flag over an octet in flight**. -/
def ExposureGuard (w : Watch) : Move → Prop
  | .poll i => ExposurePollGuard w i
  | _ => True

instance (w : Watch) (i : Input) : Decidable (ExposurePollGuard w i) := by unfold ExposurePollGuard; infer_instance

instance (w : Watch) : ∀ move, Decidable (ExposureGuard w move)
  | .poll i => inferInstanceAs (Decidable (ExposurePollGuard w i))
  | .consume => inferInstanceAs (Decidable True)
  | .queue _ => inferInstanceAs (Decidable True)
  | .reset => inferInstanceAs (Decidable True)

/-- The invariant, of the watch. -/
def Watch.Hides (w : Watch) : Prop := Hidden w.loop.stack.credentials w.loop.stack.transmit w.custody w.traffic

/-- A diagnostic octet is one of a credential or of a digest. -/
def Watch.Shows (w : Watch) : Prop := w.traffic.lastWireByte.secret = true ∨ w.traffic.lastTransmitByte.secret = true

instance (w : Watch) : Decidable w.Shows := by unfold Watch.Shows; infer_instance

lemma hides_boot : Watch.boot.Hides where
  sound := fun hactive => by contradiction
  transient := by simp [Watch.boot, Custody.initial]
  flight := by
    rintro (hencoder | ⟨k, -, hmarked⟩)
    · exact absurd hencoder (not_inEncoder rfl)
    · contradiction
  lastWireByte := rfl
  lastTransmitByte := rfl

section Step

variable {w : Watch} {i : Input}

/-- **Every poll** that meets the guard. -/
theorem hides_poll (h : w.Hides) (hguard : ExposurePollGuard w i) : (step w (.poll i)).Hides := by
  have hfound : Hidden (w.loop.stack.found i).credentials (w.loop.stack.found i).transmit w.custody w.traffic := h
  obtain ⟨hmailbox, hpap, hchap⟩ := hguard
  unfold Watch.Hides
  by_cases htransmit : w.loop.phase = .transmit
  · rw [step_transmit htransmit]
    simp only [step, polled, htransmit]
    exact hfound.transmitPoll
  rw [step_stack htransmit]
  simp only [step, polled]
  cases hphase : w.loop.phase with
  | mailbox =>
    have hpolled := Hidden.mailbox i.now hfound (hmailbox hphase)
    dsimp only
    split
    · exact ⟨hpolled.sound, hpolled.transient, hpolled.flight, rfl, hpolled.lastTransmitByte⟩
    · exact hpolled
  | receive => exact h
  | lcp => exact hfound.plain (pollLayer_plain (w.loop.stack.found i) i rfl)
  | pap => exact Hidden.papPoll hfound (hpap hphase)
  | chap => exact Hidden.chapPoll hfound (hchap hphase)
  | ipcp => exact hfound.plain (pollLayer_plain (w.loop.stack.found i) i rfl)
  | ipv4 => exact hfound.plain (pollLayer_plain (w.loop.stack.found i) i rfl)
  | request => exact hfound.plain (pollLayer_plain (w.loop.stack.found i) i rfl)
  | transmit => exact absurd hphase htransmit

/-- **Every step** that meets the guard. -/
theorem hides_step {move : Move} (h : w.Hides) (hguard : ExposureGuard w move) : (step w move).Hides := by
  cases move with
  | poll i => exact hides_poll h hguard
  | consume => exact Hidden.consume h
  | queue octet => exact Hidden.queue h
  | reset => exact Hidden.reset h

end Step

section Scenario

/-- The polls of turns of the main loop. -/
def polls (inputs : List Input) : List Move := inputs.map .poll

/-- A peer id and a password have been uploaded, LCP has opened with PAP, the ring is empty, and one turn later the
encoder has put the Authenticate-Request into the ring, up to its password. -/
def requestSent : List Move :=
  polls (requestAcknowledged ++ credentialsUploaded ++
    turn { ring := [0x7e, 0xff, 0x7d, 0x23, 0xc0, 0x21, 0x7d, 0x21, 0x7d, 0x27, 0x7d, 0x20, 0x7d, 0x28, 0x7d, 0x23, 0x7d,
      0x24, 0xc0, 0x23, 0x80, 0x7d, 0x3b, 0x7e] }) ++
    List.replicate 60 .consume ++ polls (turn {})

/-- The ring is emptied, the rest of the request follows, and the host clears the credentials when it is gone, too. -/
def clearedBehind : List Move :=
  requestSent ++ List.replicate 40 .consume ++ polls (turn {}) ++ List.replicate 10 .consume ++
    polls (turn { command := .credentialsClear })

/-- The host clears the credentials at once, and the driver goes on with the ring, up to the peer id. -/
def clearedOver : List Move := requestSent ++ polls [{ command := .credentialsClear }] ++ List.replicate 17 .consume

end Scenario

end SnesModem.Asm.SecretFlow
