import SnesModem.Lib.Marks
import SnesModem.Asm.FrameDelivery
import SnesModem.Asm.Modem

/-!
# Where the octets of uploaded credentials go

The main loop with the TX ring, the flag that hides a transmission and the two diagnostic octets, and with marks for
the octets of an uploaded credential and of a digest of one.

* `Custody`: the buffers of the PPP stack, and what its routines do with them;
* `Traffic`: the TX ring, and what was seen last on its way in and on its way out;
* `Watch` and `step`: the polls of the loop, with the transfers of the modem driver at any time between them;
* `fillSeen_ring`, `modemPoll_transmit` and their like: the ring is that of the encoder and of the driver.
-/

namespace SnesModem.Asm.SecretFlow

open SnesModem.Lib SnesModem.Lib.Octets SnesModem.Lib.Marks SnesModem.Asm.TransmitRefinement

/-! ### The buffers of the stack -/

/-- The frame in the transmit buffer is one of PAP or of CHAP. -/
def authentication (buffer : Buffer) : Bool := (buffer 2 = 0xc0 ∨ buffer 2 = 0xc2) ∧ buffer 3 = 0x23

/-- A frame was given to the encoder. -/
def begun (t t' : Transmit) : Bool := !t.active && t'.active

/-- `PPP_PAP_CREDENTIAL_FLAG_EXPOSURE_ACTIVE`, and the marks of the buffers.  The buffers that are only ever cleared as a
whole have one mark. -/
structure Custody where
  exposed : Bool
  /-- `pppPapPeerId`. -/
  peerId : Bool
  /-- `pppPapPassword`. -/
  password : Bool
  /-- `modemMailboxArguments`. -/
  arguments : ℕ → Bool
  /-- The input and the state of MD5, and the digest. -/
  work : Bool
  /-- `pppTransmitBuffer`. -/
  buffer : ℕ → Bool

namespace Custody

abbrev mailboxArgumentSize : ℕ := 32

/-- No credential has been uploaded. -/
def initial : Custody := ⟨false, false, false, clean, false, clean⟩

/-- The arguments of an upload, behind the length. -/
def arrive (c : Custody) : Custody := { c with arguments := store mailboxArgumentSize (fun k => 0 < k) c.arguments }

/-- `@wipeMailbox`. -/
def wipeMailbox (c : Custody) : Custody := { c with arguments := wipe 0 mailboxArgumentSize c.arguments }

/-- The two fields are wiped, and the flags are set to `PPP_PAP_CREDENTIAL_FLAG_TRANSIENT`. -/
def wipeFields (c : Custody) : Custody := { c with exposed := false, peerId := false, password := false }

/-- `pppPapCredentialsClear`. -/
def clear (c : Custody) : Custody := c.wipeFields.wipeMailbox

/-- `pppPapCredentialsClearSensitive`. -/
def clearSensitive (credentials : Credentials) (c : Custody) : Custody := if credentials.transient then c.wipeFields else c

/-- `pppPapScrubTransmitBuffer`. -/
def scrub (buffer : Buffer) (c : Custody) : Custody :=
  if authentication buffer then { c with buffer := wipe scrubOffset scrubEnd c.buffer } else c

/-- A frame with marks at some cells is given to the encoder, if it takes one; transient credentials raise the flag. -/
def give (t t' : Transmit) (cells : ℕ → Bool) (transient : Bool) (c : Custody) : Custody :=
  if begun t t' then { c with buffer := store t'.length.toNat cells c.buffer, exposed := c.exposed || transient } else c

/-- What a poll that knows no credential does: an abort wipes the buffer, and a frame has no marks. -/
def plain (t t' : Transmit) (c : Custody) : Custody :=
  if t.active && !t'.active then c.scrub t.buffer else c.give t t' clean false

end Custody

/-! ### The mailbox -/

/-- `modemMailboxPoll`.  The self-test begins with `pppPapCredentialsClear`, and an upload copies what it has
validated. -/
def mailboxCustody (credentials : Credentials) (c : Custody) : Command → Custody
  | .credentialsClear | .selfTest _ => c.clear
  | .peerIdSet arguments _ _ =>
    if acceptsPeerId arguments credentials then { c.arrive with peerId := true }.wipeMailbox else c.arrive.clear
  | .passwordSet arguments _ _ =>
    if acceptsPassword arguments credentials then { c.arrive with password := true }.wipeMailbox else c.arrive.clear
  | .other | .receiveStart | .receiveStop | .pppOpen | .pppClose => c

/-! ### PAP -/

/-- `pppPapPeerIdLength`. -/
def idLength (credentials : Credentials) : ℕ := credentials.peerId.elim 0 fun peerId => peerId.octets.length

/-- `pppPapPasswordLength`. -/
def passwordLength (credentials : Credentials) : ℕ := credentials.password.elim 0 fun password => password.octets.length

/-- The cells of an Authenticate-Request that a peer id and a password are copied to. -/
def requestCells (credentials : Credentials) (c : Custody) : ℕ → Bool := fun k =>
  c.peerId && decide (9 ≤ k ∧ k < 9 + idLength credentials) ||
    c.password &&
      decide (10 + idLength credentials ≤ k ∧ k < 10 + idLength credentials + passwordLength credentials)

/-- `pppPapBuildPending`. -/
def papBuild (now : UInt32) (s : PapLayer) (c : Custody) : Custody :=
  c.give s.transmit (s.build now).transmit (requestCells s.credentials c) s.credentials.transient

/-- The dispatched frame is a reply that is accepted. -/
def replied (s : PapLayer) : Bool := s.pap.state = .waitingForReply ∧ s.dispatchFrame.pap.state ≠ .waitingForReply

/-- `pppPapPollTimeout` finds the retries used up. -/
def gaveUp (now : UInt32) (s : PapLayer) : Bool :=
  s.pap.state = .waitingForReply ∧ (pppPapPollTimeout now s.credentials s.pap).1.state = .failed

/-- The variables after `pppPapLowerUp`. -/
def papUp (flags : PeerFlags) (s : PapLayer) : PapLayer := { s with pap := pppPapLowerUp flags s.credentials s.pap }

/-- The variables after `pppPapPollTimeout`. -/
def timedOut (now : UInt32) (s : PapLayer) : PapLayer :=
  { s with
    pap := (pppPapPollTimeout now s.credentials s.pap).1
    credentials := (pppPapPollTimeout now s.credentials s.pap).2 }

/-- A routine that clears transient credentials if it gets there. -/
def clearsIf (cleared : Bool) (credentials : Credentials) (c : Custody) : Custody :=
  if cleared then c.clearSensitive credentials else c

/-- `pppPapPoll`. -/
def papCustody (connected : Bool) (now : UInt32) (l : Lcp) (s : PapLayer) (c : Custody) : Custody :=
  if linkUp connected s.receive l.state then
    let serviced := s.serviced now l.peerFlags
    let dispatched := serviced.dispatchFrame
    let c := papBuild now (papUp l.peerFlags s) c
    let c := clearsIf (replied serviced) serviced.credentials c
    let c := clearsIf (gaveUp now dispatched) dispatched.credentials c
    papBuild now (timedOut now dispatched) c
  else clearsIf (s.pap.state ≠ .inactive) s.credentials c

/-! ### CHAP -/

/-- The cells of a Response that the digest and the peer id are copied to. -/
def responseCells (credentials : Credentials) (c : Custody) : ℕ → Bool := fun k =>
  c.password && decide (9 ≤ k ∧ k < 25) || c.peerId && decide (25 ≤ k ∧ k < 25 + idLength credentials)

/-- `@message` of `pppChapBuildPending`: the password is copied and the digest computed. -/
def digests (s : ChapLayer) : Bool :=
  s.chap.state = .responsePending && !s.transmit.active && pppPapCredentialsReady s.credentials

/-- `pppChapBuildPending`: the buffers of MD5 are wiped once the encoder has taken the frame. -/
def chapBuild (s : ChapLayer) (c : Custody) : Custody :=
  { c.give s.transmit s.build.transmit (responseCells s.credentials c) s.credentials.transient with
    work := !begun s.transmit s.build.transmit && (c.work || digests s && c.password) }

/-- The dispatched frame is a result that is accepted. -/
def resulted (s : ChapLayer) : Bool :=
  s.chap.state = .waitingResult ∧ (s.received.chap.state = .opened ∨ s.received.chap.state = .failed)

/-- The variables after `pppChapLowerUp`. -/
def chapUp (flags : PeerFlags) (s : ChapLayer) : ChapLayer :=
  { s with chap := pppChapLowerUp flags s.credentials s.chap }

/-- The variables after `pppChapReceiveFrame` and `pppReleaseFrame`. -/
def chapReceived (s : ChapLayer) : ChapLayer := { s.received with receive := pppReleaseFrame s.receive }

/-- `pppChapPoll`. -/
def chapCustody (connected : Bool) (l : Lcp) (s : ChapLayer) (c : Custody) : Custody :=
  if linkUp connected s.receive l.state then
    let serviced := s.serviced l.peerFlags
    let c := chapBuild (chapUp l.peerFlags s) c
    if serviced.dispatches then
      chapBuild (chapReceived serviced) (clearsIf (resulted serviced) serviced.credentials c)
    else c
  else if s.chap.state = .inactive then c
  else { clearsIf true s.credentials c with work := false }

/-! ### The TX ring -/

/-- A diagnostic variable, and whether the octet in it is marked. -/
structure Seen where
  octet : UInt8
  secret : Bool
  deriving DecidableEq

/-- What is noted of an octet; the flag hides it. -/
def noted (exposed : Bool) (octet : UInt8) (secret : Bool) : Seen := if exposed then ⟨0, false⟩ else ⟨octet, secret⟩

/-- The TX ring, and what was seen last at its two ends. -/
structure Traffic where
  ring : Ring
  marks : UInt8 → Bool
  /-- `pppTransmitLastWireByte`. -/
  lastWireByte : Seen
  /-- `modemLastTransmitByte`. -/
  lastTransmitByte : Seen

namespace Traffic

def initial : Traffic := ⟨default, fun _ => false, ⟨0, false⟩, ⟨0, false⟩⟩

/-- `modemQueueByte`. -/
def push (octet : UInt8) (secret : Bool) (r : Traffic) : Traffic :=
  if (r.ring.push octet).2 then r
  else { r with ring := (r.ring.push octet).1, marks := Function.update r.marks r.ring.writeIndex secret }

/-- `modemConsumeTransmitByte`. -/
def consume (exposed : Bool) (r : Traffic) : Traffic :=
  if r.ring.isEmpty then r
  else { r with
    ring := r.ring.consume
    marks := Function.update r.marks r.ring.readIndex false
    lastTransmitByte := noted exposed (r.ring.storage r.ring.readIndex.toNat) (r.marks r.ring.readIndex) }

/-- `modemResetQueues`. -/
def reset (r : Traffic) : Traffic := { r with ring := r.ring.reset }

/-- The octets that the ring has room for. -/
def room (r : Traffic) : ℕ := 255 - (r.ring.writeIndex - r.ring.readIndex).toNat

/-- Some octet in the ring is marked. -/
def Holds (r : Traffic) : Prop := Live r.ring.readIndex r.ring.writeIndex r.marks

instance (r : Traffic) : Decidable r.Holds := inferInstanceAs (Decidable (Live _ _ _))

end Traffic

/-! ### The encoder -/

/-- The next octet is one of a marked cell, or its escape. -/
def secretNext (t : Transmit) (c : Custody) : Bool := t.stage = .frame && c.buffer t.position.toNat

/-- `pppTransmitAdvance` wipes the buffer with the closing flag. -/
def Custody.advance (t : Transmit) (c : Custody) : Custody := if t.stage = .closingFlag then c.scrub t.buffer else c

/-- `modemQueueByte` and `pppTransmitAdvance`, for an octet of the encoder. -/
def Traffic.accept (t : Transmit) (octet : UInt8) (c : Custody) (r : Traffic) : Traffic :=
  { r.push octet (secretNext t c) with lastWireByte := noted c.exposed octet (secretNext t c) }

/-- `fill`. -/
def fillSeen : ℕ → ℕ → Transmit → Custody → Traffic → Custody × Traffic
  | 0, _, _, c, r => (c, r)
  | budget + 1, room, t, c, r =>
    match (pppTransmitPeek t).2, room with
    | none, _ => (c, r)
    | some _, 0 => (c, r)
    | some octet, room + 1 =>
      if !(pppTransmitAdvance t).active then (c.advance t, r.accept t octet c)
      else fillSeen budget room (pppTransmitAdvance t) (c.advance t) (r.accept t octet c)

/-- `pppTransmitPoll`. -/
def transmitCustody (connected : Bool) (room : ℕ) (t : Transmit) (c : Custody) (r : Traffic) : Custody × Traffic :=
  if !connected then (c.plain t (pppTransmitAbort t), r)
  else if !t.active then (c, r)
  else fillSeen transmitFillBudget room t c r

/-! ### The system -/

/-- The main loop, and what is watched of it. -/
structure Watch where
  loop : Loop
  custody : Custody
  traffic : Traffic

/-- A poll of the loop; a transfer of the modem driver, which takes an octet from the ring; an octet of the AT
session, of a speed test or of the host; and the reset of the rings by `modemInitialize`. -/
inductive Move where
  | poll (i : Input)
  | consume
  | queue (octet : UInt8)
  | reset

/-- What a poll finds when the ring is that of the watch. -/
def Watch.found (w : Watch) (i : Input) : Input := { i with room := w.traffic.room }

/-- The marks after a poll. -/
def polled (w : Watch) (i : Input) : Custody × Traffic :=
  let s := w.loop.stack.found i
  match w.loop.phase with
  | .mailbox =>
    (mailboxCustody s.credentials w.custody i.command,
      -- `pppTransmitInitialize` at the end of the self-test.
      match i.command with
      | .selfTest _ => { w.traffic with lastWireByte := ⟨0, false⟩ }
      | _ => w.traffic)
  | .receive => (w.custody, w.traffic)
  | .pap => (papCustody i.connected i.now s.lcp s.papLayer w.custody, w.traffic)
  | .chap => (chapCustody i.connected s.lcp s.chapLayer w.custody, w.traffic)
  | .transmit => transmitCustody i.connected w.traffic.room s.transmit w.custody w.traffic
  | phase => (w.custody.plain s.transmit (pollLayer phase s i).transmit, w.traffic)

def step (w : Watch) : Move → Watch
  | .poll i => ⟨Asm.step w.loop (w.found i), (polled w i).1, (polled w i).2⟩
  | .consume => { w with traffic := w.traffic.consume w.custody.exposed }
  | .queue octet => { w with traffic := w.traffic.push octet false }
  | .reset => { w with traffic := w.traffic.reset }

def Watch.boot : Watch := ⟨.boot, .initial, .initial⟩

def Watch.after (moves : List Move) : Watch := Run.run step Watch.boot moves

/-- The loop of the watch is the main loop. -/
theorem after_loop (moves : List Move) : ∃ inputs, (Watch.after moves).loop = Loop.after inputs := by
  suffices hrun : ∀ w inputs, w.loop = Loop.after inputs → ∃ inputs', (Run.run step w moves).loop = Loop.after inputs' from
    hrun .boot [] rfl
  induction moves with
  | nil => exact fun w inputs h => ⟨inputs, h⟩
  | cons move moves ih =>
    intro w inputs h
    cases move with
    | poll i =>
      refine ih _ (inputs ++ [w.found i]) ?_
      unfold Loop.after
      rw [Run.run_append]
      exact congrArg (Asm.step · (w.found i)) h
    | consume => exact ih _ inputs h
    | queue octet => exact ih _ inputs h
    | reset => exact ih _ inputs h

/-! ### The ring of the encoder -/

section Ring

variable {t : Transmit} {c : Custody} {r : Traffic} (octet : UInt8) (secret : Bool)

/-- The octets, one after the other. -/
def pushAll (ring : Ring) (octets : List UInt8) : Ring := octets.foldl (fun ring octet => (ring.push octet).1) ring

/-- A full ring stays as it is. -/
lemma push_of_full (hfull : r.ring.writeIndex + 1 = r.ring.readIndex) : r.push octet secret = r := by
  unfold Traffic.push Ring.push
  rw [if_pos hfull, if_pos rfl]

lemma push_of_room (hroom : r.ring.writeIndex + 1 ≠ r.ring.readIndex) : r.push octet secret = { r with
    ring := { r.ring with
      storage := Function.update r.ring.storage r.ring.writeIndex.toNat octet
      writeIndex := r.ring.writeIndex + 1 }
    marks := Function.update r.marks r.ring.writeIndex secret } := by
  unfold Traffic.push Ring.push
  rw [if_neg hroom, if_neg Bool.false_ne_true]

lemma push_ring : (r.push octet secret).ring = (r.ring.push octet).1 := by
  by_cases hfull : r.ring.writeIndex + 1 = r.ring.readIndex
  · rw [push_of_full octet secret hfull, Ring.push, if_pos hfull]
  · rw [push_of_room octet secret hfull, Ring.push, if_neg hfull]

lemma room_eq_zero : r.room = 0 ↔ r.ring.writeIndex + 1 = r.ring.readIndex := by
  have hread := r.ring.readIndex.toNat_lt
  have hwrite := r.ring.writeIndex.toNat_lt
  have hone : (1 : UInt8).toNat = 1 := rfl
  unfold Traffic.room
  rw [← UInt8.toNat_inj, UInt8.toNat_add, UInt8.toNat_sub, hone]
  omega

/-- An octet that fits takes one place. -/
lemma room_push (hroom : r.room ≠ 0) : (r.push octet secret).room + 1 = r.room := by
  rw [push_of_room octet secret fun hfull => hroom (room_eq_zero.mpr hfull)]
  have hread := r.ring.readIndex.toNat_lt
  have hwrite := r.ring.writeIndex.toNat_lt
  have hone : (1 : UInt8).toNat = 1 := rfl
  unfold Traffic.room at hroom ⊢
  simp only [UInt8.toNat_sub, UInt8.toNat_add, hone] at hroom ⊢
  omega

/-- **A rule for `fill`**: what a peek and an accepted octet preserve, it preserves. -/
theorem fillSeen_rule (holds : Transmit → Custody → Traffic → Prop)
    (hpeek : ∀ t c r, holds t c r → holds (pppTransmitPeek t).1 c r)
    (haccept : ∀ t c r octet, holds t c r → (pppTransmitPeek t).2 = some octet →
      holds (pppTransmitAdvance t) (c.advance t) (r.accept t octet c))
    {budget room : ℕ} (h : holds t c r) :
    holds (fill budget room t).1 (fillSeen budget room t c r).1 (fillSeen budget room t c r).2 := by
  induction budget generalizing room t c r with
  | zero => exact h
  | succ budget ih =>
    have hpeeked := hpeek t c r h
    have hnext := haccept t c r
    have hadvance := advance_peek t
    unfold fill fillSeen
    generalize pppTransmitPeek t = peeked at hpeeked hnext hadvance ⊢
    obtain ⟨t', next⟩ := peeked
    cases next with
    | none => exact hpeeked
    | some octet =>
      cases room with
      | zero => exact hpeeked
      | succ room =>
        dsimp only at hnext hadvance ⊢
        rw [hadvance]
        split_ifs
        · exact hnext octet h rfl
        · exact ih (hnext octet h rfl)

/-- **The ring gets the octets of `fill`**, and has room for all of them. -/
theorem fillSeen_ring (budget : ℕ) :
    (fillSeen budget r.room t c r).2.ring = pushAll r.ring (fill budget r.room t).2 ∧
      (fillSeen budget r.room t c r).2.room + (fill budget r.room t).2.length = r.room := by
  induction budget generalizing t c r with
  | zero => exact ⟨rfl, rfl⟩
  | succ budget ih =>
    have hadvance := advance_peek t
    unfold fill fillSeen
    generalize pppTransmitPeek t = peeked at hadvance ⊢
    obtain ⟨t', next⟩ := peeked
    cases next with
    | none => exact ⟨rfl, rfl⟩
    | some octet =>
      rcases hroom : r.room with _ | room
      · exact ⟨rfl, hroom⟩
      · have hpush : (r.accept t octet c).ring = (r.ring.push octet).1 := push_ring octet _
        have hleft : (r.accept t octet c).room = room := by
          have hone : (r.accept t octet c).room + 1 = r.room := room_push octet _ (by omega)
          omega
        dsimp only at hadvance ⊢
        rw [hadvance]
        split_ifs
        · exact ⟨hpush, by rw [hleft]; rfl⟩
        · obtain ⟨hring, hrest⟩ := ih (t := pppTransmitAdvance t) (c := c.advance t) (r := r.accept t octet c)
          rw [hleft, hpush] at hring
          rw [hleft] at hrest
          exact ⟨hring, by rw [List.length_cons]; omega⟩

end Ring

/-! ### The ring of the driver -/

section Driver

variable (now : UInt32) (m : Modem)

lemma storeReceived_transmit (received : Option UInt8) : (m.storeReceived received).1.transmit = m.transmit := by
  unfold Modem.storeReceived
  split
  · rfl
  · rfl

/-- A transfer takes an octet from the ring. -/
lemma transfers_transmit (budget : ℕ) (accepted hint : Bool) (reports : List Modem.Report) :
    ∃ count, (Modem.transfers budget accepted hint reports m).transmit = Ring.consume^[count] m.transmit := by
  induction budget generalizing accepted hint reports m with
  | zero =>
    refine ⟨0, ?_⟩
    unfold Modem.transfers
    split_ifs
    · rfl
    · rfl
  | succ budget ih =>
    unfold Modem.transfers
    split_ifs
    · obtain ⟨count, hcount⟩ := ih (Modem.storeReceived { m with transmit := m.transmit.consume }
        (reports.headD {}).received).1 _ _ _
      rw [storeReceived_transmit] at hcount
      exact ⟨count + 1, hcount⟩
    · exact ⟨0, rfl⟩

/-- **The poll of the driver consumes**, and does nothing else to the ring. -/
theorem modemPoll_transmit (reports : List Modem.Report) :
    ∃ count, (modemPoll now reports m).transmit = Ring.consume^[count] m.transmit := by
  unfold modemPoll
  split
  · exact ⟨0, rfl⟩
  split
  · exact ⟨0, rfl⟩
  extract_lets m' guarded m'' report
  have hsame : m''.transmit = m.transmit := apply_ite Modem.transmit _ _ _ |>.trans (ite_self _)
  have hstored := storeReceived_transmit m'' report.received
  generalize m''.storeReceived report.received = stored at hstored
  obtain ⟨stored, accepted⟩ := stored
  dsimp only at hstored ⊢
  split_ifs
  · exact ⟨0, hstored.trans hsame⟩
  · obtain ⟨count, hcount⟩ := transfers_transmit stored Modem.pollBudget accepted report.hint reports.tail
    rw [hstored, hsame] at hcount
    exact ⟨count, hcount⟩

/-- The octets of the driver, up to the one that does not fit. -/
theorem queueBytes_transmit (octets : List UInt8) :
    ∃ queued, queued <+: octets ∧ (Modem.queueBytes octets m).1.transmit = pushAll m.transmit queued := by
  induction octets generalizing m with
  | nil => exact ⟨[], List.prefix_refl _, rfl⟩
  | cons octet octets ih =>
    unfold Modem.queueBytes
    split
    · rename_i ring heq
      have hfull : (m.transmit.push octet).1 = m.transmit := by
        unfold Ring.push at heq ⊢
        split_ifs at heq ⊢
        · rfl
        · cases heq
      rw [heq] at hfull
      exact ⟨[], List.nil_prefix, hfull⟩
    · rename_i ring heq
      obtain ⟨queued, hprefix, hqueued⟩ := ih { m with transmit := ring }
      refine ⟨octet :: queued, (List.prefix_cons_inj octet).mpr hprefix, ?_⟩
      rw [hqueued]
      unfold pushAll
      rw [List.foldl_cons, heq]

end Driver

/-! ### The marked cells of a frame -/

section Frame

variable {identifier : UInt8} {peerId peerId' : PeerId} {password password' : Password} {transient : Bool} {c : Custody}
  {k : ℕ}

lemma getElem?_append_congr {a a' b b' : List UInt8} (hlength : a.length = a'.length)
    (hfirst : k < a.length → a[k]? = a'[k]?)
    (hsecond : a.length ≤ k → b[k - a.length]? = b'[k - a.length]?) : (a ++ b)[k]? = (a' ++ b')[k]? := by
  rcases Nat.lt_or_ge k a.length with h | h
  · rw [List.getElem?_append_left h, List.getElem?_append_left (hlength ▸ h), hfirst h]
  · rw [List.getElem?_append_right h, List.getElem?_append_right (hlength ▸ h), ← hlength, hsecond h]

/-- **A cell of a request without a mark** holds the same for all credentials of these lengths. -/
theorem request_unmarked (hid : peerId.octets.length = peerId'.octets.length)
    (hpassword : password.octets.length = password'.octets.length)
    (hunmarked : requestCells ⟨transient, some peerId, some password⟩ { c with peerId := true, password := true } k =
      false) :
    (authenticateRequest identifier peerId password)[k]? = (authenticateRequest identifier peerId' password')[k]? := by
  simp only [requestCells, idLength, passwordLength, Option.elim_some, Bool.true_and, Bool.or_eq_false_iff] at hunmarked
  have hoff := of_decide_eq_false hunmarked.1
  have hoff' := of_decide_eq_false hunmarked.2
  unfold authenticateRequest
  rw [← hid, ← hpassword, List.append_assoc, List.append_assoc]
  refine getElem?_append_congr rfl (fun _ => rfl) fun (hpayload : 9 ≤ k) => ?_
  refine getElem?_append_congr hid (fun hinside => ?_) fun hbehind => ?_
  · exact absurd ⟨hpayload, by change k - 9 < _ at hinside; omega⟩ hoff
  · change peerId.octets.length ≤ k - 9 at hbehind
    change (_ :: _)[k - 9 - _]? = (_ :: _)[k - 9 - _]?
    rcases hplace : k - 9 - peerId.octets.length with _ | place
    · rfl
    · have hend : password.octets.length ≤ place := by omega
      rw [List.getElem?_cons_succ, List.getElem?_cons_succ, List.getElem?_eq_none hend,
        List.getElem?_eq_none (hpassword ▸ hend)]

/-- A cell of a Response without a mark holds the same for all digests and peer ids of these lengths. -/
theorem response_unmarked {digest digest' : List UInt8} {staged : Option Password}
    (hid : peerId.octets.length = peerId'.octets.length)
    (hdigest : digest.length = 16) (hdigest' : digest'.length = 16)
    (hunmarked : responseCells ⟨transient, some peerId, staged⟩ { c with peerId := true, password := true } k = false) :
    (responseFrame identifier digest peerId)[k]? = (responseFrame identifier digest' peerId')[k]? := by
  simp only [responseCells, idLength, Option.elim_some, Bool.true_and, Bool.or_eq_false_iff] at hunmarked
  have hoff := of_decide_eq_false hunmarked.1
  have hoff' := of_decide_eq_false hunmarked.2
  unfold responseFrame
  rw [← hid, List.append_assoc, List.append_assoc]
  refine getElem?_append_congr rfl (fun _ => rfl) fun (hpayload : 9 ≤ k) => ?_
  refine getElem?_append_congr (hdigest.trans hdigest'.symm) (fun hinside => ?_) fun hbehind => ?_
  · exact absurd ⟨hpayload, by change k - 9 < _ at hinside; omega⟩ hoff
  · change digest.length ≤ k - 9 at hbehind
    change peerId.octets[k - 9 - _]? = peerId'.octets[k - 9 - _]?
    have hend : peerId.octets.length ≤ k - 9 - digest.length := by omega
    rw [List.getElem?_eq_none hend, List.getElem?_eq_none (hid ▸ hend)]

end Frame

end SnesModem.Asm.SecretFlow
