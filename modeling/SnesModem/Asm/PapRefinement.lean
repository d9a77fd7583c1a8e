import SnesModem.Asm.LcpPacketBounds
import SnesModem.Asm.Pap
import SnesModem.Asm.Transmit
import SnesModem.Lib.Lockstep
import SnesModem.Rust.Pap

/-!
# The PAP client of the console against the reference client

Both clients take the same inputs: the lower layer comes up or goes down, the encoder is offered the pending
request, the restart timer is polled, a frame has been received.

* `Session`, `Reference`: the two clients with what surrounds them, and what they show at each input;
* `Simulates`: the relation between the two;
* `sessions_agree`: they show the same in every run, if the reference is not told of a lower layer that is up already.
-/

namespace SnesModem.Asm.PapRefinement

open SnesModem.Lib SnesModem.Lib.Cpu65816 SnesModem.Lib.Octets SnesModem.Rust

inductive Input where
  | lowerUp (flags : PeerFlags)
  | lowerDown
  /-- The pending request is offered to the encoder, as it is then. -/
  | service (now : UInt32) (transmit : Transmit)
  | timer (now : UInt32)
  | frame (decoder : Decoder)

/-- What a client shows: its state, and the frame that the encoder has taken. -/
structure Shown where
  state : PapState
  identifier : UInt8
  attempts : UInt8
  failure : PapFailure
  sent : Option (List UInt8)
  deriving DecidableEq, Repr

/-! ### The client of the console -/

structure Session where
  pap : Pap
  credentials : Credentials

namespace Session

/-- After the reset, with the fixture in place. -/
def start : Session := ⟨pppPapInitialize, pppPapCredentialsInitialize⟩

def shown (s : Session) (sent : Option (List UInt8)) : Shown :=
  ⟨s.pap.state, s.pap.requestIdentifier, s.pap.restartRemaining, s.pap.failure, sent⟩

/-- The frame that an encoder has been given, if it has. -/
def taken (t t' : Transmit) : Option (List UInt8) := if !t.active && t'.active then some t'.frame else none

/-- `pppPapBuildPending`, with the frame that it gives to the encoder. -/
def service (s : Session) (now : UInt32) (transmit : Transmit) : Session × Shown :=
  let (pap, transmit') := pppPapBuildPending now s.credentials s.pap transmit
  let s := { s with pap := pap }
  (s, s.shown (taken transmit transmit'))

def step (s : Session) : Input → Session × Shown
  | .lowerUp flags =>
    let s := { s with pap := pppPapLowerUp flags s.credentials s.pap }
    (s, s.shown none)
  | .lowerDown =>
    let s : Session := ⟨pppPapLowerDown s.pap, pppPapCredentialsClearSensitive s.credentials⟩
    (s, s.shown none)
  | .service now transmit => s.service now transmit
  | .timer now =>
    let (pap, credentials) := pppPapPollTimeout now s.credentials s.pap
    let s : Session := ⟨pap, credentials⟩
    (s, s.shown none)
  | .frame decoder =>
    let (pap, credentials) := pppPapReceiveFrame decoder s.credentials s.pap
    let s : Session := ⟨pap, credentials⟩
    (s, s.shown none)

end Session

/-! ### The reference client -/

/-- The reference client with the restart timer of its host. -/
structure Reference where
  client : Pap.Client
  deadline : UInt16

namespace Reference

def state : Pap.State → PapState
  | .inactive => .inactive
  | .requestPending => .requestPending
  | .waitingForReply => .waitingForReply
  | .opened => .opened
  | .failed => .failed

def failure : Option Pap.Failure → PapFailure
  | none => .none
  | some .rejected => .rejected
  | some .retryLimitExceeded => .retryLimit

/-- `Client::default`. -/
def start : Option Reference := (Pap.Client.new Pap.defaultMaxAuthenticate).map fun client => ⟨client, 0⟩

def shown (r : Reference) (sent : Option (List UInt8)) : Shown :=
  ⟨state r.client.state, r.client.currentIdentifier, r.client.attemptsRemaining, failure r.client.failure, sent⟩

/-- The fixture, and the size of the output that the host encodes into. -/
abbrev peerId : List UInt8 := [0x6e, 0x64, 0x6d, 0x32, 0x34]
abbrev password : List UInt8 := [0x6e, 0x64, 0x6d, 0x32, 0x34, 0x2d, 0x74, 0x65, 0x73, 0x74]
abbrev outputSize : ℕ := 64

/-- The pending request is encoded, and committed if the encoder takes its frame; `none` is a panic. -/
def service (r : Reference) (now : UInt32) (transmit : Transmit) : Option (Reference × Shown) :=
  match r.client.buildPendingRequest peerId password outputSize with
  | .error _ | .ok none => some (r, r.shown none)
  | .ok (some packet) =>
    if transmit.active then some (r, r.shown none)
    else r.client.requestSent.map fun sent =>
      let r : Reference := ⟨sent.1, now.toUInt16 + papRestartIntervalFrames⟩
      (r, r.shown (some ([0xff, 0x03, 0xc0, 0x23] ++ packet)))

/-- One input; `none` is a panic.  `restarts` says whether the client is told of a lower layer that comes up while
the client is not `Inactive`. -/
def step (restarts : Bool) (r : Reference) : Input → Option (Reference × Shown)
  | .lowerUp flags =>
    let r := if restarts || r.client.state = .inactive then { r with client := r.client.lowerUp flags.pap } else r
    some (r, r.shown none)
  | .lowerDown =>
    let r := { r with client := r.client.lowerDown }
    some (r, r.shown none)
  | .service now transmit => r.service now transmit
  | .timer now =>
    let r := if expired now r.deadline then { r with client := r.client.timeout.1 } else r
    some (r, r.shown none)
  | .frame decoder =>
    let r := if decoder.lastProtocol = protocolPap then { r with client := (r.client.receive (information decoder)).1 }
      else r
    some (r, r.shown none)

end Reference

/-! ### The relation -/

/-- The variables of the console's client are those of the reference client. -/
structure Simulates (s : Session) (r : Reference) : Prop where
  state : s.pap.state = Reference.state r.client.state
  identifier : s.pap.requestIdentifier = r.client.currentIdentifier
  next : s.pap.nextIdentifier = r.client.nextIdentifier
  attempts : s.pap.restartRemaining = r.client.attemptsRemaining
  maximum : r.client.maxAuthenticate = defaultMaxAuthenticate
  failure : s.pap.failure = Reference.failure r.client.failure
  pending : s.pap.requestPending = true ↔ r.client.state = .requestPending
  /-- A pending request has an attempt left. -/
  positive : r.client.state = .requestPending → r.client.attemptsRemaining ≠ 0
  unfailed : r.client.state = .requestPending ∨ r.client.state = .waitingForReply → r.client.failure = none
  waiting : r.client.state = .waitingForReply → s.pap.timerActive = true ∧ s.pap.restartDeadline = r.deadline
  credentials : s.credentials = pppPapCredentialsInitialize

section Simulation

variable {s : Session} {r : Reference}

lemma Simulates.shown (h : Simulates s r) (sent : Option (List UInt8)) : r.shown sent = s.shown sent := by
  unfold Reference.shown Session.shown
  rw [h.state, h.identifier, h.attempts, h.failure]

lemma state_inj {a b : Pap.State} (h : Reference.state a = Reference.state b) : a = b := by
  cases a <;> cases b <;> first | rfl | cases h

lemma Simulates.state_iff (h : Simulates s r) (state : Pap.State) :
    s.pap.state = Reference.state state ↔ r.client.state = state := by
  rw [h.state]
  exact ⟨state_inj, fun hstate => by rw [hstate]⟩

/-- The fixture stays. -/
lemma Simulates.kept (h : Simulates s r) : pppPapCredentialsClearSensitive s.credentials = pppPapCredentialsInitialize := by
  rw [h.credentials]
  rfl

lemma simulates_start : ∃ r, Reference.start = some r ∧ Simulates .start r :=
  ⟨_, rfl, rfl, rfl, rfl, rfl, rfl, rfl, by decide, nofun, nofun, nofun, rfl⟩

/-! ### The inputs -/

lemma simulates_lowerUp (h : Simulates s r) (flags : PeerFlags) :
    Simulates { s with pap := pppPapLowerUp flags s.credentials s.pap }
      (if r.client.state = .inactive then { r with client := r.client.lowerUp flags.pap } else r) := by
  unfold pppPapLowerUp
  by_cases hinactive : r.client.state = .inactive
  · have hstate : s.pap.state = .inactive := (h.state_iff .inactive).mpr hinactive
    rw [if_pos hinactive, if_neg (not_not_intro hstate)]
    have hready : pppPapCredentialsReady s.credentials = true := by
      rw [h.credentials]
      rfl
    dsimp only
    rw [if_pos hready]
    unfold Pap.Client.lowerUp
    cases hpap : flags.pap with
    | false =>
      refine ⟨rfl, h.identifier, h.next, h.maximum.symm, h.maximum, rfl, ?_, nofun, ?_, nofun, h.credentials⟩
      · exact iff_of_false nofun nofun
      · exact fun _ => rfl
    | true =>
      refine ⟨rfl, h.identifier, h.next, h.maximum.symm, h.maximum, rfl, ?_, ?_, fun _ => rfl, nofun, h.credentials⟩
      · exact iff_of_true rfl rfl
      · intro _
        show r.client.maxAuthenticate ≠ 0
        rw [h.maximum]
        decide
  · have hstate : s.pap.state ≠ .inactive := mt (h.state_iff .inactive).mp hinactive
    rw [if_neg hinactive, if_pos hstate]
    exact h

lemma simulates_lowerDown (h : Simulates s r) :
    Simulates ⟨pppPapLowerDown s.pap, pppPapCredentialsClearSensitive s.credentials⟩
      { r with client := r.client.lowerDown } :=
  ⟨rfl, rfl, h.next, rfl, h.maximum, rfl, iff_of_false nofun nofun, nofun, fun _ => rfl, nofun, h.kept⟩

/-- A timer that runs in another state does nothing but stop. -/
lemma pollTimeout_of_ne {p : Asm.Pap} (hstate : p.state ≠ .waitingForReply) (now : UInt32) (c : Credentials) :
    pppPapPollTimeout now c p = (p, c) ∨ pppPapPollTimeout now c p = ({ p with timerActive := false }, c) := by
  unfold pppPapPollTimeout
  by_cases hidle : (!p.timerActive || !expired now p.restartDeadline) = true
  · exact Or.inl (if_pos hidle)
  · rw [if_neg hidle]
    exact Or.inr (if_pos hstate)

lemma simulates_timer (h : Simulates s r) (now : UInt32) :
    Simulates ⟨(pppPapPollTimeout now s.credentials s.pap).1, (pppPapPollTimeout now s.credentials s.pap).2⟩
      (if expired now r.deadline then { r with client := r.client.timeout.1 } else r) := by
  by_cases hwaiting : r.client.state = .waitingForReply
  · have hstate : s.pap.state = .waitingForReply := (h.state_iff .waitingForReply).mpr hwaiting
    obtain ⟨htimer, hdeadline⟩ := h.waiting hwaiting
    unfold pppPapPollTimeout Pap.Client.timeout
    rw [htimer, hdeadline]
    by_cases hexpired : expired now r.deadline = true
    · rw [if_pos hexpired, if_neg (by simp [hexpired]), if_neg (not_not_intro hwaiting)]
      dsimp only
      rw [if_neg (not_not_intro hstate), h.attempts]
      by_cases hattempts : r.client.attemptsRemaining = 0
      · rw [if_pos hattempts, if_pos hattempts]
        exact ⟨rfl, h.identifier, h.next, rfl, h.maximum, rfl,
          iff_of_false (by rw [h.pending, hwaiting]; nofun) nofun, nofun, nofun, nofun, h.kept⟩
      · rw [if_neg hattempts, if_neg hattempts]
        exact ⟨rfl, h.identifier, h.next, rfl, h.maximum, h.failure, iff_of_true rfl rfl, fun _ => hattempts,
          fun _ => h.unfailed (Or.inr hwaiting), nofun, h.credentials⟩
    · rw [if_neg hexpired, if_pos (by simp [hexpired])]
      exact h
  · have hstate : s.pap.state ≠ .waitingForReply := mt (h.state_iff .waitingForReply).mp hwaiting
    have htimeout : r.client.timeout = (r.client, false) := if_pos hwaiting
    rw [htimeout, ite_self]
    rcases pollTimeout_of_ne hstate now s.credentials with hpoll | hpoll
    · rw [hpoll]
      exact h
    · rw [hpoll]
      exact ⟨h.state, h.identifier, h.next, h.attempts, h.maximum, h.failure, h.pending, h.positive, h.unfailed,
        fun hwaiting' => absurd hwaiting' hwaiting, h.credentials⟩

/-! ### The request -/

lemma encode_fixture (identifier : UInt8) :
    Pap.encodeAuthenticateRequest identifier Reference.peerId Reference.password Reference.outputSize =
      .ok ([1, identifier, 0, 21, 5] ++ Reference.peerId ++ 10 :: Reference.password) := rfl

lemma sendFrame_idle {t : Transmit} (hidle : t.active = false) {frame : List UInt8}
    (hlength : frame.length ≤ maximumTransmitFrameLength.toNat) :
    (sendFrame t frame).2 = false ∧ Session.taken t (sendFrame t frame).1 = some frame := by
  have hmaximum := maximumTransmitFrameLength.toNat_lt
  have hword : (UInt16.ofNat frame.length).toNat = frame.length := UInt16.toNat_ofNat_of_lt' (by
    have hsize : UInt16.size = 2 ^ 16 := rfl
    omega)
  have hshort : ¬ maximumTransmitFrameLength < UInt16.ofNat frame.length := by
    rw [UInt16.lt_iff_toNat_lt, hword]
    omega
  unfold sendFrame pppTransmitBegin
  rw [if_neg hshort, if_neg (by rw [hidle]; nofun)]
  refine ⟨rfl, ?_⟩
  unfold Session.taken Transmit.frame
  rw [hidle]
  show some (read (write t.buffer 0 frame) 0 (UInt16.ofNat frame.length).toNat) = some frame
  rw [hword, read_write]

lemma taken_self (t : Transmit) : Session.taken t t = none := by
  unfold Session.taken
  cases t.active <;> rfl

/-- The frame of a request of the fixture. -/
def requestFrame (identifier : UInt8) : List UInt8 :=
  authenticateRequest identifier ⟨Reference.peerId, by decide, by decide⟩ ⟨Reference.password, by decide, by decide⟩

/-- A pending request that the encoder takes. -/
lemma buildPending_of_idle {p : Asm.Pap} (hrequest : p.requestPending = true) {t : Transmit} (hidle : t.active = false)
    (now : UInt32) :
    pppPapBuildPending now pppPapCredentialsInitialize p t =
      ({ p with
        requestIdentifier := p.nextIdentifier
        nextIdentifier := p.nextIdentifier + 1
        restartRemaining := p.restartRemaining - 1
        requestPending := false
        state := .waitingForReply
        restartDeadline := now.toUInt16 + papRestartIntervalFrames
        timerActive := true }, (sendFrame t (requestFrame p.nextIdentifier)).1) := by
  have hsent := (sendFrame_idle hidle (show (requestFrame p.nextIdentifier).length ≤ 1504 by simp [requestFrame,
    authenticateRequest])).1
  unfold pppPapBuildPending pppPapCredentialsInitialize
  rw [if_neg (by rw [hrequest]; nofun)]
  dsimp only
  rw [if_neg (by rw [hidle]; nofun)]
  split
  · rename_i hsend
    rw [show sendFrame t (requestFrame p.nextIdentifier) = _ from hsend] at hsent
    cases hsent
  · rename_i hsend
    rw [show sendFrame t (requestFrame p.nextIdentifier) = _ from hsend]

/-- **The pending request** is committed by both or by neither, and its octets are the same. -/
lemma service_agrees (h : Simulates s r) (now : UInt32) (t : Transmit) :
    ∃ r', r.service now t = some (r', (s.service now t).2) ∧ Simulates (s.service now t).1 r' := by
  unfold Reference.service Session.service Pap.Client.buildPendingRequest
  by_cases hpending : r.client.state = .requestPending
  · have hrequest : s.pap.requestPending = true := h.pending.mpr hpending
    rw [if_neg (not_not_intro hpending), encode_fixture, h.credentials]
    dsimp only [Except.map]
    cases hactive : t.active with
    | true =>
      have hbusy : pppPapBuildPending now pppPapCredentialsInitialize s.pap t = (s.pap, t) := by
        unfold pppPapBuildPending pppPapCredentialsInitialize
        rw [if_neg (by rw [hrequest]; nofun)]
        exact if_pos hactive
      have hsame : ({ pap := s.pap, credentials := pppPapCredentialsInitialize } : Session) = s := by rw [← h.credentials]
      rw [hbusy, hsame]
      refine ⟨r, ?_, h⟩
      rw [if_pos rfl, taken_self, h.shown]
    | false =>
      have hsent : r.client.requestSent = some ({ r.client with
          currentIdentifier := r.client.nextIdentifier
          nextIdentifier := r.client.nextIdentifier + 1
          attemptsRemaining := r.client.attemptsRemaining - 1
          state := .waitingForReply }, true) := by
        unfold Pap.Client.requestSent
        rw [if_neg (not_not_intro hpending), if_neg (h.positive hpending)]
      have hframe := (sendFrame_idle hactive (show (requestFrame s.pap.nextIdentifier).length ≤ 1504 by
        simp [requestFrame, authenticateRequest])).2
      rw [if_neg (by nofun), hsent, buildPending_of_idle hrequest hactive]
      dsimp only
      rw [hframe]
      have hsimulates : Simulates
          ⟨{ s.pap with
            requestIdentifier := s.pap.nextIdentifier
            nextIdentifier := s.pap.nextIdentifier + 1
            restartRemaining := s.pap.restartRemaining - 1
            requestPending := false
            state := .waitingForReply
            restartDeadline := now.toUInt16 + papRestartIntervalFrames
            timerActive := true }, pppPapCredentialsInitialize⟩
          ⟨{ r.client with
            currentIdentifier := r.client.nextIdentifier
            nextIdentifier := r.client.nextIdentifier + 1
            attemptsRemaining := r.client.attemptsRemaining - 1
            state := .waitingForReply }, now.toUInt16 + papRestartIntervalFrames⟩ :=
        ⟨rfl, h.next, congrArg (· + 1) h.next, congrArg (· - 1) h.attempts, h.maximum, h.failure,
          iff_of_false nofun nofun, nofun, fun _ => h.unfailed (Or.inl hpending), fun _ => ⟨rfl, rfl⟩, rfl⟩
      refine ⟨_, ?_, hsimulates⟩
      have hoctets : [0xff, 0x03, 0xc0, 0x23] ++ ([1, r.client.nextIdentifier, 0, 21, 5] ++ Reference.peerId ++
          10 :: Reference.password) = requestFrame s.pap.nextIdentifier := by
        rw [h.next]
        rfl
      rw [Option.map_some, hoctets, ← hsimulates.shown]
  · have hrequest : s.pap.requestPending = false := by
      rw [← Bool.not_eq_true, h.pending]
      exact hpending
    have hnothing : pppPapBuildPending now s.credentials s.pap t = (s.pap, t) := by
      unfold pppPapBuildPending
      rw [if_pos (by rw [hrequest]; rfl)]
    rw [if_pos hpending, hnothing]
    refine ⟨r, ?_, h⟩
    dsimp only
    rw [taken_self, h.shown]

/-! ### Received frames -/

/-- The variables that the relation is about stay. -/
structure Keeps (p p' : Asm.Pap) : Prop where
  state : p'.state = p.state
  identifier : p'.requestIdentifier = p.requestIdentifier
  next : p'.nextIdentifier = p.nextIdentifier
  attempts : p'.restartRemaining = p.restartRemaining
  failure : p'.failure = p.failure
  pending : p'.requestPending = p.requestPending
  timer : p'.timerActive = p.timerActive
  deadline : p'.restartDeadline = p.restartDeadline

/-- What is noted of a received packet. -/
lemma keeps_note (p : Asm.Pap) (count : UInt32) (code identifier : UInt8) (length : UInt16) (error : PapError) :
    Keeps p { p with
      receiveCount := count
      lastCode := code
      lastIdentifier := identifier
      packetLength := length
      lastError := error } := ⟨rfl, rfl, rfl, rfl, rfl, rfl, rfl, rfl⟩

lemma Simulates.keep (h : Simulates s r) {p' : Asm.Pap} (hkeeps : Keeps s.pap p') : Simulates ⟨p', s.credentials⟩ r where
  state := hkeeps.state.trans h.state
  identifier := hkeeps.identifier.trans h.identifier
  next := hkeeps.next.trans h.next
  attempts := hkeeps.attempts.trans h.attempts
  maximum := h.maximum
  failure := hkeeps.failure.trans h.failure
  pending := by rw [hkeeps.pending]; exact h.pending
  positive := h.positive
  unfailed := h.unfailed
  waiting hwaiting := ⟨hkeeps.timer.trans (h.waiting hwaiting).1, hkeeps.deadline.trans (h.waiting hwaiting).2⟩
  credentials := h.credentials

/-- A reply to the request with the identifier, whose message fills the packet. -/
structure Replies (d : Decoder) (identifier : UInt8) : Prop where
  bounded : Bounded d
  code : d.frameBuffer 4 = 2 ∨ d.frameBuffer 4 = 3
  identifier : d.frameBuffer 5 = identifier
  message : (declaredLength d).toNat = (d.frameBuffer 8).toNat + 5

/-- A frame is dropped, or it is a reply and accepted.  The sum of the declared Length and the offset wraps for packets
of more than 65531 octets, which no message fills. -/
lemma receiveFrame_cases (d : Decoder) (c : Credentials) (p : Asm.Pap) :
    (¬ (d.lastProtocol = protocolPap ∧ p.state = .waitingForReply ∧ Replies d p.requestIdentifier) ∧
      ∃ p', pppPapReceiveFrame d c p = (p', c) ∧ Keeps p p') ∨
    (d.lastProtocol = protocolPap ∧ p.state = .waitingForReply ∧ Replies d p.requestIdentifier ∧
      ∃ p', pppPapReceiveFrame d c p = acceptReply c p' ∧ p'.lastCode = d.frameBuffer 4 ∧ Keeps p p') := by
  have hlength := (declaredLength d).toNat_lt
  have hoctet := (d.frameBuffer 8).toNat_lt
  have hmessage : ((d.frameBuffer 8).toUInt16 + (papHeaderLength + 1)).toNat = (d.frameBuffer 8).toNat + 5 := by
    have hfive : (papHeaderLength + 1).toNat = 5 := rfl
    rw [toNat_add_of_lt (by rw [hfive, UInt8.toNat_toUInt16]; omega), hfive, UInt8.toNat_toUInt16]
  have hfour : papHeaderLength.toNat = 4 := rfl
  have hfive : (papHeaderLength + 1).toNat = 5 := rfl
  have hheader : minimumFrameLength.toNat = 8 := rfl
  have hoffset : (declaredLength d + frameOffset).toNat = ((declaredLength d).toNat + 4) % 2 ^ 16 := UInt16.toNat_add _ _
  have hword : word (d.frameBuffer 6) (d.frameBuffer 7) = declaredLength d := rfl
  unfold pppPapReceiveFrame
  dsimp only
  by_cases hprotocol : d.lastProtocol ≠ protocolPap
  · rw [if_pos hprotocol]
    exact Or.inl ⟨fun h => hprotocol h.1, _, rfl, keeps_note ..⟩
  rw [if_neg hprotocol]
  by_cases htruncated : d.lastFrameLength < minimumFrameLength
  · rw [if_pos htruncated]
    refine Or.inl ⟨fun h => ?_, _, rfl, keeps_note ..⟩
    have := h.2.2.bounded.1
    rw [UInt16.lt_iff_toNat_lt] at htruncated
    omega
  rw [if_neg htruncated, hword]
  by_cases hshort : declaredLength d < papHeaderLength
  · rw [if_pos hshort]
    refine Or.inl ⟨fun h => ?_, _, rfl, keeps_note ..⟩
    have := h.2.2.bounded.2.1
    rw [UInt16.lt_iff_toNat_lt] at hshort
    omega
  rw [if_neg hshort]
  by_cases hlong : d.lastFrameLength < declaredLength d + frameOffset
  · rw [if_pos hlong]
    refine Or.inl ⟨fun h => ?_, _, rfl, keeps_note ..⟩
    have hwithin := h.2.2.bounded.2.2
    have hfilled := h.2.2.message
    rw [UInt16.lt_iff_toNat_lt, hoffset] at hlong
    omega
  rw [if_neg hlong]
  unfold receiveReply
  dsimp only
  by_cases hstate : p.state ≠ .waitingForReply
  · rw [if_pos hstate]
    exact Or.inl ⟨fun h => hstate h.2.1, _, rfl, keeps_note ..⟩
  rw [if_neg hstate]
  by_cases hcode : d.frameBuffer 4 ≠ 2 ∧ d.frameBuffer 4 ≠ 3
  · rw [if_pos hcode]
    refine Or.inl ⟨fun h => ?_, _, rfl, keeps_note ..⟩
    rcases h.2.2.code with hack | hnak
    · exact hcode.1 hack
    · exact hcode.2 hnak
  rw [if_neg hcode]
  by_cases hidentifier : d.frameBuffer 5 ≠ p.requestIdentifier
  · rw [if_pos hidentifier]
    exact Or.inl ⟨fun h => hidentifier h.2.2.identifier, _, rfl, keeps_note ..⟩
  rw [if_neg hidentifier]
  rw [UInt16.lt_iff_toNat_lt] at htruncated hshort hlong
  by_cases hmissing : declaredLength d < papHeaderLength + 1
  · rw [if_pos hmissing]
    refine Or.inl ⟨fun h => ?_, _, rfl, keeps_note ..⟩
    have hfilled := h.2.2.message
    rw [UInt16.lt_iff_toNat_lt] at hmissing
    omega
  rw [if_neg hmissing]
  by_cases hless : declaredLength d < (d.frameBuffer 8).toUInt16 + (papHeaderLength + 1)
  · rw [if_pos hless]
    refine Or.inl ⟨fun h => ?_, _, rfl, keeps_note ..⟩
    have hfilled := h.2.2.message
    rw [UInt16.lt_iff_toNat_lt, hmessage] at hless
    omega
  rw [if_neg hless]
  by_cases htrailing : (d.frameBuffer 8).toUInt16 + (papHeaderLength + 1) < declaredLength d
  · rw [if_pos htrailing]
    refine Or.inl ⟨fun h => ?_, _, rfl, keeps_note ..⟩
    have hfilled := h.2.2.message
    rw [UInt16.lt_iff_toNat_lt, hmessage] at htrailing
    omega
  rw [if_neg htrailing]
  rw [UInt16.lt_iff_toNat_lt, hmessage] at hless htrailing
  refine Or.inr ⟨not_not.mp hprotocol, not_not.mp hstate, ⟨⟨by omega, by omega, by omega⟩, by tauto,
    not_not.mp hidentifier, by omega⟩, _, rfl, rfl, keeps_note ..⟩

/-- The reference client heeds the same replies. -/
lemma receive_cases (c : Rust.Pap.Client) (d : Decoder) :
    (¬ (c.state = .waitingForReply ∧ Replies d c.currentIdentifier) ∧ (c.receive (information d)).1 = c) ∨
    (c.state = .waitingForReply ∧ Replies d c.currentIdentifier ∧ (c.receive (information d)).1 =
      if d.frameBuffer 4 = 2 then { c with state := .opened }
      else { c with state := .failed, failure := some .rejected }) := by
  unfold Pap.Client.receive Pap.Packet.parse
  by_cases hstate : c.state ≠ .waitingForReply
  · rw [if_pos hstate]
    exact Or.inl ⟨fun h => hstate h.1, rfl⟩
  rw [if_neg hstate]
  by_cases hbounded : Bounded d
  · rw [parsePacket_information _ hbounded]
    generalize hpacket : (⟨d.frameBuffer 4, d.frameBuffer 5, read d.frameBuffer 8 ((declaredLength d).toNat - 4)⟩ :
      ControlPacket.Packet) = packet
    dsimp only
    have hack : Pap.knownCode packet = some .authenticateAck ↔ d.frameBuffer 4 = 2 := by
      rw [← hpacket]
      exact Pap.Code.fromOctet_eq_some_iff
    have hnak : Pap.knownCode packet = some .authenticateNak ↔ d.frameBuffer 4 = 3 := by
      rw [← hpacket]
      exact Pap.Code.fromOctet_eq_some_iff
    have hidentity : packet.identifier = d.frameBuffer 5 := by rw [← hpacket]
    by_cases hcode : Pap.knownCode packet ≠ some .authenticateAck ∧ Pap.knownCode packet ≠ some .authenticateNak
    · rw [if_pos hcode]
      exact Or.inl ⟨fun h => h.2.code.elim (mt hack.mpr hcode.1) (mt hnak.mpr hcode.2), rfl⟩
    rw [if_neg hcode]
    by_cases hidentifier : packet.identifier ≠ c.currentIdentifier
    · rw [if_pos hidentifier]
      exact Or.inl ⟨fun h => hidentifier (hidentity.trans h.2.identifier), rfl⟩
    rw [if_neg hidentifier]
    have hfills : (∃ message, Pap.replyMessage packet = .ok message) ↔
        (declaredLength d).toNat = (d.frameBuffer 8).toNat + 5 := by
      rw [Pap.replyMessage_ok_iff (by tauto), ← hpacket]
      obtain ⟨-, hfour, -⟩ := hbounded
      rcases Nat.eq_or_lt_of_le hfour with hempty | hlonger
      · rw [← hempty]
        refine iff_of_false ?_ (by omega)
        rintro ⟨length, message, hdata, -⟩
        cases hdata
      · have hlength : (declaredLength d).toNat - 4 = (declaredLength d).toNat - 5 + 1 := by omega
        rw [hlength, read_succ]
        constructor
        · rintro ⟨length, message, hdata, hmessage⟩
          obtain ⟨rfl, rfl⟩ := List.cons.inj hdata
          rw [length_read] at hmessage
          omega
        · intro hequal
          exact ⟨_, _, rfl, by rw [length_read]; omega⟩
    cases hmessage : Pap.replyMessage packet with
    | error error =>
      refine Or.inl ⟨fun h => ?_, rfl⟩
      obtain ⟨message, hmessage'⟩ := hfills.mpr h.2.message
      rw [hmessage] at hmessage'
      cases hmessage'
    | ok message =>
      refine Or.inr ⟨not_not.mp hstate, ⟨hbounded, by tauto, hidentity.symm.trans (not_not.mp hidentifier),
        hfills.mp ⟨message, hmessage⟩⟩, ?_⟩
      dsimp only
      by_cases htwo : d.frameBuffer 4 = 2
      · rw [if_pos (hack.mpr htwo), if_pos htwo]
      · rw [if_neg (mt hack.mp htwo), if_neg htwo]
  · obtain ⟨error, herror⟩ := parsePacket_information_error Pap.parseErrors hbounded
    rw [herror]
    exact Or.inl ⟨fun h => hbounded h.2.bounded, rfl⟩

/-- **A frame** is dropped or accepted by both. -/
lemma simulates_frame (h : Simulates s r) (d : Decoder) :
    Simulates ⟨(pppPapReceiveFrame d s.credentials s.pap).1, (pppPapReceiveFrame d s.credentials s.pap).2⟩
      (if d.lastProtocol = protocolPap then { r with client := (r.client.receive (information d)).1 } else r) := by
  have hstate := h.state_iff .waitingForReply
  by_cases hprotocol : d.lastProtocol = protocolPap
  · rw [if_pos hprotocol]
    rcases receiveFrame_cases d s.credentials s.pap with ⟨hdropped, p', hreceive, hkeeps⟩ | ⟨-, hwaits, hreplies, p', hreceive, hcode, hkeeps⟩
    · rw [hreceive]
      rcases receive_cases r.client d with ⟨-, hreceive'⟩ | ⟨hwaits', hreplies', -⟩
      · rw [hreceive']
        exact h.keep hkeeps
      · exact absurd ⟨hprotocol, hstate.mpr hwaits', h.identifier ▸ hreplies'⟩ hdropped
    · rcases receive_cases r.client d with ⟨hdropped', -⟩ | ⟨hwaits', -, hreceive'⟩
      · exact absurd ⟨hstate.mp hwaits, h.identifier ▸ hreplies⟩ hdropped'
      · have hfailure := h.unfailed (Or.inr hwaits')
        rw [hreceive, hreceive']
        unfold acceptReply
        dsimp only
        rw [hcode]
        have hkept := h.keep hkeeps
        have hpending : p'.requestPending = true ↔ r.client.state = .requestPending := hkept.pending
        have hidle : ¬ p'.requestPending = true := by
          rw [hpending, hwaits']
          nofun
        split_ifs
        · exact ⟨rfl, hkept.identifier, hkept.next, hkept.attempts, h.maximum, by rw [hfailure]; rfl,
            iff_of_false hidle nofun, nofun, nofun, nofun, h.kept⟩
        · exact ⟨rfl, hkept.identifier, hkept.next, hkept.attempts, h.maximum, rfl,
            iff_of_false hidle nofun, nofun, nofun, nofun, h.kept⟩
  · rw [if_neg hprotocol]
    rcases receiveFrame_cases d s.credentials s.pap with ⟨-, p', hreceive, hkeeps⟩ | ⟨hprotocol', -⟩
    · rw [hreceive]
      exact h.keep hkeeps
    · exact absurd hprotocol' hprotocol

/-! ### Runs -/

/-- **Every input** keeps the relation, and both clients show the same at it. -/
theorem step_agrees (h : Simulates s r) (input : Input) :
    ∃ r', r.step false input = some (r', (s.step input).2) ∧ Simulates (s.step input).1 r' := by
  cases input with
  | lowerUp flags =>
    have hsimulates := simulates_lowerUp h flags
    refine ⟨_, ?_, hsimulates⟩
    unfold Reference.step
    simp only [Bool.false_or, decide_eq_true_eq]
    rw [hsimulates.shown]
    rfl
  | lowerDown =>
    have hsimulates := simulates_lowerDown h
    refine ⟨_, ?_, hsimulates⟩
    unfold Reference.step
    dsimp only
    rw [hsimulates.shown]
    rfl
  | service now transmit => exact service_agrees h now transmit
  | timer now =>
    have hsimulates := simulates_timer h now
    refine ⟨_, ?_, hsimulates⟩
    unfold Reference.step
    dsimp only
    rw [hsimulates.shown]
    rfl
  | frame decoder =>
    have hsimulates := simulates_frame h decoder
    refine ⟨_, ?_, hsimulates⟩
    unfold Reference.step
    dsimp only
    rw [hsimulates.shown]
    rfl

end Simulation

/-- What the console's client shows in a run. -/
def shownBySession (inputs : List Input) : List Shown := Lockstep.trace Session.step .start inputs

/-- What the reference client shows in a run, unless it panics. -/
def shownByReference (restarts : Bool) (inputs : List Input) : Option (List Shown) :=
  Reference.start.bind fun r => Lockstep.partialTrace (Reference.step restarts) r inputs

/-- **In every run** the two clients go through the same states and send the same octets, if the reference client is not
told of a lower layer that comes up while it is not `Inactive`. -/
theorem sessions_agree (inputs : List Input) : shownByReference false inputs = some (shownBySession inputs) := by
  obtain ⟨r, hstart, hsimulates⟩ := simulates_start
  have hstep : ∀ s r input, Simulates s r →
      ∃ r', Reference.step false r input = some (r', (Session.step s input).2) ∧ Simulates (Session.step s input).1 r' :=
    fun _ _ input h => step_agrees h input
  unfold shownByReference
  rw [hstart]
  exact Lockstep.partialTrace_eq_of_forall hstep hsimulates inputs

/-- The lower layer comes up, the request is sent, and the lower layer comes up again. -/
def restartInputs : List Input :=
  [.lowerUp { (default : PeerFlags) with pap := true }, .service 0 default, .lowerUp { (default : PeerFlags) with pap := true }]

/-- A client that is told of the second time authenticates from the start; the console's client goes on waiting. -/
theorem restart_disagrees : shownByReference true restartInputs ≠ some (shownBySession restartInputs) := by
  decide +kernel

end SnesModem.Asm.PapRefinement
