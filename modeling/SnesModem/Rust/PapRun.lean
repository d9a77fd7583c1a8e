import SnesModem.Rust.Pap

/-!
# Runs of the reference PAP client

* `Call`: the methods of the client; `after`: a run of them, unless one panics;
* `History`: the requests committed since the lower layer came up, and the identifier of the latest one;
* `Sound`: what every run keeps of them;
* `Answers`: the only packets that change a client.
-/

namespace SnesModem.Rust.PapRun

open SnesModem.Lib SnesModem.Rust.ControlPacket SnesModem.Rust.Pap

inductive Call where
  | lowerUp (papRequired : Bool)
  | lowerDown
  | buildPendingRequest (peerId password : List UInt8) (available : ℕ)
  | requestSent
  | timeout
  | receive (input : List UInt8)

/-- The client that a call leaves behind, unless it panics. -/
def Call.client (c : Client) : Call → Option Client
  | .lowerUp papRequired => some (c.lowerUp papRequired)
  | .lowerDown => some c.lowerDown
  | .buildPendingRequest .. => some c
  | .requestSent => c.requestSent.map Prod.fst
  | .timeout => some c.timeout.1
  | .receive input => some (c.receive input).1

/-- A client and what it has committed. -/
structure History where
  client : Client
  /-- The requests committed since the lower layer came up last. -/
  committed : ℕ
  /-- The identifier of the request committed last. -/
  latest : Option UInt8
  deriving DecidableEq, Repr

def History.new (c : Client) : History := ⟨c, 0, none⟩

def step (h : History) (call : Call) : Option History :=
  (call.client h.client).map fun c =>
    match call with
    | .lowerUp _ => { h with client := c, committed := 0 }
    | .requestSent =>
      if h.client.state = .requestPending then
        { client := c, committed := h.committed + 1, latest := some h.client.nextIdentifier }
      else { h with client := c }
    | _ => { h with client := c }

/-- The history that calls lead to, unless one of them panics. -/
def after : History → List Call → Option History
  | h, [] => some h
  | h, call :: calls => (step h call).bind fun h => after h calls

/-! ### What every run keeps -/

/-- The attempts that are left and the requests committed make up the maximum. -/
structure Sound (max : UInt8) (h : History) : Prop where
  maximum : h.client.maxAuthenticate = max
  attempts : h.client.state ≠ .inactive → h.committed + h.client.attemptsRemaining.toNat = max.toNat
  committed : h.committed ≤ max.toNat
  pending : h.client.state = .requestPending → 0 < h.client.attemptsRemaining
  latest : h.client.state = .waitingForReply → h.latest = some h.client.currentIdentifier

section Step

variable {max : UInt8} {h : History}

lemma sound_new {c : Client} (hnew : Client.new max = some c) : Sound max (.new c) := by
  unfold Client.new at hnew
  split_ifs at hnew
  cases hnew
  exact ⟨rfl, fun hactive => absurd rfl hactive, Nat.zero_le _, nofun, nofun⟩

/-- A client at rest or at the end of an exchange, with the attempts it had. -/
lemma Sound.settle (hs : Sound max h) {c : Client} (hmaximum : c.maxAuthenticate = h.client.maxAuthenticate)
    (hactive : h.client.state ≠ .inactive) (hattempts : c.attemptsRemaining = h.client.attemptsRemaining)
    (hpending : c.state ≠ .requestPending) (hwaiting : c.state ≠ .waitingForReply) :
    Sound max { h with client := c } where
  maximum := hmaximum.trans hs.maximum
  attempts _ := by
    have hsum := hs.attempts hactive
    rwa [← hattempts] at hsum
  committed := hs.committed
  pending hstate := absurd hstate hpending
  latest hstate := absurd hstate hwaiting

lemma Sound.lowerUp (hs : Sound max h) (hmax : 0 < max) (papRequired : Bool) :
    Sound max { h with client := h.client.lowerUp papRequired, committed := 0 } where
  maximum := hs.maximum
  attempts _ := by
    show 0 + h.client.maxAuthenticate.toNat = max.toNat
    rw [hs.maximum, Nat.zero_add]
  committed := Nat.zero_le _
  pending _ := by
    show 0 < h.client.maxAuthenticate
    rwa [hs.maximum]
  latest hstate := by
    unfold Client.lowerUp at hstate
    cases papRequired <;> cases hstate

lemma Sound.lowerDown (hs : Sound max h) : Sound max { h with client := h.client.lowerDown } :=
  ⟨hs.maximum, fun hactive => absurd rfl hactive, hs.committed, nofun, nofun⟩

/-- A pending request is committed with an attempt to spare. -/
lemma requestSent_of_pending (hs : Sound max h) (hstate : h.client.state = .requestPending) :
    ∃ c, h.client.requestSent = some (c, true) ∧
      Sound max ⟨c, h.committed + 1, some h.client.nextIdentifier⟩ := by
  have hpositive := hs.pending hstate
  have hne : h.client.attemptsRemaining ≠ 0 := by
    intro hzero
    rw [hzero] at hpositive
    exact absurd hpositive (by decide)
  have hsum := hs.attempts (by rw [hstate]; nofun)
  have hone : (1 : UInt8).toNat = 1 := rfl
  rw [UInt8.lt_iff_toNat_lt, UInt8.toNat_zero] at hpositive
  have hless : (h.client.attemptsRemaining - 1).toNat = h.client.attemptsRemaining.toNat - 1 := by
    rw [UInt8.toNat_sub_of_le _ _ (UInt8.le_iff_toNat_le.mpr (by omega)), hone]
  unfold Client.requestSent
  rw [if_neg (not_not_intro hstate), if_neg hne]
  refine ⟨_, rfl, hs.maximum, fun _ => ?_, ?_, nofun, fun _ => rfl⟩
  · show h.committed + 1 + (h.client.attemptsRemaining - 1).toNat = max.toNat
    omega
  · show h.committed + 1 ≤ max.toNat
    omega

lemma Sound.timeout (hs : Sound max h) : Sound max { h with client := h.client.timeout.1 } := by
  unfold Client.timeout
  split_ifs with hstate hattempts
  · exact hs
  · exact hs.settle rfl (by rw [not_not.mp hstate]; nofun) rfl nofun nofun
  · have hactive : h.client.state ≠ .inactive := by
      rw [not_not.mp hstate]
      nofun
    exact ⟨hs.maximum, fun _ => hs.attempts hactive, hs.committed, fun _ => UInt8.pos_iff_ne_zero.mpr hattempts, nofun⟩

/-! ### The packets that are heeded -/

/-- A well-formed Authenticate-Ack or Authenticate-Nak of the latest request, while the client waits for one. -/
def Answers (h : History) (input : List UInt8) : Prop :=
  h.client.state = .waitingForReply ∧ ∃ packet message, Packet.parse input = .ok packet ∧
    (knownCode packet = some .authenticateAck ∨ knownCode packet = some .authenticateNak) ∧
    h.latest = some packet.identifier ∧ replyMessage packet = .ok message

/-- A packet is ignored, with the client as it was, or it is an answer that ends the wait. -/
lemma receive_cases (hs : Sound max h) (input : List UInt8) :
    (¬ Answers h input ∧ (h.client.receive input).1 = h.client) ∨
      (Answers h input ∧
        ((h.client.receive input).1 = { h.client with state := .opened } ∨
          (h.client.receive input).1 = { h.client with state := .failed, failure := some .rejected })) := by
  unfold Client.receive
  split_ifs with hstate
  · exact Or.inl ⟨fun hanswers => hstate hanswers.1, rfl⟩
  have hwaiting := not_not.mp hstate
  have hlatest := hs.latest hwaiting
  cases hparse : Packet.parse input with
  | error error =>
    refine Or.inl ⟨?_, rfl⟩
    rintro ⟨-, packet, message, hparse', -⟩
    rw [hparse] at hparse'
    cases hparse'
  | ok packet =>
    -- An answer is this packet, so that each check of the client is one of the answer's own.
    have hanswers : Answers h input ↔
        (knownCode packet = some .authenticateAck ∨ knownCode packet = some .authenticateNak) ∧
          packet.identifier = h.client.currentIdentifier ∧ ∃ message, replyMessage packet = .ok message := by
      constructor
      · rintro ⟨-, packet', message, hparse', hcode, hidentifier, hmessage⟩
        rw [hparse] at hparse'
        cases hparse'
        rw [hlatest] at hidentifier
        exact ⟨hcode, (Option.some.inj hidentifier).symm, message, hmessage⟩
      · rintro ⟨hcode, hidentifier, message, hmessage⟩
        exact ⟨hwaiting, packet, message, hparse, hcode, by rw [hlatest, hidentifier], hmessage⟩
    rw [hanswers]
    dsimp only
    by_cases hcode : knownCode packet ≠ some .authenticateAck ∧ knownCode packet ≠ some .authenticateNak
    · rw [if_pos hcode]
      refine Or.inl ⟨?_, rfl⟩
      rintro ⟨hack | hnak, -⟩
      · exact hcode.1 hack
      · exact hcode.2 hnak
    rw [if_neg hcode]
    by_cases hidentifier : packet.identifier ≠ h.client.currentIdentifier
    · rw [if_pos hidentifier]
      exact Or.inl ⟨fun hheeded => hidentifier hheeded.2.1, rfl⟩
    rw [if_neg hidentifier]
    cases hmessage : replyMessage packet with
    | error error =>
      refine Or.inl ⟨?_, rfl⟩
      rintro ⟨-, -, message, hmessage'⟩
      cases hmessage'
    | ok message =>
      refine Or.inr ⟨⟨by tauto, not_not.mp hidentifier, message, rfl⟩, ?_⟩
      dsimp only
      split
      · exact Or.inl rfl
      · exact Or.inr rfl

/-- **A packet changes the client** exactly when it is an answer. -/
lemma receive_ne_iff (hs : Sound max h) (input : List UInt8) :
    (h.client.receive input).1 ≠ h.client ↔ Answers h input := by
  rcases receive_cases hs input with ⟨hnot, hsame⟩ | ⟨hanswers, hends⟩
  · exact iff_of_false (not_not_intro hsame) hnot
  · refine iff_of_true (fun hsame => ?_) hanswers
    rw [hsame] at hends
    have hwaiting := hanswers.1
    rcases hends with hends | hends <;> rw [hends] at hwaiting <;> cases hwaiting

lemma Sound.receive (hs : Sound max h) (input : List UInt8) :
    Sound max { h with client := (h.client.receive input).1 } := by
  rcases receive_cases hs input with ⟨-, hsame⟩ | ⟨hanswers, hends⟩
  · rw [hsame]
    exact hs
  · have hactive : h.client.state ≠ .inactive := by
      rw [hanswers.1]
      nofun
    rcases hends with hends | hends
    · rw [hends]
      exact hs.settle rfl hactive rfl nofun nofun
    · rw [hends]
      exact hs.settle rfl hactive rfl nofun nofun

/-! ### Runs -/

/-- **No call panics**, and what a run keeps is kept. -/
theorem sound_step (hs : Sound max h) (hmax : 0 < max) (call : Call) : ∃ h', step h call = some h' ∧ Sound max h' := by
  cases call with
  | lowerUp papRequired => exact ⟨_, rfl, hs.lowerUp hmax papRequired⟩
  | lowerDown => exact ⟨_, rfl, hs.lowerDown⟩
  | buildPendingRequest peerId password available => exact ⟨_, rfl, hs⟩
  | requestSent =>
    by_cases hstate : h.client.state = .requestPending
    · obtain ⟨c, hsent, hs'⟩ := requestSent_of_pending hs hstate
      refine ⟨_, ?_, hs'⟩
      unfold step Call.client
      rw [hsent]
      simp only [Option.map_some, if_pos hstate]
    · have hsent : h.client.requestSent = some (h.client, false) := if_pos hstate
      refine ⟨h, ?_, hs⟩
      unfold step Call.client
      rw [hsent]
      simp only [Option.map_some, if_neg hstate]
  | timeout => exact ⟨_, rfl, hs.timeout⟩
  | receive input => exact ⟨_, rfl, hs.receive input⟩

lemma sound_after (hs : Sound max h) (hmax : 0 < max) (calls : List Call) :
    ∃ h', after h calls = some h' ∧ Sound max h' := by
  induction calls generalizing h with
  | nil => exact ⟨h, rfl, hs⟩
  | cons call calls ih =>
    obtain ⟨h', hstep, hs'⟩ := sound_step hs hmax call
    obtain ⟨h'', hafter, hs''⟩ := ih hs'
    refine ⟨h'', ?_, hs''⟩
    unfold after
    rw [hstep]
    exact hafter

end Step

/-- **In every run** no call panics, a pending request has an attempt left, no more requests than the maximum are
committed for one time the lower layer comes up, and a packet changes the client exactly when it answers the latest
request. -/
theorem runs_within_attempts {max : UInt8} {new : Client} (hnew : Client.new max = some new) (calls : List Call) :
    ∃ h, after (.new new) calls = some h ∧
      (h.client.state = .requestPending → 0 < h.client.attemptsRemaining) ∧
      h.committed ≤ max.toNat ∧
      ∀ input, (h.client.receive input).1 ≠ h.client ↔ Answers h input := by
  have hmax : 0 < max := by
    unfold Client.new at hnew
    split_ifs at hnew with hmax
    exact hmax
  obtain ⟨h, hafter, hs⟩ := sound_after (sound_new hnew) hmax calls
  exact ⟨h, hafter, hs.pending, hs.committed, receive_ne_iff hs⟩

/-- A request, a reply to another one, a timeout and the reply to the second request. -/
theorem runs_within_attempts_retry :
    ∃ h, after (.new ⟨.inactive, 1, 0, 0, 2, none⟩)
        [.lowerUp true, .requestSent, .receive [2, 9, 0, 5, 0], .timeout, .requestSent, .receive [2, 2, 0, 5, 0]] = some h ∧
      (h.client.state = .requestPending → 0 < h.client.attemptsRemaining) ∧
      h.committed ≤ (2 : UInt8).toNat ∧
      ∀ input, (h.client.receive input).1 ≠ h.client ↔ Answers h input :=
  runs_within_attempts (show Client.new 2 = some ⟨.inactive, 1, 0, 0, 2, none⟩ from rfl) _

end SnesModem.Rust.PapRun
