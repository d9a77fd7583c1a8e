import SnesModem.Asm.HandedPackets

/-!
# The frames of an open link and the MRU of the peer

* `handed`: the frame that a poll gives to the encoder;
* `Fits`: what is pending as a poll begins, and what the received packet asks for, fits the MRU of the peer, of which
  only the builders of some LCP packets take notice;
* `mru_respected`: as long as they fit, so do the frames of a run.
-/

namespace SnesModem.Asm.PeerMru

open SnesModem.Lib SnesModem.Lib.Octets SnesModem.Asm.Network SnesModem.Asm.HandedFrames SnesModem.Rust

/-- The frame that the poll gives to the encoder, if it gives it one. -/
def handed (n : Node) (i : NodeInput) : Option (List UInt8) :=
  let t := (n.step i).loop.stack.transmit
  if !n.loop.stack.transmit.active && t.active then some t.frame else none

/-- LCP is open, and the poll leaves it open. -/
def Opened (n : Node) (i : NodeInput) : Prop :=
  n.loop.stack.lcp.state = .opened ∧ (n.step i).loop.stack.lcp.state = .opened

/-- **The frame keeps to the MRU** that the peer has been acknowledged. -/
def Within (n : Node) (i : NodeInput) : Prop :=
  Opened n i → ∀ frame ∈ handed n i, Limited n.loop.stack.lcp.peerMru frame

/-- The packet that the poll of a phase may come to send fits the MRU, or the least length of its type: by the actions
and lengths that are pending, the credentials, the requests of the clients, and the lengths and options of the received
packet. -/
def Fits (n : Node) (i : NodeInput) (s : Stack) (mru : ℕ) : Phase → Prop
  | .lcp =>
    linkUp i.connected s.receive s.lcp.state = true → LcpFits s.receive.decoder.frameBuffer s.lcp (max mru 4)
  | .pap =>
    linkUp i.connected s.receive s.lcp.state = true → papDue i.now s.lcp.peerFlags s.pap = true →
      papRequestLength s.credentials ≤ max mru 4
  | .chap =>
    linkUp i.connected s.receive s.lcp.state = true → chapDue s.chapLayer = true →
      chapResponseLength s.credentials ≤ max mru 4
  | .ipcp =>
    (linkUp i.connected s.receive s.lcp.state && s.authenticated) = true → s.ipcp.state ≠ .stopped →
      IpcpFits s.receive s.ipcp (max mru 4)
  | .ipv4 => n.ipLayer.owned = true → s.ipUp i.connected = true → EchoFits s.ipcp n.ipLayer (max mru 20)
  | .request => linkIsOpen s.ipcp = true → 20 + requestLength s.ipcp n.upper.clients ≤ max mru 20
  | .mailbox | .receive | .transmit => True

/-- What a step of a run must meet, if it finds LCP open and the encoder idle. -/
def Short (n : Node) (i : NodeInput) : Prop :=
  n.loop.stack.lcp.state = .opened → n.loop.stack.transmit.active = false →
    Fits n i (n.loop.stack.found i.lower) n.loop.stack.lcp.peerMru.toNat n.loop.phase

section Step

variable {n : Node} {i : NodeInput}

/-- A command of the mailbox starts no frame. -/
lemma mailbox_hands (P : List UInt8 → Prop) (now : UInt32) (s : Stack) (command : Command) :
    Hands P s.transmit (modemMailboxPoll now s command).transmit := by
  have hupload (credentials : Credentials) (copies : Bool) (o : Overrun) :
      Hands P s.transmit (s.upload credentials copies o).transmit := by
    refine hands_of_active ?_
    unfold Stack.upload
    split
    · rfl
    · rfl
  cases command with
  | peerIdSet arguments b o => exact hupload _ _ o
  | passwordSet arguments b o => exact hupload _ _ o
  | selfTest left => exact hands_idle rfl
  | _ => exact .refl _

/-- **The step lemma**, by cases on the poll. -/
theorem step_hands (hopened : Opened n i)
    (hfits : n.loop.stack.transmit.active = false →
      Fits n i (n.loop.stack.found i.lower) n.loop.stack.lcp.peerMru.toNat n.loop.phase) :
    Hands (Limited n.loop.stack.lcp.peerMru) n.loop.stack.transmit (n.step i).loop.stack.transmit := by
  by_cases hbusy : n.loop.stack.transmit.active = true
  · exact hands_busy hbusy
  have hidle : n.loop.stack.transmit.active = false := by simpa using hbusy
  replace hfits := hfits hidle
  obtain ⟨hbefore, hafter⟩ := hopened
  unfold Node.step at hafter ⊢
  cases hphase : n.loop.phase with
  | mailbox =>
    dsimp only
    rw [step_at hphase (by decide)]
    exact mailbox_hands _ i.lower.now (n.loop.stack.found i.lower) i.lower.command
  | receive =>
    dsimp only
    rw [step_at hphase (by decide)]
    exact .refl _
  | lcp =>
    rw [hphase] at hfits hafter
    dsimp only [Fits] at hfits hafter ⊢
    rw [step_at hphase (by decide)] at hafter ⊢
    exact lcpPoll_hands i.lower.now i.lower.connected (s := (n.loop.stack.found i.lower).lcpLayer) hbefore hfits hafter
  | pap =>
    rw [hphase] at hfits
    dsimp only [Fits] at hfits ⊢
    rw [step_at hphase (by decide)]
    exact papPoll_hands i.lower.connected i.lower.now _ (n.loop.stack.found i.lower).papLayer hfits
  | chap =>
    rw [hphase] at hfits
    dsimp only [Fits] at hfits ⊢
    rw [step_at hphase (by decide)]
    exact chapPoll_hands i.lower.connected _ (n.loop.stack.found i.lower).chapLayer hfits
  | ipcp =>
    rw [hphase] at hfits
    dsimp only [Fits] at hfits ⊢
    rw [step_at hphase (by decide)]
    exact ipcpPoll_hands i.lower.now (s := (n.loop.stack.found i.lower).ipcpLayer) i.lower.connected _ _ hfits
  | ipv4 =>
    rw [hphase] at hfits
    exact ipv4Poll_hands i.now (s := n.ipLayer) hfits
  | request =>
    rw [hphase] at hfits
    exact requestPolls_hands i.now n.ipLayer hfits
  | transmit =>
    dsimp only
    refine hands_of_active ?_
    unfold Asm.step pollLayer
    rw [hphase]
    exact congrArg (fun polled => polled.1.active) (TransmitRefinement.poll_of_inactive hidle i.lower.connected i.lower.room)

lemma within_of_short (hshort : Short n i) : Within n i := by
  intro hopened frame hframe
  have hhands := step_hands hopened (hshort hopened.1)
  unfold handed at hframe
  dsimp only at hframe
  split at hframe
  · rename_i hgiven
    obtain ⟨hidle, hactive⟩ := Bool.and_eq_true_iff.mp hgiven
    obtain rfl := Option.some.inj hframe
    exact hhands (by simpa using hidle) hactive
  · contradiction

end Step

/-- **Every frame of an open link keeps to the MRU of the peer**, in every run in which the packets that are about to be
sent fit it. -/
theorem mru_respected (inputs : List NodeInput) (hshort : Run.Along Node.step Short Node.boot inputs) :
    Run.Along Node.step Within Node.boot inputs := by
  exact Run.along_mono (fun _ _ => within_of_short) hshort

section Scenario

/-- A frame in the RX ring, for as many turns of the loop as it takes. -/
def arrives (room : ℕ) (frame : List UInt8) : List NodeInput :=
  let octets := Framing.encodeAsync frame Framing.defaultAccm
  (List.range (octets.length / 32 + 1)).flatMap fun turn =>
    List.replicate 9 { ring := (octets.drop (32 * turn)).take 32, room := room }

/-- The link is opened, with an MRU of 64 octets for the peer. -/
def shortOpening : List NodeInput :=
  List.replicate 9 { command := .lower .receiveStart, room := 100 } ++
    arrives 100 [0xff, 0x03, 0xc0, 0x21, 0x02, 0x00, 0x00, 0x0a, 0x05, 0x06, 0x4e, 0x44, 0x4d, 0x24] ++
    arrives 100 [0xff, 0x03, 0xc0, 0x21, 0x01, 0x07, 0x00, 0x08, 0x01, 0x04, 0x00, 0x40] ++
    arrives 100 [0xff, 0x03, 0x80, 0x21, 0x03, 0x01, 0x00, 0x0a, 0x03, 0x06, 0x0a, 0x00, 0x00, 0x02] ++
    arrives 100 [0xff, 0x03, 0x80, 0x21, 0x02, 0x02, 0x00, 0x16, 0x03, 0x06, 0x0a, 0x00, 0x00, 0x02, 0x81, 0x06, 0x00,
      0x00, 0x00, 0x00, 0x83, 0x06, 0x00, 0x00, 0x00, 0x00] ++
    arrives 100 [0xff, 0x03, 0x80, 0x21, 0x01, 0x01, 0x00, 0x0a, 0x03, 0x06, 0x0a, 0x00, 0x00, 0x01] ++
    List.replicate 27 { room := 100 }

/-- The frame of an Echo-Request of the peer, with its checksums. -/
def pingFrame (payload : List UInt8) : List UInt8 :=
  let e : EchoRequest := ⟨⟨10, 0, 0, 1⟩, 0x1234, 1, payload⟩
  let total := UInt16.ofNat (28 + payload.length)
  let header := ipv4Header 1 total protocolIcmp e.source ⟨10, 0, 0, 2⟩
  ipv4Frame 1 total protocolIcmp e.source ⟨10, 0, 0, 2⟩ (checksumWords 0 (header 0) ^^^ 0xffff)
    (echoMessage icmpTypeEchoRequest (checksumWords 0 (echoMessage icmpTypeEchoRequest 0 e) ^^^ 0xffff) e)

end Scenario

instance (n : Node) (i : NodeInput) (s : Stack) (mru : ℕ) : (phase : Phase) → Decidable (Fits n i s mru phase)
  | .lcp | .request => inferInstanceAs (Decidable (_ → _))
  | .pap | .chap | .ipcp | .ipv4 => inferInstanceAs (Decidable (_ → _ → _))
  | .mailbox | .receive | .transmit => inferInstanceAs (Decidable True)

instance (n : Node) (i : NodeInput) : Decidable (Short n i) := by
  unfold Short
  infer_instance

instance (n : Node) (i : NodeInput) : Decidable (Within n i) := by
  unfold Within Opened
  infer_instance

set_option maxRecDepth 100000 in
theorem mru_respected_ping :
    Run.Along Node.step Within Node.boot (shortOpening ++ arrives 100 (pingFrame [0x41, 0x42])) :=
  mru_respected _ (by decide +kernel)

set_option maxRecDepth 100000 in
/-- **The MRU of the peer is 64 octets**, and the reply to an Echo-Request with 40 octets has 68. -/
theorem echo_reply_exceeds_mru :
    ¬ Run.Along Node.step Within Node.boot (shortOpening ++ arrives 100 (pingFrame (List.replicate 40 0x41))) := by
  decide +kernel

end SnesModem.Asm.PeerMru
