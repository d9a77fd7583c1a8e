import SnesModem.Asm.HandedPackets
import SnesModem.Lib.CutStreams

/-!
# The octets of the PPP stack are a stream of frames

* `Grants`: what the layers above IPCP do to the encoder: they leave it alone, or give it a packet while IPCP is open;
* `Handed`: a frame that a poll gave to the encoder, with the state of the link at that poll;
* `Tx`: the main loop with the frames so far, and how often one was given up;
* `step_sends`: what a step does to the stream;
* `frames_stream`: as long as no upload overruns, the octets that went to the TX ring are the encoded frames one behind
  the other, each of them whole or cut off where it was given up, and each was begun in a phase of the link that admits
  it.
-/

namespace SnesModem.Asm.FrameStream

open SnesModem.Lib SnesModem.Lib.CutStreams SnesModem.Lib.Octets SnesModem.Rust SnesModem.Asm.FrameDelivery
open SnesModem.Asm.SecretFlow SnesModem.Asm.TransmitRefinement SnesModem.Asm.Network SnesModem.Asm.HandedFrames
open SnesModem.Asm.ClientRequests

/-! ### The layers above IPCP -/

/-- The encoder is left alone or given a whole frame that it has room for, and that only while IPCP is open. -/
structure Grants (p : Ipcp) (t t' : Transmit) : Prop extends Gives t t' where
  opened : t.active = false → t'.active = true → p.state = .opened
  length : t'.length = t.length ∨ t'.length ≤ maximumTransmitFrameLength

section Grants

variable {p : Ipcp} {t t' t'' : Transmit} {s : Ipv4Sender}

lemma Grants.refl (t : Transmit) : Grants p t t := by
  refine ⟨.refl t, fun hidle hactive => ?_, Or.inl rfl⟩
  rw [hidle] at hactive
  contradiction

lemma Grants.of_eq (h : t' = t) : Grants p t t' := by
  rw [h]
  exact .refl t

lemma Grants.trans (h : Grants p t t') (h' : Grants p t' t'') : Grants p t t'' := by
  refine ⟨h.toGives.trans h'.toGives, fun hidle hactive => ?_, ?_⟩
  · cases hbetween : t'.active with
    | false => exact h'.opened hbetween hactive
    | true => exact h.opened hidle hbetween
  · rcases h'.length with hsame | hfits
    · rw [hsame]
      exact h.length
    · exact Or.inr hfits

/-- What is written into the buffer of an idle encoder is no frame yet. -/
lemma Grants.write (hidle : t.active = false) (buffer : Buffer) : Grants p t { t with buffer := buffer } := by
  refine ⟨⟨fun hactive => ?_, fun _ hactive => ?_⟩, fun _ hactive => ?_, Or.inl rfl⟩
  · exact absurd (hidle.symm.trans hactive) Bool.false_ne_true
  · exact absurd (hidle.symm.trans hactive) Bool.false_ne_true
  · exact absurd (hidle.symm.trans hactive) Bool.false_ne_true

lemma begin_length (t : Transmit) (buffer : Buffer) (length : UInt16) :
    (pppTransmitBegin { t with buffer := buffer } length).1.length = t.length ∨
      (pppTransmitBegin { t with buffer := buffer } length).1.length ≤ maximumTransmitFrameLength := by
  rw [transmitBegin_eq]
  split
  · rename_i h
    exact Or.inr h.2
  · exact Or.inl rfl

/-- A packet in the buffer of an idle encoder. -/
lemma ipv4Begin_grants (hidle : s.transmit.active = false) (protocol : UInt8) (destination : Address)
    (length : UInt16) :
    Grants p s.transmit (pppIpv4BeginTransmit p s protocol destination length).1.transmit := by
  unfold pppIpv4BeginTransmit
  split
  · exact .refl _
  rename_i hopen
  rw [not_or, not_not] at hopen
  split
  · exact .refl _
  split
  · exact .refl _
  · extract_lets totalLength header checksum packet
    have hbegin : Grants p s.transmit
        (pppTransmitBegin { s.transmit with buffer := packet } (totalLength + frameOffset)).1 :=
      ⟨Gives.begin hidle packet _, fun _ _ => hopen.1, begin_length s.transmit packet _⟩
    split
    · rename_i t' heq
      rw [heq] at hbegin
      exact hbegin
    · rename_i t' heq
      rw [heq] at hbegin
      exact hbegin

/-- A datagram in the buffer of an idle encoder. -/
lemma udpBegin_grants (hidle : s.transmit.active = false) (sourcePort destinationPort : UInt16) (destination : Address)
    (length : UInt16) :
    Grants p s.transmit (pppUdpBeginTransmit p s sourcePort destinationPort destination length).1.transmit := by
  unfold pppUdpBeginTransmit
  split
  · exact .refl _
  · extract_lets udpLength ports buffer sum checksum filled
    exact (Grants.write hidle filled).trans
      (ipv4Begin_grants (s := { s with transmit := { s.transmit with buffer := filled } }) hidle protocolUdp destination
        udpLength)

lemma buildEchoReply_grants (hidle : s.transmit.active = false) (frameBuffer : Buffer) (v : Ipv4) (c : Icmp) :
    Grants p s.transmit (c.buildEchoReply p frameBuffer v s).2.1.transmit := by
  unfold Icmp.buildEchoReply
  extract_lets length copied typed cleared checksum buffer
  have hbegin := (Grants.write hidle buffer).trans (ipv4Begin_grants (p := p)
    (s := { s with transmit := { s.transmit with buffer := buffer } }) hidle protocolIcmp v.source v.payloadLength)
  split
  · rename_i s' heq
    rw [heq] at hbegin
    exact hbegin
  · rename_i s' heq
    rw [heq] at hbegin
    exact hbegin

end Grants

section Polls

variable {p : Ipcp} (now : UInt32)

lemma icmpReceive_grants (frameBuffer : Buffer) (v : Ipv4) (c : Icmp) (r : IcmpRequest) (s : Ipv4Sender) :
    Grants p s.transmit (pppIcmpReceive p now frameBuffer v c r s).2.2.1.transmit := by
  unfold pppIcmpReceive
  extract_lets c₀ c₁ x type c₂ message
  split
  · exact .refl _
  split
  · exact .refl _
  split
  · exact .refl _
  split
  · exact .refl _
  split
  · exact .refl _
  split
  · exact .refl _
  · rename_i hbusy
    exact buildEchoReply_grants (by simpa using hbusy) frameBuffer v c₂

lemma parse_grants (s : IpLayer) : Grants p s.sender.transmit (s.parse p now).sender.transmit := by
  unfold IpLayer.parse
  split
  · exact .refl _
  extract_lets s'
  split
  · exact .refl _
  split
  · exact .refl _
  split
  · have hreceived := icmpReceive_grants (p := p) now s'.receive.decoder.frameBuffer s'.ipv4 s'.icmp s'.clients.icmp
      s'.sender
    unfold IpLayer.receiveIcmp
    generalize pppIcmpReceive p now s'.receive.decoder.frameBuffer s'.ipv4 s'.icmp s'.clients.icmp s'.sender = received
      at hreceived ⊢
    obtain ⟨icmp, request, sender, carry⟩ := received
    cases carry with
    | true => exact hreceived
    | false => exact hreceived
  split
  · exact .refl _
  · exact .refl _

lemma retry_grants (s : IpLayer) : Grants p s.sender.transmit (s.retry p).sender.transmit := by
  have hretried : Grants p s.sender.transmit
      (pppIcmpRetryPending p s.receive.decoder.frameBuffer s.ipv4 s.icmp s.sender).2.1.transmit := by
    unfold pppIcmpRetryPending
    split
    · exact .refl _
    split
    · exact .refl _
    · rename_i hbusy
      exact buildEchoReply_grants (by simpa using hbusy) s.receive.decoder.frameBuffer s.ipv4 s.icmp
  unfold IpLayer.retry
  generalize pppIcmpRetryPending p s.receive.decoder.frameBuffer s.ipv4 s.icmp s.sender = retried at hretried ⊢
  obtain ⟨icmp, sender, carry⟩ := retried
  cases carry with
  | true => exact hretried
  | false => exact hretried

/-- **The poll of IPv4.** -/
theorem ipv4Poll_grants (up : Bool) (s : IpLayer) :
    Grants p s.sender.transmit (Network.pppIpv4Poll up p now s).sender.transmit := by
  unfold Network.pppIpv4Poll
  split
  · exact .refl _
  split
  · exact .refl _
  split
  · exact retry_grants s
  · exact parse_grants now s

/-- A poll of IPv4 that does not find IPCP open on a live link sends nothing. -/
lemma ipv4Poll_down (s : IpLayer) : (Network.pppIpv4Poll false p now s).sender.transmit = s.sender.transmit := by
  unfold Network.pppIpv4Poll
  split
  · rfl
  · rfl

/-! #### The clients -/

variable (s : Ipv4Sender)

lemma icmpRequestPoll_grants (r : IcmpRequest) : Grants p s.transmit (pppIcmpRequestPoll p now r s).2.transmit := by
  by_cases hsilent : r.state = .requested → linkIsOpen p = true → s.transmit.active = true
  · exact .of_eq (icmpRequestPoll_silent now hsilent)
  · push Not at hsilent
    obtain ⟨hrequested, hopen, hbusy⟩ := hsilent
    have hidle : s.transmit.active = false := by simpa using hbusy
    rw [icmpRequestPoll_sends now hrequested hopen hidle]
    unfold sendEchoRequest
    extract_lets checksum buffer
    exact (Grants.write hidle buffer).trans (ipv4Begin_grants (s := { s with
      transmit := { s.transmit with buffer := buffer } }) hidle protocolIcmp r.destination icmpRequestMessageLength)

lemma ntpPoll_grants (n : Ntp) : Grants p s.transmit (pppNtpPoll p now n s).2.transmit := by
  by_cases hsilent : n.state = .requested → ntpLinkIsOpen p = true → s.transmit.active = true
  · exact .of_eq (ntpPoll_silent now hsilent)
  · push Not at hsilent
    obtain ⟨hrequested, hopen, hbusy⟩ := hsilent
    have hidle : s.transmit.active = false := by simpa using hbusy
    rw [ntpPoll_sends now hrequested hopen hidle]
    unfold sendNtpRequest
    extract_lets buffer
    exact (Grants.write hidle buffer).trans (udpBegin_grants (s := { s with
      transmit := { s.transmit with buffer := buffer } }) hidle ntpClientPort ntpServerPort p.peerAddress ntpPacketLength)

lemma dnsPoll_grants (d : Dns) : Grants p s.transmit (pppDnsPoll p now d s).2.transmit := by
  by_cases hsilent : d.state = .requested → linkIsOpen p = true → s.transmit.active = true
  · exact .of_eq (dnsPoll_silent now hsilent)
  · push Not at hsilent
    obtain ⟨hrequested, hopen, hbusy⟩ := hsilent
    have hidle : s.transmit.active = false := by simpa using hbusy
    rw [DnsNames.dnsPoll_sends p s now hrequested hopen hidle]
    unfold sendDnsQuery
    extract_lets packet buffer
    exact (Grants.write hidle buffer).trans (udpBegin_grants (s := { s with
      transmit := { s.transmit with buffer := buffer } }) hidle dnsClientPort dnsServerPort d.resolver
      (UInt16.ofNat packet.length))

/-- **The polls of the clients.** -/
theorem requestPolls_grants (s : IpLayer) :
    Grants p s.sender.transmit (Node.requestPolls p now s).sender.transmit := by
  unfold Node.requestPolls
  extract_lets icmp ntp dns
  exact ((icmpRequestPoll_grants now s.sender s.clients.icmp).trans (ntpPoll_grants now icmp.2 s.clients.ntp)).trans
    (dnsPoll_grants now ntp.2 s.clients.dns)

end Polls

/-! ### The frames of a run -/

/-- A frame that the poll of a phase has given to the encoder, and what it found. -/
structure Handed where
  phase : Phase
  frame : List UInt8
  /-- The receiver is enabled and the carrier there. -/
  lower : Bool
  /-- LCP is open on it. -/
  link : Bool
  /-- The peer is authenticated on it. -/
  network : Bool
  /-- IPCP is open. -/
  ip : Bool
  deriving DecidableEq, Repr

/-- The phase of the link admits the frames of the layer. -/
def Handed.gated (h : Handed) : Bool :=
  match h.phase with
  | .lcp => h.lower
  | .pap | .chap => h.link
  | .ipcp => h.network
  | .ipv4 => h.network && h.ip
  | .request => h.ip
  | .mailbox | .receive | .transmit => false

/-- A frame that a poll gives to the encoder here, with what it finds. -/
def given (l : Loop) (connected : Bool) (frame : List UInt8) : Handed where
  phase := l.phase
  frame := frame
  lower := l.stack.receive.enabled && connected
  link := linkUp connected l.stack.receive l.stack.lcp.state
  network := linkUp connected l.stack.receive l.stack.lcp.state && l.stack.authenticated
  ip := l.stack.ipcp.state = .opened

/-- The frame that a step gives to the encoder, if it does. -/
def handed (n : Node) (i : NodeInput) : List Handed :=
  if !n.loop.stack.transmit.active && (n.step i).loop.stack.transmit.active then
    [given n.loop i.connected (n.step i).loop.stack.transmit.frame]
  else []

/-- A step gives up the frame that the encoder has; a frame that ends does so in a poll of the encoder. -/
def aborted (n : Node) (i : NodeInput) : Bool :=
  n.loop.stack.transmit.active && !(n.step i).loop.stack.transmit.active &&
    (decide (n.loop.phase ≠ .transmit) || !i.connected)

/-- The main loop with the frames that the encoder was given, and how many of them it gave up. -/
structure Tx where
  node : Node
  handed : List Handed
  aborts : ℕ

namespace Tx

def step (x : Tx) (i : NodeInput) : Tx :=
  ⟨x.node.step i, x.handed ++ FrameStream.handed x.node i, x.aborts + (aborted x.node i).toNat⟩

def boot : Tx := ⟨Node.boot, [], 0⟩

def after (inputs : List NodeInput) : Tx := Run.run step boot inputs

lemma after_node (inputs : List NodeInput) : (after inputs).node = Node.after inputs := by
  have hrun : ∀ x : Tx, (Run.run step x inputs).node = Run.run Node.step x.node inputs := by
    induction inputs with
    | nil => exact fun _ => rfl
    | cons i inputs ih => exact fun x => ih (x.step i)
  exact hrun boot

end Tx

/-- No upload copies more than it has validated, over the buffers behind the credentials. -/
def Validates (n : Node) (i : NodeInput) : Prop :=
  n.loop.phase = .mailbox → copiesValidated n.loop.stack.credentials i.lower.command = true

instance (n : Node) (i : NodeInput) : Decidable (Validates n i) := by unfold Validates; infer_instance

/-! ### What a step does to the encoder -/

section Step

variable {n : Node} {i : NodeInput}

/-- Below IPv4 the step is that of the main loop. -/
lemma step_lower (hipv4 : n.loop.phase ≠ .ipv4) (hrequest : n.loop.phase ≠ .request) :
    (n.step i).loop = Asm.step n.loop i.lower := by
  unfold Node.step
  cases hphase : n.loop.phase with
  | ipv4 => exact absurd hphase hipv4
  | request => exact absurd hphase hrequest
  | mailbox => rfl
  | receive => rfl
  | lcp => rfl
  | pap => rfl
  | chap => rfl
  | ipcp => rfl
  | transmit => rfl

lemma step_ipv4 (hphase : n.loop.phase = .ipv4) : n.step i =
    n.withIpLayer .request (Network.pppIpv4Poll (n.loop.stack.ipUp i.connected) n.loop.stack.ipcp i.now n.ipLayer) := by
  unfold Node.step
  rw [hphase]

lemma step_request (hphase : n.loop.phase = .request) :
    n.step i = n.withIpLayer .transmit (Node.requestPolls n.loop.stack.ipcp i.now n.ipLayer) := by
  unfold Node.step
  rw [hphase]

/-- From IPv4 on the polls grant. -/
lemma step_grants (hphase : n.loop.phase = .ipv4 ∨ n.loop.phase = .request) :
    Grants n.loop.stack.ipcp n.loop.stack.transmit (n.step i).loop.stack.transmit := by
  rcases hphase with hipv4 | hrequest
  · rw [step_ipv4 hipv4]
    exact ipv4Poll_grants i.now _ n.ipLayer
  · rw [step_request hrequest]
    exact requestPolls_grants i.now n.ipLayer

/-- Every poll but that of the encoder leaves the TX ring alone. -/
lemma step_queued (hphase : n.loop.phase ≠ .transmit) : (n.step i).loop.queued = n.loop.queued := by
  by_cases hipv4 : n.loop.phase = .ipv4
  · rw [step_ipv4 hipv4]
    rfl
  by_cases hrequest : n.loop.phase = .request
  · rw [step_request hrequest]
    rfl
  · rw [step_lower hipv4 hrequest, step_of_ne i.lower hphase]

lemma mailboxPoll_kept (now : UInt32) (s : Stack) {command : Command}
    (hcopies : copiesValidated s.credentials command = true) :
    (modemMailboxPoll now s command).transmit = s.transmit ∨
      (modemMailboxPoll now s command).transmit.active = false := by
  cases command with
  | peerIdSet arguments b overrun => exact Or.inl (upload_transmit s _ overrun hcopies)
  | passwordSet arguments b overrun => exact Or.inl (upload_transmit s _ overrun hcopies)
  | selfTest left => exact Or.inr rfl
  | other => exact Or.inl rfl
  | receiveStart => exact Or.inl rfl
  | receiveStop => exact Or.inl rfl
  | pppOpen => exact Or.inl rfl
  | pppClose => exact Or.inl rfl
  | credentialsClear => exact Or.inl rfl

/-- A busy encoder is left alone, or it is aborted. -/
lemma step_busy (hactive : n.loop.stack.transmit.active = true) (hphase : n.loop.phase ≠ .transmit)
    (hvalidates : Validates n i) :
    (n.step i).loop.stack.transmit = n.loop.stack.transmit ∨ (n.step i).loop.stack.transmit.active = false := by
  have hplain {t t' : Transmit} (h : Plain t t') (hbusy : t.active = true) : t' = t ∨ t'.active = false := by
    rcases h.busy hbusy with hkept | haborted
    · exact Or.inl hkept
    · rw [haborted]
      exact Or.inr (abort_inactive t)
  by_cases hupper : n.loop.phase = .ipv4 ∨ n.loop.phase = .request
  · exact Or.inl ((step_grants hupper).busy hactive)
  rw [not_or] at hupper
  rw [step_lower hupper.1 hupper.2, step_of_ne i.lower hphase]
  dsimp only
  cases hl : n.loop.phase with
  | mailbox => exact mailboxPoll_kept i.now (n.loop.stack.found i.lower) (hvalidates hl)
  | receive => exact Or.inl rfl
  | lcp =>
    exact hplain (pollLayer_plain (n.loop.stack.found i.lower) i.lower (show plainPhase .lcp = true from rfl)) hactive
  | pap => exact Or.inl ((papPoll_gives i.connected i.now _ (n.loop.stack.found i.lower).papLayer).busy hactive)
  | chap => exact Or.inl ((chapPoll_gives i.connected _ (n.loop.stack.found i.lower).chapLayer).busy hactive)
  | ipcp =>
    exact hplain (pollLayer_plain (n.loop.stack.found i.lower) i.lower (show plainPhase .ipcp = true from rfl)) hactive
  | ipv4 => exact absurd hl hupper.1
  | request => exact absurd hl hupper.2
  | transmit => exact absurd hl hphase

/-- A poll that makes the encoder busy has given it a whole frame. -/
lemma step_whole (hidle : n.loop.stack.transmit.active = false)
    (hactive : (n.step i).loop.stack.transmit.active = true) :
    TransmitRefinement.Sound (n.step i).loop.stack.transmit ∧ remaining (n.step i).loop.stack.transmit =
      Framing.encodeAsync (n.step i).loop.stack.transmit.frame Framing.defaultAccm := by
  by_cases hupper : n.loop.phase = .ipv4 ∨ n.loop.phase = .request
  · exact (step_grants hupper).fresh hidle hactive
  · rw [not_or] at hupper
    rw [step_lower hupper.1 hupper.2] at hactive ⊢
    exact step_fresh hidle hactive

/-! ### The gates -/

/-- A layer that goes down gives nothing to an idle encoder. -/
lemma ipcpPoll_unavailable (connected : Bool) (now : UInt32) (state : LcpState) (authenticated : Bool) {s : IpcpLayer}
    (hidle : s.transmit.active = false) (hdown : (linkUp connected s.receive state && authenticated) = false) :
    (pppIpcpPoll connected now state authenticated s).transmit.active = false := by
  unfold pppIpcpPoll
  rw [hdown, if_neg Bool.false_ne_true]
  unfold IpcpLayer.lowerDown
  split
  · exact hidle
  · dsimp only
    split
    · exact hidle
    · exact abort_inactive _

/-- Below IPv4, a poll whose gate is closed leaves an idle encoder idle. -/
lemma lower_silent {l : Loop} {i : Input} (hidle : l.stack.transmit.active = false) (hipv4 : l.phase ≠ .ipv4)
    (hrequest : l.phase ≠ .request) {frame : List UInt8} (hclosed : (given l i.connected frame).gated = false) :
    (Asm.step l i).stack.transmit.active = false := by
  have hidle' : (l.stack.found i).transmit.active = false := hidle
  by_cases hphase : l.phase = .transmit
  · have hpoll := congrArg (fun polled => polled.1.active) (poll_of_inactive hidle i.connected i.room)
    unfold Asm.step pollLayer
    rw [hphase]
    exact hpoll.trans hidle
  rw [step_of_ne i hphase]
  unfold given Handed.gated at hclosed
  dsimp only at hclosed ⊢
  cases hl : l.phase with
  | transmit => exact absurd hl hphase
  | ipv4 => exact absurd hl hipv4
  | request => exact absurd hl hrequest
  | mailbox => exact mailboxPoll_idle i.now hidle' i.command
  | receive => exact hidle
  | lcp =>
    rw [hl] at hclosed
    dsimp only at hclosed
    have hdown : (!(l.stack.found i).lcpLayer.receive.enabled || !i.connected) = true := by
      rw [← Bool.not_and, Bool.not_eq_true']
      exact hclosed
    unfold pollLayer pppLcpPoll
    dsimp only
    rw [if_pos hdown]
    exact abort_inactive _
  | pap =>
    rw [hl] at hclosed
    unfold pollLayer pppPapPoll
    dsimp only
    rw [if_neg (Bool.not_eq_true _ ▸ hclosed)]
    exact (congrArg Transmit.active (papLowerDown_transmit _)).trans hidle
  | chap =>
    rw [hl] at hclosed
    unfold pollLayer pppChapPoll
    dsimp only
    rw [if_neg (Bool.not_eq_true _ ▸ hclosed)]
    exact (congrArg Transmit.active (chapLowerDown_transmit _)).trans hidle
  | ipcp =>
    rw [hl] at hclosed
    exact ipcpPoll_unavailable i.connected i.now _ _ (s := (l.stack.found i).ipcpLayer) hidle hclosed

/-- **A poll that gives a frame to the encoder** has found its gate open. -/
theorem handed_gated (n : Node) (i : NodeInput) : ∀ h ∈ handed n i, h.gated = true := by
  unfold handed
  split
  · rename_i hfresh
    rw [Bool.and_eq_true, Bool.not_eq_true'] at hfresh
    obtain ⟨hidle, hactive⟩ := hfresh
    intro h hmem
    rw [List.mem_singleton] at hmem
    subst hmem
    by_contra hclosed
    rw [Bool.not_eq_true] at hclosed
    by_cases hipv4 : n.loop.phase = .ipv4
    · -- On a link that is down the poll is silent.
      unfold given Handed.gated at hclosed
      rw [hipv4] at hclosed
      have hdown : n.loop.stack.ipUp i.connected = false := hclosed
      rw [step_ipv4 hipv4, hdown] at hactive
      have hsame : (n.withIpLayer .request (Network.pppIpv4Poll false n.loop.stack.ipcp i.now n.ipLayer)).loop.stack.transmit =
          n.loop.stack.transmit := ipv4Poll_down i.now n.ipLayer
      rw [hsame, hidle] at hactive
      cases hactive
    by_cases hrequest : n.loop.phase = .request
    · unfold given Handed.gated at hclosed
      rw [hrequest] at hclosed
      have hopened := (step_grants (i := i) (Or.inr hrequest)).opened hidle hactive
      exact absurd hopened (of_decide_eq_false hclosed)
    · have hsilent : (Asm.step n.loop i.lower).stack.transmit.active = false := lower_silent hidle hipv4 hrequest hclosed
      rw [step_lower hipv4 hrequest, hsilent] at hactive
      cases hactive
  · intro h hmem
    cases hmem

/-! ### The stream -/

/-- What is left of the frame in the encoder. -/
def rest (t : Transmit) : List UInt8 := if t.active then remaining t else []

/-- The encoder is the sender of a stream of encoded frames. -/
structure Sends (x : Tx) : Prop where
  sound : x.node.loop.stack.transmit.active = true → TransmitRefinement.Sound x.node.loop.stack.transmit
  sending : ∃ m ≤ x.aborts, Sending m (x.handed.map fun h => Framing.encodeAsync h.frame Framing.defaultAccm)
    x.node.loop.queued (rest x.node.loop.stack.transmit) x.node.loop.stack.transmit.active

variable {x : Tx}

lemma handed_of_active (hactive : n.loop.stack.transmit.active = true) : handed n i = [] := by
  unfold handed
  rw [hactive]
  rfl

lemma aborted_of_idle (hidle : n.loop.stack.transmit.active = false) : aborted n i = false := by
  unfold aborted
  rw [hidle]
  rfl

/-- The poll of an idle encoder puts nothing into the TX ring. -/
lemma queued_of_idle (hidle : n.loop.stack.transmit.active = false) : (n.step i).loop.queued = n.loop.queued := by
  by_cases hphase : n.loop.phase = .transmit
  · have hsame : (pollLayer n.loop.phase (n.loop.stack.found i.lower) i.lower).transmit = n.loop.stack.transmit := by
      rw [hphase]
      rfl
    rw [step_lower (by simp [hphase]) (by simp [hphase])]
    unfold Asm.step
    dsimp only
    rw [if_pos hphase, hsame, poll_of_inactive hidle]
    exact List.append_nil _
  · exact step_queued hphase

/-- An idle encoder is given a frame, or nothing happens. -/
lemma sends_of_idle (hidle : x.node.loop.stack.transmit.active = false) (h : Sends x) : Sends (x.step i) := by
  obtain ⟨m, hm, hsending⟩ := h.sending
  have hrest : rest x.node.loop.stack.transmit = [] := by
    unfold rest
    rw [hidle]
    rfl
  have hqueued : (x.node.step i).loop.queued = x.node.loop.queued := queued_of_idle hidle
  rw [hidle, hrest] at hsending
  have haborts := aborted_of_idle (i := i) hidle
  unfold Tx.step
  rw [haborts]
  cases hactive : (x.node.step i).loop.stack.transmit.active with
  | false =>
    have hnone : handed x.node i = [] := by
      unfold handed
      rw [hactive, Bool.and_false]
      rfl
    refine ⟨fun hbusy => ?_, m, hm, ?_⟩
    · exact absurd (hactive.symm.trans hbusy) Bool.false_ne_true
    · unfold rest
      rw [hnone, List.append_nil, hqueued, hactive]
      exact hsending
  | true =>
    obtain ⟨hsound, hremaining⟩ := step_whole hidle hactive
    refine ⟨fun _ => hsound, m, hm, ?_⟩
    have hhanded : (handed x.node i).map (fun h => Framing.encodeAsync h.frame Framing.defaultAccm) =
        [Framing.encodeAsync (x.node.step i).loop.stack.transmit.frame Framing.defaultAccm] := by
      unfold handed
      rw [hidle, hactive]
      rfl
    unfold rest
    dsimp only
    rw [List.map_append, hhanded, hqueued, hactive, if_pos rfl, hremaining]
    exact hsending.begin _

/-- The poll of the encoder. -/
lemma step_transmit (hphase : n.loop.phase = .transmit) :
    (n.step i).loop.stack.transmit = (pppTransmitPoll i.connected i.room n.loop.stack.transmit).1 ∧
      (n.step i).loop.queued = n.loop.queued ++ (pppTransmitPoll i.connected i.room n.loop.stack.transmit).2 := by
  rw [step_lower (by simp [hphase]) (by simp [hphase])]
  unfold Asm.step pollLayer
  rw [hphase]
  exact ⟨rfl, rfl⟩

/-- A busy encoder writes some of its octets, in a poll of the encoder that finds the carrier. -/
lemma sends_of_transmit (hactive : x.node.loop.stack.transmit.active = true) (hphase : x.node.loop.phase = .transmit)
    (hconnected : i.connected = true) (h : Sends x) : Sends (x.step i) := by
  obtain ⟨m, hm, hsending⟩ := h.sending
  obtain ⟨hafter, hremaining⟩ := fill_remaining (h.sound hactive) transmitFillBudget i.room
  have hpoll : pppTransmitPoll i.connected i.room x.node.loop.stack.transmit =
      fill transmitFillBudget i.room x.node.loop.stack.transmit := by
    unfold pppTransmitPoll
    rw [hconnected, hactive]
    rfl
  obtain ⟨htransmit, hqueued⟩ := step_transmit (i := i) hphase
  rw [hpoll] at htransmit hqueued
  have haborts : aborted x.node i = false := by
    unfold aborted
    rw [hphase, hconnected]
    simp
  have hrest : rest x.node.loop.stack.transmit = remaining x.node.loop.stack.transmit := by
    unfold rest
    rw [if_pos hactive]
  rw [hactive, hrest] at hsending
  have hadvanced := hsending.advance hremaining
  unfold Tx.step
  rw [haborts, handed_of_active hactive, List.append_nil]
  refine ⟨fun _ => htransmit ▸ hafter, m, hm, ?_⟩
  dsimp only
  unfold rest
  rw [hqueued, htransmit]
  cases hbusy : (fill transmitFillBudget i.room x.node.loop.stack.transmit).1.active with
  | true =>
    rw [if_pos rfl]
    exact hadvanced
  | false =>
    -- The closing flag is written, and nothing remains.
    rw [remaining_of_inactive hafter hbusy] at hadvanced
    rw [if_neg Bool.false_ne_true]
    exact hadvanced.finish

/-- A busy encoder that is aborted, or left alone. -/
lemma sends_of_kept (hactive : x.node.loop.stack.transmit.active = true)
    (hkept : (x.node.step i).loop.stack.transmit = x.node.loop.stack.transmit ∨
      (x.node.step i).loop.stack.transmit.active = false)
    (hqueued : (x.node.step i).loop.queued = x.node.loop.queued)
    (hends : (decide (x.node.loop.phase ≠ .transmit) || !i.connected) = true) (h : Sends x) : Sends (x.step i) := by
  obtain ⟨m, hm, hsending⟩ := h.sending
  unfold Tx.step
  rw [handed_of_active hactive, List.append_nil]
  unfold aborted
  rw [hends, hactive]
  rcases hkept with hsame | hidle
  · rw [hsame, hactive]
    refine ⟨?_, m, hm, ?_⟩
    · rw [hsame]
      exact h.sound
    · rw [hsame, hqueued]
      exact hsending
  · rw [hidle]
    refine ⟨fun hbusy => absurd (hidle.symm.trans hbusy) Bool.false_ne_true, m + 1, Nat.succ_le_succ hm, ?_⟩
    have hrest : rest (x.node.step i).loop.stack.transmit = [] := by
      unfold rest
      rw [hidle]
      rfl
    rw [hactive] at hsending
    rw [hrest, hidle, hqueued]
    exact hsending.abort

/-- **The step lemma.** -/
theorem step_sends (hvalidates : Validates x.node i) (h : Sends x) : Sends (x.step i) := by
  by_cases hidle : x.node.loop.stack.transmit.active = false
  · exact sends_of_idle hidle h
  rw [Bool.not_eq_false] at hidle
  by_cases hphase : x.node.loop.phase = .transmit
  · by_cases hconnected : i.connected = true
    · exact sends_of_transmit hidle hphase hconnected h
    · rw [Bool.not_eq_true] at hconnected
      have hpoll : pppTransmitPoll i.connected i.room x.node.loop.stack.transmit =
          (pppTransmitAbort x.node.loop.stack.transmit, []) := by
        unfold pppTransmitPoll
        rw [hconnected]
        rfl
      obtain ⟨htransmit, hqueued⟩ := step_transmit (i := i) hphase
      rw [hpoll] at htransmit hqueued
      refine sends_of_kept hidle (Or.inr ?_) ?_ (by rw [hconnected]; simp) h
      · rw [htransmit]
        exact abort_inactive _
      · rw [hqueued]
        exact List.append_nil _
  · exact sends_of_kept hidle (step_busy hidle hphase hvalidates) (step_queued hphase) (by simp [hphase]) h

end Step

/-! ### The run -/

section Runs

variable {inputs : List NodeInput}

lemma sends_boot : Sends Tx.boot := ⟨fun hactive => absurd hactive Bool.false_ne_true, 0, Nat.le_refl _, Sending.start⟩

/-- What holds of a run of the main loop. -/
structure Streaming (x : Tx) : Prop extends Sends x where
  gated : ∀ h ∈ x.handed, h.gated = true

lemma streaming_run {x : Tx} (h : Streaming x) (hvalidates : Run.Along Node.step Validates x.node inputs) :
    Streaming (Run.run Tx.step x inputs) := by
  induction inputs generalizing x with
  | nil => exact h
  | cons i inputs ih =>
    refine ih ⟨step_sends hvalidates.1 h.toSends, fun handed hmem => ?_⟩ hvalidates.2
    rcases List.mem_append.mp hmem with hbefore | hnew
    · exact h.gated handed hbefore
    · exact handed_gated x.node i handed hnew

lemma streaming_after (hvalidates : Run.Along Node.step Validates Node.boot inputs) : Streaming (Tx.after inputs) :=
  streaming_run ⟨sends_boot, fun _ hmem => absurd hmem List.not_mem_nil⟩ hvalidates

/-- **The octets that go to the TX ring are a stream of frames**, from boot on and as long as no upload overruns: each
frame that was given to the encoder is there as the reference encodes it, or cut off, no more of them than were given up
and the one that is under way; and each was given by a poll that found its phase of the link. -/
theorem frames_stream (hvalidates : Run.Along Node.step Validates Node.boot inputs) :
    (∃ m ≤ (Tx.after inputs).aborts + (Node.after inputs).loop.stack.transmit.active.toNat,
      Streams m ((Tx.after inputs).handed.map fun h => Framing.encodeAsync h.frame Framing.defaultAccm)
        (Node.after inputs).loop.queued) ∧
      ∀ h ∈ (Tx.after inputs).handed, h.gated = true := by
  obtain ⟨m, hm, hsending⟩ := (streaming_after hvalidates).sending
  rw [Tx.after_node] at hsending
  exact ⟨⟨_, Nat.add_le_add_right hm _, hsending.streams⟩, (streaming_after hvalidates).gated⟩

end Runs

/-- Two turns of the loop: the receiver is started, and the peer acknowledges the Configure-Request. -/
def acknowledged : List NodeInput :=
  List.replicate 9 { command := .lower .receiveStart, room := 100 } ++
    List.replicate 9
      { ring := Framing.encodeAsync [0xff, 0x03, 0xc0, 0x21, 0x02, 0x00, 0x00, 0x0a, 0x05, 0x06, 0x4e, 0x44, 0x4d, 0x24]
          Framing.defaultAccm
        room := 100 }

set_option maxRecDepth 100000 in
theorem frames_stream_acknowledged :
    (∃ m ≤ (Tx.after acknowledged).aborts + (Node.after acknowledged).loop.stack.transmit.active.toNat,
      Streams m ((Tx.after acknowledged).handed.map fun h => Framing.encodeAsync h.frame Framing.defaultAccm)
        (Node.after acknowledged).loop.queued) ∧
      ∀ h ∈ (Tx.after acknowledged).handed, h.gated = true :=
  frames_stream (by decide +kernel)

end SnesModem.Asm.FrameStream
