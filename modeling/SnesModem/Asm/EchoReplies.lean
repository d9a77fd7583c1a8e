import SnesModem.Asm.EchoReply
import SnesModem.Asm.FrameBounds
import SnesModem.Asm.FrameRetention
import SnesModem.Asm.Ipv4Refinement
import SnesModem.Rust.Framing

/-!
# Each accepted Echo-Request has its reply

* `poll_settles`: a poll of IPv4 answers the request that it accepts or that is pending, keeps it while the encoder is
  busy, or cancels it;
* `History`: the requests that were accepted, in the order of their acceptance, and the replies given to the encoder;
* `echo_replies`: as long as the frame of a pending reply stays in the buffer, each accepted request has at most one
  reply, and has it at the first poll that finds the encoder idle.
-/

namespace SnesModem.Asm.EchoReplies

open SnesModem.Lib SnesModem.Lib.Octets SnesModem.Asm.Network SnesModem.Asm.FrameBounds SnesModem.Rust
open SnesModem.Asm.FrameRetention (PapSpares ChapSpares sparingCommand papPoll_spares chapPoll_spares lcpPoll_spares)

/-! ### One poll of IPv4 -/

/-- The request in the frame buffer that `parse` accepts. -/
def request (p : Ipcp) (s : IpLayer) : Option EchoRequest :=
  match pppIpv4ReceiveFrame s.receive.decoder s.ipv4 with
  | (_, some _) => none
  | (v, none) =>
    if v.destination = p.localAddress ∧ v.fragmented = false ∧ v.protocol = protocolIcmp then
      echoRequestOf s.receive.decoder.frameBuffer v
    else none

/-- The request that a poll accepts, if there is one. -/
def accepts (up : Bool) (p : Ipcp) (s : IpLayer) : Option EchoRequest :=
  if s.owned && up && !s.icmp.replyPending then request p s else none

/-- The frame of the request is in the buffer, and the variables of IPv4 and ICMP are those of its message. -/
structure Keeps (e : EchoRequest) (s : IpLayer) : Prop where
  owned : s.owned = true
  held : Held e s.receive.decoder.frameBuffer s.ipv4 s.icmp

/-- What a poll does with the request that is to be answered, if there is one. -/
structure Settles (up : Bool) (wanted : Option EchoRequest) (s s' : IpLayer) : Prop where
  answered : up = true → s.sender.transmit.active = false → ∀ e ∈ wanted,
    s'.sender.transmit.active = true ∧ RepliesTo e s'.sender.transmit.frame
  silent : (up && !s.sender.transmit.active && wanted.isSome) = false → s'.sender.transmit = s.sender.transmit
  pending : s'.icmp.replyPending = (up && s.sender.transmit.active && wanted.isSome)
  keeps : up = true → s.sender.transmit.active = true → ∀ e ∈ wanted, Keeps e s'

section Poll

variable {up : Bool} {p : Ipcp} {now : UInt32} {s : IpLayer} {e : EchoRequest}

/-- A poll that answers nothing. -/
lemma settles_none {s' : IpLayer} (hpending : s'.icmp.replyPending = false) (hsender : s'.sender = s.sender) :
    Settles up none s s' where
  answered _ _ e he := by contradiction
  silent _ := by rw [hsender]
  pending := by simpa using hpending
  keeps _ _ e he := by contradiction

/-- An encoder that is idle is given the reply. -/
lemma settles_answered {s' : IpLayer} (hidle : s.sender.transmit.active = false) (hpending : s'.icmp.replyPending = false)
    (hactive : s'.sender.transmit.active = true) (hanswers : RepliesTo e s'.sender.transmit.frame) :
    Settles true (some e) s s' where
  answered _ _ e' he := by
    obtain rfl := Option.some.inj he
    exact ⟨hactive, hanswers⟩
  silent h := by simp [hidle] at h
  pending := by simpa [hidle] using hpending
  keeps _ hbusy := by
    rw [hidle] at hbusy
    contradiction

/-- An encoder that is busy leaves the request pending. -/
lemma settles_kept {s' : IpLayer} (hbusy : s.sender.transmit.active = true) (hpending : s'.icmp.replyPending = true)
    (hsender : s'.sender = s.sender) (hkeeps : Keeps e s') : Settles true (some e) s s' where
  answered _ hidle := by
    rw [hbusy] at hidle
    contradiction
  silent _ := by rw [hsender]
  pending := by simpa [hbusy] using hpending
  keeps _ _ e' he := by
    obtain rfl := Option.some.inj he
    exact hkeeps

/-- The payload of a packet that is accepted fits into one that is sent. -/
lemma receiveFrame_fits {d : Decoder} {v : Ipv4} (hfits : Fits d) (haccepted : (pppIpv4ReceiveFrame d v).2 = none) :
    (pppIpv4ReceiveFrame d v).1.payloadLength ≤ ipv4MaximumPayloadLength := by
  have hprotocol : d.lastProtocol = protocolIp := by
    by_contra hother
    unfold pppIpv4ReceiveFrame at haccepted
    rw [if_pos hother] at haccepted
    cases haccepted
  obtain ⟨hvalid, hreceived⟩ := Ipv4Refinement.receiveFrame_iff (v := v) hprotocol
  obtain ⟨-, -, hheader, -, hwithin, -⟩ := Ipv4Refinement.valid_iff.mp (hvalid.mp haccepted)
  have hlast := hfits.lastFrameLength
  rw [UInt16.le_iff_toNat_le, (hreceived haccepted).payload]
  show _ ≤ 1480
  omega

lemma parse_of_none (hnone : request p s = none) (hpending : s.icmp.replyPending = false) :
    Settles up none s (s.parse p now) := by
  unfold request at hnone
  unfold IpLayer.parse
  generalize pppIpv4ReceiveFrame s.receive.decoder s.ipv4 = parsed at hnone ⊢
  obtain ⟨v, error⟩ := parsed
  cases error with
  | some error => exact settles_none hpending rfl
  | none =>
    dsimp only at hnone ⊢
    split
    · exact settles_none hpending rfl
    rename_i hlocal
    split
    · exact settles_none hpending rfl
    rename_i hwhole
    split
    · rename_i hicmp
      rw [if_pos ⟨not_not.mp hlocal, by simpa using hwhole, hicmp⟩] at hnone
      obtain ⟨hpending', hsender⟩ :=
        icmpReceive_of_none p now s.icmp s.clients.icmp s.sender hnone
      unfold IpLayer.receiveIcmp
      dsimp only
      generalize pppIcmpReceive p now s.receive.decoder.frameBuffer v s.icmp s.clients.icmp s.sender = received
        at hpending' hsender ⊢
      obtain ⟨icmp, r, sender, carry⟩ := received
      obtain ⟨rfl, rfl⟩ := Prod.mk.inj hsender
      exact settles_none hpending' rfl
    split
    · exact settles_none hpending rfl
    · exact settles_none hpending rfl

lemma parse_of_some (hrequest : request p s = some e) (hfits : Fits s.receive.decoder) (howned : s.owned = true)
    (hopened : p.state = .opened) (hlocal : p.flags.localValid = true) :
    Settles true (some e) s (s.parse p now) := by
  have haccepted := receiveFrame_fits (v := s.ipv4) hfits
  unfold request at hrequest
  unfold IpLayer.parse
  generalize pppIpv4ReceiveFrame s.receive.decoder s.ipv4 = parsed at hrequest haccepted ⊢
  obtain ⟨v, error⟩ := parsed
  cases error with
  | some error => contradiction
  | none =>
    dsimp only at hrequest ⊢
    split at hrequest
    · rename_i hmine
      obtain ⟨hdestination, hwhole, hicmp⟩ := hmine
      obtain ⟨c, hcleared, hoffset, hreceived⟩ := icmpReceive_of_some p now s.icmp s.clients.icmp s.sender hrequest
      rw [if_neg (not_not.mpr hdestination), if_neg (by simp [hwhole]), if_pos hicmp]
      unfold IpLayer.receiveIcmp
      dsimp only
      rw [hreceived]
      cases hactive : s.sender.transmit.active with
      | true =>
        have hheld : Held e s.receive.decoder.frameBuffer v { c with replyPending := true } :=
          held_of_echoRequestOf hrequest (haccepted rfl) hoffset
        exact settles_kept hactive rfl rfl ⟨howned, hheld⟩
      | false =>
        obtain ⟨s', hbuilt, hgiven, hanswers⟩ := buildEchoReply_answers
          (held_of_echoRequestOf hrequest (haccepted rfl) hoffset) hopened hlocal hactive
        simp only [Bool.false_eq_true, if_false, hbuilt]
        exact settles_answered hactive rfl hgiven hanswers
    · contradiction

lemma retry_settles (hpending : s.icmp.replyPending = true) (hkeeps : Keeps e s) (hopened : p.state = .opened)
    (hlocal : p.flags.localValid = true) : Settles true (some e) s (s.retry p) := by
  unfold IpLayer.retry pppIcmpRetryPending
  rw [hpending]
  cases hactive : s.sender.transmit.active with
  | true => exact settles_kept hactive hpending rfl hkeeps
  | false =>
    obtain ⟨s', hbuilt, hgiven, hanswers⟩ := buildEchoReply_answers hkeeps.held hopened hlocal hactive
    simp only [Bool.not_true, Bool.false_eq_true, if_false, hbuilt]
    exact settles_answered hactive rfl hgiven hanswers

/-- **A poll of IPv4** settles the request that is pending or accepted. -/
theorem poll_settles {owed : Option EchoRequest} (hfits : Fits s.receive.decoder)
    (hpending : s.icmp.replyPending = owed.isSome) (hkeeps : ∀ e ∈ owed, Keeps e s)
    (hopened : up = true → p.state = .opened)
    (hlocal : up = true → (owed <|> accepts up p s).isSome = true → p.flags.localValid = true) :
    Settles up (owed <|> accepts up p s) s (Network.pppIpv4Poll up p now s) := by
  unfold accepts at hlocal ⊢
  unfold Network.pppIpv4Poll
  cases howned : s.owned with
  | false =>
    have hnone : owed = none := by
      cases howed : owed with
      | none => rfl
      | some e =>
        have h := (hkeeps e howed).owned
        rw [howned] at h
        contradiction
    subst hnone
    exact settles_none hpending rfl
  | true =>
    rw [howned] at hlocal
    cases up with
    | false =>
      refine ⟨fun h => by contradiction, fun _ => rfl, rfl, fun h => by contradiction⟩
    | true =>
      simp only [Bool.not_true, Bool.false_eq_true, if_false]
      cases howed : owed with
      | some e =>
        rw [howed] at hpending hlocal
        rw [hpending]
        exact retry_settles hpending (hkeeps e howed) (hopened rfl) (hlocal rfl rfl)
      | none =>
        rw [howed] at hpending hlocal
        rw [hpending]
        simp only [Option.isSome_none, Bool.false_eq_true, if_false, Bool.not_false, Bool.and_self, if_true] at hlocal ⊢
        cases hrequest : request p s with
        | none => exact parse_of_none hrequest hpending
        | some e => exact parse_of_some hrequest hfits howned (hopened rfl) (hlocal trivial (by simp [hpending, hrequest]))

end Poll

/-! ### Runs -/

/-- The request that the next poll accepts. -/
def acceptedBy (n : Node) (i : NodeInput) : Option EchoRequest :=
  if n.loop.phase = .ipv4 then accepts (n.loop.stack.ipUp i.connected) n.loop.stack.ipcp n.ipLayer else none

/-- The node, with what has become of the requests. -/
structure History where
  node : Node
  /-- The request that is accepted and neither answered nor cancelled. -/
  owed : Option EchoRequest
  accepted : List EchoRequest
  /-- The frames that the polls of IPv4 have given to the encoder. -/
  replies : List (List UInt8)

namespace History

def start : History := ⟨Node.boot, none, [], []⟩

/-- The link is in the network phase, as the poll finds it. -/
def up (h : History) (i : NodeInput) : Bool := h.node.loop.stack.ipUp i.connected

def busy (h : History) : Bool := h.node.loop.stack.transmit.active

/-- The request that the poll is to answer. -/
def wanted (h : History) (i : NodeInput) : Option EchoRequest := h.owed <|> acceptedBy h.node i

/-- The frame that a poll of IPv4 gives to the encoder. -/
def gives (h : History) (i : NodeInput) : Option (List UInt8) :=
  let t := (h.node.step i).loop.stack.transmit
  if h.node.loop.phase = .ipv4 ∧ h.busy = false ∧ t.active = true then some t.frame else none

/-- One poll.  A request is owed until a poll of IPv4 that finds the encoder idle, or the link out of the network phase.
-/
def step (h : History) (i : NodeInput) : History where
  node := h.node.step i
  owed := if h.node.loop.phase = .ipv4 then (if h.up i && h.busy then h.wanted i else none) else h.owed
  accepted := h.accepted ++ (acceptedBy h.node i).toList
  replies := h.replies ++ (h.gives i).toList

/-- The history of a run from boot. -/
def after (inputs : List NodeInput) : History := Run.run step start inputs

end History

/-- Each accepted request but the one that is owed has one reply or none, and there are no other replies. -/
def Account (accepted : List EchoRequest) (owed : Option EchoRequest) (replies : List (List UInt8)) : Prop :=
  ∃ fates : List (EchoRequest × Option (List UInt8)),
    accepted = fates.map Prod.fst ++ owed.toList ∧ replies = fates.filterMap Prod.snd ∧
      ∀ fate ∈ fates, ∀ frame ∈ fate.2, RepliesTo fate.1 frame

/-- **What holds of every state**: a reply is pending exactly if a request is owed, whose frame is in the buffer, and
the replies are those to the accepted requests. -/
structure Served (h : History) : Prop where
  pending : h.node.upper.icmp.replyPending = h.owed.isSome
  keeps : ∀ e ∈ h.owed, Keeps e h.node.ipLayer
  account : Account h.accepted h.owed h.replies

/-- **A poll of IPv4 that finds the encoder idle** answers the request that is owed or accepted. -/
def Prompt (h : History) (i : NodeInput) : Prop :=
  h.node.loop.phase = .ipv4 → h.up i = true → h.busy = false → ∀ e ∈ h.wanted i,
    ∃ frame, (h.step i).replies = h.replies ++ [frame] ∧ RepliesTo e frame

/-- The poll leaves alone the frame of the request that is owed: the receiver is not restarted, the link stays in the
network phase up to the poll of IPv4, and no other layer releases the frame. -/
def Stays (n : Node) (i : NodeInput) : Prop :=
  match n.loop.phase with
  | .mailbox => sparingCommand .ipcp n.loop.stack i.lower.command = true
  | .receive => i.connected = true → n.loop.stack.receive.active = true
  | .lcp =>
    n.loop.stack.ipUp i.connected = true ∧
      if n.loop.stack.lcp.pendingAction = .none then n.loop.stack.lcp.administrativeOpen = true
      else n.loop.stack.transmit.active = true
  | .pap => PapSpares n.loop.stack.lcp n.loop.stack.pap
  | .chap => ChapSpares n.loop.stack.lcp n.loop.stack.chap
  | .ipcp =>
    n.loop.stack.ipUp i.connected = true ∧
      (n.loop.stack.ipcp.pendingAction.usesFrame = true → n.loop.stack.transmit.active = true)
  | .ipv4 | .request | .transmit => True

/-- A self-test leaves no pending reply. -/
def Leaves (i : NodeInput) : Prop :=
  match i.command with
  | .lower (.selfTest _) => i.left.icmp.replyPending = false
  | _ => True

/-- What a step of a run must meet. -/
def Guard (n : Node) (i : NodeInput) : Prop :=
  (n.upper.icmp.replyPending = true → Stays n i) ∧
  (n.loop.phase = .mailbox → Leaves i) ∧
  (n.loop.phase = .ipv4 → n.loop.stack.ipUp i.connected = true →
    n.upper.icmp.replyPending = true ∨ (acceptedBy n i).isSome = true → n.loop.stack.ipcp.flags.localValid = true)

section Account

variable {accepted : List EchoRequest} {owed new : Option EchoRequest} {replies : List (List UInt8)} {e : EchoRequest}

/-- A request is accepted when none is owed. -/
lemma Account.accept (h : Account accepted owed replies) (hfree : owed.isSome = true → new = none) :
    Account (accepted ++ new.toList) (owed <|> new) replies := by
  obtain ⟨fates, haccepted, hreplies, hanswers⟩ := h
  refine ⟨fates, ?_, hreplies, hanswers⟩
  cases howed : owed with
  | some e =>
    rw [howed] at haccepted hfree
    rw [hfree rfl, haccepted]
    simp
  | none =>
    rw [howed] at haccepted
    rw [haccepted]
    simp

/-- The request that is owed is answered or cancelled. -/
lemma Account.close (h : Account accepted (some e) replies) {reply : Option (List UInt8)}
    (hreply : ∀ frame ∈ reply, RepliesTo e frame) : Account accepted none (replies ++ reply.toList) := by
  obtain ⟨fates, haccepted, hreplies, hanswers⟩ := h
  refine ⟨fates ++ [(e, reply)], ?_, ?_, ?_⟩
  · rw [haccepted]
    simp
  · rw [hreplies, List.filterMap_append]
    cases reply <;> rfl
  · intro fate hfate
    rcases List.mem_append.mp hfate with hbefore | hlast
    · exact hanswers fate hbefore
    · obtain rfl := List.mem_singleton.mp hlast
      exact hreply

end Account

section Step

variable {h : History} {i : NodeInput}

/-- **A poll of IPv4.** -/
lemma ipv4_step (hserved : Served h) (hfits : Fits h.node.loop.stack.receive.decoder) (hguard : Guard h.node i)
    (hphase : h.node.loop.phase = .ipv4) : Served (h.step i) ∧ Prompt h i := by
  have hstep : h.node.step i = h.node.withIpLayer .request
      (Network.pppIpv4Poll (h.up i) h.node.loop.stack.ipcp i.now h.node.ipLayer) := by
    unfold Node.step
    rw [hphase]
    rfl
  have haccepts : acceptedBy h.node i = accepts (h.up i) h.node.loop.stack.ipcp h.node.ipLayer := if_pos hphase
  have hfree : h.owed.isSome = true → acceptedBy h.node i = none := by
    intro howed
    have hpending : h.node.ipLayer.icmp.replyPending = true := hserved.pending.trans howed
    rw [haccepts]
    unfold accepts
    rw [hpending]
    simp
  have hsettles : Settles (h.up i) (h.wanted i) h.node.ipLayer
      (Network.pppIpv4Poll (h.up i) h.node.loop.stack.ipcp i.now h.node.ipLayer) := by
    unfold History.wanted
    rw [haccepts]
    refine poll_settles hfits hserved.pending hserved.keeps (fun hup => ?_) fun hup hwanted => hguard.2.2 hphase hup ?_
    · have hup' : h.node.loop.stack.ipUp i.connected = true := hup
      simp only [Stack.ipUp, Bool.and_eq_true, decide_eq_true_eq] at hup'
      exact hup'.2
    · rw [← haccepts] at hwanted
      rw [hserved.pending]
      cases howed : h.owed with
      | some e => exact Or.inl rfl
      | none =>
        rw [howed] at hwanted
        exact Or.inr hwanted
  generalize Network.pppIpv4Poll (h.up i) h.node.loop.stack.ipcp i.now h.node.ipLayer = s at hstep hsettles
  have haccount : Account (h.step i).accepted (h.wanted i) h.replies := hserved.account.accept hfree
  have howed : (h.step i).owed = if h.up i && h.busy then h.wanted i else none := if_pos hphase
  have hnode : (h.step i).node = h.node.withIpLayer .request s := hstep
  have hreplies : (h.step i).replies = h.replies ++ (h.gives i).toList := rfl
  have hgives : h.gives i =
      if h.busy = false ∧ s.sender.transmit.active = true then some s.sender.transmit.frame else none := by
    unfold History.gives
    rw [hstep, hphase]
    simp [Node.withIpLayer]
  have hpending : (h.step i).node.upper.icmp.replyPending = (h.up i && h.busy && (h.wanted i).isSome) := by
    rw [hnode]
    exact hsettles.pending
  have hanswered (hup : h.up i = true) (hidle : h.busy = false) (e : EchoRequest) (he : e ∈ h.wanted i) :
      h.gives i = some s.sender.transmit.frame ∧ RepliesTo e s.sender.transmit.frame := by
    obtain ⟨hactive, hanswers⟩ := hsettles.answered hup hidle e he
    exact ⟨hgives.trans (if_pos ⟨hidle, hactive⟩), hanswers⟩
  have hsilent (hnone : (h.up i && !h.busy && (h.wanted i).isSome) = false) : h.gives i = none := by
    rw [hgives, hsettles.silent hnone]
    refine if_neg fun hboth => ?_
    have hactive : h.busy = true := hboth.2
    rw [hboth.1] at hactive
    contradiction
  have hprompt : Prompt h i := by
    intro _ hup hidle e he
    obtain ⟨hgiven, hanswers⟩ := hanswered hup hidle e he
    exact ⟨_, by rw [hreplies, hgiven]; rfl, hanswers⟩
  refine ⟨?_, hprompt⟩
  by_cases hkept : (h.up i && h.busy) = true
  · -- The encoder is busy, and the request goes on waiting.
    obtain ⟨hup, hbusy⟩ := Bool.and_eq_true_iff.mp hkept
    rw [if_pos hkept] at howed
    rw [hsilent (by rw [hbusy]; simp)] at hreplies
    refine ⟨?_, ?_, ?_⟩
    · rw [hpending, howed, hkept, Bool.true_and]
    · rw [howed, hnode]
      exact hsettles.keeps hup hbusy
    · rw [hreplies, howed]
      simpa using haccount
  · -- It is answered or cancelled.
    rw [if_neg hkept] at howed
    rw [Bool.not_eq_true] at hkept
    refine ⟨?_, ?_, ?_⟩
    · rw [hpending, howed, hkept]
      rfl
    · rw [howed]
      intro e he
      contradiction
    · rw [howed, hreplies]
      cases hwanted : h.wanted i with
      | none =>
        rw [hwanted] at haccount
        rw [hsilent (by rw [hwanted]; simp)]
        simpa using haccount
      | some e =>
        rw [hwanted] at haccount
        refine haccount.close fun frame hframe => ?_
        by_cases hidle : h.up i = true ∧ h.busy = false
        · obtain ⟨hgiven, hanswers⟩ := hanswered hidle.1 hidle.2 e hwanted
          rw [hgiven] at hframe
          obtain rfl := Option.some.inj hframe
          exact hanswers
        · rw [hsilent (by cases hup : h.up i <;> cases hbusy : h.busy <;> simp_all)] at hframe
          contradiction

end Step

/-! ### The other polls -/

section Other

variable {n n' : Node} {i : NodeInput} {e : EchoRequest}

lemma Keeps.ready {s : IpLayer} (hkeeps : Keeps e s) : s.receive.frameReady = true :=
  (Bool.and_eq_true_iff.mp hkeeps.owned).1

lemma Keeps.protocol {s : IpLayer} (hkeeps : Keeps e s) : s.receive.decoder.lastProtocol = protocolIp := by
  have howned := hkeeps.owned
  unfold IpLayer.owned at howned
  rw [Bool.and_eq_true, decide_eq_true_eq] at howned
  exact howned.2

/-- The conditions of the network phase. -/
lemma of_ipUp {s : Stack} {connected : Bool} (hup : s.ipUp connected = true) :
    s.receive.enabled = true ∧ connected = true ∧ s.lcp.state = .opened ∧
      (linkUp connected s.receive s.lcp.state && s.authenticated) = true ∧ s.ipcp.state = .opened := by
  simp only [Stack.ipUp, Bool.and_eq_true, decide_eq_true_eq] at hup
  obtain ⟨⟨hlink, hauthenticated⟩, hopened⟩ := hup
  have hparts := hlink
  simp only [linkUp, Bool.and_eq_true, decide_eq_true_eq] at hparts
  exact ⟨hparts.1.1, hparts.1.2, hparts.2, Bool.and_eq_true_iff.mpr ⟨hlink, hauthenticated⟩, hopened⟩

lemma Keeps.of_same (hkeeps : Keeps e n.ipLayer) (hready : n'.loop.stack.receive.frameReady = true)
    (hdecoder : n'.loop.stack.receive.decoder = n.loop.stack.receive.decoder) (hipv4 : n'.upper.ipv4 = n.upper.ipv4)
    (hicmp : n'.upper.icmp = n.upper.icmp) : Keeps e n'.ipLayer := by
  have hprotocol : n.loop.stack.receive.decoder.lastProtocol = protocolIp := hkeeps.protocol
  have hheld := hkeeps.held
  refine ⟨?_, ?_⟩
  · unfold IpLayer.owned Node.ipLayer
    rw [hready, hdecoder, hprotocol]
    rfl
  · change Held e n'.loop.stack.receive.decoder.frameBuffer n'.upper.ipv4 n'.upper.icmp
    rw [hdecoder, hipv4, hicmp]
    exact hheld

/-- A command that spares the frame leaves the receiver alone. -/
lemma sparing_receive {s : Stack} (now : UInt32) {command : Command} (hsparing : sparingCommand .ipcp s command = true) :
    (modemMailboxPoll now s command).receive = s.receive := by
  have hupload (credentials : Credentials) {copies : Bool} (o : Overrun) (hcopies : copies = true) :
      (s.upload credentials copies o).receive = s.receive := by
    unfold Stack.upload
    rw [if_pos hcopies]
  cases command with
  | peerIdSet arguments b o => exact hupload _ o hsparing
  | passwordSet arguments b o => exact hupload _ o hsparing
  | receiveStart => contradiction
  | receiveStop => contradiction
  | selfTest left => contradiction
  | _ => rfl

/-- IPCP leaves an IP packet unless it gives up a frame of its own. -/
lemma ipcpPoll_keeps {s : IpcpLayer} (connected : Bool) (now : UInt32) (state : LcpState) (authenticated : Bool)
    (hup : (linkUp connected s.receive state && authenticated) = true) (hopened : s.ipcp.state = .opened)
    (hready : s.receive.frameReady = true) (hprotocol : s.receive.decoder.lastProtocol = protocolIp)
    (hspares : s.ipcp.pendingAction.usesFrame = true → s.transmit.active = true) :
    (pppIpcpPoll connected now state authenticated s).receive = s.receive := by
  have hserviced : (s.servicePending now).1.receive = s.receive := by
    by_cases hbusy : s.transmit.active = true
    · rw [ipcpServicePending_busy now s hbusy]
    · unfold IpcpLayer.servicePending
      split
      · rfl
      split
      · rfl
      · unfold IpcpLayer.sent
        rw [if_neg (mt hspares hbusy)]
  have hdispatch (s' : IpcpLayer) (hreceive : s'.receive = s.receive) : (s'.dispatchFrame now).receive = s.receive := by
    unfold IpcpLayer.dispatchFrame
    rw [hreceive, hprotocol, if_neg (by decide), if_pos rfl]
    exact hreceive
  have hservice : (s.service now).receive = s.receive := by
    unfold IpcpLayer.service
    generalize s.servicePending now = serviced at hserviced ⊢
    obtain ⟨s', carry⟩ := serviced
    cases carry with
    | true => exact hserviced
    | false =>
      dsimp only at hserviced ⊢
      rw [if_pos (by rw [hserviced, hready])]
      exact hdispatch s' hserviced
  unfold pppIpcpPoll
  rw [if_pos hup, hopened]
  exact hservice

/-- A command that is no self-test leaves the variables of IPv4 and ICMP alone. -/
lemma mailbox_upper (hcommand : ∀ left, i.command ≠ .lower (.selfTest left)) :
    (n.mailbox i).ipv4 = n.upper.ipv4 ∧ (n.mailbox i).icmp = n.upper.icmp := by
  unfold Node.mailbox
  split
  · rename_i left hleft
    exact absurd hleft (hcommand left)
  all_goals exact ⟨rfl, rfl⟩

/-- A self-test leaves no pending reply, and another command leaves it as it is. -/
lemma mailbox_pending (hleaves : Leaves i) (hpending : n.upper.icmp.replyPending = false) :
    (n.mailbox i).icmp.replyPending = false := by
  unfold Leaves at hleaves
  unfold Node.mailbox
  split
  · rename_i left hcommand
    rw [hcommand] at hleaves
    exact hleaves
  all_goals exact hpending

/-- **The poll of the mailbox** keeps a pending reply, and its frame, if the command spares it. -/
lemma mailbox_keeps (hat : n.loop.phase = .mailbox)
    (hspares : n.upper.icmp.replyPending = true → sparingCommand .ipcp n.loop.stack i.lower.command = true)
    (hleaves : Leaves i) :
    (n.mailbox i).icmp.replyPending = n.upper.icmp.replyPending ∧
      (n.upper.icmp.replyPending = true → Keeps e n.ipLayer →
        Keeps e (Node.mk (Asm.step n.loop i.lower) (n.mailbox i)).ipLayer) := by
  have hupper (hpending : n.upper.icmp.replyPending = true) :
      (n.mailbox i).ipv4 = n.upper.ipv4 ∧ (n.mailbox i).icmp = n.upper.icmp := by
    refine mailbox_upper fun left hcommand => ?_
    have hsparing := hspares hpending
    unfold NodeInput.lower at hsparing
    rw [hcommand] at hsparing
    contradiction
  refine ⟨?_, fun hpending hkeeps => ?_⟩
  · cases hpending : n.upper.icmp.replyPending with
    | true => rw [(hupper hpending).2, hpending]
    | false => exact mailbox_pending hleaves hpending
  · have hready : n.loop.stack.receive.frameReady = true := hkeeps.ready
    have hsame : (Asm.step n.loop i.lower).stack.receive = n.loop.stack.receive := by
      rw [step_at hat (by decide)]
      exact sparing_receive (s := n.loop.stack.found i.lower) i.lower.now (hspares hpending)
    obtain ⟨hipv4, hicmp⟩ := hupper hpending
    exact hkeeps.of_same (by rw [← hready, ← hsame]) (by rw [← hsame]) hipv4 hicmp

/-- **A poll of another layer** keeps what is pending, and its frame. -/
lemma other_step (hguard : Guard n i) (hphase : n.loop.phase ≠ .ipv4) :
    (n.step i).upper.icmp.replyPending = n.upper.icmp.replyPending ∧
      (n.upper.icmp.replyPending = true → Keeps e n.ipLayer → Keeps e (n.step i).ipLayer) := by
  obtain ⟨hstays, hleaves, -⟩ := hguard
  unfold Stays at hstays
  -- A poll that leaves the receiver and the variables of IPv4 and ICMP alone.
  have hsame {l : Loop} (hreceive : Keeps e n.ipLayer → n.upper.icmp.replyPending = true →
      l.stack.receive = n.loop.stack.receive) : n.upper.icmp.replyPending = true → Keeps e n.ipLayer →
        Keeps e (Node.mk l n.upper).ipLayer := by
    intro hpending hkeeps
    have h := hreceive hkeeps hpending
    have hready : n.loop.stack.receive.frameReady = true := hkeeps.ready
    exact hkeeps.of_same (by rw [h]; exact hready) (by rw [h]) rfl rfl
  unfold Node.step
  cases hat : n.loop.phase with
  | mailbox =>
    rw [hat] at hstays
    exact mailbox_keeps hat hstays (hleaves hat)
  | receive =>
    dsimp only
    rw [hat] at hstays
    refine ⟨rfl, fun hpending hkeeps => ?_⟩
    have hready : n.loop.stack.receive.frameReady = true := hkeeps.ready
    obtain ⟨hready', hdecoder, -⟩ := receivePoll_of_frameReady i.ring hready fun _ => hstays hpending
    refine hkeeps.of_same ?_ ?_ rfl rfl
    · dsimp only
      rw [step_at hat (by decide)]
      exact hready'
    · dsimp only
      rw [step_at hat (by decide)]
      exact hdecoder
  | lcp =>
    dsimp only
    rw [hat] at hstays
    refine ⟨rfl, hsame fun hkeeps hpending => ?_⟩
    obtain ⟨hup, hspares⟩ := hstays hpending
    obtain ⟨henabled, hconnected, hlcp, -⟩ := of_ipUp hup
    have hconnected' : i.lower.connected = true := hconnected
    have hprotocol : n.loop.stack.receive.decoder.lastProtocol = protocolIp := hkeeps.protocol
    have hupper : LcpLayer.knownUpperProtocol n.loop.stack.receive.decoder.lastProtocol = true := by
      rw [hprotocol]
      decide
    rw [step_at hat (by decide)]
    unfold pollLayer
    rw [hconnected']
    exact (lcpPoll_spares i.lower.now (n.loop.stack.found i.lower).lcpLayer henabled hupper hlcp hspares).1
  | pap =>
    dsimp only
    rw [hat] at hstays
    refine ⟨rfl, hsame fun hkeeps hpending => ?_⟩
    have hprotocol : n.loop.stack.receive.decoder.lastProtocol = protocolIp := hkeeps.protocol
    have hforeign : n.loop.stack.receive.decoder.lastProtocol ≠ protocolPap := by
      rw [hprotocol]
      decide
    rw [step_at hat (by decide)]
    exact papPoll_spares i.lower.now i.lower.connected (n.loop.stack.found i.lower).lcp
      (n.loop.stack.found i.lower).papLayer hforeign (hstays hpending)
  | chap =>
    dsimp only
    rw [hat] at hstays
    refine ⟨rfl, hsame fun hkeeps hpending => ?_⟩
    have hprotocol : n.loop.stack.receive.decoder.lastProtocol = protocolIp := hkeeps.protocol
    have hforeign : n.loop.stack.receive.decoder.lastProtocol ≠ protocolChap := by
      rw [hprotocol]
      decide
    rw [step_at hat (by decide)]
    exact chapPoll_spares i.lower.connected (n.loop.stack.found i.lower).lcp (n.loop.stack.found i.lower).chapLayer
      hforeign (hstays hpending)
  | ipcp =>
    dsimp only
    rw [hat] at hstays
    refine ⟨rfl, hsame fun hkeeps hpending => ?_⟩
    obtain ⟨hup, hspares⟩ := hstays hpending
    obtain ⟨-, -, -, hlink, hopened⟩ := of_ipUp hup
    have hready : n.loop.stack.receive.frameReady = true := hkeeps.ready
    rw [step_at hat (by decide)]
    exact ipcpPoll_keeps i.lower.connected i.lower.now _ _ hlink hopened hready hkeeps.protocol hspares
  | ipv4 => exact absurd hat hphase
  | request => exact ⟨rfl, fun _ hkeeps => ⟨hkeeps.owned, hkeeps.held⟩⟩
  | transmit =>
    dsimp only
    refine ⟨rfl, hsame fun _ _ => ?_⟩
    unfold Asm.step pollLayer
    rw [hat]
    rfl

end Other

/-! ### The whole run -/

section Run

variable {h : History} {i : NodeInput}

/-- The invariant of a run. -/
structure Sound (h : History) : Prop where
  served : Served h
  fits : Fits h.node.loop.stack.receive.decoder

lemma served_step (hserved : Served h) (hfits : Fits h.node.loop.stack.receive.decoder) (hguard : Guard h.node i) :
    Served (h.step i) ∧ Prompt h i := by
  by_cases hphase : h.node.loop.phase = .ipv4
  · exact ipv4_step hserved hfits hguard hphase
  · have howed : (h.step i).owed = h.owed := if_neg hphase
    have haccepts : acceptedBy h.node i = none := if_neg hphase
    have hgives : h.gives i = none := if_neg fun hgiven => hphase hgiven.1
    have haccepted : (h.step i).accepted = h.accepted := by
      change h.accepted ++ (acceptedBy h.node i).toList = _
      rw [haccepts]
      simp
    have hreplies : (h.step i).replies = h.replies := by
      change h.replies ++ (h.gives i).toList = _
      rw [hgives]
      simp
    refine ⟨⟨?_, ?_, ?_⟩, fun hipv4 => absurd hipv4 hphase⟩
    · rw [howed, ← hserved.pending]
      exact (other_step (e := default) hguard hphase).1
    · rw [howed]
      intro e he
      have hpending : h.node.upper.icmp.replyPending = true := by
        rw [hserved.pending, he]
        rfl
      exact (other_step hguard hphase).2 hpending (hserved.keeps e he)
    · rw [haccepted, howed, hreplies]
      exact hserved.account

/-- **The step lemma.** -/
lemma sound_step (hsound : Sound h) (hguard : Guard h.node i) : Sound (h.step i) :=
  ⟨(served_step hsound.served hsound.fits hguard).1, fits_step hsound.fits⟩

lemma sound_start : Sound History.start :=
  ⟨⟨rfl, fun e he => by contradiction, [], rfl, rfl, fun _ h => by contradiction⟩, fits_reset _⟩

lemma node_after (inputs : List NodeInput) : (History.after inputs).node = Node.after inputs := by
  unfold History.after Node.after
  induction inputs using List.reverseRecOn with
  | nil => rfl
  | append_singleton inputs i ih =>
    rw [Run.run_append, Run.run_append, Run.run_cons, Run.run_nil, Run.run_cons, Run.run_nil, ← ih]
    rfl

end Run

/-- **Each accepted Echo-Request has at most one reply**, which goes to its source with its contents, and has it at the
first poll of IPv4 that finds the encoder idle, in every run whose polls leave alone the frame of a pending reply. -/
theorem echo_replies (inputs : List NodeInput) (hguard : Run.Along Node.step Guard Node.boot inputs) :
    Served (History.after inputs) ∧ ∀ i, Guard (Node.after inputs) i → Prompt (History.after inputs) i := by
  have halong : Run.Along History.step (fun h i => Guard h.node i) History.start inputs :=
    @Run.along_of_view _ _ _ _ _ _ History.node _ _ (fun _ _ => rfl) hguard
  have hsound : Sound (History.after inputs) :=
    Run.run_invariant (fun _ _ hsound hguard => sound_step hsound hguard) sound_start halong
  refine ⟨hsound.served, fun i hi => ?_⟩
  rw [← node_after] at hi
  exact (served_step hsound.served hsound.fits hi).2

section Scenario

/-- A frame in the RX ring, for two turns of the loop. -/
def arriving (room : ℕ) (frame : List UInt8) : List NodeInput :=
  let octets := Framing.encodeAsync frame Framing.defaultAccm
  List.replicate 9 { ring := octets.take 32, room := room } ++ List.replicate 9 { ring := octets.drop 32, room := room }

/-- The receiver is started, and the link opened up to the Configure-Ack of IPCP, which waits for room in the TX ring.
-/
def opening : List NodeInput :=
  List.replicate 9 { command := .lower .receiveStart, room := 100 } ++
    arriving 100 [0xff, 0x03, 0xc0, 0x21, 0x02, 0x00, 0x00, 0x0a, 0x05, 0x06, 0x4e, 0x44, 0x4d, 0x24] ++
    arriving 100 [0xff, 0x03, 0xc0, 0x21, 0x01, 0x07, 0x00, 0x04] ++
    arriving 100 [0xff, 0x03, 0x80, 0x21, 0x03, 0x01, 0x00, 0x0a, 0x03, 0x06, 0x0a, 0x00, 0x00, 0x02] ++
    arriving 100 [0xff, 0x03, 0x80, 0x21, 0x02, 0x02, 0x00, 0x16, 0x03, 0x06, 0x0a, 0x00, 0x00, 0x02, 0x81, 0x06, 0x00,
      0x00, 0x00, 0x00, 0x83, 0x06, 0x00, 0x00, 0x00, 0x00] ++
    arriving 0 [0xff, 0x03, 0x80, 0x21, 0x01, 0x01, 0x00, 0x0a, 0x03, 0x06, 0x0a, 0x00, 0x00, 0x01]

def ping : EchoRequest := ⟨⟨10, 0, 0, 1⟩, 0x1234, 1, [0x41, 0x42]⟩

/-- The peer's Echo-Request arrives behind it. -/
def requestPending : List NodeInput :=
  opening ++ arriving 0 (ipv4Frame 1 30 protocolIcmp ping.source ⟨10, 0, 0, 2⟩ 0x26dc
    (echoMessage icmpTypeEchoRequest 0xa488 ping))

/-- The receiver is stopped for a turn. -/
def stopped : List NodeInput := requestPending ++ List.replicate 9 { command := .lower .receiveStop }

/-- The link is opened again, and a datagram arrives. -/
def datagramArrived : List NodeInput :=
  stopped ++ opening ++ List.replicate 9 { room := 100 } ++
    arriving 100 (ipv4Frame 2 30 protocolUdp ⟨10, 0, 0, 9⟩ ⟨10, 0, 0, 2⟩ 0
      [0x04, 0xd2, 0x16, 0x2e, 0x00, 0x0a, 0x00, 0x00, 0x43, 0x44])

end Scenario

instance (n : Node) (i : NodeInput) : Decidable (Stays n i) := by
  unfold Stays
  generalize n.loop.phase = phase
  cases phase <;> infer_instance

instance (i : NodeInput) : Decidable (Leaves i) := by
  unfold Leaves
  split <;> infer_instance

instance (n : Node) (i : NodeInput) : Decidable (Guard n i) := by
  unfold Guard
  infer_instance

set_option maxRecDepth 100000 in
theorem echo_replies_ping :
    Served (History.after (requestPending ++ List.replicate 18 { room := 100 })) ∧
      ∀ i, Guard (Node.after (requestPending ++ List.replicate 18 { room := 100 })) i →
        Prompt (History.after (requestPending ++ List.replicate 18 { room := 100 })) i :=
  echo_replies _ (by decide +kernel)

set_option maxRecDepth 100000 in
/-- **A reply stays pending when the link goes down**, and in the next session a datagram is consumed in the place of
its request, and the encoder given a reply with its octets. -/
theorem datagram_consumed :
    (History.after stopped).node.loop.stack.ipcp.state = .closed ∧ ¬ Served (History.after stopped) ∧
      (History.after datagramArrived).accepted = [ping] ∧
      ∃ frame, (History.after datagramArrived).replies = [frame] ∧ ¬ RepliesTo ping frame := by
  have hstopped : (History.after stopped).node.loop.stack.ipcp.state = .closed ∧
      (History.after stopped).node.upper.icmp.replyPending ≠ (History.after stopped).owed.isSome := by decide +kernel
  have harrived : (History.after datagramArrived).accepted = [ping] ∧ (History.after datagramArrived).replies =
      [[255, 3, 0, 33, 69, 0, 0, 30, 0, 0, 64, 0, 64, 1, 38, 221, 10, 0, 0, 2, 10, 0, 0, 1, 0, 210, 187, 223, 0, 10, 0,
        0, 67, 68]] := by decide +kernel
  refine ⟨hstopped.1, fun hserved => hstopped.2 hserved.pending, harrived.1, _, harrived.2, fun hanswers => ?_⟩
  exact absurd hanswers.contents (by decide)

end SnesModem.Asm.EchoReplies
