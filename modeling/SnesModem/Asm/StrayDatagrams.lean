import SnesModem.Asm.ClientRequests

/-!
# Datagrams that no request waits for

The ICMP, NTP and DNS clients, with the datagrams that answer none of their requests.

* `Correlated`: a datagram has what the request goes by, its source, its ports and its identifiers;
* `Spares`: a client that waits for another datagram keeps its request, and one that does not wait stays as it is;
* `strays_spared`: exactly which datagrams are of this kind, and that a run with them is the run without them.
-/

namespace SnesModem.Asm

open SnesModem.Lib SnesModem.Lib.Octets

/-! ### Correlation -/

/-- The reply is from the host that was asked, with the identifiers of the request. -/
def IcmpRequest.Correlated (r : IcmpRequest) (message : IcmpMessage) : Prop :=
  message.source = r.destination ∧ message.identifier = r.identifier ∧ message.sequence = r.sequence

/-- The datagram is from the peer, with the ports of the request, and reaches over an Originate Timestamp that is the
cookie. -/
def Ntp.Correlated (n : Ntp) (p : Ipcp) (d : UdpDatagram) : Prop :=
  (d.sourcePort = ntpServerPort ∧ d.destinationPort = ntpClientPort) ∧ d.source = p.peerAddress ∧
    32 ≤ d.payloadLength ∧
    doubleWordAt d.frameBuffer ((d.packetOffset + udpHeaderLength).toNat + 24) = n.cookieSeconds ∧
    doubleWordAt d.frameBuffer ((d.packetOffset + udpHeaderLength).toNat + 28) = n.cookieFraction

/-- The datagram is from the resolver, with the ports of the query, and reaches over an identifier that is the one of
the query. -/
def Dns.Correlated (d : Dns) (datagram : UdpDatagram) : Prop :=
  (datagram.sourcePort = dnsServerPort ∧ datagram.destinationPort = dnsClientPort) ∧ datagram.source = d.resolver ∧
    2 ≤ datagram.payloadLength ∧ datagram.message.word datagram.message.offset = d.transactionId

instance (r : IcmpRequest) (message : IcmpMessage) : Decidable (r.Correlated message) :=
  inferInstanceAs (Decidable (_ ∧ _))

instance (n : Ntp) (p : Ipcp) (d : UdpDatagram) : Decidable (n.Correlated p d) :=
  inferInstanceAs (Decidable (_ ∧ _))

instance (d : Dns) (datagram : UdpDatagram) : Decidable (d.Correlated datagram) :=
  inferInstanceAs (Decidable (_ ∧ _))

/-! ### What a client keeps -/

/-- The client without the reason of its last drop, which is for the diagnostics only. -/
def IcmpRequest.erased (r : IcmpRequest) : IcmpRequest := { r with lastError := .none }

@[inherit_doc IcmpRequest.erased]
def Ntp.erased (n : Ntp) : Ntp := { n with lastError := .none }

@[inherit_doc IcmpRequest.erased]
def Dns.erased (d : Dns) : Dns := { d with lastError := .none }

/-- The NTP client has failed on a datagram that it did not wait for. -/
def Ntp.Refused (n : Ntp) : Prop :=
  n.state = .failed ∧ n.lastError = .unexpectedResponse ∧ n.responseValid = false ∧ n.unixTimeValid = false

instance (n : Ntp) : Decidable n.Refused := inferInstanceAs (Decidable (_ ∧ _))

namespace ClientRequests

@[inherit_doc IcmpRequest.erased]
def Clients.erased (c : Clients) : Clients := ⟨c.icmp.erased, c.ntp.erased, c.dns.erased⟩

/-- A datagram reaches a client.  If the client waits and the datagram does not correlate, all that may change is the
reason of the last drop, so that the client still waits for its response, until the same deadline; if it does not
wait, nothing changes. -/
structure Spared {α : Type} (erased : α → α) (waiting correlated : Prop) (before after : α) : Prop where
  request : waiting → ¬ correlated → erased after = erased before
  rest : ¬ waiting → after = before

def Spares (c : Clients) : Call → Prop
  | .icmpReceive now message =>
    Spared IcmpRequest.erased (c.icmp.state = .waiting) (c.icmp.Correlated message) c.icmp
      (pppIcmpRequestReceive now message c.icmp)
  | .ntpReceive p datagram =>
    Spared Ntp.erased (c.ntp.state = .waiting) (c.ntp.Correlated p datagram) c.ntp (pppNtpReceive p datagram c.ntp)
  | .dnsReceive now datagram =>
    Spared Dns.erased (c.dns.state = .waiting) (c.dns.Correlated datagram) c.dns (pppDnsReceive now datagram c.dns)
  | _ => True

/-- No datagram reaches the NTP client but the one that it waits for, unless the client has failed on one before; and
from the resolver's port comes no datagram that is too short for a header and does not correlate, while the DNS client
waits. -/
def Harmless (c : Clients) : Call → Prop
  | .ntpReceive p datagram =>
    if c.ntp.state = .waiting then c.ntp.Correlated p datagram else c.ntp.Refused
  | .dnsReceive _ datagram =>
    c.dns.state = .waiting → c.dns.mismatch datagram = none → datagram.payloadLength < dnsHeaderLength →
      c.dns.Correlated datagram
  | _ => True

instance (c : Clients) (call : Call) : Decidable (Harmless c call) := by
  unfold Harmless
  split
  all_goals infer_instance

/-- A datagram that no request waits for. -/
def Stray (c : Clients) : Call → Prop
  | .icmpReceive _ message => c.icmp.state = .waiting → ¬ c.icmp.Correlated message
  | .ntpReceive p datagram => c.ntp.state = .waiting → ¬ c.ntp.Correlated p datagram
  | .dnsReceive _ datagram => c.dns.state = .waiting → ¬ c.dns.Correlated datagram
  | _ => False

instance (c : Clients) (call : Call) : Decidable (Stray c call) := by
  cases call <;> first | exact inferInstanceAs (Decidable (_ → _)) | exact inferInstanceAs (Decidable False)

/-- The clients, if no stray datagram ever reached them. -/
def Clients.undisturbed (c : Clients) (call : Call) : Clients := if Stray c call then c else c.step call

/-! ### One datagram -/

lemma icmpReceive_spared (now : UInt32) (message : IcmpMessage) (r : IcmpRequest) :
    Spared IcmpRequest.erased (r.state = .waiting) (r.Correlated message) r (pppIcmpRequestReceive now message r) where
  request hwaiting hstray := by
    have hmismatch : r.mismatch message ≠ none := by
      intro h
      unfold IcmpRequest.mismatch at h
      split_ifs at h with hsource hidentifier hsequence
      exact hstray ⟨not_not.mp hsource, not_not.mp hidentifier, not_not.mp hsequence⟩
    obtain ⟨error, herror⟩ := Option.ne_none_iff_exists'.mp hmismatch
    unfold pppIcmpRequestReceive
    rw [if_neg (not_not_intro hwaiting), herror]
    rfl
  rest hwaiting := if_pos hwaiting

/-- A datagram ends the request of the NTP client, whatever it is. -/
lemma ntpReceive_spared_iff (p : Ipcp) (datagram : UdpDatagram) (n : Ntp) :
    Spared Ntp.erased (n.state = .waiting) (n.Correlated p datagram) n (pppNtpReceive p datagram n) ↔
      if n.state = .waiting then n.Correlated p datagram else n.Refused := by
  split
  · rename_i hwaiting
    constructor
    · intro h
      by_contra hstray
      have hstate : (pppNtpReceive p datagram n).erased.state = .waiting := by
        rw [h.request hwaiting hstray]
        exact hwaiting
      have hended := ntpReceive_not_outstanding p datagram n
      rw [show (pppNtpReceive p datagram n).state = .waiting from hstate] at hended
      exact absurd hended (by decide)
    · intro hcorrelated
      exact ⟨fun _ hstray => absurd hcorrelated hstray, fun h => absurd hwaiting h⟩
  · rename_i hwaiting
    have hfail : pppNtpReceive p datagram n = n.fail .unexpectedResponse := if_pos hwaiting
    constructor
    · intro h
      have hsame := h.rest hwaiting
      rw [hfail] at hsame
      rw [← hsame]
      exact ⟨rfl, rfl, rfl, rfl⟩
    · rintro ⟨hstate, herror, hresponse, htime⟩
      refine ⟨fun h => absurd h hwaiting, fun _ => ?_⟩
      rw [hfail]
      cases n
      cases hstate
      cases herror
      cases hresponse
      cases htime
      rfl

lemma dnsReceive_spared_iff (now : UInt32) (datagram : UdpDatagram) (d : Dns) :
    Spared Dns.erased (d.state = .waiting) (d.Correlated datagram) d (pppDnsReceive now datagram d) ↔
      (d.state = .waiting → d.mismatch datagram = none → datagram.payloadLength < dnsHeaderLength →
        d.Correlated datagram) := by
  constructor
  · intro h hwaiting hmatch hshort
    by_contra hstray
    have hstate : (pppDnsReceive now datagram d).erased.state = .waiting := by
      rw [h.request hwaiting hstray]
      exact hwaiting
    unfold pppDnsReceive at hstate
    rw [if_neg (not_not_intro hwaiting), hmatch] at hstate
    dsimp only at hstate
    rw [if_pos hshort] at hstate
    exact absurd hstate nofun
  · intro hlong
    refine ⟨fun hwaiting hstray => ?_, fun hwaiting => if_pos hwaiting⟩
    unfold pppDnsReceive
    rw [if_neg (not_not_intro hwaiting)]
    cases hmismatch : d.mismatch datagram with
    | some error => rfl
    | none =>
      have hlength : ¬ datagram.payloadLength < dnsHeaderLength := fun h => hstray (hlong hwaiting hmismatch h)
      have hidentifier : datagram.message.word datagram.message.offset ≠ d.transactionId := by
        intro hid
        unfold Dns.mismatch at hmismatch
        split_ifs at hmismatch with hports hsource
        have htwo : 2 ≤ datagram.payloadLength :=
          UInt16.le_trans (by decide : (2 : UInt16) ≤ dnsHeaderLength) (UInt16.not_lt.mp hlength)
        exact hstray ⟨by tauto, not_not.mp hsource, htwo, hid⟩
      dsimp only
      rw [if_neg hlength, if_pos hidentifier]
      rfl

lemma spares_iff (c : Clients) (call : Call) : Spares c call ↔ Harmless c call := by
  cases call with
  | icmpReceive now message => exact iff_of_true (icmpReceive_spared now message c.icmp) trivial
  | ntpReceive p datagram => exact ntpReceive_spared_iff p datagram c.ntp
  | dnsReceive now datagram => exact dnsReceive_spared_iff now datagram c.dns
  | icmpEchoRequest p arguments => exact Iff.rfl
  | ntpRequest p => exact Iff.rfl
  | dnsQuery p caller arguments => exact Iff.rfl
  | icmpPoll p now s => exact Iff.rfl
  | ntpPoll p now s => exact Iff.rfl
  | dnsPoll p now s => exact Iff.rfl
  | icmpInitialize => exact Iff.rfl
  | ntpInitialize => exact Iff.rfl
  | dnsInitialize => exact Iff.rfl

lemma Spared.erased_eq {α : Type} {erased : α → α} {waiting correlated : Prop} {before after : α}
    (h : Spared erased waiting correlated before after) (hstray : waiting → ¬ correlated) :
    erased after = erased before := by
  by_cases hwaiting : waiting
  · exact h.request hwaiting (hstray hwaiting)
  · exact congrArg erased (h.rest hwaiting)

lemma erased_step_of_stray {c : Clients} {call : Call} (hstray : Stray c call) (hspares : Spares c call) :
    (c.step call).erased = c.erased := by
  cases call with
  | icmpReceive now message =>
    have h := hspares.erased_eq hstray
    simp only [Clients.step, Clients.erased, h]
  | ntpReceive p datagram =>
    have h := hspares.erased_eq hstray
    simp only [Clients.step, Clients.erased, h]
  | dnsReceive now datagram =>
    have h := hspares.erased_eq hstray
    simp only [Clients.step, Clients.erased, h]
  | icmpEchoRequest p arguments => exact hstray.elim
  | ntpRequest p => exact hstray.elim
  | dnsQuery p caller arguments => exact hstray.elim
  | icmpPoll p now s => exact hstray.elim
  | ntpPoll p now s => exact hstray.elim
  | dnsPoll p now s => exact hstray.elim
  | icmpInitialize => exact hstray.elim
  | ntpInitialize => exact hstray.elim
  | dnsInitialize => exact hstray.elim

/-! ### The reason of the last drop is for the diagnostics only -/

section Erased

variable (p : Ipcp) (now : UInt32) (s : Ipv4Sender)

lemma icmpRequestBegin_erased (r : IcmpRequest) :
    (pppIcmpRequestBegin p r.erased).1.erased = (pppIcmpRequestBegin p r).1.erased := by
  unfold pppIcmpRequestBegin
  rw [show r.erased.state = r.state from rfl]
  split_ifs <;> rfl

lemma icmpPoll_erased (r : IcmpRequest) :
    (pppIcmpRequestPoll p now r.erased s).1.erased = (pppIcmpRequestPoll p now r s).1.erased := by
  unfold pppIcmpRequestPoll
  rw [show r.erased.state = r.state from rfl]
  cases r.state with
  | requested =>
    dsimp only
    split_ifs
    · rfl
    · rfl
    · rw [show sendEchoRequest p s r.erased.destination r.erased.identifier r.erased.sequence =
        sendEchoRequest p s r.destination r.identifier r.sequence from rfl]
      obtain ⟨sent, e | r⟩ := sendEchoRequest p s r.destination r.identifier r.sequence <;> rfl
  | waiting =>
    rw [show r.erased.deadline = r.deadline from rfl]
    dsimp only
    split_ifs <;> rfl
  | idle => rfl
  | received => rfl
  | failed => rfl

lemma icmpReceive_erased (message : IcmpMessage) (r : IcmpRequest) :
    (pppIcmpRequestReceive now message r.erased).erased = (pppIcmpRequestReceive now message r).erased := by
  have hmismatch : r.erased.mismatch message = r.mismatch message := rfl
  unfold pppIcmpRequestReceive
  rw [hmismatch, show r.erased.state = r.state from rfl]
  split_ifs
  · rfl
  · cases r.mismatch message <;> rfl

lemma ntpRequest_erased (n : Ntp) : (pppNtpRequest p n.erased).1.erased = (pppNtpRequest p n).1.erased := by
  unfold pppNtpRequest
  rw [show n.erased.state = n.state from rfl]
  split_ifs <;> rfl

lemma ntpPoll_erased (n : Ntp) : (pppNtpPoll p now n.erased s).1.erased = (pppNtpPoll p now n s).1.erased := by
  unfold pppNtpPoll
  rw [show n.erased.state = n.state from rfl]
  cases n.state with
  | requested =>
    dsimp only
    split_ifs
    · rfl
    · rfl
    · rw [show sendNtpRequest p s n.erased.cookieSeconds n.erased.cookieFraction =
        sendNtpRequest p s n.cookieSeconds n.cookieFraction from rfl]
      obtain ⟨sent, e | r⟩ := sendNtpRequest p s n.cookieSeconds n.cookieFraction <;> rfl
  | waiting =>
    rw [show n.erased.deadline = n.deadline from rfl]
    dsimp only
    split_ifs <;> rfl
  | idle => rfl
  | received => rfl
  | failed => rfl

lemma ntpReceive_erased (datagram : UdpDatagram) (n : Ntp) :
    (pppNtpReceive p datagram n.erased).erased = (pppNtpReceive p datagram n).erased := by
  unfold pppNtpReceive
  rw [show n.erased.state = n.state from rfl]
  -- one condition after the other: each is of variables that both have
  repeat
    split
    · rfl
  rfl

lemma dnsRequest_erased (caller : DnsCaller) (d : Dns) :
    (pppDnsRequest p caller d.erased).1.erased = (pppDnsRequest p caller d).1.erased := by
  unfold pppDnsRequest
  rw [show d.erased.state = d.state from rfl, show d.erased.queryName = d.queryName from rfl,
    show d.erased.queryNameLength = d.queryNameLength from rfl, show caller.last d.erased = caller.last d from rfl,
    show d.erased.transactionId = d.transactionId from rfl]
  split_ifs <;> rfl

lemma dnsQuery_erased (caller : DnsCaller) (arguments : Buffer) (d : Dns) :
    (dnsQuery p caller arguments d.erased).1.erased = (dnsQuery p caller arguments d).1.erased := by
  unfold dnsQuery
  extract_lets length
  split
  · rfl
  · exact dnsRequest_erased p caller { d with
      queryNameLength := length
      resolver := readAddress arguments 0
      queryName := write d.queryName 0 (read arguments 5 length.toNat) }

lemma dnsPoll_erased (d : Dns) : (pppDnsPoll p now d.erased s).1.erased = (pppDnsPoll p now d s).1.erased := by
  unfold pppDnsPoll
  rw [show d.erased.state = d.state from rfl]
  cases d.state with
  | requested =>
    dsimp only
    split_ifs
    · rfl
    · rfl
    · rw [show sendDnsQuery p s d.erased.resolver d.erased.transactionId d.erased.queryName d.erased.queryNameLength =
        sendDnsQuery p s d.resolver d.transactionId d.queryName d.queryNameLength from rfl]
      obtain ⟨sent, e | r⟩ := sendDnsQuery p s d.resolver d.transactionId d.queryName d.queryNameLength <;> rfl
  | waiting =>
    rw [show d.erased.deadline = d.deadline from rfl]
    dsimp only
    split_ifs <;> rfl
  | idle => rfl
  | received => rfl
  | failed => rfl

lemma counted_erased (d : Dns) (m : DnsMessage) : d.erased.counted m = (d.counted m).erased := by
  unfold Dns.counted
  extract_lets flags e e'
  rw [show e.responseCode = e'.responseCode from rfl]
  split_ifs <;> rfl

lemma dnsReceive_erased (datagram : UdpDatagram) (d : Dns) :
    (pppDnsReceive now datagram d.erased).erased = (pppDnsReceive now datagram d).erased := by
  unfold pppDnsReceive
  rw [show d.erased.state = d.state from rfl]
  split
  · rfl
  rw [show d.erased.mismatch datagram = d.mismatch datagram from rfl]
  cases d.mismatch datagram with
  | some error => rfl
  | none =>
    dsimp only
    split
    · rfl
    rw [show d.erased.transactionId = d.transactionId from rfl]
    split
    · rfl
    rw [counted_erased]
    rcases datagram.message.parse with _ | error | address <;> rfl

end Erased

/-- A step depends on the reason of the last drop in nothing but that reason. -/
lemma erased_step (c : Clients) (call : Call) : (c.erased.step call).erased = (c.step call).erased := by
  cases call with
  | icmpEchoRequest p arguments =>
    have h := icmpRequestBegin_erased p { c.icmp with destination := readAddress arguments 0 }
    exact congrArg (Clients.mk · _ _) h
  | ntpRequest p => exact congrArg (Clients.mk _ · _) (ntpRequest_erased p c.ntp)
  | dnsQuery p caller arguments => exact congrArg (Clients.mk _ _) (dnsQuery_erased p caller arguments c.dns)
  | icmpPoll p now s => exact congrArg (Clients.mk · _ _) (icmpPoll_erased p now s c.icmp)
  | ntpPoll p now s => exact congrArg (Clients.mk _ · _) (ntpPoll_erased p now s c.ntp)
  | dnsPoll p now s => exact congrArg (Clients.mk _ _) (dnsPoll_erased p now s c.dns)
  | icmpReceive now message => exact congrArg (Clients.mk · _ _) (icmpReceive_erased now message c.icmp)
  | ntpReceive p datagram => exact congrArg (Clients.mk _ · _) (ntpReceive_erased p datagram c.ntp)
  | dnsReceive now datagram => exact congrArg (Clients.mk _ _) (dnsReceive_erased now datagram c.dns)
  | icmpInitialize => rfl
  | ntpInitialize => rfl
  | dnsInitialize => rfl

/-! ### Runs -/

lemma erased_congr {c c' : Clients} (call : Call) (h : c.erased = c'.erased) :
    (c.step call).erased = (c'.step call).erased := by
  rw [← erased_step c call, h, erased_step c' call]

lemma stray_erased (c : Clients) (call : Call) : Stray c.erased call ↔ Stray c call := by
  cases call <;> exact Iff.rfl

lemma undisturbed_congr {c c' : Clients} (call : Call) (h : c.erased = c'.erased) :
    (c.undisturbed call).erased = (c'.undisturbed call).erased := by
  have hstray : Stray c call ↔ Stray c' call := by rw [← stray_erased c, h, stray_erased c']
  unfold Clients.undisturbed
  by_cases hc : Stray c call
  · rw [if_pos hc, if_pos (hstray.mp hc), h]
  · rw [if_neg hc, if_neg (mt hstray.mpr hc)]
    exact erased_congr call h

lemma step_undisturbed (c : Clients) (call : Call) (hharmless : Harmless c call) :
    (c.step call).erased = (c.undisturbed call).erased := by
  unfold Clients.undisturbed
  split
  · rename_i hstray
    exact erased_step_of_stray hstray ((spares_iff c call).mpr hharmless)
  · rfl

/-- **In every run a datagram spares the requests that it does not answer exactly if it is harmless**, and a run of
harmless datagrams leaves the clients as if the stray ones among them had never come: what waits still waits, until the
same deadline, and is completed by the same response. -/
theorem strays_spared (calls : List Call) :
    (∀ call, Spares (Run.run Clients.step Clients.initial calls) call ↔
      Harmless (Run.run Clients.step Clients.initial calls) call) ∧
    (Run.Along Clients.step Harmless Clients.initial calls →
      (Run.run Clients.step Clients.initial calls).erased =
        (Run.run Clients.undisturbed Clients.initial calls).erased) := by
  constructor
  · exact fun call => spares_iff _ call
  · exact Run.run_view_eq step_undisturbed (fun c c' call => undisturbed_congr call) rfl

section Ended

/-- An open link whose peer is the first host. -/
def peerLink : Ipcp :=
  { openLink with peerAddress := firstHost, flags := { openLink.flags with peerValid := true } }

/-- A datagram of 48 octets from the port of an NTP server. -/
def timeDatagram (source : Address) (packet : List UInt8) : UdpDatagram :=
  ⟨source, ntpServerPort, ntpClientPort, ntpPacketLength, 24, write default 32 packet⟩

/-- The response of a server to the first request. -/
def timeResponse : UdpDatagram :=
  timeDatagram firstHost ([0x24, 2] ++ List.replicate 22 0 ++ doubleWordOctets ntpCookieSeconds ++ doubleWordOctets 1 ++
    List.replicate 8 0 ++ doubleWordOctets ntpUnixEpochOffsetSeconds ++ [0, 0, 0, 0])

/-- An echo, a query and a request of the time.  Replies of another host reach the first two, and then the response of
the server comes. -/
def answeredAmongStrays : List Call :=
  [.icmpEchoRequest peerLink (queryArguments firstHost []), .icmpPoll peerLink 0 idleSender,
    .dnsQuery peerLink ⟨0, default⟩ (queryArguments firstHost [97]), .dnsPoll peerLink 0 idleSender,
    .ntpRequest peerLink, .ntpPoll peerLink 0 idleSender,
    .icmpReceive 1 ⟨secondHost, 1, 1, icmpRequestPayloadLength, 24, default⟩,
    .dnsReceive 1 ⟨secondHost, dnsServerPort, dnsClientPort, 4, 24, default⟩,
    .ntpReceive peerLink timeResponse]

end Ended

/-- The time has come, and the echo and the query still wait. -/
theorem strays_spared_answered :
    (Run.run Clients.step Clients.initial answeredAmongStrays).erased =
        (Run.run Clients.undisturbed Clients.initial answeredAmongStrays).erased ∧
      (Run.run Clients.step Clients.initial answeredAmongStrays).ntp.unixTimeValid ∧
      (Run.run Clients.step Clients.initial answeredAmongStrays).icmp.state = .waiting ∧
      (Run.run Clients.step Clients.initial answeredAmongStrays).icmp.lastError = .sourceMismatch ∧
      (Run.run Clients.step Clients.initial answeredAmongStrays).dns.state = .waiting ∧
      (Run.run Clients.step Clients.initial answeredAmongStrays).dns.lastError = .sourceMismatch := by
  have hharmless : Run.Along Clients.step Harmless Clients.initial answeredAmongStrays := by decide +kernel
  refine ⟨(strays_spared answeredAmongStrays).2 hharmless, ?_⟩
  decide +kernel

/-- **A stray datagram ends a request.**  The NTP client fails on a datagram of a host that it has not asked, on a
datagram that comes before its request is sent, and on one that comes after the response, which it loses; the DNS
client fails on four octets from the resolver's port, under an identifier that is not the one of its query. -/
theorem stray_datagram_ends_request :
    ¬ Spares (Run.run Clients.step Clients.initial [.ntpRequest peerLink, .ntpPoll peerLink 0 idleSender])
        (.ntpReceive peerLink (timeDatagram secondHost [])) ∧
      ¬ Spares (Run.run Clients.step Clients.initial [.ntpRequest peerLink])
        (.ntpReceive peerLink (timeDatagram secondHost [])) ∧
      ((Run.run Clients.step Clients.initial [.ntpRequest peerLink, .ntpPoll peerLink 0 idleSender,
          .ntpReceive peerLink timeResponse]).ntp.unixTimeValid ∧
        ¬ Spares (Run.run Clients.step Clients.initial [.ntpRequest peerLink, .ntpPoll peerLink 0 idleSender,
            .ntpReceive peerLink timeResponse]) (.ntpReceive peerLink (timeDatagram secondHost []))) ∧
      ¬ Spares (Run.run Clients.step Clients.initial
          [.dnsQuery openLink ⟨0, default⟩ (queryArguments firstHost [97]), .dnsPoll openLink 0 idleSender])
        (.dnsReceive 1 ⟨firstHost, dnsServerPort, dnsClientPort, 4, 24, default⟩) := by
  refine ⟨fun h => ?_, fun h => ?_, ⟨by decide +kernel, fun h => ?_⟩, fun h => ?_⟩
  · have hstate := congrArg Ntp.state (h.request (by decide +kernel) (by decide +kernel))
    exact absurd hstate (by decide +kernel)
  · have hstate := congrArg Ntp.state (h.rest (by decide +kernel))
    exact absurd hstate (by decide +kernel)
  · have hstate := congrArg Ntp.state (h.rest (by decide +kernel))
    exact absurd hstate (by decide +kernel)
  · have hstate := congrArg Dns.state (h.request (by decide +kernel) (by decide +kernel))
    exact absurd hstate (by decide +kernel)

end ClientRequests

end SnesModem.Asm
