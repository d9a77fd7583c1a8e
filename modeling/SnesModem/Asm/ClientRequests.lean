import SnesModem.Lib.Run
import SnesModem.Asm.Dns
import SnesModem.Asm.IcmpRequest
import SnesModem.Asm.Ntp

/-!
# Requests of the host while one is outstanding

The ICMP, NTP and DNS clients, with what the host has asked of each.

* `echoAsked`, `cookieAsked`, `queryAsked`: the request that a client stands by, if one is outstanding;
* `Repeats`: a further request has the arguments of the outstanding one;
* `requests_kept`: in every run of such requests a client sends what it was asked and takes the answer to it, and a
  further request is refused without a trace exactly if it repeats the outstanding one.
-/

namespace SnesModem.Asm.ClientRequests

open SnesModem.Lib SnesModem.Lib.Octets

/-! ### What a client stands by -/

/-- An Echo-Request that the host has asked for. -/
structure Echo where
  destination : Address
  identifier : UInt16
  sequence : UInt16
  deriving DecidableEq, Repr

/-- The cookie of an NTP request. -/
structure Cookie where
  seconds : UInt32
  fraction : UInt32
  deriving DecidableEq, Repr

/-- A query that the host has asked for. -/
structure Query where
  resolver : Address
  transactionId : UInt16
  name : List UInt8
  deriving DecidableEq, Repr

def echoAsked (r : IcmpRequest) : Option Echo :=
  if r.state.outstanding then some ⟨r.destination, r.identifier, r.sequence⟩ else none

def cookieAsked (n : Ntp) : Option Cookie :=
  if n.state.outstanding then some ⟨n.cookieSeconds, n.cookieFraction⟩ else none

def queryAsked (d : Dns) : Option Query :=
  if d.state.outstanding then some ⟨d.resolver, d.transactionId, read d.queryName 0 d.queryNameLength.toNat⟩ else none

/-- The client still stands by the request, or by none. -/
def Kept {α : Type} (before after : Option α) : Prop := after = none ∨ after = before

/-! ### The calls -/

structure Clients where
  icmp : IcmpRequest
  ntp : Ntp
  dns : Dns

/-- What happens to the clients: a command of the mailbox, a poll, a packet for them, or an initialization.  The link
and the encoder are as the call finds them. -/
inductive Call where
  | icmpEchoRequest (p : Ipcp) (arguments : Buffer)
  | ntpRequest (p : Ipcp)
  | dnsQuery (p : Ipcp) (caller : DnsCaller) (arguments : Buffer)
  | icmpPoll (p : Ipcp) (now : UInt32) (s : Ipv4Sender)
  | ntpPoll (p : Ipcp) (now : UInt32) (s : Ipv4Sender)
  | dnsPoll (p : Ipcp) (now : UInt32) (s : Ipv4Sender)
  | icmpReceive (now : UInt32) (message : IcmpMessage)
  | ntpReceive (p : Ipcp) (datagram : UdpDatagram)
  | dnsReceive (now : UInt32) (datagram : UdpDatagram)
  | icmpInitialize
  | ntpInitialize
  | dnsInitialize

def Clients.initial : Clients := ⟨pppIcmpRequestInitialize, pppNtpInitialize, pppDnsInitialize default⟩

def Clients.step (c : Clients) : Call → Clients
  | .icmpEchoRequest p arguments => { c with icmp := (icmpEchoRequest p arguments c.icmp).1 }
  | .ntpRequest p => { c with ntp := (pppNtpRequest p c.ntp).1 }
  | .dnsQuery p caller arguments => { c with dns := (dnsQuery p caller arguments c.dns).1 }
  | .icmpPoll p now s => { c with icmp := (pppIcmpRequestPoll p now c.icmp s).1 }
  | .ntpPoll p now s => { c with ntp := (pppNtpPoll p now c.ntp s).1 }
  | .dnsPoll p now s => { c with dns := (pppDnsPoll p now c.dns s).1 }
  | .icmpReceive now message => { c with icmp := pppIcmpRequestReceive now message c.icmp }
  | .ntpReceive p datagram => { c with ntp := pppNtpReceive p datagram c.ntp }
  | .dnsReceive now datagram => { c with dns := pppDnsReceive now datagram c.dns }
  | .icmpInitialize => { c with icmp := pppIcmpRequestInitialize }
  | .ntpInitialize => { c with ntp := pppNtpInitialize }
  | .dnsInitialize => { c with dns := pppDnsInitialize c.dns }

section Kept

lemma echoAsked_of_not_outstanding {r : IcmpRequest} (h : r.state.outstanding = false) : echoAsked r = none := by
  simp [echoAsked, h]

lemma cookieAsked_of_not_outstanding {n : Ntp} (h : n.state.outstanding = false) : cookieAsked n = none := by
  simp [cookieAsked, h]

lemma queryAsked_of_not_outstanding {d : Dns} (h : d.state.outstanding = false) : queryAsked d = none := by
  simp [queryAsked, h]

lemma icmpPoll_kept (p : Ipcp) (now : UInt32) (r : IcmpRequest) (s : Ipv4Sender) :
    Kept (echoAsked r) (echoAsked (pppIcmpRequestPoll p now r s).1) := by
  unfold pppIcmpRequestPoll
  split
  · rename_i hstate
    split_ifs
    · exact Or.inl rfl
    · exact Or.inr rfl
    · split
      · exact Or.inl rfl
      · exact Or.inr (by simp [echoAsked, hstate, RequestState.outstanding])
  · split_ifs
    · exact Or.inl rfl
    · exact Or.inl rfl
    · exact Or.inr rfl
  · exact Or.inr rfl
  · exact Or.inr rfl
  · exact Or.inr rfl

lemma ntpPoll_kept (p : Ipcp) (now : UInt32) (n : Ntp) (s : Ipv4Sender) :
    Kept (cookieAsked n) (cookieAsked (pppNtpPoll p now n s).1) := by
  unfold pppNtpPoll
  split
  · rename_i hstate
    split_ifs
    · exact Or.inl rfl
    · exact Or.inr rfl
    · split
      · exact Or.inl rfl
      · exact Or.inr (by simp [cookieAsked, hstate, RequestState.outstanding])
  · split_ifs
    · exact Or.inl rfl
    · exact Or.inl rfl
    · exact Or.inr rfl
  · exact Or.inr rfl
  · exact Or.inr rfl
  · exact Or.inr rfl

lemma dnsPoll_kept (p : Ipcp) (now : UInt32) (d : Dns) (s : Ipv4Sender) :
    Kept (queryAsked d) (queryAsked (pppDnsPoll p now d s).1) := by
  unfold pppDnsPoll
  split
  · rename_i hstate
    split_ifs
    · exact Or.inl rfl
    · exact Or.inr rfl
    · split
      · exact Or.inl rfl
      · exact Or.inr (by simp [queryAsked, hstate, RequestState.outstanding])
  · split_ifs
    · exact Or.inl rfl
    · exact Or.inl rfl
    · exact Or.inr rfl
  · exact Or.inr rfl
  · exact Or.inr rfl
  · exact Or.inr rfl

lemma icmpReceive_kept (now : UInt32) (message : IcmpMessage) (r : IcmpRequest) :
    Kept (echoAsked r) (echoAsked (pppIcmpRequestReceive now message r)) := by
  unfold pppIcmpRequestReceive
  split_ifs
  · exact Or.inr rfl
  · split
    · exact Or.inr rfl
    · exact Or.inl rfl

lemma receiveTimestamps_not_outstanding (n : Ntp) (buffer : Buffer) (x : ℕ) :
    (n.receiveTimestamps buffer x).state.outstanding = false := by
  unfold Ntp.receiveTimestamps
  split
  · rfl
  · extract_lets n'
    split <;> rfl

/-- A datagram ends the request, whatever it is. -/
lemma ntpReceive_not_outstanding (p : Ipcp) (datagram : UdpDatagram) (n : Ntp) :
    (pppNtpReceive p datagram n).state.outstanding = false := by
  unfold pppNtpReceive
  split
  · rfl
  split
  · rfl
  split
  · rfl
  split
  · rfl
  extract_lets x first n' n''
  split
  · rfl
  split
  · rfl
  split
  · rfl
  split
  · rfl
  split
  · rfl
  · exact receiveTimestamps_not_outstanding n'' datagram.frameBuffer x

lemma ntpReceive_kept (p : Ipcp) (datagram : UdpDatagram) (n : Ntp) :
    Kept (cookieAsked n) (cookieAsked (pppNtpReceive p datagram n)) :=
  Or.inl (cookieAsked_of_not_outstanding (ntpReceive_not_outstanding p datagram n))

/-- The counts are none of what the host has asked. -/
lemma counted_frame (d : Dns) (m : DnsMessage) :
    (d.counted m).state = d.state ∧ (d.counted m).resolver = d.resolver ∧
      (d.counted m).transactionId = d.transactionId ∧ (d.counted m).queryName = d.queryName ∧
      (d.counted m).queryNameLength = d.queryNameLength := by
  unfold Dns.counted
  extract_lets flags d'
  split
  · exact ⟨rfl, rfl, rfl, rfl, rfl⟩
  split <;> exact ⟨rfl, rfl, rfl, rfl, rfl⟩

lemma queryAsked_counted (d : Dns) (m : DnsMessage) : queryAsked (d.counted m) = queryAsked d := by
  obtain ⟨hstate, hresolver, hid, hname, hlength⟩ := counted_frame d m
  simp only [queryAsked, hstate, hresolver, hid, hname, hlength]

lemma dnsReceive_kept (now : UInt32) (datagram : UdpDatagram) (d : Dns) :
    Kept (queryAsked d) (queryAsked (pppDnsReceive now datagram d)) := by
  unfold pppDnsReceive
  split
  · exact Or.inr rfl
  extract_lets m d'
  split
  · exact Or.inr rfl
  split
  · exact Or.inl rfl
  split
  · exact Or.inr rfl
  split
  · exact Or.inl rfl
  · exact Or.inl rfl
  · exact Or.inr (queryAsked_counted d m)

end Kept

/-! ### What the host has asked -/

/-- The clients, and the requests that they have taken last. -/
structure History where
  clients : Clients
  echo : Option Echo
  cookie : Option Cookie
  query : Option Query

def History.start : History := ⟨Clients.initial, none, none, none⟩

/-- A request is taken if it comes back without an error; what it asks for is what its arguments say, under the
identifiers that the client has given it. -/
def History.step (h : History) (call : Call) : History :=
  let clients := h.clients.step call
  let asked := { h with clients := clients }
  match call with
  | .icmpEchoRequest p arguments =>
    match (icmpEchoRequest p arguments h.clients.icmp).2 with
    | some _ => asked
    | none => { asked with
        echo := some ⟨readAddress arguments 0, clients.icmp.identifier, clients.icmp.sequence⟩ }
  | .ntpRequest p =>
    match (pppNtpRequest p h.clients.ntp).2 with
    | some _ => asked
    | none => { asked with cookie := some ⟨clients.ntp.cookieSeconds, clients.ntp.cookieFraction⟩ }
  | .dnsQuery p caller arguments =>
    match (dnsQuery p caller arguments h.clients.dns).2 with
    | some _ => asked
    | none => { asked with
        query := some ⟨readAddress arguments 0, clients.dns.transactionId, read arguments 5 (arguments 4).toNat⟩ }
  | _ => asked

/-- A request that comes while one of its kind is outstanding has the arguments of that one. -/
def Repeats (h : History) : Call → Prop
  | .icmpEchoRequest _ arguments =>
    h.clients.icmp.state.outstanding → readAddress arguments 0 = h.clients.icmp.destination
  | .dnsQuery _ _ arguments =>
    h.clients.dns.state.outstanding → arguments 4 = h.clients.dns.queryNameLength ∧
      readAddress arguments 0 = h.clients.dns.resolver ∧
      read arguments 5 (arguments 4).toNat = read h.clients.dns.queryName 0 (arguments 4).toNat
  | _ => True

/-- A request that comes while one of its kind is outstanding is refused as busy, and leaves the client as it is. -/
def Refuses (h : History) : Call → Prop
  | .icmpEchoRequest p arguments =>
    h.clients.icmp.state.outstanding →
      icmpEchoRequest p arguments h.clients.icmp = (h.clients.icmp, some .requestBusy)
  | .ntpRequest p =>
    h.clients.ntp.state.outstanding → pppNtpRequest p h.clients.ntp = (h.clients.ntp, some .requestBusy)
  | .dnsQuery p caller arguments =>
    h.clients.dns.state.outstanding →
      dnsQuery p caller arguments h.clients.dns = (h.clients.dns, some .requestBusy)
  | _ => True

/-- A poll that sends a request sends the one that the host has asked for. -/
def Sends (h : History) : Call → Prop
  | .icmpPoll p now s =>
    h.clients.icmp.state = .requested → linkIsOpen p → s.transmit.active = false →
      ∃ e, h.echo = some e ∧ (pppIcmpRequestPoll p now h.clients.icmp s).2 =
        (sendEchoRequest p s e.destination e.identifier e.sequence).1
  | .ntpPoll p now s =>
    h.clients.ntp.state = .requested → ntpLinkIsOpen p → s.transmit.active = false →
      ∃ c, h.cookie = some c ∧ (pppNtpPoll p now h.clients.ntp s).2 = (sendNtpRequest p s c.seconds c.fraction).1
  | .dnsPoll p now s =>
    h.clients.dns.state = .requested → linkIsOpen p → s.transmit.active = false →
      ∃ q, h.query = some q ∧ (pppDnsPoll p now h.clients.dns s).2 =
        (sendDnsQuery p s q.resolver q.transactionId (write default 0 q.name) (UInt8.ofNat q.name.length)).1
  | _ => True

/-- The reply to an Echo-Request. -/
def Echo.Answered (e : Echo) (message : IcmpMessage) : Prop :=
  message.source = e.destination ∧ message.identifier = e.identifier ∧ message.sequence = e.sequence ∧
    message.payloadLength = icmpRequestPayloadLength ∧
    read message.frameBuffer (message.packetOffset + icmpEchoHeaderLength).toNat 5 = icmpRequestPayload

/-- A response of the server with a time after the Unix epoch, to the request with a cookie. -/
structure Cookie.Answered (c : Cookie) (p : Ipcp) (d : UdpDatagram) (x : ℕ) : Prop where
  ports : d.sourcePort = ntpServerPort ∧ d.destinationPort = ntpClientPort
  length : ntpPacketLength ≤ d.payloadLength
  source : d.source = p.peerAddress
  payload : x = (d.packetOffset + udpHeaderLength).toNat
  version : d.frameBuffer x >>> 3 &&& 7 = 3 ∨ d.frameBuffer x >>> 3 &&& 7 = 4
  mode : d.frameBuffer x &&& 7 = 4
  leapIndicator : d.frameBuffer x >>> 6 ≠ 3
  stratum : d.frameBuffer (x + 1) ≠ 0 ∧ d.frameBuffer (x + 1) < 16
  originate : doubleWordAt d.frameBuffer (x + 24) = c.seconds ∧ doubleWordAt d.frameBuffer (x + 28) = c.fraction
  time : ntpUnixEpochOffsetSeconds ≤ doubleWordAt d.frameBuffer (x + 40)

/-- A response of the resolver that has an address, to a query. -/
structure Query.Answered (q : Query) (d : UdpDatagram) (address : Address) : Prop where
  ports : d.sourcePort = dnsServerPort ∧ d.destinationPort = dnsClientPort
  source : d.source = q.resolver
  length : dnsHeaderLength ≤ d.payloadLength
  identifier : d.message.word d.message.offset = q.transactionId
  parse : d.message.parse = some (.accepted address)

/-- A client that waits takes the answer to what the host has asked for. -/
def Accepts (h : History) : Call → Prop
  | .icmpReceive now message =>
    h.clients.icmp.state = .waiting → ∀ e, h.echo = some e → e.Answered message →
      (pppIcmpRequestReceive now message h.clients.icmp).state = .received
  | .ntpReceive p datagram =>
    h.clients.ntp.state = .waiting → ∀ c x, h.cookie = some c → c.Answered p datagram x →
      (pppNtpReceive p datagram h.clients.ntp).state = .received
  | .dnsReceive now datagram =>
    h.clients.dns.state = .waiting → ∀ q address, h.query = some q → q.Answered datagram address →
      (pppDnsReceive now datagram h.clients.dns).state = .received ∧
        (pppDnsReceive now datagram h.clients.dns).answerAddress = address
  | _ => True

/-! ### The invariant -/

/-- Each client stands by the request that the host has asked for last, or by none. -/
structure Faithful (h : History) : Prop where
  echo : Kept h.echo (echoAsked h.clients.icmp)
  cookie : Kept h.cookie (cookieAsked h.clients.ntp)
  query : Kept h.query (queryAsked h.clients.dns)
  name : ∀ q, h.query = some q → 0 < q.name.length ∧ q.name.length ≤ dnsMaximumNameLength

lemma Kept.eq_some {α : Type} {before after : Option α} {a : α} (h : Kept before after) (hafter : after = some a) :
    before = some a := by
  rcases h with hnone | heq
  · exact absurd (hnone.symm.trans hafter) nofun
  · exact heq.symm.trans hafter

lemma Kept.trans {α : Type} {a b c : Option α} (h : Kept a b) (h' : Kept b c) : Kept a c := by
  rcases h' with rfl | rfl
  · exact Or.inl rfl
  · exact h

section Requests

variable (p : Ipcp) (arguments : Buffer)

/-- What an Echo-Request of the host can come to. -/
lemma icmpEchoRequest_cases (r : IcmpRequest) :
    (r.state.outstanding ∧
      icmpEchoRequest p arguments r = ({ r with destination := readAddress arguments 0 }, some .requestBusy)) ∨
    (r.state.outstanding = false ∧ (icmpEchoRequest p arguments r).2 = some .linkNotOpen ∧
      (icmpEchoRequest p arguments r).1.state = .failed) ∨
    (r.state.outstanding = false ∧ (icmpEchoRequest p arguments r).2 = none ∧
      (icmpEchoRequest p arguments r).1.destination = readAddress arguments 0) := by
  unfold icmpEchoRequest pppIcmpRequestBegin
  split
  · exact Or.inl ⟨by assumption, rfl⟩
  · rename_i hidle
    have hidle' : r.state.outstanding = false := by simpa using hidle
    split
    · exact Or.inr (Or.inl ⟨hidle', rfl, rfl⟩)
    · exact Or.inr (Or.inr ⟨hidle', rfl, rfl⟩)

lemma pppNtpRequest_cases (n : Ntp) :
    (n.state.outstanding ∧ pppNtpRequest p n = (n, some .requestBusy)) ∨
    (n.state.outstanding = false ∧ (pppNtpRequest p n).2 = some .linkNotOpen ∧ (pppNtpRequest p n).1.state = .failed) ∨
    (n.state.outstanding = false ∧ (pppNtpRequest p n).2 = none) := by
  unfold pppNtpRequest
  split
  · exact Or.inl ⟨by assumption, rfl⟩
  · rename_i hidle
    have hidle' : n.state.outstanding = false := by simpa using hidle
    split
    · exact Or.inr (Or.inl ⟨hidle', rfl, rfl⟩)
    · exact Or.inr (Or.inr ⟨hidle', rfl⟩)

variable (caller : DnsCaller)

/-- The client as the mailbox hands it on. -/
def named (d : Dns) : Dns :=
  { d with
    queryNameLength := arguments 4
    resolver := readAddress arguments 0
    queryName := write d.queryName 0 (read arguments 5 (arguments 4).toNat) }

/-- What a query of the host can come to. -/
lemma dnsQuery_cases (d : Dns) :
    (¬ (0 < (arguments 4).toNat ∧ (arguments 4).toNat ≤ dnsMaximumNameLength) ∧
      dnsQuery p caller arguments d = (d, some .invalidName)) ∨
    (0 < (arguments 4).toNat ∧ (arguments 4).toNat ≤ dnsMaximumNameLength ∧
      (d.state.outstanding ∧ dnsQuery p caller arguments d = (named arguments d, some .requestBusy) ∨
      d.state.outstanding = false ∧ (∃ e, (dnsQuery p caller arguments d).2 = some e) ∧
        (dnsQuery p caller arguments d).1.state = .failed ∨
      d.state.outstanding = false ∧ (dnsQuery p caller arguments d).2 = none ∧
        (dnsQuery p caller arguments d).1.resolver = readAddress arguments 0 ∧
        (dnsQuery p caller arguments d).1.queryNameLength = arguments 4 ∧
        (dnsQuery p caller arguments d).1.queryName =
          write d.queryName 0 (read arguments 5 (arguments 4).toNat))) := by
  unfold dnsQuery
  extract_lets length
  by_cases hlength : length = 0 ∨ dnsMaximumNameLength < length.toNat
  · rw [if_pos hlength]
    refine Or.inl ⟨fun hvalid => ?_, rfl⟩
    rcases hlength with h | h
    · have hzero : (arguments 4).toNat = 0 := by rw [show arguments 4 = 0 from h]; rfl
      omega
    · have hlong : dnsMaximumNameLength < (arguments 4).toNat := h
      omega
  · rw [if_neg hlength]
    push Not at hlength
    have hpositive := octet_pos hlength.1
    refine Or.inr ⟨hpositive, hlength.2, ?_⟩
    unfold pppDnsRequest
    split
    · exact Or.inl ⟨by assumption, rfl⟩
    · rename_i hidle
      have hidle' : d.state.outstanding = false := by simpa using hidle
      split
      · exact Or.inr (Or.inl ⟨hidle', ⟨_, rfl⟩, rfl⟩)
      split
      · exact Or.inr (Or.inl ⟨hidle', ⟨_, rfl⟩, rfl⟩)
      · exact Or.inr (Or.inr ⟨hidle', rfl, rfl, rfl, rfl⟩)

lemma write_read_self (buffer : Buffer) (offset length : ℕ) :
    write buffer offset (read buffer offset length) = buffer := by
  funext i
  by_cases h : offset ≤ i ∧ i < offset + (read buffer offset length).length
  · unfold write
    rw [if_pos h, List.getD_eq_getElem _ _ (by omega), getElem_read]
    exact congrArg buffer (by omega)
  · exact if_neg h

/-- The mailbox leaves the client as it is exactly if the arguments are those of the client. -/
lemma named_eq_iff (d : Dns) :
    named arguments d = d ↔ arguments 4 = d.queryNameLength ∧ readAddress arguments 0 = d.resolver ∧
      read arguments 5 (arguments 4).toNat = read d.queryName 0 (arguments 4).toNat := by
  constructor
  · intro h
    refine ⟨congrArg Dns.queryNameLength h, congrArg Dns.resolver h, ?_⟩
    have hname : write d.queryName 0 (read arguments 5 (arguments 4).toNat) = d.queryName := congrArg Dns.queryName h
    have hread := read_write d.queryName 0 (read arguments 5 (arguments 4).toNat)
    rw [hname, length_read] at hread
    exact hread.symm
  · rintro ⟨hlength, hresolver, hname⟩
    unfold named
    rw [hname, write_read_self, hlength, hresolver]

end Requests

/-! ### The runs -/

section Steps

variable {h : History} {call : Call}

lemma Faithful.echo_eq (hfaithful : Faithful h) (houtstanding : h.clients.icmp.state.outstanding) :
    h.echo = some ⟨h.clients.icmp.destination, h.clients.icmp.identifier, h.clients.icmp.sequence⟩ :=
  hfaithful.echo.eq_some (if_pos houtstanding)

lemma Faithful.cookie_eq (hfaithful : Faithful h) (houtstanding : h.clients.ntp.state.outstanding) :
    h.cookie = some ⟨h.clients.ntp.cookieSeconds, h.clients.ntp.cookieFraction⟩ :=
  hfaithful.cookie.eq_some (if_pos houtstanding)

lemma Faithful.query_eq (hfaithful : Faithful h) (houtstanding : h.clients.dns.state.outstanding) :
    h.query = some ⟨h.clients.dns.resolver, h.clients.dns.transactionId,
      read h.clients.dns.queryName 0 h.clients.dns.queryNameLength.toNat⟩ :=
  hfaithful.query.eq_some (if_pos houtstanding)

lemma Faithful.length_bounds (hfaithful : Faithful h) (houtstanding : h.clients.dns.state.outstanding) :
    0 < h.clients.dns.queryNameLength.toNat ∧ h.clients.dns.queryNameLength.toNat ≤ dnsMaximumNameLength := by
  have hbounds := hfaithful.name _ (hfaithful.query_eq houtstanding)
  rwa [length_read] at hbounds

lemma refuses_iff (hfaithful : Faithful h) : Refuses h call ↔ Repeats h call := by
  cases call with
  | icmpEchoRequest p arguments =>
    refine forall_congr' fun houtstanding => ?_
    rcases icmpEchoRequest_cases p arguments h.clients.icmp with ⟨-, heq⟩ | ⟨hidle, -⟩ | ⟨hidle, -⟩
    · rw [heq, Prod.mk.injEq]
      constructor
      · exact fun hsame => congrArg IcmpRequest.destination hsame.1
      · exact fun hsame => ⟨by rw [hsame], rfl⟩
    · exact absurd (houtstanding.symm.trans hidle) Bool.noConfusion
    · exact absurd (houtstanding.symm.trans hidle) Bool.noConfusion
  | ntpRequest p =>
    refine iff_of_true (fun houtstanding => ?_) trivial
    rcases pppNtpRequest_cases p h.clients.ntp with ⟨-, heq⟩ | ⟨hidle, -⟩ | ⟨hidle, -⟩
    · exact heq
    · exact absurd (houtstanding.symm.trans hidle) Bool.noConfusion
    · exact absurd (houtstanding.symm.trans hidle) Bool.noConfusion
  | dnsQuery p caller arguments =>
    refine forall_congr' fun houtstanding => ?_
    rw [← named_eq_iff]
    rcases dnsQuery_cases p arguments caller h.clients.dns with ⟨hlength, heq⟩ | ⟨-, -, h' | ⟨hidle, -⟩ | ⟨hidle, -⟩⟩
    · rw [heq, Prod.mk.injEq]
      refine iff_of_false (fun hsame => ?_) fun hsame => ?_
      · exact absurd hsame.2 (by decide)
      · apply hlength
        rw [((named_eq_iff arguments h.clients.dns).mp hsame).1]
        exact hfaithful.length_bounds houtstanding
    · rw [h'.2, Prod.mk.injEq]
      exact and_iff_left rfl
    · exact absurd (houtstanding.symm.trans hidle) Bool.noConfusion
    · exact absurd (houtstanding.symm.trans hidle) Bool.noConfusion
  | icmpPoll p now s => exact Iff.rfl
  | ntpPoll p now s => exact Iff.rfl
  | dnsPoll p now s => exact Iff.rfl
  | icmpReceive now message => exact Iff.rfl
  | ntpReceive p datagram => exact Iff.rfl
  | dnsReceive now datagram => exact Iff.rfl
  | icmpInitialize => exact Iff.rfl
  | ntpInitialize => exact Iff.rfl
  | dnsInitialize => exact Iff.rfl

lemma step_echo (hfaithful : Faithful h) (hrepeats : Repeats h call) :
    Kept (h.step call).echo (echoAsked (h.step call).clients.icmp) := by
  cases call with
  | icmpEchoRequest p arguments =>
    unfold History.step Clients.step
    dsimp only
    rcases icmpEchoRequest_cases p arguments h.clients.icmp with ⟨houtstanding, heq⟩ | ⟨-, herror, hstate⟩ |
      ⟨-, herror, hdestination⟩
    · have hrefuses := (@refuses_iff h (.icmpEchoRequest p arguments) hfaithful).mpr hrepeats houtstanding
      rw [hrefuses]
      exact hfaithful.echo
    · rw [herror]
      exact Or.inl (echoAsked_of_not_outstanding (by rw [hstate]; rfl))
    · rw [herror]
      unfold Kept echoAsked
      dsimp only
      split
      · exact Or.inr (by rw [hdestination])
      · exact Or.inl rfl
  | ntpRequest p =>
    unfold History.step Clients.step
    dsimp only
    split <;> exact hfaithful.echo
  | dnsQuery p caller arguments =>
    unfold History.step Clients.step
    dsimp only
    split <;> exact hfaithful.echo
  | icmpPoll p now s => exact hfaithful.echo.trans (icmpPoll_kept p now h.clients.icmp s)
  | icmpReceive now message => exact hfaithful.echo.trans (icmpReceive_kept now message h.clients.icmp)
  | icmpInitialize => exact Or.inl rfl
  | ntpPoll p now s => exact hfaithful.echo
  | dnsPoll p now s => exact hfaithful.echo
  | ntpReceive p datagram => exact hfaithful.echo
  | dnsReceive now datagram => exact hfaithful.echo
  | ntpInitialize => exact hfaithful.echo
  | dnsInitialize => exact hfaithful.echo

lemma step_cookie (hfaithful : Faithful h) :
    Kept (h.step call).cookie (cookieAsked (h.step call).clients.ntp) := by
  cases call with
  | ntpRequest p =>
    unfold History.step Clients.step
    dsimp only
    rcases pppNtpRequest_cases p h.clients.ntp with ⟨houtstanding, heq⟩ | ⟨-, herror, hstate⟩ | ⟨-, herror⟩
    · rw [heq]
      exact hfaithful.cookie
    · rw [herror]
      exact Or.inl (cookieAsked_of_not_outstanding (by rw [hstate]; rfl))
    · rw [herror]
      unfold Kept cookieAsked
      dsimp only
      split
      · exact Or.inr rfl
      · exact Or.inl rfl
  | icmpEchoRequest p arguments =>
    unfold History.step Clients.step
    dsimp only
    split <;> exact hfaithful.cookie
  | dnsQuery p caller arguments =>
    unfold History.step Clients.step
    dsimp only
    split <;> exact hfaithful.cookie
  | ntpPoll p now s => exact hfaithful.cookie.trans (ntpPoll_kept p now h.clients.ntp s)
  | ntpReceive p datagram => exact hfaithful.cookie.trans (ntpReceive_kept p datagram h.clients.ntp)
  | ntpInitialize => exact Or.inl rfl
  | icmpPoll p now s => exact hfaithful.cookie
  | dnsPoll p now s => exact hfaithful.cookie
  | icmpReceive now message => exact hfaithful.cookie
  | dnsReceive now datagram => exact hfaithful.cookie
  | icmpInitialize => exact hfaithful.cookie
  | dnsInitialize => exact hfaithful.cookie

lemma step_query (hfaithful : Faithful h) (hrepeats : Repeats h call) :
    Kept (h.step call).query (queryAsked (h.step call).clients.dns) := by
  cases call with
  | dnsQuery p caller arguments =>
    unfold History.step Clients.step
    dsimp only
    rcases dnsQuery_cases p arguments caller h.clients.dns with ⟨-, heq⟩ |
      ⟨-, -, ⟨houtstanding, -⟩ | ⟨-, ⟨error, herror⟩, hstate⟩ | ⟨-, herror, hresolver, hlength, hname⟩⟩
    · rw [heq]
      exact hfaithful.query
    · have hrefuses := (@refuses_iff h (.dnsQuery p caller arguments) hfaithful).mpr hrepeats houtstanding
      rw [hrefuses]
      exact hfaithful.query
    · rw [herror]
      exact Or.inl (queryAsked_of_not_outstanding (by rw [hstate]; rfl))
    · have hread := read_write h.clients.dns.queryName 0 (read arguments 5 (arguments 4).toNat)
      rw [length_read] at hread
      rw [herror]
      unfold Kept queryAsked
      dsimp only
      split
      · exact Or.inr (by rw [hresolver, hlength, hname, hread])
      · exact Or.inl rfl
  | icmpEchoRequest p arguments =>
    unfold History.step Clients.step
    dsimp only
    split <;> exact hfaithful.query
  | ntpRequest p =>
    unfold History.step Clients.step
    dsimp only
    split <;> exact hfaithful.query
  | dnsPoll p now s => exact hfaithful.query.trans (dnsPoll_kept p now h.clients.dns s)
  | dnsReceive now datagram => exact hfaithful.query.trans (dnsReceive_kept now datagram h.clients.dns)
  | dnsInitialize => exact Or.inl rfl
  | icmpPoll p now s => exact hfaithful.query
  | ntpPoll p now s => exact hfaithful.query
  | icmpReceive now message => exact hfaithful.query
  | ntpReceive p datagram => exact hfaithful.query
  | icmpInitialize => exact hfaithful.query
  | ntpInitialize => exact hfaithful.query

lemma step_name (hfaithful : Faithful h) (q : Query) (hq : (h.step call).query = some q) :
    0 < q.name.length ∧ q.name.length ≤ dnsMaximumNameLength := by
  cases call with
  | dnsQuery p caller arguments =>
    unfold History.step at hq
    dsimp only at hq
    rcases dnsQuery_cases p arguments caller h.clients.dns with ⟨-, heq⟩ |
      ⟨hpositive, hle, ⟨-, heq⟩ | ⟨-, ⟨error, herror⟩, -⟩ | ⟨-, herror, -⟩⟩
    · rw [heq] at hq
      exact hfaithful.name q hq
    · rw [heq] at hq
      exact hfaithful.name q hq
    · rw [herror] at hq
      exact hfaithful.name q hq
    · rw [herror] at hq
      obtain rfl := Option.some.inj hq
      dsimp only
      rw [length_read]
      exact ⟨hpositive, hle⟩
  | icmpEchoRequest p arguments =>
    unfold History.step at hq
    dsimp only at hq
    split at hq <;> exact hfaithful.name q hq
  | ntpRequest p =>
    unfold History.step at hq
    dsimp only at hq
    split at hq <;> exact hfaithful.name q hq
  | icmpPoll p now s => exact hfaithful.name q hq
  | ntpPoll p now s => exact hfaithful.name q hq
  | dnsPoll p now s => exact hfaithful.name q hq
  | icmpReceive now message => exact hfaithful.name q hq
  | ntpReceive p datagram => exact hfaithful.name q hq
  | dnsReceive now datagram => exact hfaithful.name q hq
  | icmpInitialize => exact hfaithful.name q hq
  | ntpInitialize => exact hfaithful.name q hq
  | dnsInitialize => exact hfaithful.name q hq

lemma faithful_step (hfaithful : Faithful h) (hrepeats : Repeats h call) : Faithful (h.step call) where
  echo := step_echo hfaithful hrepeats
  cookie := step_cookie hfaithful
  query := step_query hfaithful hrepeats
  name := step_name hfaithful

lemma faithful_start : Faithful History.start where
  echo := Or.inl rfl
  cookie := Or.inl rfl
  query := Or.inl rfl
  name := nofun

/-- The query depends on the name only as far as its length goes. -/
lemma sendDnsQuery_name (p : Ipcp) (s : Ipv4Sender) (resolver : Address) (id : UInt16) (name : Buffer) (length : UInt8)
    (hlength : 0 < length.toNat) :
    sendDnsQuery p s resolver id (write default 0 (read name 0 length.toNat))
      (UInt8.ofNat (read name 0 length.toNat).length) = sendDnsQuery p s resolver id name length := by
  have hread := read_write default 0 (read name 0 length.toNat)
  have hmax : max 1 length.toNat = length.toNat := by omega
  rw [length_read] at hread
  unfold sendDnsQuery dnsQueryPacket encodeName
  simp only [length_read, UInt8.ofNat_toNat, hmax, hread]

lemma sends_of_faithful (hfaithful : Faithful h) : Sends h call := by
  cases call with
  | icmpPoll p now s =>
    intro hstate hopen hidle
    refine ⟨_, hfaithful.echo_eq (by rw [hstate]; rfl), ?_⟩
    unfold pppIcmpRequestPoll
    rw [hstate]
    dsimp only
    rw [hopen, hidle, if_neg (by decide), if_neg (by decide)]
    split <;> (rename_i heq; rw [heq])
  | ntpPoll p now s =>
    intro hstate hopen hidle
    refine ⟨_, hfaithful.cookie_eq (by rw [hstate]; rfl), ?_⟩
    unfold pppNtpPoll
    rw [hstate]
    dsimp only
    rw [hopen, hidle, if_neg (by decide), if_neg (by decide)]
    split <;> (rename_i heq; rw [heq])
  | dnsPoll p now s =>
    intro hstate hopen hidle
    have houtstanding : h.clients.dns.state.outstanding = true := by rw [hstate]; rfl
    refine ⟨_, hfaithful.query_eq houtstanding, ?_⟩
    dsimp only
    rw [sendDnsQuery_name _ _ _ _ _ _ (hfaithful.length_bounds houtstanding).1]
    unfold pppDnsPoll
    rw [hstate]
    dsimp only
    rw [hopen, hidle, if_neg (by decide), if_neg (by decide)]
    split <;> (rename_i heq; rw [heq])
  | icmpEchoRequest p arguments => trivial
  | ntpRequest p => trivial
  | dnsQuery p caller arguments => trivial
  | icmpReceive now message => trivial
  | ntpReceive p datagram => trivial
  | dnsReceive now datagram => trivial
  | icmpInitialize => trivial
  | ntpInitialize => trivial
  | dnsInitialize => trivial

lemma icmpReceive_of_answered {r : IcmpRequest} (now : UInt32) {message : IcmpMessage} (hstate : r.state = .waiting)
    (hanswered : Echo.Answered ⟨r.destination, r.identifier, r.sequence⟩ message) :
    (pppIcmpRequestReceive now message r).state = .received := by
  obtain ⟨hsource, hidentifier, hsequence, hlength, hpayload⟩ := hanswered
  have hmatch : r.mismatch message = none := by
    unfold IcmpRequest.mismatch
    rw [if_neg (not_not_intro hsource), if_neg (not_not_intro hidentifier), if_neg (not_not_intro hsequence),
      if_neg (not_not_intro hlength), if_neg (not_not_intro hpayload)]
  unfold pppIcmpRequestReceive
  rw [if_neg (not_not_intro hstate), hmatch]

/-- **What the client takes**, and the variables that it leaves. -/
lemma ntpReceive_eq {n : Ntp} {p : Ipcp} {d : UdpDatagram} {x : ℕ} (hwaiting : n.state = .waiting)
    (hanswered : Cookie.Answered ⟨n.cookieSeconds, n.cookieFraction⟩ p d x) : pppNtpReceive p d n = { n with
      state := .received
      lastError := .none
      cookieValid := true
      responseValid := true
      unixTimeValid := true
      version := d.frameBuffer x >>> 3 &&& 7
      leapIndicator := d.frameBuffer x >>> 6
      stratum := d.frameBuffer (x + 1)
      pollExponent := d.frameBuffer (x + 2)
      precision := d.frameBuffer (x + 3)
      referenceId := read d.frameBuffer (x + 12) 4
      serverReceiveSeconds := doubleWordAt d.frameBuffer (x + 32)
      serverReceiveFraction := doubleWordAt d.frameBuffer (x + 36)
      serverTransmitSeconds := doubleWordAt d.frameBuffer (x + 40)
      serverTransmitFraction := doubleWordAt d.frameBuffer (x + 44)
      unixSeconds := doubleWordAt d.frameBuffer (x + 40) - ntpUnixEpochOffsetSeconds } := by
  obtain ⟨⟨hsourcePort, hdestinationPort⟩, hlength, hsource, rfl, hversion, hmode, hleap, ⟨hstratum, hsixteen⟩,
    ⟨hseconds, hfraction⟩, htime⟩ := hanswered
  have hports : ¬ (d.sourcePort ≠ ntpServerPort ∨ d.destinationPort ≠ ntpClientPort) := by
    rintro (h | h)
    · exact h hsourcePort
    · exact h hdestinationPort
  have hknown : ¬ (d.frameBuffer (d.packetOffset + udpHeaderLength).toNat >>> 3 &&& 7 ≠ 3 ∧
      d.frameBuffer (d.packetOffset + udpHeaderLength).toNat >>> 3 &&& 7 ≠ 4) := by
    rintro ⟨hthree, hfour⟩
    exact hversion.elim hthree hfour
  have hcookie : ¬ (doubleWordAt d.frameBuffer ((d.packetOffset + udpHeaderLength).toNat + 24) ≠ n.cookieSeconds ∨
      doubleWordAt d.frameBuffer ((d.packetOffset + udpHeaderLength).toNat + 28) ≠ n.cookieFraction) := by
    rintro (h | h)
    · exact h hseconds
    · exact h hfraction
  unfold pppNtpReceive
  rw [if_neg (not_not_intro hwaiting), if_neg hports, if_neg (UInt16.not_lt.mpr hlength), if_neg (not_not_intro hsource)]
  dsimp only
  rw [if_neg hknown, if_neg (not_not_intro hmode), if_neg hstratum, if_neg (UInt8.not_le.mpr hsixteen), if_neg hleap]
  unfold Ntp.receiveTimestamps
  dsimp only
  rw [if_neg hcookie, if_neg (UInt32.not_lt.mpr htime)]

lemma dnsReceive_of_answered {d : Dns} (now : UInt32) {datagram : UdpDatagram} {name : List UInt8} {address : Address}
    (hstate : d.state = .waiting) (hanswered : Query.Answered ⟨d.resolver, d.transactionId, name⟩ datagram address) :
    (pppDnsReceive now datagram d).state = .received ∧ (pppDnsReceive now datagram d).answerAddress = address := by
  obtain ⟨⟨hsourcePort, hdestinationPort⟩, hsource, hlength, hid, hparse⟩ := hanswered
  have hmatch : d.mismatch datagram = none := by
    unfold Dns.mismatch
    rw [if_neg (by simp [hsourcePort, hdestinationPort]), if_neg (not_not_intro hsource)]
  unfold pppDnsReceive
  rw [if_neg (not_not_intro hstate), hmatch]
  dsimp only
  rw [if_neg (UInt16.not_lt.mpr hlength), if_neg (not_not_intro hid), hparse]
  exact ⟨rfl, rfl⟩

lemma accepts_of_faithful (hfaithful : Faithful h) : Accepts h call := by
  cases call with
  | icmpReceive now message =>
    intro hstate e he hanswered
    have heq := hfaithful.echo_eq (by rw [hstate]; rfl)
    obtain rfl := Option.some.inj (he.symm.trans heq)
    exact icmpReceive_of_answered now hstate hanswered
  | ntpReceive p datagram =>
    intro hstate c x hc hanswered
    have heq := hfaithful.cookie_eq (by rw [hstate]; rfl)
    obtain rfl := Option.some.inj (hc.symm.trans heq)
    rw [ntpReceive_eq hstate hanswered]
  | dnsReceive now datagram =>
    intro hstate q address hq hanswered
    have heq := hfaithful.query_eq (by rw [hstate]; rfl)
    obtain rfl := Option.some.inj (hq.symm.trans heq)
    exact dnsReceive_of_answered now hstate hanswered
  | icmpEchoRequest p arguments => trivial
  | ntpRequest p => trivial
  | dnsQuery p caller arguments => trivial
  | icmpPoll p now s => trivial
  | ntpPoll p now s => trivial
  | dnsPoll p now s => trivial
  | icmpInitialize => trivial
  | ntpInitialize => trivial
  | dnsInitialize => trivial

end Steps

/-- **In every run whose requests repeat the outstanding ones**, a further request is refused and leaves the client as
it is exactly if it repeats the outstanding one; what a client sends is what the host has asked for, and it takes the
answer to it. -/
theorem requests_kept (calls : List Call) (call : Call) (h : Run.Along History.step Repeats History.start calls) :
    (Refuses (Run.run History.step History.start calls) call ↔
      Repeats (Run.run History.step History.start calls) call) ∧
      Sends (Run.run History.step History.start calls) call ∧
      Accepts (Run.run History.step History.start calls) call := by
  have hfaithful : Faithful (Run.run History.step History.start calls) :=
    Run.run_invariant (fun s i hs hrepeats => faithful_step hs hrepeats) faithful_start h
  exact ⟨refuses_iff hfaithful, sends_of_faithful hfaithful, accepts_of_faithful hfaithful⟩

section Arguments

/-- An open link with an address of its own. -/
def openLink : Ipcp := { (default : Ipcp) with state := .opened, flags := { (default : IpcpFlags) with localValid := true } }

/-- An encoder at rest. -/
def idleSender : Ipv4Sender := ⟨default, 0⟩

/-- The arguments of an Echo-Request. -/
def echoArguments (destination : Address) : Buffer := write default 0 destination.octets

/-- The arguments of a query. -/
def queryArguments (resolver : Address) (name : List UInt8) : Buffer :=
  write default 0 (resolver.octets ++ UInt8.ofNat name.length :: name)

def firstHost : Address := ⟨192, 0, 2, 1⟩

def secondHost : Address := ⟨198, 51, 100, 7⟩

/-- The reply of the first host to the first Echo-Request. -/
def firstReply : IcmpMessage :=
  ⟨firstHost, icmpRequestIdentifier, 1, icmpRequestPayloadLength, 24, write default 32 icmpRequestPayload⟩

end Arguments

theorem requests_kept_repeated :
    (Refuses (Run.run History.step History.start [.icmpEchoRequest openLink (echoArguments firstHost),
        .icmpEchoRequest openLink (echoArguments firstHost)]) (.icmpEchoRequest openLink (echoArguments secondHost)) ↔
      Repeats (Run.run History.step History.start [.icmpEchoRequest openLink (echoArguments firstHost),
        .icmpEchoRequest openLink (echoArguments firstHost)]) (.icmpEchoRequest openLink (echoArguments secondHost))) ∧
      Sends (Run.run History.step History.start [.icmpEchoRequest openLink (echoArguments firstHost),
        .icmpEchoRequest openLink (echoArguments firstHost)]) (.icmpEchoRequest openLink (echoArguments secondHost)) ∧
      Accepts (Run.run History.step History.start [.icmpEchoRequest openLink (echoArguments firstHost),
        .icmpEchoRequest openLink (echoArguments firstHost)]) (.icmpEchoRequest openLink (echoArguments secondHost)) :=
  requests_kept _ _ ⟨fun h => absurd h (by decide +kernel), fun _ => by decide +kernel, trivial⟩

/-- **A refused request redirects the outstanding one**: the mailbox copies its arguments before the client is asked.
The first host is asked for and the second one is what the client now sends to, a query takes over the other name, and
the reply of the first host is not taken any more. -/
theorem refused_request_redirects :
    ¬ Refuses (Run.run History.step History.start [.icmpEchoRequest openLink (echoArguments firstHost)])
        (.icmpEchoRequest openLink (echoArguments secondHost)) ∧
      ¬ Refuses (Run.run History.step History.start [.dnsQuery openLink ⟨0, default⟩ (queryArguments firstHost [97])])
        (.dnsQuery openLink ⟨0, default⟩ (queryArguments firstHost [98])) ∧
      (let h := Run.run History.step History.start [.icmpEchoRequest openLink (echoArguments firstHost),
        .icmpEchoRequest openLink (echoArguments secondHost)]
      h.clients.icmp.state = .requested ∧ h.echo = some ⟨firstHost, icmpRequestIdentifier, 1⟩ ∧
        h.clients.icmp.destination = secondHost) ∧
      ¬ Accepts (Run.run History.step History.start [.icmpEchoRequest openLink (echoArguments firstHost),
        .icmpPoll openLink 0 idleSender, .icmpEchoRequest openLink (echoArguments secondHost)])
        (.icmpReceive 1 firstReply) := by
  refine ⟨fun h => ?_, fun h => ?_, by decide +kernel, fun h => ?_⟩
  · have hdestination := congrArg (fun r => r.1.destination) (h (by decide +kernel))
    exact absurd hdestination (by decide +kernel)
  · have hname := congrArg (fun d => d.1.queryName 0) (h (by decide +kernel))
    exact absurd hname (by decide +kernel)
  · have hreceived := h (by decide +kernel) ⟨firstHost, icmpRequestIdentifier, 1⟩ (by decide +kernel)
      ⟨by decide +kernel, by decide +kernel, by decide +kernel, by decide +kernel, by decide +kernel⟩
    exact absurd hreceived (by decide +kernel)

end SnesModem.Asm.ClientRequests
