import SnesModem.Asm.DnsNames
import SnesModem.Asm.EchoReplies
import SnesModem.Asm.HandedFrames

/-!
# The packets that the polls give to the encoder

* `ipv4Poll_hands`: the Echo-Reply to a received packet;
* `requestPolls_hands`: the requests of the clients, of which a turn of the loop sends one.
-/

namespace SnesModem.Asm.HandedFrames

open SnesModem.Lib.Cpu65816 SnesModem.Lib.Octets SnesModem.Asm.Network SnesModem.Asm.ClientRequests

/-! ### The packets of IPv4 -/

section Packets

variable {p : Ipcp} (now : UInt32) {mru : UInt16} {s : IpLayer}

/-- The length of the payload of the received packet, by the fields of its header. -/
def receivedPayload (buffer : Buffer) : ℕ :=
  (wordAt buffer (ipv4FrameOffset + 2)).toNat - ((buffer ipv4FrameOffset &&& 0x0f) <<< 2).toNat

/-- The Echo-Reply fits that is pending, or that the packet in the frame buffer asks for. -/
def EchoFits (p : Ipcp) (s : IpLayer) (room : ℕ) : Prop :=
  if s.icmp.replyPending then 20 + s.ipv4.payloadLength.toNat ≤ room
  else (EchoReplies.request p s).isSome = true → 20 + receivedPayload s.receive.decoder.frameBuffer ≤ room

instance (p : Ipcp) (s : IpLayer) (room : ℕ) : Decidable (EchoFits p s room) := by
  unfold EchoFits
  infer_instance

lemma payloadLength_of_received {d : Decoder} {v : Ipv4} (haccepted : (pppIpv4ReceiveFrame d v).2 = none) :
    (pppIpv4ReceiveFrame d v).1.payloadLength.toNat = receivedPayload d.frameBuffer := by
  unfold pppIpv4ReceiveFrame at haccepted ⊢
  unfold receivedPayload
  dsimp only at haccepted ⊢
  split_ifs at haccepted ⊢ with _ _ _ _ _ htotal
  have hwhole := UInt16.not_lt.mp htotal
  show (_ - _ : UInt16).toNat = _
  rw [UInt16.toNat_sub_of_le _ _ hwhole]
  rfl

lemma buildEchoReply_hands (frameBuffer : Buffer) {v : Ipv4} (c : Icmp) (s : Ipv4Sender)
    (hlength : 20 + v.payloadLength.toNat ≤ max mru.toNat 20) :
    Hands (Limited mru) s.transmit (c.buildEchoReply p frameBuffer v s).2.1.transmit := by
  unfold Icmp.buildEchoReply
  extract_lets length copied typed cleared checksum buffer
  have hbegin : Hands (Limited mru) s.transmit (pppIpv4BeginTransmit p
      { s with transmit := { s.transmit with buffer := buffer } } protocolIcmp v.source v.payloadLength).1.transmit := by
    intro hidle
    exact beginTransmit_hands p { s with transmit := { s.transmit with buffer := buffer } } protocolIcmp v.source hlength
      hidle
  split
  · rename_i s' heq
    rw [heq] at hbegin
    exact hbegin
  · rename_i s' heq
    rw [heq] at hbegin
    exact hbegin

lemma parse_hands {e : EchoRequest} (hrequest : EchoReplies.request p s = some e)
    (hlength : 20 + (pppIpv4ReceiveFrame s.receive.decoder s.ipv4).1.payloadLength.toNat ≤ max mru.toNat 20) :
    Hands (Limited mru) s.sender.transmit (s.parse p now).sender.transmit := by
  unfold EchoReplies.request at hrequest
  unfold IpLayer.parse
  generalize pppIpv4ReceiveFrame s.receive.decoder s.ipv4 = parsed at hrequest hlength ⊢
  obtain ⟨v, error⟩ := parsed
  cases error with
  | some error => contradiction
  | none =>
    dsimp only at hrequest hlength ⊢
    split at hrequest
    · rename_i hmine
      obtain ⟨hdestination, hwhole, hicmp⟩ := hmine
      obtain ⟨c, -, -, hreceived⟩ := icmpReceive_of_some p now s.icmp s.clients.icmp s.sender hrequest
      rw [if_neg (not_not.mpr hdestination), if_neg (by simp [hwhole]), if_pos hicmp]
      unfold IpLayer.receiveIcmp
      dsimp only
      rw [hreceived]
      cases hactive : s.sender.transmit.active with
      | true => exact hands_busy hactive
      | false => exact buildEchoReply_hands _ c s.sender hlength
    · contradiction

lemma accepted_of_request {e : EchoRequest} (hrequest : EchoReplies.request p s = some e) :
    (pppIpv4ReceiveFrame s.receive.decoder s.ipv4).2 = none := by
  unfold EchoReplies.request at hrequest
  generalize pppIpv4ReceiveFrame s.receive.decoder s.ipv4 = parsed at hrequest ⊢
  obtain ⟨v, error⟩ := parsed
  cases error with
  | some error => contradiction
  | none => rfl

/-- **The poll of IPv4.** -/
theorem ipv4Poll_hands {up : Bool} (hfits : s.owned = true → up = true → EchoFits p s (max mru.toNat 20)) :
    Hands (Limited mru) s.sender.transmit (Network.pppIpv4Poll up p now s).sender.transmit := by
  unfold Network.pppIpv4Poll
  cases howned : s.owned with
  | false => exact .refl _
  | true =>
    cases up with
    | false => exact .refl _
    | true =>
      have hlength := hfits howned rfl
      unfold EchoFits at hlength
      simp only [Bool.not_true, Bool.false_eq_true, if_false]
      cases hpending : s.icmp.replyPending with
      | true =>
        rw [hpending] at hlength
        unfold IpLayer.retry pppIcmpRetryPending
        rw [hpending]
        cases hactive : s.sender.transmit.active with
        | true => exact hands_busy hactive
        | false => exact buildEchoReply_hands s.receive.decoder.frameBuffer s.icmp s.sender hlength
      | false =>
        rw [hpending] at hlength
        cases hrequest : EchoReplies.request p s with
        | none =>
          have hsettles : EchoReplies.Settles true none s (s.parse p now) := EchoReplies.parse_of_none hrequest hpending
          refine hands_of_active ?_
          simp only [Bool.false_eq_true, if_false]
          rw [hsettles.silent (by simp)]
        | some e =>
          rw [hrequest] at hlength
          refine parse_hands now hrequest ?_
          rw [payloadLength_of_received (accepted_of_request hrequest)]
          exact hlength rfl

end Packets

/-! ### The requests of the clients -/

section Requests

variable {p : Ipcp} (now : UInt32) {mru : UInt16} {s : Ipv4Sender}

/-- The length of the ICMP message or UDP datagram that the first client sends that has something to send. -/
def requestLength (p : Ipcp) (c : Clients) : ℕ :=
  if c.icmp.state = .requested then icmpRequestMessageLength.toNat
  else if c.ntp.state = .requested ∧ p.flags.peerValid = true then 8 + ntpPacketLength.toNat
  else if c.dns.state = .requested then 8 + (18 + max 1 c.dns.queryNameLength.toNat)
  else 0

lemma ipv4Begin_active (hopen : linkIsOpen p = true) (hidle : s.transmit.active = false) (protocol : UInt8)
    (destination : Address) {length : UInt16} (hfits : length ≤ ipv4MaximumPayloadLength) :
    (pppIpv4BeginTransmit p s protocol destination length).1.transmit.active = true := by
  simp only [linkIsOpen, Bool.and_eq_true, decide_eq_true_eq] at hopen
  obtain ⟨t, checksum, hgiven, hactive, -⟩ := beginTransmit_given protocol destination hopen.1 hopen.2 hidle hfits
  rw [hgiven]
  exact hactive

/-- A datagram with its header. -/
lemma udpLength_toNat {length : UInt16} (hfits : length ≤ udpMaximumPayloadLength) :
    (length + udpHeaderLength).toNat = 8 + length.toNat := by
  have hlength : length.toNat ≤ 1472 := UInt16.le_iff_toNat_le.mp hfits
  have hheader : udpHeaderLength.toNat = 8 := rfl
  rw [toNat_add_of_lt (by omega), hheader]
  exact Nat.add_comm _ _

lemma udpBegin_hands (sourcePort destinationPort : UInt16) (destination : Address) {length : UInt16}
    (hlength : 28 + length.toNat ≤ max mru.toNat 20) : Hands (Limited mru) s.transmit
      (pppUdpBeginTransmit p s sourcePort destinationPort destination length).1.transmit := by
  unfold pppUdpBeginTransmit
  split
  · exact .refl _
  · rename_i hfits
    have hudp := udpLength_toNat (UInt16.not_lt.mp hfits)
    extract_lets udpLength ports buffer sum checksum filled
    intro hidle
    exact beginTransmit_hands p { s with transmit := { s.transmit with buffer := filled } } protocolUdp destination
      (by rw [hudp]; omega) hidle

lemma udpBegin_active (hopen : linkIsOpen p = true) (hidle : s.transmit.active = false) (sourcePort destinationPort : UInt16)
    (destination : Address) {length : UInt16} (hfits : length ≤ udpMaximumPayloadLength) :
    (pppUdpBeginTransmit p s sourcePort destinationPort destination length).1.transmit.active = true := by
  have hudp := udpLength_toNat hfits
  have hlength : length.toNat ≤ 1472 := UInt16.le_iff_toNat_le.mp hfits
  unfold pppUdpBeginTransmit
  rw [if_neg (UInt16.not_lt.mpr hfits)]
  extract_lets udpLength ports buffer sum checksum filled
  have hwhole : udpLength ≤ ipv4MaximumPayloadLength := by
    rw [UInt16.le_iff_toNat_le]
    change (length + udpHeaderLength).toNat ≤ 1480
    omega
  exact ipv4Begin_active (s := { s with transmit := { s.transmit with buffer := filled } }) hopen hidle protocolUdp
    destination hwhole

section Icmp

variable {r : IcmpRequest}

lemma icmpRequestPoll_silent (h : r.state = .requested → linkIsOpen p = true → s.transmit.active = true) :
    (pppIcmpRequestPoll p now r s).2.transmit = s.transmit := by
  unfold pppIcmpRequestPoll
  split
  · rename_i hrequested
    split
    · rfl
    rename_i hopen
    rw [if_pos (h hrequested (by simpa using hopen))]
  · split
    · rfl
    split
    · rfl
    · rfl
  · rfl
  · rfl
  · rfl

/-- A request on an open link, for an idle encoder. -/
lemma icmpRequestPoll_sends (hrequested : r.state = .requested) (hopen : linkIsOpen p = true)
    (hidle : s.transmit.active = false) :
    (pppIcmpRequestPoll p now r s).2 = (sendEchoRequest p s r.destination r.identifier r.sequence).1 := by
  unfold pppIcmpRequestPoll
  rw [hrequested, hopen, hidle]
  simp only [Bool.not_true, Bool.false_eq_true, if_false]
  generalize sendEchoRequest p s r.destination r.identifier r.sequence = sent
  obtain ⟨s', carry⟩ := sent
  cases carry with
  | true => rfl
  | false => rfl

lemma sendEchoRequest_hands (destination : Address) (identifier sequence : UInt16)
    (hlength : 20 + icmpRequestMessageLength.toNat ≤ max mru.toNat 20) :
    Hands (Limited mru) s.transmit (sendEchoRequest p s destination identifier sequence).1.transmit := by
  unfold sendEchoRequest
  extract_lets checksum buffer
  intro hidle
  exact beginTransmit_hands p { s with transmit := { s.transmit with buffer := buffer } } protocolIcmp destination hlength
    hidle

lemma sendEchoRequest_active (hopen : linkIsOpen p = true) (hidle : s.transmit.active = false) (destination : Address)
    (identifier sequence : UInt16) :
    (sendEchoRequest p s destination identifier sequence).1.transmit.active = true := by
  unfold sendEchoRequest
  extract_lets checksum buffer
  exact ipv4Begin_active (s := { s with transmit := { s.transmit with buffer := buffer } }) hopen hidle protocolIcmp
    destination (by decide)

end Icmp

section Ntp

variable {n : Ntp}

lemma ntpPoll_silent (h : n.state = .requested → ntpLinkIsOpen p = true → s.transmit.active = true) :
    (pppNtpPoll p now n s).2.transmit = s.transmit := by
  unfold pppNtpPoll
  split
  · rename_i hrequested
    split
    · rfl
    rename_i hopen
    rw [if_pos (h hrequested (by simpa using hopen))]
  · split
    · rfl
    split
    · rfl
    · rfl
  · rfl
  · rfl
  · rfl

lemma ntpPoll_sends (hrequested : n.state = .requested) (hopen : ntpLinkIsOpen p = true)
    (hidle : s.transmit.active = false) :
    (pppNtpPoll p now n s).2 = (sendNtpRequest p s n.cookieSeconds n.cookieFraction).1 := by
  unfold pppNtpPoll
  rw [hrequested, hopen, hidle]
  simp only [Bool.not_true, Bool.false_eq_true, if_false]
  generalize sendNtpRequest p s n.cookieSeconds n.cookieFraction = sent
  obtain ⟨s', carry⟩ := sent
  cases carry with
  | true => rfl
  | false => rfl

lemma sendNtpRequest_hands (cookieSeconds cookieFraction : UInt32)
    (hlength : 28 + ntpPacketLength.toNat ≤ max mru.toNat 20) :
    Hands (Limited mru) s.transmit (sendNtpRequest p s cookieSeconds cookieFraction).1.transmit := by
  unfold sendNtpRequest
  extract_lets buffer
  intro hidle
  exact udpBegin_hands (s := { s with transmit := { s.transmit with buffer := buffer } }) ntpClientPort ntpServerPort
    p.peerAddress hlength hidle

lemma sendNtpRequest_active (hopen : linkIsOpen p = true) (hidle : s.transmit.active = false)
    (cookieSeconds cookieFraction : UInt32) :
    (sendNtpRequest p s cookieSeconds cookieFraction).1.transmit.active = true := by
  unfold sendNtpRequest
  extract_lets buffer
  exact udpBegin_active (s := { s with transmit := { s.transmit with buffer := buffer } }) hopen hidle ntpClientPort
    ntpServerPort p.peerAddress (by decide)

end Ntp

section Dns

variable {d : Dns}

lemma dnsPoll_silent (h : d.state = .requested → linkIsOpen p = true → s.transmit.active = true) :
    (pppDnsPoll p now d s).2.transmit = s.transmit := by
  unfold pppDnsPoll
  split
  · rename_i hrequested
    split
    · rfl
    rename_i hopen
    rw [if_pos (h hrequested (by simpa using hopen))]
  · split
    · rfl
    split
    · rfl
    · rfl
  · rfl
  · rfl
  · rfl

lemma dnsPoll_hands (hlength : 28 + (18 + max 1 d.queryNameLength.toNat) ≤ max mru.toNat 20) :
    Hands (Limited mru) s.transmit (pppDnsPoll p now d s).2.transmit := by
  have hname : d.queryNameLength.toNat < 256 := d.queryNameLength.toNat_lt
  have hpacket := DnsNames.dnsQueryPacket_length d.transactionId d.queryName d.queryNameLength
  have hsent : Hands (Limited mru) s.transmit
      (sendDnsQuery p s d.resolver d.transactionId d.queryName d.queryNameLength).1.transmit := by
    unfold sendDnsQuery
    extract_lets packet buffer
    have htoNat : (UInt16.ofNat packet.length).toNat = packet.length := by
      have hshort : packet.length < 2 ^ 16 := by
        rw [hpacket]
        omega
      exact UInt16.toNat_ofNat_of_lt' hshort
    intro hidle
    exact udpBegin_hands (s := { s with transmit := { s.transmit with buffer := buffer } }) dnsClientPort dnsServerPort
      d.resolver (by rw [htoNat, hpacket]; exact hlength) hidle
  by_cases hsilent : d.state = .requested → linkIsOpen p = true → s.transmit.active = true
  · rw [dnsPoll_silent now hsilent]
    exact .refl _
  · push Not at hsilent
    obtain ⟨hrequested, hopen, hidle⟩ := hsilent
    rw [DnsNames.dnsPoll_sends p s now hrequested hopen (Bool.eq_false_iff.mpr hidle)]
    exact hsent

end Dns

/-- **The polls of the clients** give at most one packet to the encoder. -/
theorem requestPolls_hands (s : IpLayer)
    (hfits : linkIsOpen p = true → 20 + requestLength p s.clients ≤ max mru.toNat 20) :
    Hands (Limited mru) s.sender.transmit (Node.requestPolls p now s).sender.transmit := by
  unfold Node.requestPolls
  extract_lets icmp ntp dns
  change Hands _ _ dns.2.transmit
  have hlink (h : ntpLinkIsOpen p = true) : linkIsOpen p = true ∧ p.flags.peerValid = true := by
    simp only [ntpLinkIsOpen, Bool.and_eq_true] at h
    exact ⟨Bool.and_eq_true_iff.mpr h.1, h.2⟩
  -- A client leaves alone the packet of the one before it.
  have hntp (hbusy : icmp.2.transmit.active = true) : ntp.2.transmit = icmp.2.transmit :=
    ntpPoll_silent now fun _ _ => hbusy
  have hdns (hbusy : ntp.2.transmit.active = true) : dns.2.transmit = ntp.2.transmit :=
    dnsPoll_silent now fun _ _ => hbusy
  by_cases hbusy : s.sender.transmit.active = true
  · exact hands_busy hbusy
  have hidle : s.sender.transmit.active = false := by simpa using hbusy
  cases hopen : linkIsOpen p with
  | false =>
    have hclosed {Q : Prop} (h : linkIsOpen p = true) : Q := by
      rw [hopen] at h
      contradiction
    have hicmp : icmp.2.transmit = s.sender.transmit := icmpRequestPoll_silent now fun _ h => hclosed h
    have hntp : ntp.2.transmit = icmp.2.transmit := ntpPoll_silent now fun _ h => hclosed (hlink h).1
    have hdns : dns.2.transmit = ntp.2.transmit := dnsPoll_silent now fun _ h => hclosed h
    rw [hdns, hntp, hicmp]
    exact .refl _
  | true =>
    have hlength := hfits hopen
    unfold requestLength at hlength
    split at hlength
    · rename_i hrequested
      have hsends : icmp.2 = (sendEchoRequest p s.sender s.clients.icmp.destination s.clients.icmp.identifier
          s.clients.icmp.sequence).1 := icmpRequestPoll_sends now hrequested hopen hidle
      have hactive : icmp.2.transmit.active = true := by
        rw [hsends]
        exact sendEchoRequest_active hopen hidle _ _ _
      rw [hdns (by rw [hntp hactive]; exact hactive), hntp hactive, hsends]
      exact sendEchoRequest_hands _ _ _ hlength
    rename_i hicmpQuiet
    have hicmp : icmp.2.transmit = s.sender.transmit := icmpRequestPoll_silent now fun h => absurd h hicmpQuiet
    split at hlength
    · rename_i hrequested
      have hpeer : ntpLinkIsOpen p = true := Bool.and_eq_true_iff.mpr ⟨hopen, hrequested.2⟩
      have hidle' : icmp.2.transmit.active = false := by
        rw [hicmp]
        exact hidle
      have hsends : ntp.2 = (sendNtpRequest p icmp.2 s.clients.ntp.cookieSeconds s.clients.ntp.cookieFraction).1 :=
        ntpPoll_sends now hrequested.1 hpeer hidle'
      have hactive : ntp.2.transmit.active = true := by
        rw [hsends]
        exact sendNtpRequest_active hopen hidle' _ _
      rw [hdns hactive, hsends, ← hicmp]
      exact sendNtpRequest_hands _ _ (by omega)
    rename_i hntpQuiet
    have hntp' : ntp.2.transmit = icmp.2.transmit :=
      ntpPoll_silent now fun h h' => absurd ⟨h, (hlink h').2⟩ hntpQuiet
    rw [← hicmp, ← hntp']
    split at hlength
    · exact dnsPoll_hands now (by omega)
    · rename_i hdnsQuiet
      have hdns' : dns.2.transmit = ntp.2.transmit := dnsPoll_silent now fun h => absurd h hdnsQuiet
      rw [hdns']
      exact .refl _

end Requests

end SnesModem.Asm.HandedFrames
