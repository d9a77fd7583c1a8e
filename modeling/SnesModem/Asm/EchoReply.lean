import SnesModem.Asm.Checksums
import SnesModem.Asm.Icmp

/-!
# The Echo-Reply to an Echo-Request

* `EchoRequest`, `echoMessage`: a request of a host, and the ICMP messages with its contents;
* `beginTransmit_given`: the packet that the encoder is given;
* `RepliesTo`, `buildEchoReply_answers`: the reply goes to the source of its request, with its contents.
-/

namespace SnesModem.Asm

open SnesModem.Lib.Cpu65816 SnesModem.Lib.Octets

/-! ### Packets -/

/-- The frame of an IPv4 packet. -/
def ipv4Frame (identification totalLength : UInt16) (protocol : UInt8) (source destination : Address) (checksum : UInt16)
    (payload : List UInt8) : List UInt8 :=
  [0xff, 0x03, 0x00, 0x21] ++ ipv4Header identification totalLength protocol source destination checksum ++ payload

section Packet

variable {p : Ipcp} {s : Ipv4Sender} (protocol : UInt8) (destination : Address) {length : UInt16}

/-- The header, with its checksum. -/
lemma ipv4Header_checksum (identification totalLength : UInt16) (source : Address) :
    checksumWords 0 (ipv4Header identification totalLength protocol source destination
      (checksumWords 0 (ipv4Header identification totalLength protocol source destination 0) ^^^ 0xffff)) = 0xffff := by
  have heven : Even ([0x45, 0x00, high totalLength, low totalLength, high identification, low identification, 0x40, 0x00,
      ipv4DefaultTtl, protocol] : List UInt8).length := ⟨5, rfl⟩
  exact checksumWords_filled _ (source.octets ++ destination.octets) heven rfl

/-- The packet that an idle encoder is given, octet by octet. -/
lemma beginTransmit_sent (hopened : p.state = .opened) (hlocal : p.flags.localValid = true)
    (hidle : s.transmit.active = false) (hfits : length ≤ ipv4MaximumPayloadLength) :
    ∃ t, pppIpv4BeginTransmit p s protocol destination length = (⟨t, s.nextIdentification + 1⟩, false) ∧
      t.active = true ∧
      t.frame = ipv4Frame s.nextIdentification (length + ipv4MinimumHeaderLength) protocol p.localAddress destination
        (checksumWords 0 (ipv4Header s.nextIdentification (length + ipv4MinimumHeaderLength) protocol p.localAddress
          destination 0) ^^^ 0xffff) (read s.transmit.buffer ipv4PayloadOffset length.toNat) := by
  have hlength : length.toNat ≤ 1480 := UInt16.le_iff_toNat_le.mp hfits
  have hminimum : ipv4MinimumHeaderLength.toNat = 20 := rfl
  have hfour : frameOffset.toNat = 4 := rfl
  have htotal : (length + ipv4MinimumHeaderLength + frameOffset).toNat = 24 + length.toNat := by
    rw [toNat_add_of_lt (by rw [toNat_add_of_lt] <;> omega), toNat_add_of_lt (by omega)]
    omega
  have hframe : length + ipv4MinimumHeaderLength + frameOffset ≤ maximumTransmitFrameLength := by
    rw [UInt16.le_iff_toNat_le, htotal]
    change 24 + length.toNat ≤ 1504
    omega
  unfold pppIpv4BeginTransmit
  rw [if_neg (by simp [hopened, hlocal]), hidle, if_neg Bool.false_ne_true, if_neg (UInt16.not_lt.mpr hfits)]
  extract_lets totalLength header checksum buffer
  have hgiven : pppTransmitBegin { s.transmit with buffer := buffer } (totalLength + frameOffset) = _ := transmitBegin_eq
  rw [if_pos ⟨hidle, hframe⟩] at hgiven
  rw [hgiven]
  refine ⟨_, rfl, rfl, ?_⟩
  -- The header is written in front of the payload, which stays.
  unfold Transmit.frame
  dsimp only
  rw [htotal, read_append]
  have hheader : ([0xff, 0x03, 0x00, 0x21] ++ header checksum).length = 24 := rfl
  have hfirst : read buffer 0 24 = [0xff, 0x03, 0x00, 0x21] ++ header checksum := read_write s.transmit.buffer 0 _
  have hrest : read buffer (0 + 24) length.toNat = read s.transmit.buffer ipv4PayloadOffset length.toNat :=
    read_write_of_disjoint _ _ _ (Or.inr (by rw [hheader]))
  rw [hfirst, hrest]
  rfl

/-- **A packet for an idle encoder** is given to it with its header, which has a valid checksum. -/
theorem beginTransmit_given (hopened : p.state = .opened) (hlocal : p.flags.localValid = true)
    (hidle : s.transmit.active = false) (hfits : length ≤ ipv4MaximumPayloadLength) :
    ∃ t checksum, pppIpv4BeginTransmit p s protocol destination length = (⟨t, s.nextIdentification + 1⟩, false) ∧
      t.active = true ∧
      t.frame = ipv4Frame s.nextIdentification (length + ipv4MinimumHeaderLength) protocol p.localAddress destination
        checksum (read s.transmit.buffer ipv4PayloadOffset length.toNat) ∧
      checksumWords 0 (ipv4Header s.nextIdentification (length + ipv4MinimumHeaderLength) protocol p.localAddress
        destination checksum) = 0xffff := by
  obtain ⟨t, hgiven, hactive, hframe⟩ := beginTransmit_sent protocol destination hopened hlocal hidle hfits
  exact ⟨t, _, hgiven, hactive, hframe, ipv4Header_checksum _ _ _ _ _⟩

/-- **What is given to the encoder** had an idle encoder and an open link. -/
lemma of_beginTransmit {s' : Ipv4Sender} (hsent : pppIpv4BeginTransmit p s protocol destination length = (s', false)) :
    p.state = .opened ∧ p.flags.localValid = true ∧ s.transmit.active = false ∧ length ≤ ipv4MaximumPayloadLength := by
  unfold pppIpv4BeginTransmit at hsent
  by_cases hclosed : p.state ≠ .opened ∨ (!p.flags.localValid) = true
  · rw [if_pos hclosed] at hsent
    cases hsent
  rw [if_neg hclosed] at hsent
  by_cases hactive : s.transmit.active = true
  · rw [if_pos hactive] at hsent
    cases hsent
  rw [if_neg hactive] at hsent
  by_cases hlong : ipv4MaximumPayloadLength < length
  · rw [if_pos hlong] at hsent
    cases hsent
  simp only [not_or, not_not, Bool.not_eq_true, Bool.not_eq_false'] at hclosed
  exact ⟨hclosed.1, hclosed.2, Bool.eq_false_of_not_eq_true hactive, UInt16.not_lt.mp hlong⟩

end Packet

/-! ### Messages -/

/-- An Echo-Request that a host has sent. -/
structure EchoRequest where
  source : Address
  identifier : UInt16
  sequence : UInt16
  payload : List UInt8
  deriving DecidableEq, Repr, Inhabited

/-- An Echo message with the contents of a request. -/
def echoMessage (type : UInt8) (checksum : UInt16) (e : EchoRequest) : List UInt8 :=
  [type, 0, high checksum, low checksum, high e.identifier, low e.identifier, high e.sequence, low e.sequence] ++ e.payload

/-- The reply to a request, with its checksum. -/
def replyMessage (e : EchoRequest) : List UInt8 :=
  echoMessage icmpTypeEchoReply (checksumWords 0 (echoMessage icmpTypeEchoReply 0 e) ^^^ 0xffff) e

/-- **The frame answers the request**: it goes to the source, with the contents and with valid checksums. -/
def RepliesTo (e : EchoRequest) (frame : List UInt8) : Prop :=
  ∃ identification totalLength source headerChecksum checksum,
    frame = ipv4Frame identification totalLength protocolIcmp source e.source headerChecksum
      (echoMessage icmpTypeEchoReply checksum e) ∧
    totalLength.toNat = 28 + e.payload.length ∧
    checksumWords 0 (ipv4Header identification totalLength protocolIcmp source e.source headerChecksum) = 0xffff ∧
    checksumWords 0 (echoMessage icmpTypeEchoReply checksum e) = 0xffff

section Message

variable (type : UInt8) (checksum : UInt16) (e : EchoRequest)

@[simp] lemma length_echoMessage : (echoMessage type checksum e).length = 8 + e.payload.length := by
  simp only [echoMessage, List.length_append, List.length_cons, List.length_nil]

/-- A message whose checksum was computed with the field cleared. -/
lemma echoMessage_checksum : checksumWords 0 (echoMessage type (checksumWords 0 (echoMessage type 0 e) ^^^ 0xffff) e) =
    0xffff := by
  have heven : Even ([type, 0] : List UInt8).length := ⟨1, rfl⟩
  exact checksumWords_filled _ ([high e.identifier, low e.identifier, high e.sequence, low e.sequence] ++ e.payload) heven rfl

/-- The request becomes the reply in the transmit buffer: its type, then its checksum. -/
lemma write_echoMessage (buffer : Buffer) (offset : ℕ) (type' : UInt8) :
    write (write buffer offset (echoMessage type checksum e)) offset [type'] =
      write buffer offset (echoMessage type' checksum e) := by
  exact write_within buffer offset [] [type] ((echoMessage type checksum e).tail) [type'] rfl

lemma write_echoMessage_checksum (buffer : Buffer) (offset : ℕ) (checksum' : UInt16) :
    write (write buffer offset (echoMessage type checksum e)) (offset + 2) [high checksum', low checksum'] =
      write buffer offset (echoMessage type checksum' e) := by
  exact write_within buffer offset [type, 0] [high checksum, low checksum]
    ([high e.identifier, low e.identifier, high e.sequence, low e.sequence] ++ e.payload) _ rfl

/-- The contents behind the checksum of a reply are those of its request. -/
lemma RepliesTo.contents {e : EchoRequest} {frame : List UInt8} (h : RepliesTo e frame) :
    frame.drop 28 = [high e.identifier, low e.identifier, high e.sequence, low e.sequence] ++ e.payload := by
  obtain ⟨identification, totalLength, source, headerChecksum, checksum, rfl, -⟩ := h
  rfl

end Message

/-! ### The reply -/

/-- The request whose message lies behind the header of a packet. -/
structure Held (e : EchoRequest) (frameBuffer : Buffer) (v : Ipv4) (c : Icmp) : Prop where
  source : v.source = e.source
  length : v.payloadLength.toNat = 8 + e.payload.length
  fits : v.payloadLength ≤ ipv4MaximumPayloadLength
  message : ∃ checksum, read frameBuffer c.packetOffset.toNat v.payloadLength.toNat =
    echoMessage icmpTypeEchoRequest checksum e

/-- The request that `pppIcmpReceive` finds in a packet. -/
def echoRequestOf (frameBuffer : Buffer) (v : Ipv4) : Option EchoRequest :=
  let x := (v.headerLength.toUInt16 + frameOffset).toNat
  if icmpEchoHeaderLength ≤ v.payloadLength ∧ frameBuffer x = icmpTypeEchoRequest ∧ frameBuffer (x + 1) = 0 ∧
      checksumWords 0 (read frameBuffer x v.payloadLength.toNat) = 0xffff then
    some {
      source := v.source
      identifier := wordAt frameBuffer (x + 4)
      sequence := wordAt frameBuffer (x + 6)
      payload := read frameBuffer (x + 8) (v.payloadLength.toNat - 8) }
  else none

section Request

variable {e : EchoRequest} {frameBuffer : Buffer} {v : Ipv4}

/-- The message of a request, octet by octet. -/
lemma held_of_echoRequestOf (hrequest : echoRequestOf frameBuffer v = some e) (hfits : v.payloadLength ≤ ipv4MaximumPayloadLength)
    {c : Icmp} (hoffset : c.packetOffset = v.headerLength.toUInt16 + frameOffset) : Held e frameBuffer v c := by
  unfold echoRequestOf at hrequest
  dsimp only at hrequest
  split at hrequest
  · rename_i haccepted
    obtain ⟨hlength, htype, hcode, -⟩ := haccepted
    obtain rfl := Option.some.inj hrequest
    have hlong : 8 ≤ v.payloadLength.toNat := UInt16.le_iff_toNat_le.mp hlength
    rw [← hoffset] at htype hcode ⊢
    refine ⟨rfl, ?_, hfits, wordAt frameBuffer (c.packetOffset.toNat + 2), ?_⟩
    · simp only [length_read]
      omega
    · rw [show v.payloadLength.toNat = 8 + (v.payloadLength.toNat - 8) by omega, read_append]
      simp only [echoMessage, wordAt, high_word, low_word, read_succ, read_zero, htype, hcode, Nat.add_assoc, Nat.reduceAdd,
        Nat.add_sub_cancel_left]
  · contradiction

variable (p : Ipcp) (now : UInt32) (c : Icmp) (r : IcmpRequest) (s : Ipv4Sender)

/-- A message that is no request sends nothing. -/
lemma icmpReceive_of_none (hnone : echoRequestOf frameBuffer v = none) :
    (pppIcmpReceive p now frameBuffer v c r s).1.replyPending = false ∧
      (pppIcmpReceive p now frameBuffer v c r s).2.2 = (s, false) := by
  unfold pppIcmpReceive
  extract_lets c₁ c₂ x type c₃
  split
  · exact ⟨rfl, rfl⟩
  rename_i hlength
  split
  · exact ⟨rfl, rfl⟩
  rename_i htype
  split
  · exact ⟨rfl, rfl⟩
  rename_i hcode
  split
  · exact ⟨rfl, rfl⟩
  rename_i hchecksum
  split
  · exact ⟨rfl, rfl⟩
  · rename_i hreply
    have hrequest : type = icmpTypeEchoRequest := by
      by_contra h
      exact htype ⟨h, hreply⟩
    have haccepted : icmpEchoHeaderLength ≤ v.payloadLength ∧ frameBuffer x = icmpTypeEchoRequest ∧
        frameBuffer (x + 1) = 0 ∧ checksumWords 0 (read frameBuffer x v.payloadLength.toNat) = 0xffff :=
      ⟨UInt16.not_lt.mp hlength, hrequest, not_not.mp hcode, not_not.mp hchecksum⟩
    unfold echoRequestOf at hnone
    dsimp only at hnone
    rw [if_pos haccepted] at hnone
    contradiction

/-- **A request** is answered, or is pending if the encoder is busy. -/
lemma icmpReceive_of_some (hrequest : echoRequestOf frameBuffer v = some e) :
    ∃ c' : Icmp, c'.replyPending = false ∧ c'.packetOffset = v.headerLength.toUInt16 + frameOffset ∧
      pppIcmpReceive p now frameBuffer v c r s =
        if s.transmit.active then ({ c' with replyPending := true }, r, s, true)
        else ((c'.buildEchoReply p frameBuffer v s).1, r, (c'.buildEchoReply p frameBuffer v s).2.1, false) := by
  unfold echoRequestOf at hrequest
  dsimp only at hrequest
  split at hrequest
  · rename_i haccepted
    obtain ⟨hlength, htype, hcode, hchecksum⟩ := haccepted
    unfold pppIcmpReceive
    extract_lets c₁ c₂ x type c₃
    have hasked : type = icmpTypeEchoRequest := htype
    rw [if_neg (UInt16.not_lt.mpr hlength), if_neg (fun h => h.1 hasked), if_neg (not_not.mpr hcode),
      if_neg (not_not.mpr hchecksum), if_neg (by rw [hasked]; decide)]
    exact ⟨c₃, rfl, rfl, rfl⟩
  · contradiction

end Request

section Reply

variable {e : EchoRequest} {p : Ipcp} {frameBuffer : Buffer} {v : Ipv4} {c : Icmp} {s : Ipv4Sender}

/-- The request becomes its reply in the transmit buffer, which `pppIpv4BeginTransmit` is given. -/
lemma buildEchoReply_eq {type : UInt8} {field : UInt16} (hlength : v.payloadLength.toNat = 8 + e.payload.length)
    (hmessage : read frameBuffer c.packetOffset.toNat v.payloadLength.toNat = echoMessage type field e) :
    c.buildEchoReply p frameBuffer v s =
      match pppIpv4BeginTransmit p { s with transmit := { s.transmit with
          buffer := write s.transmit.buffer ipv4PayloadOffset (replyMessage e) } } protocolIcmp v.source
          v.payloadLength with
      | (s, true) => (c, s, true)
      | (s, false) => ({ c with replyPending := false }, s, false) := by
  unfold Icmp.buildEchoReply
  extract_lets length copied typed cleared checksum buffer
  have hcleared : cleared = write s.transmit.buffer ipv4PayloadOffset (echoMessage icmpTypeEchoReply 0 e) := by
    have htyped : typed = write s.transmit.buffer ipv4PayloadOffset (echoMessage icmpTypeEchoReply field e) := by
      change write (write s.transmit.buffer ipv4PayloadOffset (read frameBuffer c.packetOffset.toNat length)) _ _ = _
      rw [hmessage, write_echoMessage]
    change write typed _ _ = _
    rw [htyped]
    exact write_echoMessage_checksum _ field e _ _ 0
  have hchecksum : checksum = checksumWords 0 (echoMessage icmpTypeEchoReply 0 e) ^^^ 0xffff := by
    change checksumWords 0 (read cleared ipv4PayloadOffset v.payloadLength.toNat) ^^^ 0xffff = _
    rw [hcleared, hlength, ← length_echoMessage icmpTypeEchoReply 0 e, read_write]
  have hbuffer : buffer = write s.transmit.buffer ipv4PayloadOffset (replyMessage e) := by
    change write cleared _ _ = _
    rw [hcleared, hchecksum]
    exact write_echoMessage_checksum _ 0 e _ _ _
  clear_value buffer
  subst hbuffer
  rfl

lemma read_replyMessage (hlength : v.payloadLength.toNat = 8 + e.payload.length) (buffer : Buffer) :
    read (write buffer ipv4PayloadOffset (replyMessage e)) ipv4PayloadOffset v.payloadLength.toNat = replyMessage e := by
  have hreply : (replyMessage e).length = 8 + e.payload.length := length_echoMessage _ _ e
  rw [hlength, ← hreply, read_write]

/-- **An idle encoder is given the reply**. -/
theorem buildEchoReply_answers (hheld : Held e frameBuffer v c) (hopened : p.state = .opened)
    (hlocal : p.flags.localValid = true) (hidle : s.transmit.active = false) :
    ∃ s', c.buildEchoReply p frameBuffer v s = ({ c with replyPending := false }, s', false) ∧
      s'.transmit.active = true ∧ RepliesTo e s'.transmit.frame := by
  obtain ⟨request, hmessage⟩ := hheld.message
  obtain ⟨t, headerChecksum, hgiven, hactive, hframe, hheader⟩ := beginTransmit_given protocolIcmp v.source
    (s := { s with transmit := { s.transmit with
      buffer := write s.transmit.buffer ipv4PayloadOffset (replyMessage e) } }) hopened hlocal hidle hheld.fits
  have htotal : (v.payloadLength + ipv4MinimumHeaderLength).toNat = 28 + e.payload.length := by
    have hfits : v.payloadLength.toNat ≤ 1480 := UInt16.le_iff_toNat_le.mp hheld.fits
    have hminimum : ipv4MinimumHeaderLength.toNat = 20 := rfl
    have hlength := hheld.length
    rw [toNat_add_of_lt (by omega)]
    omega
  rw [hheld.source] at hframe hheader
  rw [read_replyMessage hheld.length] at hframe
  rw [buildEchoReply_eq hheld.length hmessage, hgiven]
  exact ⟨_, rfl, hactive, _, _, _, headerChecksum, _, hframe, htotal, hheader, echoMessage_checksum _ e⟩

end Reply

end SnesModem.Asm
