import SnesModem.Asm.Ipv4Transmit

/-!
# `ppp/dns.asm`

The DNS client: the request of the host, the query, and the walk through the response.
-/

namespace SnesModem.Asm

open SnesModem.Lib.Cpu65816 SnesModem.Lib.Octets

abbrev dnsHeaderLength : UInt16 := 12
abbrev dnsServerPort : UInt16 := 53
abbrev dnsClientPort : UInt16 := 0xc001
abbrev dnsMaximumNameLength : ℕ := 27
abbrev dnsResponseTimeoutFrames : UInt16 := 900
abbrev dnsInitialTransactionId : UInt16 := 0x4e43

inductive DnsError where
  | none | linkNotOpen | invalidName | requestBusy | transmitFailed | wrongPort | sourceMismatch | truncated
  | identifierMismatch | notResponse | unsupportedOpcode | truncatedResponse | responseCode | noQuestion | noAnswer
  | malformedName | noIpv4Answer | timeout
  deriving DecidableEq, Repr, Inhabited

/-- The variables of `dns.asm`. -/
structure Dns where
  state : RequestState
  lastError : DnsError
  responseValid : Bool
  responseCode : UInt8
  resolver : Address
  transactionId : UInt16
  answerCount : UInt16
  answerAddress : Address
  deadline : UInt16
  sentFrame : UInt16
  rttFrames : UInt16
  queryNameLength : UInt8
  queryName : Buffer
  deriving Inhabited

/-- `pppDnsInitialize`; the name stays. -/
def pppDnsInitialize (d : Dns) : Dns where
  state := .idle
  lastError := .none
  responseValid := false
  responseCode := 0
  resolver := .zero
  transactionId := dnsInitialTransactionId
  answerCount := 0
  answerAddress := .zero
  deadline := 0
  sentFrame := 0
  rttFrames := 0
  queryNameLength := 0
  queryName := d.queryName

/-- `pppDnsFail`. -/
def Dns.fail (d : Dns) (error : DnsError) : Dns :=
  { d with state := .failed, lastError := error, responseValid := false }

/-! ### The request -/

/-- `.`. -/
abbrev dot : UInt8 := 0x2e

/-- A letter, a digit or a hyphen. -/
def nameCharacter (octet : UInt8) : Bool :=
  octet = 0x2d || (0x30 ≤ octet && octet ≤ 0x39) || (0x41 ≤ octet && octet ≤ 0x5a) || (0x61 ≤ octet && octet ≤ 0x7a)

/-- `validateCharacter`, from the character at `x` on, with the length of the label so far; `fuel` is at least the
number of characters that are left. -/
def validateCharacters (name : Buffer) (length : ℕ) : ℕ → ℕ → ℕ → Bool
  | 0, _, _ => false
  | fuel + 1, x, labelLength =>
    let next (labelLength : ℕ) : Bool :=
      if x + 1 = dnsMaximumNameLength then false
      else if x + 1 < length then validateCharacters name length fuel (x + 1) labelLength
      else labelLength ≠ 0
    if name x = dot then if labelLength = 0 then false else next 0
    else if nameCharacter (name x) then next (labelLength + 1)
    else false

/-- `validateName`.  `last` is the octet that `tax` and `dex` point at, which is the last character if the hidden half
of the accumulator is zero. -/
def validateName (name : Buffer) (length last : UInt8) : Bool :=
  if length = 0 ∨ dnsMaximumNameLength < length.toNat then false
  else if name 0 = dot ∨ last = dot then false
  else validateCharacters name length.toNat dnsMaximumNameLength 0 0

/-- What the caller leaves for `validateName`: the hidden half of the accumulator, and the memory from the name on. -/
structure DnsCaller where
  b : UInt8
  memory : Buffer

/-- The octet that the check of the last character reads. -/
def DnsCaller.last (caller : DnsCaller) (d : Dns) : UInt8 :=
  if caller.b = 0 then d.queryName (d.queryNameLength.toNat - 1)
  else caller.memory (256 * caller.b.toNat + d.queryNameLength.toNat - 1)

/-- `pppDnsRequest`; the carry comes with the error. -/
def pppDnsRequest (p : Ipcp) (caller : DnsCaller) (d : Dns) : Dns × Option DnsError :=
  if d.state.outstanding then (d, some .requestBusy)
  else if !linkIsOpen p then (d.fail .linkNotOpen, some .linkNotOpen)
  else if !validateName d.queryName d.queryNameLength (caller.last d) then (d.fail .invalidName, some .invalidName)
  else
    ({ d with
      state := .requested
      lastError := .none
      responseValid := false
      responseCode := 0
      answerAddress := .zero
      transactionId := if d.transactionId + 1 = 0 then 1 else d.transactionId + 1
      answerCount := 0
      deadline := 0
      sentFrame := 0
      rttFrames := 0 }, none)

/-- `@dnsQuery` of the mailbox: the name and the resolver are copied first. -/
def dnsQuery (p : Ipcp) (caller : DnsCaller) (arguments : Buffer) (d : Dns) : Dns × Option DnsError :=
  let length := arguments 4
  if length = 0 ∨ dnsMaximumNameLength < length.toNat then (d, some .invalidName)
  else
    pppDnsRequest p caller { d with
      queryNameLength := length
      resolver := readAddress arguments 0
      queryName := write d.queryName 0 (read arguments 5 length.toNat) }

/-! ### The query -/

/-- Where `encodeName` stands: the packet, the next octet, and the label that is written. -/
structure NameCursor where
  packet : Buffer
  x : ℕ
  labelPosition : ℕ
  labelLength : UInt8

/-- One turn of `encodeName`: a dot closes the label, whose length is written before it. -/
def encodeNameOctet (c : NameCursor) (octet : UInt8) : NameCursor :=
  if octet = dot then
    { packet := Function.update c.packet c.labelPosition c.labelLength
      x := c.x + 1
      labelPosition := c.x
      labelLength := 0 }
  else
    { c with
      packet := Function.update c.packet c.x octet
      x := c.x + 1
      labelLength := c.labelLength + 1 }

/-- The name of the query, from the octet behind the header on.  The loop tests its end behind the first octet. -/
def encodeName (packet : Buffer) (name : Buffer) (length : UInt8) : NameCursor :=
  let c := (read name 0 (max 1 length.toNat)).foldl encodeNameOctet ⟨packet, 13, 12, 0⟩
  { c with packet := Function.update c.packet c.labelPosition c.labelLength }

/-- The octets of the query. -/
def dnsQueryPacket (transactionId : UInt16) (name : Buffer) (length : UInt8) : List UInt8 :=
  let header := [high transactionId, low transactionId, 0x01, 0x00, 0x00, 0x01, 0, 0, 0, 0, 0, 0]
  let c := encodeName (write default 0 header) name length
  read (write c.packet c.x [0, 0, 1, 0, 1]) 0 (c.x + 5)

/-- `copyDestination` to `pppUdpBeginTransmit`. -/
def sendDnsQuery (p : Ipcp) (s : Ipv4Sender) (resolver : Address) (transactionId : UInt16) (name : Buffer)
    (length : UInt8) : Ipv4Sender × Bool :=
  let packet := dnsQueryPacket transactionId name length
  let buffer := write s.transmit.buffer udpTransmitPayloadOffset packet
  pppUdpBeginTransmit p { s with transmit := { s.transmit with buffer := buffer } } dnsClientPort dnsServerPort
    resolver (UInt16.ofNat packet.length)

/-- `pppDnsPoll`. -/
def pppDnsPoll (p : Ipcp) (now : UInt32) (d : Dns) (s : Ipv4Sender) : Dns × Ipv4Sender :=
  match d.state with
  | .requested =>
    if !linkIsOpen p then (d.fail .linkNotOpen, s)
    else if s.transmit.active then (d, s)
    else
      match sendDnsQuery p s d.resolver d.transactionId d.queryName d.queryNameLength with
      | (s, true) => (d.fail .transmitFailed, s)
      | (s, false) =>
        ({ d with
          state := .waiting
          lastError := .none
          responseValid := false
          sentFrame := now.toUInt16
          deadline := now.toUInt16 + dnsResponseTimeoutFrames }, s)
  | .waiting =>
    if !linkIsOpen p then (d.fail .linkNotOpen, s)
    else if expired now d.deadline then (d.fail .timeout, s)
    else (d, s)
  | .idle | .received | .failed => (d, s)

/-! ### The response -/

/-- The message of a datagram, in the frame buffer: the offset of its first octet, its end, and its length. -/
structure DnsMessage where
  frameBuffer : Buffer
  offset : UInt16
  packetEnd : UInt16
  payloadLength : UInt16

def UdpDatagram.message (d : UdpDatagram) : DnsMessage :=
  let offset := d.packetOffset + udpHeaderLength
  ⟨d.frameBuffer, offset, offset + d.payloadLength, d.payloadLength⟩

namespace DnsMessage

variable (m : DnsMessage)

/-- `requireBytes`; the sum has 16 bits. -/
def requireBytes (x count : UInt16) : Bool := x + count ≤ m.packetEnd

/-- The word at the cursor, in network order. -/
def word (x : UInt16) : UInt16 := wordAt m.frameBuffer x.toNat

/-- What one turn of `nameOctet` finds. -/
inductive NameTurn where
  | malformed
  | label (x : UInt16)
  | done (x : UInt16)

def nameOctet (x : UInt16) : NameTurn :=
  if !m.requireBytes x 1 then .malformed
  else
    let octet := m.frameBuffer x.toNat
    if octet = 0 then .done (x + 1)
    else if octet &&& 0xc0 = 0 then
      let length := octet.toUInt16 + 1
      if m.requireBytes x length then .label (x + length) else .malformed
    else if octet &&& 0xc0 = 0xc0 then
      if !m.requireBytes x 2 then .malformed
      else if m.payloadLength ≤ m.word x &&& 0x3fff then .malformed
      else .done (x + 2)
    else .malformed

/-- Where the walk stands: at an octet of a name, or behind the name of a question or of an answer.  `remaining` is
`pppDnsRecordRemaining`. -/
inductive Cursor where
  | name (answers : Bool) (x remaining : UInt16)
  | question (x remaining : UInt16)
  | answer (x remaining : UInt16)
  deriving DecidableEq, Repr

/-- The end of the walk. -/
inductive Verdict where
  | failed (error : DnsError)
  | accepted (address : Address)
  deriving DecidableEq, Repr

/-- `questionLoop` and `answerLoop`, one turn: to the next octet of a name, over it, or over the rest of a question or
of an answer. -/
def next (answerCount : UInt16) : Cursor → Except Verdict Cursor
  | .name answers x remaining =>
    match m.nameOctet x with
    | .malformed => .error (.failed .malformedName)
    | .label x => .ok (.name answers x remaining)
    | .done x => .ok (if answers then .answer x remaining else .question x remaining)
  | .question x remaining =>
    if !m.requireBytes x 4 then .error (.failed .truncated)
    else if remaining - 1 = 0 then .ok (.name true (x + 4) answerCount)
    else .ok (.name false (x + 4) (remaining - 1))
  | .answer x remaining =>
    if !m.requireBytes x 10 then .error (.failed .truncated)
    else
      let dataLength := m.word (x + 8)
      if !m.requireBytes (x + 10) dataLength then .error (.failed .truncated)
      else if m.word x = 1 ∧ m.word (x + 2) = 1 ∧ dataLength = 4 then
        .error (.accepted (readAddress m.frameBuffer (x + 10).toNat))
      else if remaining - 1 = 0 then .error (.failed .noIpv4Answer)
      else .ok (.name true (x + 10 + dataLength) (remaining - 1))

/-- The turns from a cursor on, as many as there is fuel for. -/
def walk (answerCount : UInt16) : ℕ → Cursor → Option Verdict
  | 0, _ => none
  | fuel + 1, c =>
    match m.next answerCount c with
    | .error verdict => some verdict
    | .ok c => walk answerCount fuel c

/-- More turns than a walk can have. -/
abbrev walkFuel : ℕ := 2 ^ 30

/-- What is wrong with the header, up to the counts. -/
def headerError : Option DnsError :=
  let flags := m.frameBuffer (m.offset.toNat + 2)
  if flags &&& 0x80 = 0 then some .notResponse
  else if flags &&& 0x78 ≠ 0 then some .unsupportedOpcode
  else if flags &&& 0x02 ≠ 0 then some .truncatedResponse
  else if m.frameBuffer (m.offset.toNat + 3) &&& 0x0f ≠ 0 then some .responseCode
  else none

def questionCount : UInt16 := m.word (m.offset + 4)

def answerCount : UInt16 := m.word (m.offset + 6)

/-- The cursor behind the header. -/
def start : Cursor := .name false (m.offset + dnsHeaderLength) m.questionCount

/-- The correlated response, from its header on.  `xba` tests the low octet of the swapped count only. -/
def parse : Option Verdict :=
  match m.headerError with
  | some error => some (.failed error)
  | none =>
    if low m.questionCount = 0 then some (.failed .noQuestion)
    else if low m.answerCount = 0 then some (.failed .noAnswer)
    else m.walk m.answerCount walkFuel m.start

end DnsMessage

/-- What is wrong with a candidate, before it is correlated. -/
def Dns.mismatch (d : Dns) (datagram : UdpDatagram) : Option DnsError :=
  if datagram.sourcePort ≠ dnsServerPort ∨ datagram.destinationPort ≠ dnsClientPort then some .wrongPort
  else if datagram.source ≠ d.resolver then some .sourceMismatch
  else none

/-- The response code and the answer count as the checks of a correlated response leave them. -/
def Dns.counted (d : Dns) (m : DnsMessage) : Dns :=
  let flags := m.frameBuffer (m.offset.toNat + 2)
  if flags &&& 0x80 = 0 ∨ flags &&& 0x78 ≠ 0 ∨ flags &&& 0x02 ≠ 0 then d
  else
    let d := { d with responseCode := m.frameBuffer (m.offset.toNat + 3) &&& 0x0f }
    if d.responseCode ≠ 0 ∨ low m.questionCount = 0 then d
    else { d with answerCount := m.answerCount }

/-- `pppDnsReceive`. -/
def pppDnsReceive (now : UInt32) (datagram : UdpDatagram) (d : Dns) : Dns :=
  if d.state ≠ .waiting then d
  else
    match d.mismatch datagram with
    | some error => { d with lastError := error }
    | none =>
      let m := datagram.message
      if datagram.payloadLength < dnsHeaderLength then d.fail .truncated
      else if m.word m.offset ≠ d.transactionId then { d with lastError := .identifierMismatch }
      else
        let d := d.counted m
        match m.parse with
        | some (.accepted address) =>
          { d with
            state := .received
            lastError := .none
            responseValid := true
            answerAddress := address
            rttFrames := now.toUInt16 - d.sentFrame }
        | some (.failed error) => d.fail error
        -- Not reached: the walk ends before its fuel does.
        | none => d

end SnesModem.Asm
