import SnesModem.Rust.ControlPacket

/-!
# The reference IPCP client

The IPCP packet codec and the Configure negotiation of the reference crate.

* A method that may fail is a function to the client it leaves behind and its result: an error does not
  undo what the method has written before it.
* Counters are naturals (the code only decrements them by saturation or after a test for zero), and times
  are naturals capped by `saturatingAdd`.
-/

namespace SnesModem.Rust.Ipcp

open SnesModem.Lib SnesModem.Rust.ControlPacket

/-! ### Packets and options -/

inductive Code where
  | configureRequest | configureAck | configureNak | configureReject | terminateRequest | terminateAck
  | codeReject
  deriving DecidableEq, Repr

/-- `code as u8`. -/
def Code.octet : Code → UInt8
  | .configureRequest => 1
  | .configureAck => 2
  | .configureNak => 3
  | .configureReject => 4
  | .terminateRequest => 5
  | .terminateAck => 6
  | .codeReject => 7

def Code.fromOctet (value : UInt8) : Option Code :=
  match value.toNat with
  | 1 => some .configureRequest
  | 2 => some .configureAck
  | 3 => some .configureNak
  | 4 => some .configureReject
  | 5 => some .terminateRequest
  | 6 => some .terminateAck
  | 7 => some .codeReject
  | _ => none

inductive OptionType where
  | ipAddresses | ipCompressionProtocol | ipAddress | primaryDnsServerAddress | secondaryDnsServerAddress
  deriving DecidableEq, Repr

/-- `option_type as u8`. -/
def OptionType.octet : OptionType → UInt8
  | .ipAddresses => 1
  | .ipCompressionProtocol => 2
  | .ipAddress => 3
  | .primaryDnsServerAddress => 129
  | .secondaryDnsServerAddress => 131

def OptionType.fromOctet (value : UInt8) : Option OptionType :=
  match value.toNat with
  | 1 => some .ipAddresses
  | 2 => some .ipCompressionProtocol
  | 3 => some .ipAddress
  | 129 => some .primaryDnsServerAddress
  | 131 => some .secondaryDnsServerAddress
  | _ => none

inductive ParseError where
  | truncatedHeader
  | invalidPacketLength (declared : ℕ)
  | truncatedPacket (declared available : ℕ)
  deriving DecidableEq, Repr

def parseErrors : ParseErrors ParseError where
  headerTruncated _ := .truncatedHeader
  declaredShort declared _ := .invalidPacketLength declared
  declaredLong declared available := .truncatedPacket declared available

def Packet.parse (input : List UInt8) : Except ParseError Packet := parsePacket parseErrors input

def knownCode (packet : Packet) : Option Code := Code.fromOctet packet.code

def exactlyAcknowledges (packet : Packet) (identifier : UInt8) (options : List UInt8) : Bool :=
  knownCode packet == some .configureAck && packet.identifier == identifier && packet.data == options

inductive EncodeError where
  | packetTooLarge (length : ℕ)
  deriving DecidableEq, Repr

inductive OptionParseError where
  | truncatedHeader (remaining : ℕ)
  | invalidLength (declared : ℕ)
  | truncatedOption (declared remaining : ℕ)
  deriving DecidableEq, Repr

def optionParseError : Tlv.Fault → OptionParseError
  | .headerTruncated remaining => .truncatedHeader remaining
  | .invalidLength _ declared remaining =>
    if declared < 2 then .invalidLength declared else .truncatedOption declared remaining

structure Ipv4Address where
  a : UInt8
  b : UInt8
  c : UInt8
  d : UInt8
  deriving DecidableEq, Repr

def unspecifiedAddress : Ipv4Address := ⟨0, 0, 0, 0⟩

/-- The address in the data of an option of four octets. -/
def addressOfData : List UInt8 → Option Ipv4Address
  | [a, b, c, d] => some ⟨a, b, c, d⟩
  | _ => none

def encodeAddressOption (type : OptionType) (address : Ipv4Address) : ConfigurationOption where
  type := type.octet
  data := [address.a, address.b, address.c, address.d]
  fits := by simp

def knownType (option : ConfigurationOption) : Option OptionType := OptionType.fromOctet option.type

/-- `ip_address`, `primary_dns_address` and `secondary_dns_address`, each at its own option type. -/
def optionAddress (type : OptionType) (option : ConfigurationOption) : Option Ipv4Address :=
  if knownType option = some type then addressOfData option.data else none

/-! ### The client -/

inductive State where
  | closed | stopped | requestSent | ackReceived | ackSent | opened
  deriving DecidableEq, Repr

structure AddressConfiguration where
  localAddress : Ipv4Address
  peer : Ipv4Address
  primaryDns : Ipv4Address
  secondaryDns : Ipv4Address
  deriving DecidableEq, Repr

inductive Action where
  | sendPacket (packet : List UInt8)
  | thisLayerUp (addresses : AddressConfiguration)
  | thisLayerDown
  | thisLayerFinished
  deriving DecidableEq, Repr

inductive IgnoreReason where
  | notConfiguring
  | malformedPacket (error : ParseError)
  | malformedOptions (error : OptionParseError)
  | invalidConfigureResponse
  | unsupportedCode (code : UInt8)
  deriving DecidableEq, Repr

structure Transition where
  actions : List Action := []
  ignored : Option IgnoreReason := none
  deriving DecidableEq, Repr

structure Settings where
  restartIntervalMs : ℕ
  maxConfigure : ℕ
  requestedLocalAddress : Ipv4Address
  preferredPeerAddress : Ipv4Address
  deriving DecidableEq, Repr

inductive MachineError where
  | packetTooLarge (error : EncodeError)
  deriving DecidableEq, Repr

structure Client where
  state : State
  settings : Settings
  localAddress : Ipv4Address
  peerAddress : Ipv4Address
  primaryDnsAddress : Ipv4Address
  secondaryDnsAddress : Ipv4Address
  requestAddressOption : Bool
  requestPrimaryDnsOption : Bool
  requestSecondaryDnsOption : Bool
  requestIdentifier : UInt8
  nextIdentifier : UInt8
  restartRemaining : ℕ
  restartDeadlineMs : Option ℕ
  deriving DecidableEq, Repr

/-- `u64::saturating_add`. -/
def saturatingAdd (a b : ℕ) : ℕ := min (a + b) (2 ^ 64 - 1)

/-- The packet of a control protocol, or the error that it is too long. -/
def encode (code : Code) (identifier : UInt8) (data : List UInt8) : Except MachineError (List UInt8) :=
  encodePacket (fun length => .packetTooLarge (.packetTooLarge (headerLength + length))) code.octet identifier data

def invalidResponse : Transition := { ignored := some .invalidConfigureResponse }

namespace Client

/-- What a call leaves behind: the client and the result. -/
abbrev Outcome := Client × Except MachineError Transition

def new (settings : Settings) : Client where
  state := .closed
  settings := settings
  localAddress := settings.requestedLocalAddress
  peerAddress := settings.preferredPeerAddress
  primaryDnsAddress := unspecifiedAddress
  secondaryDnsAddress := unspecifiedAddress
  requestAddressOption := true
  requestPrimaryDnsOption := true
  requestSecondaryDnsOption := true
  requestIdentifier := 0
  nextIdentifier := 0
  restartRemaining := 0
  restartDeadlineMs := none

def addresses (c : Client) : AddressConfiguration where
  localAddress := c.localAddress
  peer := c.peerAddress
  primaryDns := c.primaryDnsAddress
  secondaryDns := c.secondaryDnsAddress

/-- `local_options`, the options of the next request. -/
def localOptions (c : Client) : List UInt8 :=
  (if c.requestAddressOption then (encodeAddressOption .ipAddress c.localAddress).encoded else []) ++
    (if c.requestPrimaryDnsOption then
      (encodeAddressOption .primaryDnsServerAddress c.primaryDnsAddress).encoded else []) ++
    (if c.requestSecondaryDnsOption then
      (encodeAddressOption .secondaryDnsServerAddress c.secondaryDnsAddress).encoded else [])

def encodeRequest (c : Client) : Except MachineError (List UInt8) :=
  encode .configureRequest c.requestIdentifier c.localOptions

def sendNewRequest (c : Client) (nowMs : ℕ) (resetCounter : Bool) : Client × Except MachineError (List UInt8) :=
  let identifier := c.nextIdentifier + 1
  let c := { c with
    nextIdentifier := identifier
    requestIdentifier := identifier
    restartRemaining := (if resetCounter then c.settings.maxConfigure else c.restartRemaining) - 1
    restartDeadlineMs := some (saturatingAdd nowMs c.settings.restartIntervalMs) }
  (c, c.encodeRequest)

/-- The negotiated values and the options to request, as `open` and `lower_down` reset them. -/
def resetNegotiation (c : Client) : Client :=
  { c with
    localAddress := c.settings.requestedLocalAddress
    peerAddress := c.settings.preferredPeerAddress
    primaryDnsAddress := unspecifiedAddress
    secondaryDnsAddress := unspecifiedAddress
    requestAddressOption := true
    requestPrimaryDnsOption := true
    requestSecondaryDnsOption := true }

/-- `open`. -/
def doOpen (c : Client) (nowMs : ℕ) : Outcome :=
  if c.state = .opened then (c, .ok {})
  else
    let (c, packet) := { c.resetNegotiation with state := .requestSent }.sendNewRequest nowMs true
    (c, packet.map fun packet => { actions := [.sendPacket packet] })

def lowerDown (c : Client) : Client × Transition :=
  ({ c.resetNegotiation with state := .closed, restartDeadlineMs := none, restartRemaining := 0 },
    { actions := if c.state = .opened then [.thisLayerDown] else [] })

def pollTimeout (c : Client) (nowMs : ℕ) : Outcome :=
  match c.restartDeadlineMs with
  | none => (c, .ok {})
  | some deadline =>
    if nowMs < deadline then (c, .ok {})
    else if c.state ≠ .requestSent ∧ c.state ≠ .ackReceived ∧ c.state ≠ .ackSent then
      ({ c with restartDeadlineMs := none }, .ok {})
    else if c.restartRemaining = 0 then
      ({ c with state := .stopped, restartDeadlineMs := none }, .ok { actions := [.thisLayerFinished] })
    else
      let c := { c with
        restartRemaining := c.restartRemaining - 1
        state := if c.state = .ackReceived then .requestSent else c.state
        restartDeadlineMs := some (saturatingAdd nowMs c.settings.restartIntervalMs) }
      (c, c.encodeRequest.map fun packet => { actions := [.sendPacket packet] })

/-! ### The peer's request -/

inductive OptionDisposition where
  | ack
  | nak (replacement : List UInt8)
  | reject
  deriving DecidableEq, Repr

structure PeerEvaluation where
  code : Code
  data : List UInt8
  peerAddress : Option Ipv4Address
  deriving DecidableEq, Repr

/-- The disposition of one option that has no duplicate, and the peer address it names. -/
def evaluateOption (preferred : Ipv4Address) (option : ConfigurationOption) :
    OptionDisposition × Option Ipv4Address :=
  let suggestion := (encodeAddressOption .ipAddress preferred).encoded
  match knownType option with
  | some .ipAddress =>
    match addressOfData option.data with
    | some address =>
      if address = unspecifiedAddress ∧ preferred ≠ unspecifiedAddress then (.nak suggestion, none)
      else if address = unspecifiedAddress then (.reject, none)
      else (.ack, some address)
    | none => if preferred = unspecifiedAddress then (.reject, none) else (.nak suggestion, none)
  | _ => (.reject, none)

def evaluatePeerRequest (packet : Packet) (preferred : Ipv4Address) : Except OptionParseError PeerEvaluation :=
  match collectOptions optionParseError packet.data with
  | .error error => .error error
  | .ok options =>
    let duplicates := duplicateTypeMap options
    let evaluated := options.map fun option =>
      (option, if duplicates option.type then (.reject, none) else evaluateOption preferred option)
    if evaluated.any fun entry => entry.2.1 = .reject then
      .ok {
        code := .configureReject
        data := (evaluated.filter fun entry => entry.2.1 = .reject).flatMap fun entry => entry.1.encoded
        peerAddress := none }
    else if evaluated.any fun entry => entry.2.1 ≠ .ack then
      .ok {
        code := .configureNak
        data := evaluated.flatMap fun entry => match entry.2.1 with
          | .nak replacement => replacement
          | _ => []
        peerAddress := none }
    else .ok {
      code := .configureAck
      data := packet.data
      peerAddress := evaluated.foldl (fun address entry => entry.2.2 <|> address) none }

def receiveConfigureRequest (c : Client) (packet : Packet) (nowMs : ℕ) : Outcome :=
  match evaluatePeerRequest packet c.settings.preferredPeerAddress with
  | .error error => (c, .ok { ignored := some (.malformedOptions error) })
  | .ok evaluation =>
    match encode evaluation.code packet.identifier evaluation.data with
    | .error error => (c, .error error)
    | .ok response =>
      let acceptable : Bool := evaluation.code = .configureAck
      let c := { c with peerAddress := evaluation.peerAddress.getD c.peerAddress }
      match c.state with
      | .requestSent | .ackSent =>
        ({ c with state := if acceptable then .ackSent else .requestSent },
          .ok { actions := [.sendPacket response] })
      | .ackReceived =>
        if acceptable then
          let c := { c with state := .opened, restartDeadlineMs := none }
          (c, .ok { actions := [.sendPacket response, .thisLayerUp c.addresses] })
        else (c, .ok { actions := [.sendPacket response] })
      | .opened =>
        match c.sendNewRequest nowMs true with
        | (c, .error error) => (c, .error error)
        | (c, .ok request) =>
          ({ c with state := if acceptable then .ackSent else .requestSent },
            .ok { actions := [.thisLayerDown, .sendPacket request, .sendPacket response] })
      -- Not reached: `receive` has returned.
      | .closed | .stopped => (c, .ok {})

/-! ### The peer's answers -/

def afterNegativeResponse (c : Client) (nowMs : ℕ) : Outcome :=
  let resetCounter : Bool := c.state = .requestSent ∨ c.state = .ackSent
  let down := if c.state = .opened then [Action.thisLayerDown] else []
  let next : State := if c.state = .ackSent then .ackSent else .requestSent
  let (c, packet) := { c with state := next }.sendNewRequest nowMs resetCounter
  (c, packet.map fun packet => { actions := down ++ [Action.sendPacket packet] })

def receiveConfigureAck (c : Client) (packet : Packet) (nowMs : ℕ) : Outcome :=
  if !exactlyAcknowledges packet c.requestIdentifier c.localOptions then (c, .ok invalidResponse)
  else match c.state with
    | .requestSent => ({ c with state := .ackReceived, restartRemaining := c.settings.maxConfigure }, .ok {})
    | .ackSent =>
      let c := { c with
        state := .opened
        restartRemaining := c.settings.maxConfigure
        restartDeadlineMs := none }
      (c, .ok { actions := [.thisLayerUp c.addresses] })
    | .ackReceived =>
      let (c, packet) := { c with state := .requestSent }.sendNewRequest nowMs false
      (c, packet.map fun packet => { actions := [.sendPacket packet] })
    | .opened =>
      let (c, packet) := { c with state := .requestSent }.sendNewRequest nowMs false
      (c, packet.map fun packet => { actions := [.thisLayerDown, .sendPacket packet] })
    | .closed | .stopped => (c, .ok {})

/-- One turn of the loop of `receive_configure_nak`; `none` is its early return. -/
def nakOption (c : Client) (option : ConfigurationOption) : Option Client :=
  let suggested (type : OptionType) := (optionAddress type option).filter fun address => address ≠ unspecifiedAddress
  match knownType option with
  | some .ipAddress =>
    if c.requestAddressOption then
      (suggested .ipAddress).map fun address => { c with localAddress := address }
    else none
  | some .primaryDnsServerAddress =>
    if c.requestPrimaryDnsOption then
      (suggested .primaryDnsServerAddress).map fun address => { c with primaryDnsAddress := address }
    else none
  | some .secondaryDnsServerAddress =>
    if c.requestSecondaryDnsOption then
      (suggested .secondaryDnsServerAddress).map fun address => { c with secondaryDnsAddress := address }
    else none
  | _ => none

/-- One turn of the loop of `receive_configure_reject`. -/
def rejectOption (c : Client) (option : ConfigurationOption) : Option Client :=
  match knownType option with
  | some .ipAddress =>
    if c.requestAddressOption ∧ option.encoded = (encodeAddressOption .ipAddress c.localAddress).encoded then
      some { c with requestAddressOption := false }
    else none
  | some .primaryDnsServerAddress =>
    if c.requestPrimaryDnsOption ∧
        option.encoded = (encodeAddressOption .primaryDnsServerAddress c.primaryDnsAddress).encoded then
      some { c with requestPrimaryDnsOption := false, primaryDnsAddress := unspecifiedAddress }
    else none
  | some .secondaryDnsServerAddress =>
    if c.requestSecondaryDnsOption ∧
        option.encoded = (encodeAddressOption .secondaryDnsServerAddress c.secondaryDnsAddress).encoded then
      some { c with requestSecondaryDnsOption := false, secondaryDnsAddress := unspecifiedAddress }
    else none
  | _ => none

/-- A loop over options that writes the client in each turn and may return early: the client it leaves
behind, and whether it came to its end. -/
def optionLoop (turn : Client → ConfigurationOption → Option Client) :
    Client → List ConfigurationOption → Client × Bool
  | c, [] => (c, true)
  | c, option :: options =>
    match turn c option with
    | some c' => optionLoop turn c' options
    | none => (c, false)

/-- `receive_configure_nak` and `receive_configure_reject`, each at its own turn of the loop. In the first
the flag `accepted` is set by every turn, so that an empty list is invalid in both. -/
def receiveNegative (turn : Client → ConfigurationOption → Option Client) (c : Client) (packet : Packet)
    (nowMs : ℕ) : Outcome :=
  if packet.identifier ≠ c.requestIdentifier then (c, .ok invalidResponse)
  else match collectOptions optionParseError packet.data with
    | .error error => (c, .ok { ignored := some (.malformedOptions error) })
    | .ok options =>
      if options = [] ∨ hasDuplicateTypes options then (c, .ok invalidResponse)
      else match optionLoop turn c options with
        | (c, true) => c.afterNegativeResponse nowMs
        | (c, false) => (c, .ok invalidResponse)

def receiveConfigureNak (c : Client) (packet : Packet) (nowMs : ℕ) : Outcome :=
  receiveNegative nakOption c packet nowMs

def receiveConfigureReject (c : Client) (packet : Packet) (nowMs : ℕ) : Outcome :=
  receiveNegative rejectOption c packet nowMs

def receive (c : Client) (input : List UInt8) (nowMs : ℕ) : Outcome :=
  if c.state = .closed ∨ c.state = .stopped then (c, .ok { ignored := some .notConfiguring })
  else match Packet.parse input with
    | .error error => (c, .ok { ignored := some (.malformedPacket error) })
    | .ok packet =>
      match knownCode packet with
      | some .configureRequest => c.receiveConfigureRequest packet nowMs
      | some .configureAck => c.receiveConfigureAck packet nowMs
      | some .configureNak => c.receiveConfigureNak packet nowMs
      | some .configureReject => c.receiveConfigureReject packet nowMs
      | some code => (c, .ok { ignored := some (.unsupportedCode code.octet) })
      | none => (c, .ok { ignored := some (.unsupportedCode packet.code) })

/-- The clients that calls of the methods lead to. -/
inductive Reachable : Client → Prop
  | new (settings : Settings) : Reachable (new settings)
  | doOpen {c : Client} (nowMs : ℕ) : Reachable c → Reachable (c.doOpen nowMs).1
  | lowerDown {c : Client} : Reachable c → Reachable c.lowerDown.1
  | pollTimeout {c : Client} (nowMs : ℕ) : Reachable c → Reachable (c.pollTimeout nowMs).1
  | receive {c : Client} (input : List UInt8) (nowMs : ℕ) : Reachable c → Reachable (c.receive input nowMs).1

end Client

end SnesModem.Rust.Ipcp
