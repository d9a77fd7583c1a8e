import SnesModem.Rust.Lcp

/-!
# The reference LCP machine

Establishment, termination and opened-state maintenance of the reference crate.

* A method that may fail is a function to the machine it leaves behind and its result: an error does not
  undo what the method has written before it.
* Counters are naturals (the code only decrements them by saturation or after a test for zero), and times
  are naturals capped by `saturatingAdd`.
-/

namespace SnesModem.Rust.Negotiation

open SnesModem.Lib SnesModem.Rust.ControlPacket SnesModem.Rust.Lcp

abbrev defaultMru : UInt16 := 1500
abbrev defaultAccm : UInt32 := 0xffffffff
abbrev magicRetryIncrement : UInt32 := 0x9e3779b9

inductive State where
  | closed | requestSent | ackReceived | ackSent | opened | closing | stopped
  deriving DecidableEq, Repr

inductive AuthenticationProtocol where
  | pap | chapMd5
  deriving DecidableEq, Repr

structure PeerConfiguration where
  /-- Maximum PPP Information length the peer permits us to transmit. -/
  transmitMru : UInt16 := defaultMru
  /-- Control characters the peer requires us to escape on transmission. -/
  transmitAccm : UInt32 := defaultAccm
  /-- Authentication protocol the peer requires us to perform. -/
  authentication : Option AuthenticationProtocol := none
  magicNumber : Option UInt32 := none
  deriving DecidableEq, Repr

structure SfcPolicy where
  acceptPap : Bool := true
  acceptChapMd5 : Bool := true
  deriving DecidableEq, Repr

inductive Action where
  | sendPacket (packet : List UInt8)
  | thisLayerUp (configuration : PeerConfiguration)
  | thisLayerDown
  | thisLayerFinished
  deriving DecidableEq, Repr

inductive IgnoreReason where
  | malformedPacket (error : ParseError)
  | malformedOptions (error : OptionParseError)
  | malformedEchoRequest
  | invalidConfigureResponse
  | invalidTerminateResponse
  | unexpectedMagicNumber (expected actual : UInt32)
  | unsupportedCode (code : UInt8)
  | notConfiguring
  deriving DecidableEq, Repr

structure Transition where
  actions : List Action := []
  ignored : Option IgnoreReason := none
  deriving DecidableEq, Repr

structure Settings where
  restartIntervalMs : ℕ
  maxConfigure : ℕ
  maxTerminate : ℕ
  deriving DecidableEq, Repr

inductive MachineError where
  | invalidLocalOptions (error : OptionParseError)
  | packetTooLarge (error : EncodeError)
  deriving DecidableEq, Repr

structure Machine where
  state : State
  settings : Settings
  localOptions : List UInt8
  requestIdentifier : UInt8
  terminateIdentifier : UInt8
  nextIdentifier : UInt8
  restartRemaining : ℕ
  restartDeadlineMs : Option ℕ
  peerConfiguration : Option PeerConfiguration
  acknowledgedLocalMagic : Option UInt32
  deriving DecidableEq, Repr

/-- `u64::saturating_add`. -/
def saturatingAdd (a b : ℕ) : ℕ := min (a + b) (2 ^ 64 - 1)

/-- `encode_packet`. -/
def encode (code : Code) (identifier : UInt8) (data : List UInt8) : Except MachineError (List UInt8) :=
  encodePacket (fun length => .packetTooLarge (.dataTooLong length)) code.octet identifier data

def invalidResponse : Transition := { ignored := some .invalidConfigureResponse }

/-- `u32::from_be_bytes` of the first four octets. -/
def magicOf (data : List UInt8) : UInt32 := UInt32.ofNat (BigEndian.value (data.take 4))

/-- `u32::to_be_bytes`. -/
def magicOctets (magic : UInt32) : List UInt8 := BigEndian.octets 4 magic.toNat

def magicOption (magic : UInt32) : ConfigurationOption where
  type := OptionType.magicNumber.octet
  data := magicOctets magic
  fits := by simp [magicOctets]

def nextMagic (current : UInt32) : UInt32 :=
  if current + magicRetryIncrement = 0 then magicRetryIncrement else current + magicRetryIncrement

/-! ### The peer's request -/

inductive OptionDisposition where
  | ack
  | nak (replacement : List UInt8)
  | reject
  deriving DecidableEq, Repr

structure PeerEvaluation where
  code : Code
  data : List UInt8
  configuration : Option PeerConfiguration
  deriving DecidableEq, Repr

/-- The disposition of an option that has no duplicate, and what it makes of the configuration. -/
def evaluateOption (option : ConfigurationOption) (policy : SfcPolicy) (proposedLocalMagic : Option UInt32)
    (configuration : PeerConfiguration) : OptionDisposition × PeerConfiguration :=
  match knownType option with
  | some .maximumReceiveUnit =>
    let value := UInt16.ofNat (BigEndian.value option.data)
    if option.data.length = 2 ∧ value ≠ 0 then (.ack, { configuration with transmitMru := value })
    else (.nak [1, 4, 0x05, 0xdc], configuration)
  | some .asyncControlCharacterMap =>
    if option.data.length = 4 then (.ack, { configuration with transmitAccm := magicOf option.data })
    else (.nak [2, 6, 0xff, 0xff, 0xff, 0xff], configuration)
  | some .authenticationProtocol =>
    if policy.acceptChapMd5 ∧ option.data = [0xc2, 0x23, 5] then
      (.ack, { configuration with authentication := some .chapMd5 })
    else if policy.acceptPap ∧ option.data = [0xc0, 0x23] then
      (.ack, { configuration with authentication := some .pap })
    else if policy.acceptChapMd5 then (.nak [3, 5, 0xc2, 0x23, 5], configuration)
    else if policy.acceptPap then (.nak [3, 4, 0xc0, 0x23], configuration)
    else (.reject, configuration)
  | some .magicNumber =>
    if option.data.length = 4 then
      let value := magicOf option.data
      if value = 0 ∨ some value = proposedLocalMagic then
        (.nak (magicOption (nextMagic (proposedLocalMagic.getD value))).encoded, configuration)
      else (.ack, { configuration with magicNumber := some value })
    else (.reject, configuration)
  | _ => (.reject, configuration)

/-- The loop of `evaluatePeerRequest` over the options, with the disposition of each. -/
def evaluateOptions (duplicates : UInt8 → Bool) (policy : SfcPolicy) (proposedLocalMagic : Option UInt32) :
    PeerConfiguration → List ConfigurationOption → List OptionDisposition × PeerConfiguration
  | configuration, [] => ([], configuration)
  | configuration, option :: options =>
    let (disposition, configuration) :=
      if duplicates option.type then (.reject, configuration)
      else evaluateOption option policy proposedLocalMagic configuration
    let (dispositions, configuration) :=
      evaluateOptions duplicates policy proposedLocalMagic configuration options
    (disposition :: dispositions, configuration)

def isReject : OptionDisposition → Bool
  | .reject => true
  | _ => false

/-- The replacement that a Nak carries, if the disposition is one. -/
def replacement : OptionDisposition → Option (List UInt8)
  | .nak data => some data
  | _ => none

def evaluatePeerRequest (packet : Packet) (policy : SfcPolicy) (proposedLocalMagic : Option UInt32) :
    Except OptionParseError PeerEvaluation :=
  match collectOptions optionParseError packet.data with
  | .error error => .error error
  | .ok options =>
    let (dispositions, configuration) :=
      evaluateOptions (duplicateTypeMap options) policy proposedLocalMagic {} options
    if dispositions.any isReject then
      .ok {
        code := .configureReject
        data := ((options.zip dispositions).filter fun entry => isReject entry.2).flatMap fun entry =>
          entry.1.encoded
        configuration := none }
    else if dispositions.any fun disposition => (replacement disposition).isSome then
      .ok {
        code := .configureNak
        data := (dispositions.filterMap replacement).flatten
        configuration := none }
    else .ok { code := .configureAck, data := packet.data, configuration := some configuration }

/-! ### The local options -/

/-- The option that answers the suggestions of a Nak in place of a local option. -/
def nakReplacement (suggestions : List ConfigurationOption) (option : ConfigurationOption) : ConfigurationOption :=
  match suggestions.find? fun suggestion => suggestion.type = option.type with
  | none => option
  | some suggestion =>
    if knownType option = some .magicNumber ∧ option.data.length = 4 ∧ suggestion.data.length = 4 then
      let current := magicOf option.data
      let suggested := magicOf suggestion.data
      magicOption (if suggested = 0 ∨ suggested = current then nextMagic current else suggested)
    else suggestion

/-- `apply_nak`; the local options were validated, so that their reading has no fault. -/
def applyNak (localOptions : List UInt8) (suggestions : List ConfigurationOption) : List UInt8 :=
  (Tlv.items localOptions).1.flatMap fun option => (nakReplacement suggestions option).encoded

def localMagic (options : List UInt8) : Option UInt32 :=
  ((Tlv.items options).1.find? fun option =>
    knownType option = some .magicNumber ∧ option.data.length = 4).map fun option => magicOf option.data

def applyReject (localOptions : List UInt8) (rejected : List ConfigurationOption) : Option (List UInt8) :=
  let options := (Tlv.items localOptions).1
  if rejected = [] ∨ hasDuplicateTypes rejected then none
  else if rejected.any fun option => !options.any fun own => own.encoded = option.encoded then none
  else some ((options.filter fun own =>
    !rejected.any fun option => option.encoded = own.encoded).flatMap Tlv.Item.encoded)

namespace Machine

/-- What a call leaves behind: the machine and the result. -/
abbrev Outcome := Machine × Except MachineError Transition

/-- `validate_options` is the reading of the options without a fault. -/
def new (localOptions : List UInt8) (settings : Settings) : Except MachineError Machine :=
  match collectOptions optionParseError localOptions with
  | .error error => .error (.invalidLocalOptions error)
  | .ok _ => .ok {
      state := .closed
      settings := settings
      localOptions := localOptions
      requestIdentifier := 0
      terminateIdentifier := 0
      nextIdentifier := 0
      restartRemaining := 0
      restartDeadlineMs := none
      peerConfiguration := none
      acknowledgedLocalMagic := none }

def encodeRequest (m : Machine) : Except MachineError (List UInt8) :=
  encode .configureRequest m.requestIdentifier m.localOptions

def encodeTerminateRequest (m : Machine) : Except MachineError (List UInt8) :=
  encode .terminateRequest m.terminateIdentifier []

/-- `allocate_identifier`, with the identifier it returns in `nextIdentifier`. -/
def allocateIdentifier (m : Machine) : Machine := { m with nextIdentifier := m.nextIdentifier + 1 }

def sendNewRequest (m : Machine) (nowMs : ℕ) (resetCounter : Bool) :
    Machine × Except MachineError (List UInt8) :=
  let m := m.allocateIdentifier
  let m := { m with
    acknowledgedLocalMagic := none
    requestIdentifier := m.nextIdentifier
    restartRemaining := (if resetCounter then m.settings.maxConfigure else m.restartRemaining) - 1
    restartDeadlineMs := some (saturatingAdd nowMs m.settings.restartIntervalMs) }
  (m, m.encodeRequest)

/-- The result of a call that ends with one packet, after the actions before it. -/
def sending (actions : List Action) (packet : Except MachineError (List UInt8)) :
    Except MachineError Transition :=
  packet.map fun packet => { actions := actions ++ [.sendPacket packet] }

/-- `open`. -/
def doOpen (m : Machine) (nowMs : ℕ) : Outcome :=
  if m.state = .opened ∨ m.state = .closing then (m, .ok {})
  else
    let (m, packet) := { m with
      state := .requestSent
      peerConfiguration := none
      acknowledgedLocalMagic := none }.sendNewRequest nowMs true
    (m, sending [] packet)

/-- `close`. -/
def doClose (m : Machine) (nowMs : ℕ) : Outcome :=
  if m.state = .closing then (m, .ok {})
  else if m.state = .closed ∨ m.state = .stopped then
    ({ m with
        state := .closed
        restartDeadlineMs := none
        restartRemaining := 0
        peerConfiguration := none
        acknowledgedLocalMagic := none }, .ok {})
  else
    let down := if m.state = .opened then [Action.thisLayerDown] else []
    let m := m.allocateIdentifier
    let m := { m with
      state := .closing
      peerConfiguration := none
      acknowledgedLocalMagic := none
      terminateIdentifier := m.nextIdentifier
      restartRemaining := m.settings.maxTerminate - 1
      restartDeadlineMs := some (saturatingAdd nowMs m.settings.restartIntervalMs) }
    (m, sending down m.encodeTerminateRequest)

def lowerDown (m : Machine) : Machine × Transition :=
  ({ m with
      state := .closed
      restartDeadlineMs := none
      restartRemaining := 0
      peerConfiguration := none
      acknowledgedLocalMagic := none },
    { actions := if m.state = .opened then [.thisLayerDown] else [] })

/-- The MRU that bounds a packet to the peer, at least `least`. -/
def peerMru (m : Machine) (least : ℕ) : ℕ := max (m.peerConfiguration.getD {}).transmitMru.toNat least

def rejectProtocol (m : Machine) (protocol : UInt16) (information : List UInt8) : Outcome :=
  if m.state ≠ .opened then (m, .ok { ignored := some .notConfiguring })
  else
    let rejected := BigEndian.octets 2 protocol.toNat ++ information.take (m.peerMru 6 - 6)
    let m := m.allocateIdentifier
    (m, sending [] (encode .protocolReject m.nextIdentifier rejected))

def pollTimeout (m : Machine) (nowMs : ℕ) : Outcome :=
  match m.restartDeadlineMs with
  | none => (m, .ok {})
  | some deadline =>
    let next := some (saturatingAdd nowMs m.settings.restartIntervalMs)
    if nowMs < deadline then (m, .ok {})
    else if m.state = .closing then
      if m.restartRemaining = 0 then
        ({ m with state := .closed, restartDeadlineMs := none, peerConfiguration := none },
          .ok { actions := [.thisLayerFinished] })
      else
        let m := { m with restartRemaining := m.restartRemaining - 1, restartDeadlineMs := next }
        (m, sending [] m.encodeTerminateRequest)
    else if m.state ≠ .requestSent ∧ m.state ≠ .ackReceived ∧ m.state ≠ .ackSent then
      ({ m with restartDeadlineMs := none }, .ok {})
    else if m.restartRemaining = 0 then
      ({ m with state := .stopped, restartDeadlineMs := none }, .ok { actions := [.thisLayerFinished] })
    else
      let m := { m with
        restartRemaining := m.restartRemaining - 1
        state := if m.state = .ackReceived then .requestSent else m.state
        restartDeadlineMs := next }
      (m, sending [] m.encodeRequest)

/-! ### Packets other than Configure -/

def receiveEchoRequest (m : Machine) (packet : Packet) : Outcome :=
  if m.state ≠ .opened then (m, .ok { ignored := some .notConfiguring })
  else if packet.data.length < 4 then (m, .ok { ignored := some .malformedEchoRequest })
  else
    let actual := magicOf packet.data
    let expected := (m.peerConfiguration.getD {}).magicNumber.getD 0
    if actual ≠ expected then (m, .ok { ignored := some (.unexpectedMagicNumber expected actual) })
    else
      -- The acknowledged local Magic-Number, and as much of the data as fits the peer's MRU.
      let response := magicOctets (m.acknowledgedLocalMagic.getD 0) ++
        (packet.data.drop 4).take (m.peerMru 8 - 8)
      (m, sending [] (encode .echoReply packet.identifier response))

def receiveTerminateRequest (m : Machine) (packet : Packet) : Outcome :=
  if m.state = .closing then (m, sending [] (encode .terminateAck packet.identifier []))
  else
    let down := if m.state = .opened then [Action.thisLayerDown] else []
    ({ m with
        state := .stopped
        restartDeadlineMs := none
        restartRemaining := 0
        peerConfiguration := none
        acknowledgedLocalMagic := none },
      (encode .terminateAck packet.identifier []).map fun packet => { actions := .sendPacket packet :: down })

def receiveTerminateAck (m : Machine) (packet : Packet) : Outcome :=
  if m.state ≠ .closing then (m, .ok {})
  else if packet.identifier ≠ m.terminateIdentifier then
    (m, .ok { ignored := some .invalidTerminateResponse })
  else
    ({ m with
        state := .closed
        restartDeadlineMs := none
        restartRemaining := 0
        peerConfiguration := none
        acknowledgedLocalMagic := none }, .ok { actions := [.thisLayerFinished] })

def receiveUnknownCode (m : Machine) (input : List UInt8) (packet : Packet) : Outcome :=
  let rejectedLength := min (headerLength + packet.data.length) input.length
  let rejected := input.take (min rejectedLength (m.peerMru 8 - headerLength))
  let m := m.allocateIdentifier
  (m, sending [] (encode .codeReject m.nextIdentifier rejected))

/-! ### Configure packets -/

def receiveConfigureRequest (m : Machine) (packet : Packet) (nowMs : ℕ) (policy : SfcPolicy) : Outcome :=
  match evaluatePeerRequest packet policy (localMagic m.localOptions) with
  | .error error => (m, .ok { ignored := some (.malformedOptions error) })
  | .ok evaluation =>
    match encode evaluation.code packet.identifier evaluation.data with
    | .error error => (m, .error error)
    | .ok response =>
      let acceptable : Bool := evaluation.code = .configureAck
      let m := if acceptable then { m with peerConfiguration := evaluation.configuration } else m
      match m.state with
      | .requestSent | .ackSent =>
        ({ m with state := if acceptable then .ackSent else .requestSent },
          .ok { actions := [.sendPacket response] })
      | .ackReceived =>
        if acceptable then
          ({ m with state := .opened, restartDeadlineMs := none },
            .ok { actions := [.sendPacket response, .thisLayerUp (evaluation.configuration.getD {})] })
        else (m, .ok { actions := [.sendPacket response] })
      | .opened =>
        match m.sendNewRequest nowMs true with
        | (m, .error error) => (m, .error error)
        | (m, .ok request) =>
          ({ m with state := if acceptable then .ackSent else .requestSent },
            .ok { actions := [.thisLayerDown, .sendPacket request, .sendPacket response] })
      -- Not reached: `receive` has returned.
      | .closing | .closed | .stopped => (m, .ok {})

def afterNegativeResponse (m : Machine) (nowMs : ℕ) : Outcome :=
  let resetCounter : Bool := m.state = .requestSent ∨ m.state = .ackSent
  let down := if m.state = .opened then [Action.thisLayerDown] else []
  let next : State := if m.state = .ackSent then .ackSent else .requestSent
  let (m, packet) := { m with state := next }.sendNewRequest nowMs resetCounter
  (m, sending down packet)

def receiveConfigureAck (m : Machine) (packet : Packet) (nowMs : ℕ) : Outcome :=
  if !exactlyAcknowledges packet m.requestIdentifier m.localOptions then (m, .ok invalidResponse)
  else
    let m := { m with acknowledgedLocalMagic := localMagic m.localOptions }
    match m.state with
    | .requestSent => ({ m with state := .ackReceived, restartRemaining := m.settings.maxConfigure }, .ok {})
    | .ackSent =>
      ({ m with state := .opened, restartRemaining := m.settings.maxConfigure, restartDeadlineMs := none },
        .ok { actions := [.thisLayerUp (m.peerConfiguration.getD {})] })
    | .ackReceived =>
      let (m, packet) := { m with state := .requestSent }.sendNewRequest nowMs false
      (m, sending [] packet)
    | .opened =>
      let (m, packet) := { m with state := .requestSent }.sendNewRequest nowMs false
      (m, sending [.thisLayerDown] packet)
    | .closing | .closed | .stopped => (m, .ok {})

def receiveConfigureNak (m : Machine) (packet : Packet) (nowMs : ℕ) : Outcome :=
  if packet.identifier ≠ m.requestIdentifier then (m, .ok invalidResponse)
  else match collectOptions optionParseError packet.data with
    | .error error => (m, .ok { ignored := some (.malformedOptions error) })
    | .ok options =>
      if hasDuplicateTypes options then (m, .ok invalidResponse)
      else { m with
        localOptions := applyNak m.localOptions options
        acknowledgedLocalMagic := none }.afterNegativeResponse nowMs

def receiveConfigureReject (m : Machine) (packet : Packet) (nowMs : ℕ) : Outcome :=
  if packet.identifier ≠ m.requestIdentifier then (m, .ok invalidResponse)
  else match collectOptions optionParseError packet.data with
    | .error error => (m, .ok { ignored := some (.malformedOptions error) })
    | .ok rejected =>
      match applyReject m.localOptions rejected with
      | none => (m, .ok invalidResponse)
      | some updated =>
        { m with localOptions := updated, acknowledgedLocalMagic := none }.afterNegativeResponse nowMs

/-- The codes that a closing machine does not answer. -/
def closingIgnores : Code → Bool
  | .configureRequest | .configureAck | .configureNak | .configureReject | .echoRequest | .echoReply
  | .discardRequest => true
  | _ => false

def receive (m : Machine) (input : List UInt8) (nowMs : ℕ) (policy : SfcPolicy) : Outcome :=
  if m.state = .closed ∨ m.state = .stopped then (m, .ok { ignored := some .notConfiguring })
  else match Packet.parse input with
    | .error error => (m, .ok { ignored := some (.malformedPacket error) })
    | .ok packet =>
      if m.state = .closing ∧ (knownCode packet).any closingIgnores then
        (m, .ok { ignored := some .notConfiguring })
      else match knownCode packet with
        | some .configureRequest => m.receiveConfigureRequest packet nowMs policy
        | some .configureAck => m.receiveConfigureAck packet nowMs
        | some .configureNak => m.receiveConfigureNak packet nowMs
        | some .configureReject => m.receiveConfigureReject packet nowMs
        | some .terminateRequest => m.receiveTerminateRequest packet
        | some .terminateAck => m.receiveTerminateAck packet
        | some .echoRequest => m.receiveEchoRequest packet
        | some .echoReply | some .discardRequest =>
          if m.state = .opened then (m, .ok {}) else (m, .ok { ignored := some .notConfiguring })
        | none => m.receiveUnknownCode input packet
        | some code => (m, .ok { ignored := some (.unsupportedCode code.octet) })

end Machine

end SnesModem.Rust.Negotiation
