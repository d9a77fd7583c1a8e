import SnesModem.Asm.LcpNegotiation

/-!
# `ppp/ipcp.asm`

The IPCP automaton, on the same loops over options as LCP.  Its two option maps lie behind those of LCP.
-/

namespace SnesModem.Asm

open SnesModem.Lib.Cpu65816 SnesModem.Lib.Octets

abbrev ipcpDefaultMaxConfigure : UInt8 := 10
abbrev ipcpRestartIntervalFrames : UInt16 := 180
abbrev addressOptionLength : UInt8 := 6

/-! ### Addresses and the options that carry them -/

abbrev Address.zero : Address := ⟨0, 0, 0, 0⟩

/-- `PPP_IPCP_PEER_ADDRESS_0` to `PPP_IPCP_PEER_ADDRESS_3`. -/
abbrev defaultPeerAddress : Address := ⟨10, 24, 0, 1⟩

def Address.octets (address : Address) : List UInt8 := [address.a, address.b, address.c, address.d]

def readAddress (buffer : Buffer) (offset : ℕ) : Address :=
  ⟨buffer offset, buffer (offset + 1), buffer (offset + 2), buffer (offset + 3)⟩

/-- The options of the local request, in its order. -/
inductive IpcpOption where
  | ipAddress | primaryDns | secondaryDns
  deriving DecidableEq, Repr

def IpcpOption.type : IpcpOption → UInt8
  | .ipAddress => 3
  | .primaryDns => 129
  | .secondaryDns => 131

def IpcpOption.ofType (type : UInt8) : Option IpcpOption :=
  [.ipAddress, .primaryDns, .secondaryDns].find? fun option => option.type = type

def Ipcp.requests (p : Ipcp) : IpcpOption → Bool
  | .ipAddress => p.flags.requestAddress
  | .primaryDns => p.flags.requestPrimaryDns
  | .secondaryDns => p.flags.requestSecondaryDns

def Ipcp.address (p : Ipcp) : IpcpOption → Address
  | .ipAddress => p.localAddress
  | .primaryDns => p.primaryDnsAddress
  | .secondaryDns => p.secondaryDnsAddress

/-- An option with an address. -/
def addressOption (type : UInt8) (address : Address) : List UInt8 := [type, addressOptionLength] ++ address.octets

/-- The options of the local request. -/
def Ipcp.requestData (p : Ipcp) : List UInt8 :=
  ([.ipAddress, .primaryDns, .secondaryDns] : List IpcpOption).flatMap fun option =>
    if p.requests option then addressOption option.type (p.address option) else []

/-! ### The lower layer -/

/-- The variables that each establishment starts with. -/
def ipcpEstablishment (p : Ipcp) : Ipcp :=
  { p with
    localAddress := .zero
    primaryDnsAddress := .zero
    secondaryDnsAddress := .zero
    peerAddress := defaultPeerAddress
    flags := ⟨true, false, true, true, false, true, false⟩ }

/-- `pppIpcpInitialize`; the end of the packet stays. -/
def pppIpcpInitialize (p : Ipcp) : Ipcp := ipcpEstablishment { (default : Ipcp) with packetEnd := p.packetEnd }

def pppIpcpLowerUp (p : Ipcp) : Ipcp :=
  if p.state ≠ .closed then p
  else ipcpEstablishment { p with
    state := .requestSent
    requestIdentifier := 1
    restartRemaining := ipcpDefaultMaxConfigure - 1
    pendingAction := .configureRequest
    timerActive := false
    deferredRequest := false
    lastError := .none }

def pppIpcpLowerDown (p : Ipcp) : Ipcp :=
  ipcpEstablishment { p with
    state := .closed
    requestIdentifier := 0
    restartRemaining := 0
    pendingAction := .none
    timerActive := false
    deferredRequest := false
    packetLength := 0
    restartDeadline := 0 }

/-! ### The peer's request -/

/-- `pppIpcpOptionSeen`, from `pppLcpOptionSeen` on. -/
abbrev ipcpMaps : ℕ := 0x200

/-- The memory from the IPCP maps on. -/
def ipcpWindow (ram : Buffer) : Buffer := fun i => ram (ipcpMaps + i)

/-- The memory with that from the IPCP maps on replaced. -/
def withIpcpWindow (ram window : Buffer) : Buffer := fun i => if i < ipcpMaps then ram i else window (i - ipcpMaps)

/-- `pppIpcpClassifyPeerOption`. -/
def pppIpcpClassifyPeerOption (buffer ram : Buffer) (b : UInt8) (y : UInt16) : Disposition :=
  if ipcpWindow ram (duplicateMap + optionIndex b (buffer y.toNat)) ≠ 0 then .reject
  else if buffer y.toNat ≠ 3 then .reject
  else if buffer (y.toNat + 1) ≠ addressOptionLength then .nak
  else if readAddress buffer (y.toNat + 2) = .zero then .nak
  else .ack

/-- `@classify` at one option. -/
def ipcpClassifyOption (buffer ram : Buffer) (found : Bool × Bool × UInt8) (y : UInt16) : Bool × Bool × UInt8 :=
  let disposition := pppIpcpClassifyPeerOption buffer ram found.2.2 y
  (found.1 || disposition = .reject, found.2.1 || disposition = .nak, high (advanceY buffer y))

/-- `@commitLoop` at one option. -/
def ipcpCommitOption (buffer : Buffer) (p : Ipcp) (y : UInt16) : Ipcp :=
  if buffer y.toNat = 3 then
    { p with peerAddress := readAddress buffer (y.toNat + 2), flags := { p.flags with peerValid := true } }
  else p

/-- `pppIpcpEvaluatePeerRequest`: the action, the memory and the variables. -/
def pppIpcpEvaluatePeerRequest (buffer ram : Buffer) (p : Ipcp) : IpcpAction × Buffer × Ipcp :=
  let offsets := options buffer p.packetEnd
  let maps := offsets.foldl (recordType buffer) (clearMaps (ipcpWindow ram), high p.packetEnd)
  let ram := withIpcpWindow ram maps.1
  let found := offsets.foldl (ipcpClassifyOption buffer ram) (false, false, high p.packetEnd)
  if found.1 then (.configureReject, ram, p)
  else if found.2.1 then (.configureNak, ram, p)
  else (.configureAck, ram, offsets.foldl (ipcpCommitOption buffer) p)

/-! ### Received packets

Each handler returns the carry, which is set for a packet that is dropped. -/

/-- `@success`. -/
def ipcpSuccess (p : Ipcp) : Ipcp × Bool := ({ p with lastError := .none }, false)

/-- `pppIpcpReturnError`. -/
def ipcpReturnError (p : Ipcp) (error : IpcpError) : Ipcp × Bool := ({ p with lastError := error }, true)

/-- `@newRequest`. -/
def ipcpNewRequest (p : Ipcp) : Ipcp :=
  { p with
    requestIdentifier := p.requestIdentifier + 1
    restartRemaining := ipcpDefaultMaxConfigure - 1
    timerActive := false
    deferredRequest := false
    pendingAction := .configureRequest }

/-- `@negativeResponse`. -/
def ipcpNegativeResponse (p : Ipcp) : Ipcp :=
  ipcpNewRequest { p with state := if p.state = .ackSent then .ackSent else .requestSent }

/-- `@configureRequest`, after the evaluation. -/
def applyIpcpRequest (action : IpcpAction) (p : Ipcp) : Ipcp :=
  let p := { p with pendingAction := action }
  if p.state = .opened then
    { p with
      requestIdentifier := p.requestIdentifier + 1
      restartRemaining := ipcpDefaultMaxConfigure - 1
      timerActive := false
      deferredRequest := true
      state := if action = .configureAck then .ackSent else .requestSent }
  else if action = .configureAck then
    if p.state = .ackReceived then { p with state := .opened, restartRemaining := 0, timerActive := false }
    else { p with state := .ackSent }
  else if p.state = .ackReceived then p
  else { p with state := .requestSent }

/-- `@validateAckOptions`: the packet repeats the options of the request, in their order. -/
def ipcpAckValid (buffer : Buffer) (p : Ipcp) : Bool :=
  p.packetEnd.toNat = 8 + p.requestData.length ∧ read buffer 8 p.requestData.length = p.requestData

/-- `@publishDnsValidity`. -/
def publishDnsValidity (p : Ipcp) : Ipcp :=
  { p with flags := { p.flags with
    primaryDnsValid := p.flags.requestPrimaryDns && p.primaryDnsAddress ≠ .zero
    secondaryDnsValid := p.flags.requestSecondaryDns && p.secondaryDnsAddress ≠ .zero } }

/-- `@configureAck`. -/
def receiveIpcpAck (buffer : Buffer) (p : Ipcp) : Ipcp × Bool :=
  if p.lastIdentifier ≠ p.requestIdentifier ∨ !ipcpAckValid buffer p then ipcpReturnError p .invalidResponse
  else
    let p := publishDnsValidity p
    match p.state with
    | .requestSent => ipcpSuccess { p with state := .ackReceived, restartRemaining := ipcpDefaultMaxConfigure }
    | .ackSent => ipcpSuccess { p with state := .opened, restartRemaining := 0, timerActive := false }
    | .ackReceived | .opened => ipcpSuccess (ipcpNewRequest { p with state := .requestSent })
    | _ => ipcpSuccess p

/-- The loop of a Nak or Reject that checks its options: each is requested, occurs once and is acceptable. The
result is `pppIpcpHasNak` or `pppIpcpHasReject`, or `none` if the packet is not valid. -/
def negativeOptions (buffer : Buffer) (p : Ipcp) (acceptable : IpcpOption → UInt16 → Bool) :
    List UInt16 → List IpcpOption → Option (List IpcpOption)
  | [], found => if found = [] then none else some found
  | y :: offsets, found =>
    match IpcpOption.ofType (buffer y.toNat) with
    | none => none
    | some option =>
      if p.requests option ∧ option ∉ found ∧ buffer (y.toNat + 1) = addressOptionLength ∧ acceptable option y then
        negativeOptions buffer p acceptable offsets (option :: found)
      else none

/-- `@applyNakLoop` at one option. -/
def applyNakOption (buffer : Buffer) (p : Ipcp) (y : UInt16) : Ipcp :=
  let address := readAddress buffer (y.toNat + 2)
  match (buffer y.toNat).toNat with
  | 3 => { p with
      localAddress := address
      flags := { p.flags with requestAddress := true, localValid := true } }
  | 129 => { p with primaryDnsAddress := address, flags := { p.flags with primaryDnsValid := false } }
  | _ => { p with secondaryDnsAddress := address, flags := { p.flags with secondaryDnsValid := false } }

/-- `@acceptNakOptions`. -/
def acceptNakOptions (buffer : Buffer) (p : Ipcp) : Option Ipcp :=
  let offsets := options buffer p.packetEnd
  let acceptable (_ : IpcpOption) (y : UInt16) : Bool := readAddress buffer (y.toNat + 2) ≠ .zero
  (negativeOptions buffer p acceptable offsets []).map fun _ => offsets.foldl (applyNakOption buffer) p

/-- `@rejectValidated` for one option. -/
def applyReject (p : Ipcp) : IpcpOption → Ipcp
  | .ipAddress => { p with flags := { p.flags with requestAddress := false, localValid := false } }
  | .primaryDns => { p with flags := { p.flags with requestPrimaryDns := false, primaryDnsValid := false } }
  | .secondaryDns => { p with flags := { p.flags with requestSecondaryDns := false, secondaryDnsValid := false } }

/-- `@acceptRejectOptions`. -/
def acceptRejectOptions (buffer : Buffer) (p : Ipcp) : Option Ipcp :=
  let acceptable (option : IpcpOption) (y : UInt16) : Bool := readAddress buffer (y.toNat + 2) = p.address option
  (negativeOptions buffer p acceptable (options buffer p.packetEnd) []).map fun found => found.foldl applyReject p

/-- `@configureNak` and `@configureReject`. -/
def receiveIpcpNegative (accepted : Ipcp → Option Ipcp) (p : Ipcp) : Ipcp × Bool :=
  if p.lastIdentifier ≠ p.requestIdentifier then ipcpReturnError p .invalidResponse
  else
    match accepted p with
    | none => ipcpReturnError p .invalidResponse
    | some p => ipcpSuccess (ipcpNegativeResponse p)

/-- `@dispatch`: the memory, the variables and the carry. -/
def dispatchIpcp (buffer ram : Buffer) (p : Ipcp) : Buffer × Ipcp × Bool :=
  if p.state = .closed ∨ p.state = .stopped then (ram, ipcpReturnError p .notConfiguring)
  else
    match p.lastCode.toNat with
    | 1 =>
      let (action, ram, p) := pppIpcpEvaluatePeerRequest buffer ram p
      (ram, ipcpSuccess (applyIpcpRequest action p))
    | 2 => (ram, receiveIpcpAck buffer p)
    | 3 => (ram, receiveIpcpNegative (acceptNakOptions buffer) p)
    | 4 => (ram, receiveIpcpNegative (acceptRejectOptions buffer) p)
    | _ => (ram, ipcpSuccess p)

/-- The errors of `@optionLoop`, which is that of `pppLcpParseFrame`. -/
def ipcpOptionError : LcpError → IpcpError
  | .truncatedOption => .truncatedOption
  | .invalidOptionLength => .invalidOptionLength
  | _ => .optionOverrun

/-- `@validateOptions`; the walk is made for every code below `$05`. -/
def validateIpcpOptions (buffer ram : Buffer) (p : Ipcp) : Buffer × Ipcp × Bool :=
  if p.lastCode < 5 then
    match optionLoop buffer p.packetEnd maximumTurns firstOption with
    | some error => (ram, ipcpReturnError p (ipcpOptionError error))
    | none => dispatchIpcp buffer ram p
  else dispatchIpcp buffer ram p

def pppIpcpReceiveFrame (d : Decoder) (ram : Buffer) (p : Ipcp) : Buffer × Ipcp × Bool :=
  let p := { p with receiveCount := p.receiveCount + 1, lastCode := 0, lastIdentifier := 0, packetLength := 0 }
  if d.lastProtocol ≠ protocolIpcp then (ram, ipcpReturnError p .wrongProtocol)
  else if d.lastFrameLength < minimumFrameLength then (ram, ipcpReturnError p .truncatedHeader)
  else
    let p := { p with
      lastCode := d.frameBuffer 4
      lastIdentifier := d.frameBuffer 5
      packetLength := word (d.frameBuffer 6) (d.frameBuffer 7) }
    if p.packetLength < headerLength then (ram, ipcpReturnError p .invalidPacketLength)
    else
      let p := { p with packetEnd := p.packetLength + frameOffset }
      if d.lastFrameLength < p.packetEnd then (ram, ipcpReturnError p .truncatedPacket)
      else validateIpcpOptions d.frameBuffer ram p

/-! ### The packets it sends -/

/-- One option of `pppIpcpBuildPeerResponse`. -/
def ipcpBuildOption (buffer ram : Buffer) (p : Ipcp) (build : Build) (y : UInt16) : Build :=
  let disposition := pppIpcpClassifyPeerOption buffer ram build.b y
  let b := high (advanceY buffer y)
  if p.pendingAction = .configureReject then
    if disposition = .reject then build.put (read buffer y.toNat (optionLength buffer y).toNat) 0
    else { build with b := b }
  else if disposition = .nak then build.put (addressOption 3 defaultPeerAddress) b
  else { build with b := b }

/-- `pppIpcpBuildPeerResponse`. -/
def pppIpcpBuildPeerResponse (buffer ram : Buffer) (p : Ipcp) (output : Buffer) : Built :=
  let code : UInt8 := if p.pendingAction = .configureNak then 3 else 4
  let build := (options buffer p.packetEnd).foldl (ipcpBuildOption buffer ram p)
    ⟨0, firstOption, write output 4 [code, p.lastIdentifier]⟩
  let length := build.cursor - frameOffset
  (write build.buffer 6 [high length, low length], build.cursor)

/-- `@ack`. -/
def copyIpcpResponse (buffer : Buffer) (p : Ipcp) (output : Buffer) : Built :=
  let output := write output 4 (read buffer 4 p.packetLength.toNat)
  (write output 4 [2], p.packetLength + frameOffset)

/-- The packet of the pending action, if there is one. -/
def buildIpcpAction (buffer ram : Buffer) (p : Ipcp) (output : Buffer) : Option Built :=
  let output := write output 0 [0xff, 0x03, 0x80, 0x21]
  match p.pendingAction with
  | .none => none
  | .configureRequest => some (buildPacket output 1 p.requestIdentifier p.requestData)
  | .configureAck => some (copyIpcpResponse buffer p output)
  | .configureNak | .configureReject => some (pppIpcpBuildPeerResponse buffer ram p output)

/-- `@begin` once the encoder has the packet. -/
def afterIpcpBegin (now : UInt32) (p : Ipcp) : Ipcp :=
  let p := if p.pendingAction = .configureRequest then
    { p with restartDeadline := now.toUInt16 + ipcpRestartIntervalFrames, timerActive := true } else p
  { p with pendingAction := .none }

/-- `pppIpcpBuildPending`: the carry is set if there is nothing to send or the encoder does not take it. -/
def pppIpcpBuildPending (now : UInt32) (buffer ram : Buffer) (p : Ipcp) (t : Transmit) : Ipcp × Transmit × Bool :=
  if t.active then (p, t, true)
  else
    match buildIpcpAction buffer ram p t.buffer with
    | none => (p, t, true)
    | some (output, length) =>
      match pppTransmitBegin { t with buffer := output } length with
      | (t, true) => (p, t, true)
      | (t, false) => (afterIpcpBegin now p, t, false)

/-- `pppIpcpPollTimeout`. -/
def pppIpcpPollTimeout (now : UInt32) (p : Ipcp) : Ipcp :=
  if !p.timerActive || !expired now p.restartDeadline then p
  else
    let p := { p with timerActive := false, deferredRequest := false }
    match p.state with
    | .requestSent | .ackReceived | .ackSent =>
      if p.restartRemaining = 0 then
        { p with state := .stopped, restartRemaining := 0, pendingAction := .none }
      else { p with
        restartRemaining := p.restartRemaining - 1
        state := if p.state = .ackReceived then .requestSent else p.state
        pendingAction := .configureRequest }
    | _ => p

end SnesModem.Asm
