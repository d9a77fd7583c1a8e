import SnesModem.Lib.Slices
import SnesModem.Rust.LocalOptions

/-!
# The panics of the reference LCP machine

The methods of the machine once more, with every index, slice, subtraction, `unwrap`, `expect` and `unreachable!` that
they contain; `none` is a panic.

* `Readable`: local options without a fault, on which the panics depend;
* `outcome`: a call of the machine that may panic;
* `outcome_eq`: with readable options no call panics, and each does what the machine without panics does.
-/

namespace SnesModem.Rust.LcpPanics

open SnesModem.Lib SnesModem.Lib.Slices SnesModem.Rust.ControlPacket SnesModem.Rust.Lcp SnesModem.Rust.Negotiation
open SnesModem.Rust.Negotiation.Machine (Outcome peerMru sending)
open SnesModem.Rust.LcpRun SnesModem.Rust.NegotiationSteps

/-! ### The codec -/

/-- `u32::from_be_bytes(data.try_into().unwrap())`. -/
def magicOfArray (data : List UInt8) : Option UInt32 := if data.length = 4 then some (magicOf data) else none

/-- `Packet::parse`. -/
def parse (input : List UInt8) : Option (Except ParseError Packet) :=
  if input.length < headerLength then some (.error (.headerTruncated input.length))
  else do
    let high ← index input 2
    let low ← index input 3
    let declared := BigEndian.value [high, low]
    if declared < headerLength ∨ input.length < declared then some (.error (.invalidLength declared input.length))
    else do
      let code ← index input 0
      let identifier ← index input 1
      let data ← slice input headerLength declared
      some (.ok { code, identifier, data })

/-- `encode_into`; its callers do not tell apart that the data is too long and that the output is too small. -/
def encodeInto (code identifier : UInt8) (data output : List UInt8) : Option (Except EncodeError (List UInt8)) :=
  let required := headerLength + data.length
  if 2 ^ 16 ≤ required ∨ output.length < required then some (.error (.dataTooLong data.length))
  else do
    let output ← store output 0 code
    let output ← store output 1 identifier
    let output ← copyFromSlice output 2 4 (BigEndian.octets 2 required)
    let output ← copyFromSlice output 4 required data
    some (.ok output)

/-- `encode_packet`. -/
def encode (code : Code) (identifier : UInt8) (data : List UInt8) : Option (Except MachineError (List UInt8)) := do
  let packet ← encodeInto code.octet identifier data (List.replicate (headerLength + data.length) 0)
  some (packet.mapError .packetTooLarge)

/-- The options that `ConfigurationOptions::next` yields, and the error that ends them. -/
def readOptions : ℕ → List UInt8 → Option (List ConfigurationOption × Option Tlv.Fault)
  | 0, _ => some ([], none)
  | fuel + 1, remaining =>
    if remaining = [] then some ([], none)
    else if remaining.length < 2 then some ([], some (.headerTruncated remaining.length))
    else do
      let type ← index remaining 0
      let length ← index remaining 1
      let declared := length.toNat
      if declared < 2 ∨ remaining.length < declared then
        some ([], some (.invalidLength type declared remaining.length))
      else do
        -- `split_at`.
        let encoded ← slice remaining 0 declared
        let rest ← slice remaining declared remaining.length
        let data ← slice encoded 2 encoded.length
        let (options, fault) ← readOptions fuel rest
        -- The length octet bounds the data.
        if hfits : data.length + 2 < 256 then some (⟨type, data, hfits⟩ :: options, fault) else none

/-- `configuration_options`. -/
def configurationOptions (data : List UInt8) : Option (List ConfigurationOption × Option Tlv.Fault) :=
  readOptions data.length data

/-- `collect_options`. -/
def collectOptions (data : List UInt8) : Option (Except OptionParseError (List ConfigurationOption)) := do
  match ← configurationOptions data with
  | (options, none) => some (.ok options)
  | (_, some fault) => some (.error (optionParseError fault))

section Codec

lemma parse_eq (input : List UInt8) : parse input = some (Packet.parse input) := by
  unfold parse Packet.parse
  match input with
  | [] | [_] | [_, _] | [_, _, _] => rfl
  | code :: identifier :: high :: low :: rest =>
    have hlong : ¬ (code :: identifier :: high :: low :: rest).length < headerLength := by
      rw [show headerLength = 4 from rfl]
      simp
    rw [if_neg hlong, parsePacket_cons]
    simp only [index_succ_cons, index_zero_cons, Option.bind_eq_bind, Option.bind_some]
    by_cases hshort : BigEndian.value [high, low] < headerLength
    · rw [if_pos (Or.inl hshort), if_pos hshort]
      rfl
    · by_cases htruncated : rest.length + 4 < BigEndian.value [high, low]
      · rw [if_pos (Or.inr (by simpa using htruncated)), if_neg hshort, if_pos htruncated]
        rfl
      · have hfits : BigEndian.value [high, low] ≤ (code :: identifier :: high :: low :: rest).length := by
          simpa using htruncated
        rw [if_neg (not_or.mpr ⟨hshort, Nat.not_lt.mpr hfits⟩), if_neg hshort, if_neg htruncated,
          slice_eq (Nat.le_of_not_lt hshort) hfits]
        have hdeclared : BigEndian.value [high, low] = BigEndian.value [high, low] - 4 + 4 := by
          have hheader : headerLength = 4 := rfl
          omega
        rw [hdeclared]
        rfl

lemma encode_eq (code : Code) (identifier : UInt8) (data : List UInt8) :
    encode code identifier data = some (Negotiation.encode code identifier data) := by
  have hheader : headerLength = 4 := rfl
  unfold encode encodeInto Negotiation.encode encodePacket
  rw [List.length_replicate]
  dsimp only
  by_cases hfits : headerLength + data.length < 2 ^ 16
  · obtain ⟨high, low, hoctets⟩ : ∃ high low, BigEndian.octets 2 (headerLength + data.length) = [high, low] := ⟨_, _, rfl⟩
    have hblank : List.replicate (headerLength + data.length) (0 : UInt8) = 0 :: 0 :: 0 :: 0 :: List.replicate data.length 0 := by
      rw [List.replicate_add]
      rfl
    have hcopy : copyFromSlice (code.octet :: identifier :: high :: low :: List.replicate data.length 0) 4
        (headerLength + data.length) data = some (code.octet :: identifier :: high :: low :: data) := by
      have hroom : headerLength + data.length ≤
          (code.octet :: identifier :: high :: low :: List.replicate data.length (0 : UInt8)).length := by
        simp only [List.length_cons, List.length_replicate]
        omega
      rw [copyFromSlice_eq (by omega) hroom (by omega)]
      have hdrop : (List.replicate data.length (0 : UInt8)).drop data.length = [] := by simp
      simp [hheader, Nat.add_comm 4, hdrop]
    have hstore : copyFromSlice (code.octet :: identifier :: 0 :: 0 :: List.replicate data.length 0) 2 4 [high, low] =
        some (code.octet :: identifier :: high :: low :: List.replicate data.length 0) := by
      rw [copyFromSlice_eq (by omega) (by simp) rfl]
      rfl
    rw [if_neg (by omega), if_pos hfits, hoctets, hblank, store_eq (by simp)]
    simp only [Option.bind_eq_bind, Option.bind_some, List.set_cons_zero]
    rw [store_eq (by simp)]
    simp only [Option.bind_some, List.set_cons_succ, List.set_cons_zero]
    rw [hstore]
    simp only [Option.bind_some]
    rw [hcopy]
    rfl
  · rw [if_pos (by omega), if_neg hfits]
    rfl

lemma readOptions_eq (fuel : ℕ) (remaining : List UInt8) : readOptions fuel remaining = some (Tlv.read fuel remaining) := by
  induction fuel generalizing remaining with
  | zero => rfl
  | succ fuel ih =>
    match remaining with
    | [] => rfl
    | [_] => rfl
    | type :: length :: rest =>
      have hlong : ¬ (type :: length :: rest).length < 2 := by simp
      unfold readOptions Tlv.read
      rw [if_neg (List.cons_ne_nil _ _), if_neg hlong]
      simp only [index_succ_cons, index_zero_cons, Option.bind_eq_bind, Option.bind_some]
      by_cases hdeclared : 2 ≤ length.toNat ∧ length.toNat ≤ rest.length + 2
      · have hfits : length.toNat ≤ (type :: length :: rest).length := hdeclared.2
        have hlength := length.toNat_lt
        obtain ⟨n, hn⟩ : ∃ n, length.toNat = n + 2 := ⟨length.toNat - 2, by omega⟩
        have htake : ((type :: length :: rest).take length.toNat).length = length.toNat := by
          rw [List.length_take]
          omega
        rw [if_neg (by omega), slice_front hfits, slice_back hfits, Option.bind_some, Option.bind_some, slice_back (by omega),
          Option.bind_some, ih, Option.bind_some, if_pos hdeclared]
        simp only [hn, List.drop_succ_cons, List.take_succ_cons, List.drop_zero, Nat.add_sub_cancel]
        have hdata : (rest.take n).length + 2 < 256 := by
          rw [List.length_take]
          omega
        rw [dif_pos hdata]
      · rw [if_neg hdeclared, if_pos (by simp only [List.length_cons]; omega)]
        rfl

@[simp] lemma configurationOptions_eq (data : List UInt8) : configurationOptions data = some (Tlv.items data) :=
  readOptions_eq _ _

@[simp] lemma collectOptions_eq (data : List UInt8) :
    collectOptions data = some (ControlPacket.collectOptions optionParseError data) := by
  unfold collectOptions ControlPacket.collectOptions
  rw [configurationOptions_eq]
  cases hitems : Tlv.items data with
  | mk options fault => cases fault <;> rfl

end Codec

/-! ### The options -/

/-- `evaluate_option`; the options that are only compared need no index. -/
def evaluateOption (option : ConfigurationOption) (policy : SfcPolicy) (proposedLocalMagic : Option UInt32)
    (configuration : PeerConfiguration) : Option (OptionDisposition × PeerConfiguration) :=
  match knownType option with
  | some .maximumReceiveUnit =>
    if option.data.length = 2 then do
      let high ← index option.data 0
      let low ← index option.data 1
      let value := UInt16.ofNat (BigEndian.value [high, low])
      if value = 0 then some (.nak [1, 4, 0x05, 0xdc], configuration)
      else some (.ack, { configuration with transmitMru := value })
    else some (.nak [1, 4, 0x05, 0xdc], configuration)
  | some .asyncControlCharacterMap =>
    if option.data.length = 4 then do
      let a ← index option.data 0
      let b ← index option.data 1
      let c ← index option.data 2
      let d ← index option.data 3
      some (.ack, { configuration with transmitAccm := magicOf [a, b, c, d] })
    else some (.nak [2, 6, 0xff, 0xff, 0xff, 0xff], configuration)
  | some .magicNumber =>
    if option.data.length = 4 then do
      let a ← index option.data 0
      let b ← index option.data 1
      let c ← index option.data 2
      let d ← index option.data 3
      let value := magicOf [a, b, c, d]
      if value = 0 ∨ some value = proposedLocalMagic then
        some (.nak (magicOption (nextMagic (proposedLocalMagic.getD value))).encoded, configuration)
      else some (.ack, { configuration with magicNumber := some value })
    else some (.reject, configuration)
  | _ => some (Negotiation.evaluateOption option policy proposedLocalMagic configuration)

/-- The loop of `evaluate_peer_request`; the map of duplicates has an entry for every octet. -/
def evaluateOptions (duplicates : UInt8 → Bool) (policy : SfcPolicy) (proposedLocalMagic : Option UInt32) :
    PeerConfiguration → List ConfigurationOption → Option (List OptionDisposition × PeerConfiguration)
  | configuration, [] => some ([], configuration)
  | configuration, option :: options => do
    let (disposition, configuration) ←
      if duplicates option.type then some (.reject, configuration)
      else evaluateOption option policy proposedLocalMagic configuration
    let (dispositions, configuration) ← evaluateOptions duplicates policy proposedLocalMagic configuration options
    some (disposition :: dispositions, configuration)

/-- `evaluate_peer_request`. -/
def evaluatePeerRequest (packet : Packet) (policy : SfcPolicy) (proposedLocalMagic : Option UInt32) :
    Option (Except OptionParseError PeerEvaluation) := do
  match ← collectOptions packet.data with
  | .error error => some (.error error)
  | .ok options =>
    let (dispositions, configuration) ←
      evaluateOptions (duplicateTypeMap options) policy proposedLocalMagic {} options
    if dispositions.any isReject then
      some (.ok {
        code := .configureReject
        data := ((options.zip dispositions).filter fun entry => isReject entry.2).flatMap fun entry =>
          entry.1.encoded
        configuration := none })
    else if dispositions.any fun disposition => (replacement disposition).isSome then
      some (.ok {
        code := .configureNak
        data := (dispositions.filterMap replacement).flatten
        configuration := none })
    else some (.ok { code := .configureAck, data := packet.data, configuration := some configuration })

/-- `local_magic`, which skips what cannot be read. -/
def localMagic (options : List UInt8) : Option (Option UInt32) := do
  let (options, _) ← configurationOptions options
  match options.find? fun option => knownType option = some .magicNumber ∧ option.data.length = 4 with
  | none => some none
  | some option => (magicOfArray option.data).map some

/-- What `apply_nak` writes for one option. -/
def nakReplacement (suggestions : List ConfigurationOption) (option : ConfigurationOption) : Option (List UInt8) :=
  match suggestions.find? fun suggestion => suggestion.type = option.type with
  | none => some option.encoded
  | some suggestion =>
    if knownType option = some .magicNumber ∧ option.data.length = 4 ∧ suggestion.data.length = 4 then do
      let current ← magicOfArray option.data
      let suggested ← magicOfArray suggestion.data
      some (magicOption (if suggested = 0 ∨ suggested = current then nextMagic current else suggested)).encoded
    else some suggestion.encoded

/-- `apply_nak`, with `Result::unwrap` on each local option. -/
def applyNak (localOptions : List UInt8) (suggestions : List ConfigurationOption) : Option (List UInt8) := do
  match ← configurationOptions localOptions with
  | (options, none) => (options.mapM (nakReplacement suggestions)).map List.flatten
  | (_, some _) => none

/-- `apply_reject`, which expects that the local options were validated. -/
def applyReject (localOptions : List UInt8) (rejected : List ConfigurationOption) : Option (Option (List UInt8)) := do
  if rejected = [] ∨ hasDuplicateTypes rejected then some none
  else match ← configurationOptions localOptions with
    | (options, none) =>
      if rejected.any fun option => !options.any fun own => own.encoded = option.encoded then some none
      else some (some ((options.filter fun own =>
        !rejected.any fun option => option.encoded = own.encoded).flatMap Tlv.Item.encoded))
    | (_, some _) => none

/-- The local options can be read to their end. -/
def Readable (localOptions : List UInt8) : Prop := (Tlv.items localOptions).2 = none

section Options

variable {option : ConfigurationOption} {policy : SfcPolicy} {magic : Option UInt32} {configuration : PeerConfiguration}

lemma magicOfArray_eq {data : List UInt8} (h : data.length = 4) : magicOfArray data = some (magicOf data) := if_pos h

lemma evaluateOption_eq : evaluateOption option policy magic configuration =
    some (Negotiation.evaluateOption option policy magic configuration) := by
  obtain ⟨type, data, hfits⟩ := option
  unfold evaluateOption Negotiation.evaluateOption
  cases knownType ⟨type, data, hfits⟩ with
  | none => rfl
  | some known =>
    cases known with
    | maximumReceiveUnit =>
      dsimp only
      by_cases hlength : data.length = 2
      · obtain ⟨high, low, rfl⟩ := List.length_eq_two.mp hlength
        by_cases hzero : UInt16.ofNat (BigEndian.value [high, low]) = 0 <;> simp [hzero]
      · simp [hlength]
    | asyncControlCharacterMap =>
      dsimp only
      by_cases hlength : data.length = 4
      · obtain ⟨a, b, c, d, rfl⟩ : ∃ a b c d, data = [a, b, c, d] := by
          match data, hlength with
          | [a, b, c, d], _ => exact ⟨a, b, c, d, rfl⟩
        simp
      · simp [hlength]
    | magicNumber =>
      dsimp only
      by_cases hlength : data.length = 4
      · obtain ⟨a, b, c, d, rfl⟩ : ∃ a b c d, data = [a, b, c, d] := by
          match data, hlength with
          | [a, b, c, d], _ => exact ⟨a, b, c, d, rfl⟩
        simp only [index_zero_cons, index_succ_cons, Option.bind_eq_bind, Option.bind_some, hlength, if_true]
        split_ifs <;> rfl
      · simp [hlength]
    | authenticationProtocol | qualityProtocol | protocolFieldCompression | addressControlFieldCompression => rfl

lemma evaluateOptions_eq (duplicates : UInt8 → Bool) (options : List ConfigurationOption) :
    evaluateOptions duplicates policy magic configuration options =
      some (Negotiation.evaluateOptions duplicates policy magic configuration options) := by
  induction options generalizing configuration with
  | nil => rfl
  | cons option options ih =>
    unfold evaluateOptions Negotiation.evaluateOptions
    split_ifs
    · simp [ih]
    · simp [ih, evaluateOption_eq]

@[simp] lemma evaluatePeerRequest_eq (packet : Packet) (policy : SfcPolicy) (magic : Option UInt32) :
    evaluatePeerRequest packet policy magic = some (Negotiation.evaluatePeerRequest packet policy magic) := by
  unfold evaluatePeerRequest Negotiation.evaluatePeerRequest
  rw [collectOptions_eq]
  cases ControlPacket.collectOptions optionParseError packet.data with
  | error error => rfl
  | ok options =>
    simp only [Option.bind_eq_bind, Option.bind_some, evaluateOptions_eq]
    split_ifs <;> rfl

@[simp] lemma localMagic_eq (options : List UInt8) : localMagic options = some (Negotiation.localMagic options) := by
  unfold localMagic Negotiation.localMagic
  rw [configurationOptions_eq]
  simp only [Option.bind_eq_bind, Option.bind_some]
  cases hfind : (Tlv.items options).1.find? fun option =>
      knownType option = some .magicNumber ∧ option.data.length = 4 with
  | none => rfl
  | some option =>
    have hlength : option.data.length = 4 := by
      have hfound := List.find?_some hfind
      simp only [decide_eq_true_eq] at hfound
      exact hfound.2
    simp [magicOfArray_eq hlength]

lemma nakReplacement_eq (suggestions : List ConfigurationOption) (option : ConfigurationOption) :
    nakReplacement suggestions option = some (Negotiation.nakReplacement suggestions option).encoded := by
  unfold nakReplacement Negotiation.nakReplacement
  cases suggestions.find? fun suggestion => suggestion.type = option.type with
  | none => rfl
  | some suggestion =>
    by_cases hmagic : knownType option = some .magicNumber ∧ option.data.length = 4 ∧ suggestion.data.length = 4
    · simp [hmagic, magicOfArray_eq hmagic.2.1, magicOfArray_eq hmagic.2.2]
    · simp only [if_neg hmagic]

/-- **Readable local options** are updated without a panic. -/
lemma applyNak_eq {localOptions : List UInt8} (hread : Readable localOptions) (suggestions : List ConfigurationOption) :
    applyNak localOptions suggestions = some (Negotiation.applyNak localOptions suggestions) := by
  have hmap (options : List ConfigurationOption) : options.mapM (nakReplacement suggestions) =
      some (options.map fun option => (Negotiation.nakReplacement suggestions option).encoded) := by
    induction options with
    | nil => rfl
    | cons option options ih => simp [nakReplacement_eq, ih]
  unfold applyNak Negotiation.applyNak
  rw [configurationOptions_eq]
  rcases hitems : Tlv.items localOptions with ⟨options, fault⟩
  obtain rfl : fault = none := by
    rw [Readable, hitems] at hread
    exact hread
  simp [hmap, List.flatMap_def]

lemma applyReject_eq {localOptions : List UInt8} (hread : Readable localOptions) (rejected : List ConfigurationOption) :
    applyReject localOptions rejected = some (Negotiation.applyReject localOptions rejected) := by
  unfold applyReject Negotiation.applyReject
  rw [configurationOptions_eq]
  rcases hitems : Tlv.items localOptions with ⟨options, fault⟩
  obtain rfl : fault = none := by
    rw [Readable, hitems] at hread
    exact hread
  simp only [Option.bind_eq_bind, Option.bind_some]
  split_ifs <;> rfl

end Options

/-! ### The machine -/

namespace Machine

variable (m : Machine)

def encodeRequest : Option (Except MachineError (List UInt8)) := encode .configureRequest m.requestIdentifier m.localOptions

def encodeTerminateRequest : Option (Except MachineError (List UInt8)) := encode .terminateRequest m.terminateIdentifier []

def sendNewRequest (nowMs : ℕ) (resetCounter : Bool) : Option (Machine × Except MachineError (List UInt8)) := do
  let m := m.allocateIdentifier
  let m := { m with
    acknowledgedLocalMagic := none
    requestIdentifier := m.nextIdentifier
    restartRemaining := (if resetCounter then m.settings.maxConfigure else m.restartRemaining) - 1
    restartDeadlineMs := some (saturatingAdd nowMs m.settings.restartIntervalMs) }
  let packet ← encodeRequest m
  some (m, packet)

/-- `open`. -/
def doOpen (nowMs : ℕ) : Option Outcome :=
  if m.state = .opened ∨ m.state = .closing then some (m, .ok {})
  else do
    let (m, packet) ← sendNewRequest { m with
      state := .requestSent
      peerConfiguration := none
      acknowledgedLocalMagic := none } nowMs true
    some (m, sending [] packet)

/-- `close`. -/
def doClose (nowMs : ℕ) : Option Outcome :=
  if m.state = .closing then some (m, .ok {})
  else if m.state = .closed ∨ m.state = .stopped then
    some ({ m with
        state := .closed
        restartDeadlineMs := none
        restartRemaining := 0
        peerConfiguration := none
        acknowledgedLocalMagic := none }, .ok {})
  else do
    let down := if m.state = .opened then [Action.thisLayerDown] else []
    let m := m.allocateIdentifier
    let m := { m with
      state := .closing
      peerConfiguration := none
      acknowledgedLocalMagic := none
      terminateIdentifier := m.nextIdentifier
      restartRemaining := m.settings.maxTerminate - 1
      restartDeadlineMs := some (saturatingAdd nowMs m.settings.restartIntervalMs) }
    let packet ← encodeTerminateRequest m
    some (m, sending down packet)

def rejectProtocol (protocol : UInt16) (information : List UInt8) : Option Outcome :=
  if m.state ≠ .opened then some (m, .ok { ignored := some .notConfiguring })
  else do
    let informationLength := min information.length (peerMru m 6 - 6)
    let kept ← slice information 0 informationLength
    let rejected := BigEndian.octets 2 protocol.toNat ++ kept
    let m := m.allocateIdentifier
    let packet ← encode .protocolReject m.nextIdentifier rejected
    some (m, sending [] packet)

def pollTimeout (nowMs : ℕ) : Option Outcome :=
  match m.restartDeadlineMs with
  | none => some (m, .ok {})
  | some deadline =>
    let next := some (saturatingAdd nowMs m.settings.restartIntervalMs)
    if nowMs < deadline then some (m, .ok {})
    else if m.state = .closing then
      if m.restartRemaining = 0 then
        some ({ m with state := .closed, restartDeadlineMs := none, peerConfiguration := none },
          .ok { actions := [.thisLayerFinished] })
      else do
        let remaining ← subtract m.restartRemaining 1
        let m := { m with restartRemaining := remaining, restartDeadlineMs := next }
        let packet ← encodeTerminateRequest m
        some (m, sending [] packet)
    else if m.state ≠ .requestSent ∧ m.state ≠ .ackReceived ∧ m.state ≠ .ackSent then
      some ({ m with restartDeadlineMs := none }, .ok {})
    else if m.restartRemaining = 0 then
      some ({ m with state := .stopped, restartDeadlineMs := none }, .ok { actions := [.thisLayerFinished] })
    else do
      let remaining ← subtract m.restartRemaining 1
      let m := { m with
        restartRemaining := remaining
        state := if m.state = .ackReceived then .requestSent else m.state
        restartDeadlineMs := next }
      let packet ← encodeRequest m
      some (m, sending [] packet)

def receiveEchoRequest (packet : Packet) : Option Outcome :=
  if m.state ≠ .opened then some (m, .ok { ignored := some .notConfiguring })
  else if packet.data.length < 4 then some (m, .ok { ignored := some .malformedEchoRequest })
  else do
    let front ← slice packet.data 0 4
    let actual ← magicOfArray front
    let expected := (m.peerConfiguration.getD {}).magicNumber.getD 0
    if actual ≠ expected then some (m, .ok { ignored := some (.unexpectedMagicNumber expected actual) })
    else do
      let behind ← slice packet.data 4 packet.data.length
      let room ← subtract (peerMru m 8) 8
      let echoDataLength := min behind.length room
      let echoed ← slice packet.data 4 (4 + echoDataLength)
      let reply ← encode .echoReply packet.identifier (magicOctets (m.acknowledgedLocalMagic.getD 0) ++ echoed)
      some (m, sending [] reply)

def receiveTerminateRequest (packet : Packet) : Option Outcome :=
  if m.state = .closing then do
    let reply ← encode .terminateAck packet.identifier []
    some (m, sending [] reply)
  else do
    let down := if m.state = .opened then [Action.thisLayerDown] else []
    let m := { m with
      state := .stopped
      restartDeadlineMs := none
      restartRemaining := 0
      peerConfiguration := none
      acknowledgedLocalMagic := none }
    let reply ← encode .terminateAck packet.identifier []
    some (m, reply.map fun packet => { actions := .sendPacket packet :: down })

def receiveUnknownCode (input : List UInt8) (packet : Packet) : Option Outcome := do
  let rejectedLength := min (headerLength + packet.data.length) input.length
  let rejected ← slice input 0 (min rejectedLength (peerMru m 8 - headerLength))
  let m := m.allocateIdentifier
  let reply ← encode .codeReject m.nextIdentifier rejected
  some (m, sending [] reply)

def receiveConfigureRequest (packet : Packet) (nowMs : ℕ) (policy : SfcPolicy) : Option Outcome := do
  let magic ← localMagic m.localOptions
  match ← evaluatePeerRequest packet policy magic with
  | .error error => some (m, .ok { ignored := some (.malformedOptions error) })
  | .ok evaluation =>
    match ← encode evaluation.code packet.identifier evaluation.data with
    | .error error => some (m, .error error)
    | .ok response =>
      let acceptable : Bool := evaluation.code = .configureAck
      let m := if acceptable then { m with peerConfiguration := evaluation.configuration } else m
      match m.state with
      | .requestSent | .ackSent =>
        some ({ m with state := if acceptable then .ackSent else .requestSent },
          .ok { actions := [.sendPacket response] })
      | .ackReceived =>
        if acceptable then do
          -- "Configure-Ack has an accepted configuration".
          let configuration ← evaluation.configuration
          some ({ m with state := .opened, restartDeadlineMs := none },
            .ok { actions := [.sendPacket response, .thisLayerUp configuration] })
        else some (m, .ok { actions := [.sendPacket response] })
      | .opened =>
        match ← sendNewRequest m nowMs true with
        | (m, .error error) => some (m, .error error)
        | (m, .ok request) =>
          some ({ m with state := if acceptable then .ackSent else .requestSent },
            .ok { actions := [.thisLayerDown, .sendPacket request, .sendPacket response] })
      -- "checked before parsing".
      | .closing | .closed | .stopped => none

def afterNegativeResponse (nowMs : ℕ) : Option Outcome :=
  match m.state with
  | .closing | .closed | .stopped => none
  | _ => do
    let resetCounter : Bool := m.state = .requestSent ∨ m.state = .ackSent
    let down := if m.state = .opened then [Action.thisLayerDown] else []
    let next : State := if m.state = .ackSent then .ackSent else .requestSent
    let (m, packet) ← sendNewRequest { m with state := next } nowMs resetCounter
    some (m, sending down packet)

def receiveConfigureAck (packet : Packet) (nowMs : ℕ) : Option Outcome :=
  if !exactlyAcknowledges packet m.requestIdentifier m.localOptions then some (m, .ok invalidResponse)
  else do
    let magic ← localMagic m.localOptions
    let m := { m with acknowledgedLocalMagic := magic }
    match m.state with
    | .requestSent =>
      some ({ m with state := .ackReceived, restartRemaining := m.settings.maxConfigure }, .ok {})
    | .ackSent =>
      some ({ m with state := .opened, restartRemaining := m.settings.maxConfigure, restartDeadlineMs := none },
        .ok { actions := [.thisLayerUp (m.peerConfiguration.getD {})] })
    | .ackReceived => do
      let (m, packet) ← sendNewRequest { m with state := .requestSent } nowMs false
      some (m, sending [] packet)
    | .opened => do
      let (m, packet) ← sendNewRequest { m with state := .requestSent } nowMs false
      some (m, sending [.thisLayerDown] packet)
    | .closing | .closed | .stopped => none

def receiveConfigureNak (packet : Packet) (nowMs : ℕ) : Option Outcome :=
  if packet.identifier ≠ m.requestIdentifier then some (m, .ok invalidResponse)
  else do
    match ← collectOptions packet.data with
    | .error error => some (m, .ok { ignored := some (.malformedOptions error) })
    | .ok options =>
      if hasDuplicateTypes options then some (m, .ok invalidResponse)
      else do
        let updated ← applyNak m.localOptions options
        afterNegativeResponse { m with localOptions := updated, acknowledgedLocalMagic := none } nowMs

def receiveConfigureReject (packet : Packet) (nowMs : ℕ) : Option Outcome :=
  if packet.identifier ≠ m.requestIdentifier then some (m, .ok invalidResponse)
  else do
    match ← collectOptions packet.data with
    | .error error => some (m, .ok { ignored := some (.malformedOptions error) })
    | .ok rejected =>
      match ← applyReject m.localOptions rejected with
      | none => some (m, .ok invalidResponse)
      | some updated =>
        afterNegativeResponse { m with localOptions := updated, acknowledgedLocalMagic := none } nowMs

def receive (input : List UInt8) (nowMs : ℕ) (policy : SfcPolicy) : Option Outcome :=
  if m.state = .closed ∨ m.state = .stopped then some (m, .ok { ignored := some .notConfiguring })
  else do
    match ← parse input with
    | .error error => some (m, .ok { ignored := some (.malformedPacket error) })
    | .ok packet =>
      if m.state = .closing ∧ (knownCode packet).any Negotiation.Machine.closingIgnores then
        some (m, .ok { ignored := some .notConfiguring })
      else match knownCode packet with
        | some .configureRequest => receiveConfigureRequest m packet nowMs policy
        | some .configureAck => receiveConfigureAck m packet nowMs
        | some .configureNak => receiveConfigureNak m packet nowMs
        | some .configureReject => receiveConfigureReject m packet nowMs
        | some .terminateRequest => receiveTerminateRequest m packet
        | some .terminateAck => some (m.receiveTerminateAck packet)
        | some .echoRequest => receiveEchoRequest m packet
        | some .echoReply | some .discardRequest =>
          if m.state = .opened then some (m, .ok {}) else some (m, .ok { ignored := some .notConfiguring })
        | none => receiveUnknownCode m input packet
        | some code => some (m, .ok { ignored := some (.unsupportedCode code.octet) })

end Machine

/-- A call of the machine that may panic; `lower_down` and `receive_terminate_ack` hold nothing that can. -/
def outcome (m : Machine) : Call → Option Outcome
  | .doOpen nowMs => Machine.doOpen m nowMs
  | .doClose nowMs => Machine.doClose m nowMs
  | .lowerDown => some (m.lowerDown.1, .ok m.lowerDown.2)
  | .pollTimeout nowMs => Machine.pollTimeout m nowMs
  | .receive input nowMs policy => Machine.receive m input nowMs policy
  | .rejectProtocol protocol information => Machine.rejectProtocol m protocol information

/-! ### No call panics -/

section Calls

variable {m : Machine}

@[simp] lemma encodeRequest_eq (m : Machine) : Machine.encodeRequest m = some m.encodeRequest := encode_eq _ _ _

@[simp] lemma encodeTerminateRequest_eq (m : Machine) :
    Machine.encodeTerminateRequest m = some m.encodeTerminateRequest := encode_eq _ _ _

@[simp] lemma sendNewRequest_eq (m : Machine) (nowMs : ℕ) (resetCounter : Bool) :
    Machine.sendNewRequest m nowMs resetCounter = some (m.sendNewRequest nowMs resetCounter) := by
  unfold Machine.sendNewRequest Negotiation.Machine.sendNewRequest
  simp

lemma doOpen_eq (nowMs : ℕ) : Machine.doOpen m nowMs = some (m.doOpen nowMs) := by
  unfold Machine.doOpen Negotiation.Machine.doOpen
  by_cases hstay : m.state = .opened ∨ m.state = .closing
  · simp [hstay]
  · simp [hstay]

lemma doClose_eq (nowMs : ℕ) : Machine.doClose m nowMs = some (m.doClose nowMs) := by
  unfold Machine.doClose Negotiation.Machine.doClose
  by_cases hclosing : m.state = .closing
  · simp [hclosing]
  · by_cases hclosed : m.state = .closed ∨ m.state = .stopped
    · simp [hclosing, hclosed]
    · simp [hclosing, hclosed]

lemma rejectProtocol_eq (protocol : UInt16) (information : List UInt8) :
    Machine.rejectProtocol m protocol information = some (m.rejectProtocol protocol information) := by
  unfold Machine.rejectProtocol Negotiation.Machine.rejectProtocol
  have hslice : slice information 0 (min information.length (peerMru m 6 - 6)) =
      some (information.take (peerMru m 6 - 6)) := by
    rw [slice_front (Nat.min_le_left _ _), List.take_eq_take_min]
    simp [Nat.min_comm]
  by_cases hopened : m.state = .opened
  · simp [hopened, hslice, encode_eq]
  · simp [hopened]

lemma pollTimeout_eq (nowMs : ℕ) : Machine.pollTimeout m nowMs = some (m.pollTimeout nowMs) := by
  unfold Machine.pollTimeout Negotiation.Machine.pollTimeout
  cases m.restartDeadlineMs with
  | none => rfl
  | some deadline =>
    dsimp only
    by_cases hlast : m.restartRemaining = 0
    · simp only [hlast, if_true]
      split_ifs <;> rfl
    · have hone : subtract m.restartRemaining 1 = some (m.restartRemaining - 1) := subtract_eq (by omega)
      simp only [if_neg hlast, hone, Option.bind_eq_bind, Option.bind_some, encodeRequest_eq, encodeTerminateRequest_eq]
      split_ifs <;> rfl

lemma receiveEchoRequest_eq (packet : Packet) : Machine.receiveEchoRequest m packet = some (m.receiveEchoRequest packet) := by
  unfold Machine.receiveEchoRequest Negotiation.Machine.receiveEchoRequest
  by_cases hopened : m.state ≠ .opened
  · rw [if_pos hopened, if_pos hopened]
  · by_cases hshort : packet.data.length < 4
    · rw [if_neg hopened, if_pos hshort, if_neg hopened, if_pos hshort]
    · have hfront : slice packet.data 0 4 = some (packet.data.take 4) := slice_front (by omega)
      have hmagic : magicOfArray (packet.data.take 4) = some (magicOf packet.data) := by
        rw [magicOfArray_eq (by rw [List.length_take]; omega), magicOf, magicOf, List.take_take]
        rfl
      have hbehind : slice packet.data 4 packet.data.length = some (packet.data.drop 4) := slice_back (by omega)
      have hroom : subtract (peerMru m 8) 8 = some (peerMru m 8 - 8) := subtract_eq (Nat.le_max_right _ _)
      have hechoed : slice packet.data 4 (4 + min (packet.data.drop 4).length (peerMru m 8 - 8)) =
          some ((packet.data.drop 4).take (peerMru m 8 - 8)) := by
        have hfits : 4 + min (packet.data.drop 4).length (peerMru m 8 - 8) ≤ packet.data.length := by
          rw [List.length_drop]
          omega
        rw [slice_length hfits, Nat.min_comm, ← List.take_eq_take_min]
      rw [if_neg hopened, if_neg hshort, if_neg hopened, if_neg hshort, hfront]
      simp only [Option.bind_eq_bind, Option.bind_some, hmagic, hbehind, hroom, hechoed, encode_eq]
      split_ifs <;> rfl

lemma receiveTerminateRequest_eq (packet : Packet) :
    Machine.receiveTerminateRequest m packet = some (m.receiveTerminateRequest packet) := by
  unfold Machine.receiveTerminateRequest Negotiation.Machine.receiveTerminateRequest
  by_cases hclosing : m.state = .closing
  · simp [hclosing, encode_eq]
  · simp [hclosing, encode_eq]

lemma receiveUnknownCode_eq (input : List UInt8) (packet : Packet) :
    Machine.receiveUnknownCode m input packet = some (m.receiveUnknownCode input packet) := by
  unfold Machine.receiveUnknownCode Negotiation.Machine.receiveUnknownCode
  dsimp only
  rw [slice_front ((Nat.min_le_left _ _).trans (Nat.min_le_right _ _))]
  simp [encode_eq]

/-- The machine exchanges Configure packets. -/
lemma receiveConfigureRequest_eq (hconfiguring : LocalOptions.Configuring m) (packet : Packet) (nowMs : ℕ)
    (policy : SfcPolicy) : Machine.receiveConfigureRequest m packet nowMs policy =
      some (m.receiveConfigureRequest packet nowMs policy) := by
  unfold Machine.receiveConfigureRequest Negotiation.Machine.receiveConfigureRequest
  simp only [localMagic_eq, evaluatePeerRequest_eq, Option.bind_eq_bind, Option.bind_some]
  cases hevaluation : Negotiation.evaluatePeerRequest packet policy (Negotiation.localMagic m.localOptions) with
  | error error => rfl
  | ok evaluation =>
    simp only [encode_eq, Option.bind_some]
    cases Negotiation.encode evaluation.code packet.identifier evaluation.data with
    | error error => rfl
    | ok response =>
      obtain ⟨hclosed, hstopped, hclosing⟩ := hconfiguring
      by_cases hack : evaluation.code = .configureAck
      · have hconfiguration := (PeerRequest.evaluatePeerRequest_ack hevaluation hack).2
        simp only [hack, decide_true, if_true, hconfiguration]
        cases hstate : m.state with
        | closed => exact absurd hstate hclosed
        | stopped => exact absurd hstate hstopped
        | closing => exact absurd hstate hclosing
        | requestSent | ackReceived | ackSent => rfl
        | opened =>
          simp only [sendNewRequest_eq, Option.bind_some]
          generalize Negotiation.Machine.sendNewRequest _ nowMs true = sent
          obtain ⟨after, error | request⟩ := sent <;> rfl
      · simp only [hack, decide_false, Bool.false_eq_true, if_false]
        cases hstate : m.state with
        | closed => exact absurd hstate hclosed
        | stopped => exact absurd hstate hstopped
        | closing => exact absurd hstate hclosing
        | requestSent | ackReceived | ackSent => rfl
        | opened =>
          simp only [sendNewRequest_eq, Option.bind_some]
          generalize Negotiation.Machine.sendNewRequest _ nowMs true = sent
          obtain ⟨after, error | request⟩ := sent <;> rfl

lemma afterNegativeResponse_eq (hconfiguring : LocalOptions.Configuring m) (nowMs : ℕ) :
    Machine.afterNegativeResponse m nowMs = some (m.afterNegativeResponse nowMs) := by
  obtain ⟨hclosed, hstopped, hclosing⟩ := hconfiguring
  unfold Machine.afterNegativeResponse Negotiation.Machine.afterNegativeResponse
  cases hstate : m.state with
  | closed => exact absurd hstate hclosed
  | stopped => exact absurd hstate hstopped
  | closing => exact absurd hstate hclosing
  | requestSent | ackReceived | ackSent | opened => simp

lemma receiveConfigureAck_eq (hconfiguring : LocalOptions.Configuring m) (packet : Packet) (nowMs : ℕ) :
    Machine.receiveConfigureAck m packet nowMs = some (m.receiveConfigureAck packet nowMs) := by
  obtain ⟨hclosed, hstopped, hclosing⟩ := hconfiguring
  unfold Machine.receiveConfigureAck Negotiation.Machine.receiveConfigureAck
  split_ifs
  · rfl
  · simp only [localMagic_eq, Option.bind_eq_bind, Option.bind_some]
    cases hstate : m.state with
    | closed => exact absurd hstate hclosed
    | stopped => exact absurd hstate hstopped
    | closing => exact absurd hstate hclosing
    | requestSent | ackReceived | ackSent | opened => simp

lemma receiveConfigureNak_eq (hconfiguring : LocalOptions.Configuring m) (hread : Readable m.localOptions)
    (packet : Packet) (nowMs : ℕ) : Machine.receiveConfigureNak m packet nowMs = some (m.receiveConfigureNak packet nowMs) := by
  unfold Machine.receiveConfigureNak Negotiation.Machine.receiveConfigureNak
  by_cases hidentifier : packet.identifier ≠ m.requestIdentifier
  · rw [if_pos hidentifier, if_pos hidentifier]
  · rw [if_neg hidentifier, if_neg hidentifier]
    simp only [collectOptions_eq, Option.bind_eq_bind, Option.bind_some]
    cases ControlPacket.collectOptions optionParseError packet.data with
    | error error => rfl
    | ok options =>
      dsimp only
      by_cases hduplicates : hasDuplicateTypes options = true
      · rw [if_pos hduplicates, if_pos hduplicates]
      · rw [if_neg hduplicates, if_neg hduplicates, applyNak_eq hread, Option.bind_some]
        refine afterNegativeResponse_eq ?_ nowMs
        exact hconfiguring

lemma receiveConfigureReject_eq (hconfiguring : LocalOptions.Configuring m) (hread : Readable m.localOptions)
    (packet : Packet) (nowMs : ℕ) :
    Machine.receiveConfigureReject m packet nowMs = some (m.receiveConfigureReject packet nowMs) := by
  unfold Machine.receiveConfigureReject Negotiation.Machine.receiveConfigureReject
  by_cases hidentifier : packet.identifier ≠ m.requestIdentifier
  · rw [if_pos hidentifier, if_pos hidentifier]
  · rw [if_neg hidentifier, if_neg hidentifier]
    simp only [collectOptions_eq, Option.bind_eq_bind, Option.bind_some]
    cases ControlPacket.collectOptions optionParseError packet.data with
    | error error => rfl
    | ok rejected =>
      dsimp only
      rw [applyReject_eq hread, Option.bind_some]
      cases Negotiation.applyReject m.localOptions rejected with
      | none => rfl
      | some updated =>
        refine afterNegativeResponse_eq ?_ nowMs
        exact hconfiguring

lemma receive_eq (hread : Readable m.localOptions) (input : List UInt8) (nowMs : ℕ) (policy : SfcPolicy) :
    Machine.receive m input nowMs policy = some (m.receive input nowMs policy) := by
  unfold Machine.receive Negotiation.Machine.receive
  by_cases hrests : m.state = .closed ∨ m.state = .stopped
  · rw [if_pos hrests, if_pos hrests]
  · rw [if_neg hrests, if_neg hrests, parse_eq]
    simp only [Option.bind_eq_bind, Option.bind_some]
    cases Packet.parse input with
    | error error => rfl
    | ok packet =>
      dsimp only
      by_cases hignored : m.state = .closing ∧ (knownCode packet).any Negotiation.Machine.closingIgnores
      · rw [if_pos hignored, if_pos hignored]
      · rw [if_neg hignored, if_neg hignored]
        -- The closing machine has ignored the codes of the Configure exchange.
        have hconfiguring (code : Code) (hcode : knownCode packet = some code)
            (hignores : Negotiation.Machine.closingIgnores code = true) : LocalOptions.Configuring m :=
          ⟨fun h => hrests (Or.inl h), fun h => hrests (Or.inr h), fun h => hignored ⟨h, by rw [hcode]; exact hignores⟩⟩
        cases hcode : knownCode packet with
        | none => exact receiveUnknownCode_eq input packet
        | some code =>
          cases code with
          | configureRequest => exact receiveConfigureRequest_eq (hconfiguring _ hcode rfl) packet nowMs policy
          | configureAck => exact receiveConfigureAck_eq (hconfiguring _ hcode rfl) packet nowMs
          | configureNak => exact receiveConfigureNak_eq (hconfiguring _ hcode rfl) hread packet nowMs
          | configureReject => exact receiveConfigureReject_eq (hconfiguring _ hcode rfl) hread packet nowMs
          | terminateRequest => exact receiveTerminateRequest_eq packet
          | terminateAck => rfl
          | echoRequest => exact receiveEchoRequest_eq packet
          | echoReply | discardRequest =>
            dsimp only
            split_ifs <;> rfl
          | codeReject | protocolReject => rfl

/-- **No call of a machine with readable local options panics**, and each does what the machine without panics does. -/
theorem outcome_eq (hread : Readable m.localOptions) (call : Call) : outcome m call = some (call.outcome m) := by
  cases call with
  | doOpen nowMs => exact doOpen_eq nowMs
  | doClose nowMs => exact doClose_eq nowMs
  | lowerDown => rfl
  | pollTimeout nowMs => exact pollTimeout_eq nowMs
  | receive input nowMs policy => exact receive_eq hread input nowMs policy
  | rejectProtocol protocol information => exact rejectProtocol_eq protocol information

end Calls

end SnesModem.Rust.LcpPanics
