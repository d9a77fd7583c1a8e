import SnesModem.Rust.IpcpRun

/-!
# The peer address that an opened client reports

A run of the client with the peer's Configure-Request that it has acknowledged last.

* `reportedPeer`: the address that an acknowledged request gives the peer;
* `Forgotten`: the requests without options that come while another address is held;
* `reports_acknowledged`: without them, each This-Layer-Up reports the address of the last acknowledged request.
-/

namespace SnesModem.Rust.IpcpPeer

open SnesModem.Lib SnesModem.Rust.ControlPacket SnesModem.Rust.Ipcp SnesModem.Rust.Ipcp.Client
open SnesModem.Rust.IpcpIgnored SnesModem.Rust.IpcpRun

/-! ### Acknowledged requests -/

/-- The octets as a Configure-Ack, if they are one. -/
def ackOf (octets : List UInt8) : Option Packet :=
  (Packet.parse octets).toOption.filter fun packet => knownCode packet = some .configureAck

/-- The Configure-Acks that actions send. -/
def sentAcks (actions : List Action) : List Packet :=
  actions.filterMap fun
    | .sendPacket octets => ackOf octets
    | _ => none

/-- The peer address that stands for a request with the given options: the one that it carries, or the preferred
one. -/
def reportedPeer (settings : Settings) (data : List UInt8) : Ipv4Address :=
  (carried data .ipAddress).getD settings.preferredPeerAddress

/-- The call brings a Configure-Request without options to a client that holds another peer address than the
preferred one. -/
def Forgotten (c : Client) (call : Call) : Prop :=
  c.state ≠ .closed ∧ c.state ≠ .stopped ∧ c.peerAddress ≠ c.settings.preferredPeerAddress ∧
    ∃ packet, received call = some packet ∧ knownCode packet = some .configureRequest ∧ packet.data = []

/-- The client has acknowledged the peer's request. -/
def Accepted (c : Client) : Prop := c.state = .ackSent ∨ c.state = .opened

section Evaluation

variable {packet : Packet} {preferred : Ipv4Address} {evaluation : PeerEvaluation}

lemma ackOf_encode {code : Code} {identifier : UInt8} {data octets : List UInt8}
    (h : encode code identifier data = .ok octets) :
    ackOf octets = if code = .configureAck then some ⟨code.octet, identifier, data⟩ else none := by
  unfold encode at h
  have hparse := parsePacket_encodePacket parseErrors _ h []
  rw [List.append_nil] at hparse
  unfold ackOf
  rw [show Packet.parse octets = _ from hparse]
  cases code <;> rfl

/-- An acceptable option names the peer's address. -/
lemma evaluateOption_ack {option : ConfigurationOption} (h : (evaluateOption preferred option).1 = .ack) :
    knownType option = some .ipAddress ∧ (evaluateOption preferred option).2 = addressOfData option.data ∧
      (addressOfData option.data).isSome = true := by
  unfold evaluateOption at h ⊢
  dsimp only at h ⊢
  split at h
  · rename_i htype
    split at h
    · rename_i address haddress
      split_ifs at h with hnak hreject
      rw [htype, haddress, if_neg hnak, if_neg hreject]
      exact ⟨rfl, rfl, rfl⟩
    · split_ifs at h
  · cases h

/-- A request whose options are all acceptable has one option at most. -/
lemma length_le_one_of_ack {options : List ConfigurationOption}
    (hsingle : ∀ option ∈ options, duplicateTypeMap options option.type = false)
    (htype : ∀ option ∈ options, knownType option = some .ipAddress) : options.length ≤ 1 := by
  match options with
  | [] => simp
  | [_] => simp
  | first :: second :: options =>
    exfalso
    have hfirst := htype first (by simp)
    have hsecond := htype second (by simp)
    have hthree (option : ConfigurationOption) (h : knownType option = some .ipAddress) : option.type = 3 := by
      unfold knownType OptionType.fromOctet at h
      split at h <;> simp_all [← UInt8.toNat_inj]
    have hone := hsingle first (by simp)
    rw [duplicateTypeMap_eq, decide_eq_false_iff_not, hthree first hfirst, List.map_cons, List.map_cons,
      hthree first hfirst, hthree second hsecond, List.count_cons_self, List.count_cons_self] at hone
    omega

/-- **An acknowledged request** is acknowledged verbatim, and evaluated to the address that it carries, if it has
options. -/
theorem evaluatePeerRequest_ack (h : evaluatePeerRequest packet preferred = .ok evaluation)
    (hack : evaluation.code = .configureAck) :
    evaluation.data = packet.data ∧ evaluation.peerAddress = carried packet.data .ipAddress ∧
      (packet.data ≠ [] → evaluation.peerAddress.isSome = true) := by
  unfold evaluatePeerRequest at h
  cases hoptions : collectOptions optionParseError packet.data with
  | error error =>
    rw [hoptions] at h
    cases h
  | ok options =>
  rw [hoptions] at h
  dsimp only at h
  split_ifs at h with hreject hnak
  · cases h
    cases hack
  · cases h
    cases hack
  · cases h
    have hflat := flatMap_of_collectOptions _ hoptions
    have hacked (option : ConfigurationOption) (hmem : option ∈ options) :
        duplicateTypeMap options option.type = false ∧ (evaluateOption preferred option).1 = .ack := by
      rw [List.any_map, Bool.not_eq_true, List.any_eq_false] at hnak
      have hthis := hnak option hmem
      simp only [Function.comp_apply, decide_not, Bool.not_eq_true', decide_eq_false_iff_not, not_not] at hthis
      cases hdup : duplicateTypeMap options option.type with
      | true =>
        rw [hdup, if_pos rfl] at hthis
        cases hthis
      | false =>
        rw [hdup] at hthis
        exact ⟨rfl, hthis⟩
    have hlength := length_le_one_of_ack (fun option hmem => (hacked option hmem).1) fun option hmem =>
      (evaluateOption_ack (hacked option hmem).2).1
    refine ⟨rfl, ?_⟩
    unfold carried
    rw [← hflat, Tlv.items_flatMap]
    match options, hlength with
    | [], _ => exact ⟨rfl, fun hne => absurd rfl hne⟩
    | [option], _ =>
      obtain ⟨hdup, hoption⟩ := hacked option (by simp)
      obtain ⟨htype, haddress, hsome⟩ := evaluateOption_ack hoption
      simp [hdup, htype, haddress, hsome]

end Evaluation

/-! ### One call -/

/-- What a call does to the peer's address. -/
structure PeerStep (c c' : Client) (actions : List Action) : Prop where
  settings : c'.settings = c.settings
  /-- A request is acknowledged, or the address of the last one is kept. -/
  address : (∃ ack, sentAcks actions = [ack] ∧ c'.peerAddress = reportedPeer c.settings ack.data) ∨
    sentAcks actions = [] ∧ (Accepted c' → Accepted c ∧ c'.peerAddress = c.peerAddress)
  up : ∀ addresses, Action.thisLayerUp addresses ∈ actions → addresses = c'.addresses ∧ Accepted c'

section Rules

variable {c c' : Client} {actions : List Action}

/-- A call that keeps the state and the address. -/
lemma PeerStep.keep (hsettings : c'.settings = c.settings) (hpeer : c'.peerAddress = c.peerAddress)
    (haccepted : Accepted c' → Accepted c) (hsent : sentAcks actions = [])
    (hup : ∀ addresses, Action.thisLayerUp addresses ∉ actions) : PeerStep c c' actions :=
  ⟨hsettings, Or.inr ⟨hsent, fun h => ⟨haccepted h, hpeer⟩⟩, fun addresses h => absurd h (hup addresses)⟩

lemma PeerStep.ignore (reason : Option IgnoreReason) : PeerStep c c (emitted (.ok { ignored := reason })) :=
  .keep rfl rfl id rfl fun _ h => by cases h

/-- A call after which no request of the peer is accepted. -/
lemma PeerStep.drop (hsettings : c'.settings = c.settings) (hstate : ¬ Accepted c') (hsent : sentAcks actions = [])
    (hup : ∀ addresses, Action.thisLayerUp addresses ∉ actions) : PeerStep c c' actions :=
  ⟨hsettings, Or.inr ⟨hsent, fun h => absurd h hstate⟩, fun addresses h => absurd h (hup addresses)⟩

lemma ackOf_encodeRequest {octets : List UInt8} (h : c.encodeRequest = .ok octets) : ackOf octets = none :=
  (ackOf_encode h).trans (if_neg (by simp))

/-- A call that sends the client's own request, behind actions that send nothing. -/
lemma PeerStep.send {before : List Action} (hsent : sentAcks before = [])
    (hup : ∀ addresses, Action.thisLayerUp addresses ∉ before) (hsettings : c'.settings = c.settings)
    (hpeer : Accepted c' → Accepted c ∧ c'.peerAddress = c.peerAddress) :
    PeerStep c c' (emitted (c'.encodeRequest.map fun packet => { actions := before ++ [.sendPacket packet] })) := by
  obtain ⟨octets, hencode, -⟩ := encodeRequest_ok c'
  rw [hencode]
  refine ⟨hsettings, Or.inr ⟨?_, hpeer⟩, fun addresses h => ?_⟩
  · change (before ++ [Action.sendPacket octets]).filterMap _ = _
    rw [List.filterMap_append]
    change sentAcks before ++ _ = _
    rw [hsent]
    simp [ackOf_encodeRequest hencode]
  · rcases List.mem_append.mp h with h | h
    · exact absurd h (hup addresses)
    · cases List.mem_singleton.mp h

lemma PeerStep.sendAlone (hsettings : c'.settings = c.settings)
    (hpeer : Accepted c' → Accepted c ∧ c'.peerAddress = c.peerAddress) :
    PeerStep c c' (emitted (c'.encodeRequest.map fun packet => { actions := [.sendPacket packet] })) := by
  have hsend : PeerStep c c' (emitted (c'.encodeRequest.map fun packet => { actions := [] ++ [.sendPacket packet] })) :=
    .send rfl (fun _ h => List.not_mem_nil h) hsettings hpeer
  exact hsend

end Rules

section Calls

variable {c : Client}

lemma doOpen_step (nowMs : ℕ) : PeerStep c (c.doOpen nowMs).1 (emitted (c.doOpen nowMs).2) := by
  unfold doOpen
  split_ifs
  · exact .ignore none
  · apply PeerStep.sendAlone
    · rfl
    · simp [sendNewRequest, Accepted]

lemma lowerDown_step : PeerStep c c.lowerDown.1 c.lowerDown.2.actions := by
  apply PeerStep.drop
  · rfl
  · simp [lowerDown, Accepted]
  · rcases lowerDown_actions c with hnone | hdown
    · rw [hnone]
      rfl
    · rw [hdown]
      rfl
  · intro addresses
    exact not_mem_lowerDown_up

lemma pollTimeout_step (nowMs : ℕ) : PeerStep c (c.pollTimeout nowMs).1 (emitted (c.pollTimeout nowMs).2) := by
  unfold pollTimeout
  split
  · exact .ignore none
  dsimp only
  split_ifs with hearly hother hexhausted hreceived
  · exact .ignore none
  · exact .keep rfl rfl id rfl fun _ h => by cases h
  · refine .drop rfl (by simp [Accepted]) rfl fun addresses h => ?_
    cases List.mem_singleton.mp h
  · exact .sendAlone rfl (by simp [Accepted])
  · exact .sendAlone rfl fun h => ⟨h, rfl⟩

/-- The client's own request, and then the response to the peer's. -/
lemma renegotiate_step (c next : Client) {evaluation : PeerEvaluation} {identifier : UInt8} {response : List UInt8}
    (hsettings : next.settings = c.settings) (hencode : encode evaluation.code identifier evaluation.data = .ok response)
    (hpeer : evaluation.code = .configureAck → next.peerAddress = reportedPeer c.settings evaluation.data) (nowMs : ℕ) :
    let outcome : Outcome := match next.sendNewRequest nowMs true with
      | (c, .error error) => (c, .error error)
      | (c, .ok request) =>
        ({ c with state := if decide (evaluation.code = .configureAck) then .ackSent else .requestSent },
          .ok { actions := [.thisLayerDown, .sendPacket request, .sendPacket response] })
    PeerStep c outcome.1 (emitted outcome.2) := by
  obtain ⟨request, hrequest, -⟩ := encodeRequest_ok (next.sendNewRequest nowMs true).1
  have hsend : next.sendNewRequest nowMs true = ((next.sendNewRequest nowMs true).1, .ok request) :=
    Prod.ext rfl hrequest
  rw [hsend]
  have hsent : sentAcks [.thisLayerDown, .sendPacket request, .sendPacket response] = (ackOf response).toList := by
    simp only [sentAcks, List.filterMap_cons, ackOf_encodeRequest hrequest, List.filterMap_nil]
    cases ackOf response <;> rfl
  refine ⟨hsettings, ?_, fun addresses h => by simp [emitted] at h⟩
  change (∃ ack, sentAcks [.thisLayerDown, .sendPacket request, .sendPacket response] = [ack] ∧ _) ∨
    sentAcks [.thisLayerDown, .sendPacket request, .sendPacket response] = [] ∧ _
  rw [hsent, ackOf_encode hencode]
  by_cases hack : evaluation.code = .configureAck
  · rw [if_pos hack]
    exact Or.inl ⟨_, rfl, hpeer hack⟩
  · rw [if_neg hack]
    exact Or.inr ⟨rfl, by simp [Accepted, hack]⟩

lemma receiveConfigureRequest_step (packet : Packet) (nowMs : ℕ)
    (hknown : packet.data = [] → c.peerAddress = c.settings.preferredPeerAddress) :
    PeerStep c (c.receiveConfigureRequest packet nowMs).1 (emitted (c.receiveConfigureRequest packet nowMs).2) := by
  unfold receiveConfigureRequest
  cases hevaluation : evaluatePeerRequest packet c.settings.preferredPeerAddress with
  | error error => exact .ignore _
  | ok evaluation =>
  dsimp only
  cases hencode : encode evaluation.code packet.identifier evaluation.data with
  | error error => exact .keep rfl rfl id rfl fun _ h => by cases h
  | ok response =>
  -- The address that an acknowledged request leaves is the one that it stands for.
  have hpeer (hack : evaluation.code = .configureAck) :
      evaluation.peerAddress.getD c.peerAddress = reportedPeer c.settings evaluation.data := by
    obtain ⟨hdata, hcarried, hsome⟩ := evaluatePeerRequest_ack hevaluation hack
    unfold reportedPeer
    rw [hdata, ← hcarried]
    by_cases hempty : packet.data = []
    · rw [hknown hempty]
    · obtain ⟨address, haddress⟩ := Option.isSome_iff_exists.mp (hsome hempty)
      rw [haddress]
      rfl
  have hsent : sentAcks [.sendPacket response] = (ackOf response).toList := by
    simp only [sentAcks, List.filterMap_cons, List.filterMap_nil]
    cases ackOf response <;> rfl
  have hup (addresses : AddressConfiguration) : Action.thisLayerUp addresses ∉ [Action.sendPacket response] := by simp
  dsimp only
  by_cases hack : evaluation.code = .configureAck
  · have hacked : ackOf response = some ⟨Code.configureAck.octet, packet.identifier, evaluation.data⟩ := by
      rw [ackOf_encode hencode, if_pos hack, hack]
    rw [hacked] at hsent
    split
    · exact ⟨rfl, Or.inl ⟨_, hsent, hpeer hack⟩, fun addresses h => absurd h (hup addresses)⟩
    · exact ⟨rfl, Or.inl ⟨_, hsent, hpeer hack⟩, fun addresses h => absurd h (hup addresses)⟩
    · rw [if_pos (by simp [hack])]
      refine ⟨rfl, Or.inl ⟨⟨Code.configureAck.octet, packet.identifier, evaluation.data⟩, ?_, hpeer hack⟩,
        fun addresses h => ?_⟩
      · simp [emitted, sentAcks, hacked]
      · simp only [emitted, List.mem_cons, List.not_mem_nil, or_false, reduceCtorEq, false_or] at h
        exact ⟨Action.thisLayerUp.inj h, Or.inr rfl⟩
    · exact renegotiate_step c { c with peerAddress := evaluation.peerAddress.getD c.peerAddress } rfl hencode
        hpeer nowMs
    · rename_i hstate
      exact .drop rfl (by simp [Accepted, hstate]) rfl fun _ h => by cases h
    · rename_i hstate
      exact .drop rfl (by simp [Accepted, hstate]) rfl fun _ h => by cases h
  · have hnone : ackOf response = none := by rw [ackOf_encode hencode, if_neg hack]
    rw [hnone] at hsent
    simp only [hack, decide_false, Bool.false_eq_true, if_false]
    split
    · exact .drop rfl (by simp [Accepted]) hsent hup
    · exact .drop rfl (by simp [Accepted]) hsent hup
    · rename_i hstate
      exact .drop rfl (by simp [Accepted, hstate]) hsent hup
    · have hstep := renegotiate_step c { c with peerAddress := evaluation.peerAddress.getD c.peerAddress } rfl
        hencode hpeer nowMs
      simp only [hack, decide_false, Bool.false_eq_true, if_false] at hstep
      exact hstep
    · rename_i hstate
      exact .drop rfl (by simp [Accepted, hstate]) rfl fun _ h => by cases h
    · rename_i hstate
      exact .drop rfl (by simp [Accepted, hstate]) rfl fun _ h => by cases h

lemma receiveConfigureAck_step (packet : Packet) (nowMs : ℕ) :
    PeerStep c (c.receiveConfigureAck packet nowMs).1 (emitted (c.receiveConfigureAck packet nowMs).2) := by
  unfold receiveConfigureAck
  by_cases hexact : exactlyAcknowledges packet c.requestIdentifier c.localOptions = true
  · rw [if_neg (by simp [hexact])]
    split
    · exact .drop rfl (by simp [Accepted]) rfl fun _ h => by cases h
    · rename_i hstate
      refine ⟨rfl, Or.inr ⟨rfl, fun _ => ⟨Or.inl hstate, rfl⟩⟩, fun addresses h => ?_⟩
      exact ⟨Action.thisLayerUp.inj (List.mem_singleton.mp h), Or.inr rfl⟩
    · exact .sendAlone rfl (by simp [sendNewRequest, Accepted])
    · have hdown : ∀ addresses, Action.thisLayerUp addresses ∉ [Action.thisLayerDown] := by simp
      exact PeerStep.send rfl hdown rfl (by simp [sendNewRequest, Accepted])
    · exact .keep rfl rfl id rfl fun _ h => by cases h
    · exact .keep rfl rfl id rfl fun _ h => by cases h
  · rw [if_pos (by simpa using hexact)]
    exact .ignore _

/-- The loops over the options of a negative answer keep the peer's address. -/
structure PeerKept (c c' : Client) : Prop where
  settings : c'.settings = c.settings
  state : c'.state = c.state
  peerAddress : c'.peerAddress = c.peerAddress

lemma nakLoop_kept (c : Client) (options : List ConfigurationOption) :
    PeerKept c (optionLoop nakOption c options).1 := by
  refine optionLoop_preserves (P := PeerKept c) (fun next option _ after hturn hnext => ?_) c ⟨rfl, rfl, rfl⟩
  rw [nakOption_eq] at hturn
  obtain ⟨⟨type, address⟩, -, rfl⟩ := Option.map_eq_some_iff.mp hturn
  cases type <;> exact ⟨hnext.settings, hnext.state, hnext.peerAddress⟩

lemma rejectLoop_kept (c : Client) (options : List ConfigurationOption) :
    PeerKept c (optionLoop rejectOption c options).1 := by
  refine optionLoop_preserves (P := PeerKept c) (fun next option _ after hturn hnext => ?_) c ⟨rfl, rfl, rfl⟩
  rw [rejectOption_eq] at hturn
  split_ifs at hturn
  obtain ⟨type, -, rfl⟩ := Option.map_eq_some_iff.mp hturn
  cases type <;> exact ⟨hnext.settings, hnext.state, hnext.peerAddress⟩

lemma afterNegativeResponse_step {next : Client} (hkept : PeerKept c next) (nowMs : ℕ) :
    PeerStep c (next.afterNegativeResponse nowMs).1 (emitted (next.afterNegativeResponse nowMs).2) := by
  unfold afterNegativeResponse
  apply PeerStep.send
  · split_ifs <;> rfl
  · intro addresses h
    split_ifs at h
    · cases List.mem_singleton.mp h
    · cases h
  · exact hkept.settings
  · intro haccepted
    refine ⟨Or.inl ?_, hkept.peerAddress⟩
    rw [← hkept.state]
    by_contra hstate
    simp [sendNewRequest, Accepted, hstate] at haccepted

lemma receiveNegative_step (turn : Client → ConfigurationOption → Option Client) (packet : Packet) (nowMs : ℕ)
    (hturn : ∀ options, PeerKept c (optionLoop turn c options).1) :
    PeerStep c (receiveNegative turn c packet nowMs).1 (emitted (receiveNegative turn c packet nowMs).2) := by
  unfold receiveNegative
  split_ifs
  · exact .ignore _
  split
  · exact .ignore _
  · rename_i options _
    split_ifs
    · exact .ignore _
    have hkept := hturn options
    split
    · rename_i next hloop
      rw [hloop] at hkept
      exact afterNegativeResponse_step hkept nowMs
    · rename_i next hloop
      rw [hloop] at hkept
      refine .keep hkept.settings hkept.peerAddress (fun h => ?_) rfl fun _ h => by cases h
      unfold Accepted at h ⊢
      rwa [← show next.state = c.state from hkept.state]

lemma receive_step (octets : List UInt8) (nowMs : ℕ) (hknown : ¬ Forgotten c (.receive octets nowMs)) :
    PeerStep c (c.receive octets nowMs).1 (emitted (c.receive octets nowMs).2) := by
  unfold Client.receive
  by_cases hclosed : c.state = .closed ∨ c.state = .stopped
  · rw [if_pos hclosed]
    exact .ignore _
  rw [if_neg hclosed]
  cases hparse : Packet.parse octets with
  | error error => exact .ignore _
  | ok packet =>
  dsimp only
  cases hcode : knownCode packet with
  | none => exact .ignore _
  | some code =>
    cases code with
    | configureRequest =>
      refine receiveConfigureRequest_step packet nowMs fun hempty => ?_
      by_contra hpeer
      obtain ⟨hopen, hrunning⟩ := not_or.mp hclosed
      exact hknown ⟨hopen, hrunning, hpeer, packet, by simp [received, hparse, Except.toOption], hcode, hempty⟩
    | configureAck => exact receiveConfigureAck_step packet nowMs
    | configureNak => exact receiveNegative_step nakOption packet nowMs (nakLoop_kept c)
    | configureReject => exact receiveNegative_step rejectOption packet nowMs (rejectLoop_kept c)
    | terminateRequest | terminateAck | codeReject => exact .ignore _

/-- **What a call does to the peer's address.** -/
theorem call_step (call : Call) (hknown : ¬ Forgotten c call) : PeerStep c (step c call) (actions c call) := by
  cases call with
  | doOpen nowMs => exact doOpen_step nowMs
  | lowerDown => exact lowerDown_step
  | pollTimeout nowMs => exact pollTimeout_step nowMs
  | receive octets nowMs => exact receive_step octets nowMs hknown

end Calls

/-! ### Runs -/

/-- The client of a run with the Configure-Ack that it has sent last. -/
structure History where
  client : Client
  acknowledged : Option Packet

namespace History

def start (settings : Settings) : History := ⟨Client.new settings, none⟩

/-- The history after a call. -/
def step (h : History) (call : Call) : History where
  client := IpcpRun.step h.client call
  acknowledged := (sentAcks (actions h.client call)).getLast? <|> h.acknowledged

/-- The settings are these, and an accepted request was acknowledged and gives the address that the client holds. -/
structure Held (settings : Settings) (h : History) : Prop where
  same : h.client.settings = settings
  acknowledged : Accepted h.client →
    ∃ packet, h.acknowledged = some packet ∧ h.client.peerAddress = reportedPeer settings packet.data

end History

/-- Each This-Layer-Up of the call reports the peer address that the last acknowledged request gives. -/
def ReportsAcknowledged (settings : Settings) (h : History) (call : Call) : Prop :=
  ∀ addresses, Action.thisLayerUp addresses ∈ actions h.client call →
    ∃ packet, (h.step call).acknowledged = some packet ∧ addresses.peer = reportedPeer settings packet.data

section Runs

variable {settings : Settings} {h : History} {call : Call}

/-- **The step lemma.** -/
lemma held_step (hheld : h.Held settings) (hknown : ¬ Forgotten h.client call) : (h.step call).Held settings := by
  have hstep := call_step call hknown
  refine ⟨hstep.settings.trans hheld.same, fun haccepted => ?_⟩
  rcases hstep.address with ⟨ack, hsent, haddress⟩ | ⟨hsent, hkept⟩
  · rw [hheld.same] at haddress
    exact ⟨ack, by simp [History.step, hsent], haddress⟩
  · obtain ⟨hbefore, haddress⟩ := hkept haccepted
    obtain ⟨packet, hpacket, hpeer⟩ := hheld.acknowledged hbefore
    exact ⟨packet, by simp [History.step, hsent, hpacket], haddress.trans hpeer⟩

lemma reports_step (hheld : h.Held settings) (hknown : ¬ Forgotten h.client call) :
    ReportsAcknowledged settings h call := by
  intro addresses hup
  obtain ⟨rfl, haccepted⟩ := (call_step call hknown).up addresses hup
  exact (held_step hheld hknown).acknowledged haccepted

lemma held_start (settings : Settings) : (History.start settings).Held settings where
  same := rfl
  acknowledged := fun h => by rcases h with h | h <;> cases h

end Runs

/-- **Every This-Layer-Up reports the peer address of the last acknowledged request**: the one that it carries, or
the preferred one, in every run of a new client in which no request without options comes while another address is
held. -/
theorem reports_acknowledged (settings : Settings) (calls : List Call) (call : Call)
    (hknown : Run.Along History.step (fun h call => ¬ Forgotten h.client call) (.start settings) (calls ++ [call])) :
    ReportsAcknowledged settings (Run.run History.step (.start settings) calls) call := by
  obtain ⟨hcalls, hcall, -⟩ := Run.along_append.mp hknown
  have hheld : (Run.run History.step (.start settings) calls).Held settings :=
    Run.run_invariant (fun _ _ => held_step) (held_start settings) hcalls
  exact reports_step hheld hcall

/-- The settings of the fixture. -/
def fixtureSettings : Settings := ⟨3000, 10, unspecifiedAddress, ⟨10, 24, 0, 1⟩⟩

/-- An acknowledged address is reported. -/
theorem reports_acknowledged_address : ReportsAcknowledged fixtureSettings
    (Run.run History.step (.start fixtureSettings) [.doOpen 0, .receive [1, 7, 0, 10, 3, 6, 10, 0, 0, 9] 10])
    (.receive [2, 1, 0, 22, 3, 6, 0, 0, 0, 0, 129, 6, 0, 0, 0, 0, 131, 6, 0, 0, 0, 0] 20) := by
  refine reports_acknowledged _ _ _ ⟨?_, ?_, ?_, trivial⟩
  · rintro ⟨-, -, -, packet, hreceived, -⟩
    cases hreceived
  · rintro ⟨-, -, hpeer, -⟩
    exact hpeer (by decide)
  · rintro ⟨-, -, -, packet, hreceived, hcode, -⟩
    obtain rfl : _ = packet := Option.some.inj hreceived
    exact absurd hcode (by decide)

/-- A request without options is acknowledged, and the Up reports the address of the request before it. -/
theorem empty_request_reports_earlier_address : ¬ ∀ settings calls call,
    ReportsAcknowledged settings (Run.run History.step (.start settings) calls) call := by
  intro h
  let calls : List Call := [.doOpen 0, .receive [1, 7, 0, 10, 3, 6, 10, 0, 0, 9] 10, .receive [1, 8, 0, 4] 20]
  let ack : Call := .receive [2, 1, 0, 22, 3, 6, 0, 0, 0, 0, 129, 6, 0, 0, 0, 0, 131, 6, 0, 0, 0, 0] 30
  obtain ⟨packet, hpacket, hpeer⟩ := h fixtureSettings calls ack
    ⟨unspecifiedAddress, ⟨10, 0, 0, 9⟩, unspecifiedAddress, unspecifiedAddress⟩ (by decide +kernel)
  have hlast : some packet = some ⟨2, 8, []⟩ := hpacket.symm.trans (by decide +kernel)
  rw [Option.some_inj.mp hlast] at hpeer
  exact absurd hpeer (by decide +kernel)

end SnesModem.Rust.IpcpPeer
