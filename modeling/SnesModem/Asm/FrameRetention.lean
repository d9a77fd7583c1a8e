import SnesModem.Asm.AcceptedPackets
import SnesModem.Asm.MainLoop

/-!
# The frame that a response is made of

LCP and IPCP keep a received frame until the encoder has the response that is made of it.

* `Accepts`, `Retains`, `Answers`: a poll that leaves a response pending, the frame while the response waits, and the
  poll that gives the response to the encoder;
* `Guard`: what a poll must not do with the frame of another layer;
* `frame_retained`: as long as no poll gives the frame up, it stays as it is, and the response is the one that an idle
  encoder would have been given.
-/

namespace SnesModem.Asm

open SnesModem.Lib SnesModem.Lib.Octets

/-- The encoder has nothing to send. -/
def LcpLayer.idle (s : LcpLayer) : LcpLayer := { s with transmit := { s.transmit with active := false } }

def IpcpLayer.idle (s : IpcpLayer) : IpcpLayer := { s with transmit := { s.transmit with active := false } }

namespace FrameRetention

/-- The two protocols that answer with packets made of the received frame. -/
inductive Layer where
  | lcp | ipcp
  deriving DecidableEq, Repr

namespace Layer

def phase : Layer → Phase
  | .lcp => .lcp
  | .ipcp => .ipcp

def protocol : Layer → UInt16
  | .lcp => protocolLcp
  | .ipcp => protocolIpcp

/-- A response that is made of the received frame waits for the encoder. -/
def owes (s : Stack) : Layer → Bool
  | .lcp => s.lcp.pendingAction.usesFrame
  | .ipcp => s.ipcp.pendingAction.usesFrame

/-- The parsed length. -/
def packetLength (s : Stack) : Layer → UInt16
  | .lcp => s.lcp.packetLength
  | .ipcp => s.ipcp.packetLength

/-- The frames that were dispatched to the receive handler. -/
def receiveCount (s : Stack) : Layer → UInt32
  | .lcp => s.lcp.receiveCount
  | .ipcp => s.ipcp.receiveCount

/-- The end of the part of the option maps that the response is made of. -/
def mapsEnd (s : Stack) : Layer → ℕ
  | .lcp => if s.lcp.pendingAction.readsMaps then mapsReach s.lcp.packetEnd else 0
  | .ipcp => if s.ipcp.pendingAction.readsMaps then ipcpMaps + mapsReach s.ipcp.packetEnd else 0

end Layer

/-! ### A response that waits -/

/-- The poll accepts a packet, and leaves pending a response that is made of it. -/
def Accepts (layer : Layer) (l : Loop) (i : Input) : Prop :=
  l.phase = layer.phase ∧ layer.owes l.stack = false ∧ layer.owes (step l i).stack = true

/-- The frame that the encoder has been given, if it has one. -/
def givenFrame (t : Transmit) : Option (List UInt8) := if t.active then some t.frame else none

/-- The response that the poll would have given to an idle encoder. -/
def idleResponse (l : Loop) (i : Input) : Layer → Option (List UInt8)
  | .lcp => ((l.stack.found i).lcpLayer.dispatched i.connected i.now).bind fun s =>
    givenFrame (s.idle.dispatchFrame i.now).transmit
  | .ipcp =>
    let s := l.stack.found i
    (s.ipcpLayer.dispatched i.connected i.now s.lcp.state s.authenticated).bind fun s =>
      givenFrame (s.idle.dispatchFrame i.now).transmit

/-- The frame is there as it was accepted, and the response waits for the encoder. -/
structure Retains (layer : Layer) (a x : Loop) : Prop where
  owes : layer.owes x.stack = true
  frameReady : x.stack.receive.frameReady = true
  decoder : x.stack.receive.decoder = a.stack.receive.decoder
  packetLength : layer.packetLength x.stack = layer.packetLength a.stack
  receiveCount : layer.receiveCount x.stack = layer.receiveCount a.stack

/-- The poll gives the response to the encoder, and releases the frame, which was not dispatched again. -/
structure Answers (layer : Layer) (a : Loop) (response : Option (List UInt8)) (x : Loop) (i : Input) : Prop where
  phase : x.phase = layer.phase
  idle : x.stack.transmit.active = false
  response : givenFrame (step x i).stack.transmit = response
  taken : (step x i).stack.transmit.active = true
  released : (step x i).stack.receive.frameReady = false
  receiveCount : layer.receiveCount (step x i).stack = layer.receiveCount a.stack

/-- The accepting poll dispatches the frame once.  That of a rejected protocol is not dispatched to a receive handler.
-/
def DispatchesOnce (layer : Layer) (l a : Loop) : Prop :=
  layer.receiveCount a.stack =
    layer.receiveCount l.stack + if l.stack.receive.decoder.lastProtocol = layer.protocol then 1 else 0

/-- **The frame is kept** in a run behind the accepting poll: until the encoder has the response, which is the one that
an idle encoder would have been given. -/
def FrameKept (layer : Layer) (l : Loop) (i : Input) (inputs : List Input) : Prop :=
  DispatchesOnce layer l (step l i) ∧
    Run.Until step (Retains layer (step l i)) (Answers layer (step l i) (idleResponse l i layer)) (step l i) inputs

/-! ### The polls that spare the frame -/

/-- The commands that leave alone the receiver, what an upload does not have to write, and an LCP that owes the
response. -/
def sparingCommand (layer : Layer) (s : Stack) : Command → Bool
  | .other | .pppClose | .credentialsClear => true
  | .pppOpen => layer = .ipcp ∨ s.lcp.state = .opened ∨ s.lcp.state = .closing
  | command@(.peerIdSet ..) | command@(.passwordSet ..) => copiesValidated s.credentials command
  | .receiveStart | .receiveStop | .selfTest _ => false

/-- The poll finds behind the option maps what the accepting poll left there, as far as the response is made of it. -/
def MapsKept (layer : Layer) (a : Loop) (i : Input) : Prop :=
  ∀ k < layer.mapsEnd a.stack, optionMapsEnd ≤ k → i.ram k = a.stack.lcp.optionRam k

/-- The poll of LCP. -/
def LcpSpares (a : Loop) (i : Input) (s : Stack) : Layer → Prop
  | .lcp => MapsKept .lcp a i
  | .ipcp => s.lcp.state = .opened ∧
    if s.lcp.pendingAction = .none then s.lcp.administrativeOpen = true else s.transmit.active = true

/-- The poll of PAP, which releases the frames of other protocols until it is opened. -/
def PapSpares (l : Lcp) (p : Pap) : Prop :=
  l.state = .opened → p.state = .opened ∧ p.requestPending = false ∨ p.state = .inactive ∧ l.peerFlags.pap = false

/-- The poll of CHAP, which does the same. -/
def ChapSpares (l : Lcp) (h : Chap) : Prop :=
  l.state = .opened → h.state = .opened ∨ h.state = .inactive ∧ l.peerFlags.chapMd5 = false

/-- The poll of IPCP, which releases the frames of LCP unless it waits for the encoder itself, and every frame when the
layer goes down. -/
def IpcpSpares (a : Loop) (i : Input) (s : Stack) : Layer → Prop
  | .lcp =>
    if s.lcp.state = .opened ∧ s.authenticated = true then
      s.transmit.active = true ∧ (s.ipcp.state = .closed ∨ s.ipcp.state ≠ .stopped ∧ s.ipcp.pendingAction ≠ .none)
    else s.ipcp.state = .closed
  | .ipcp => s.lcp.state = .opened ∧ s.authenticated = true ∧ MapsKept .ipcp a i

/-- What a step of a run must meet behind the accepting poll, which leads to `a`. -/
def Guard (layer : Layer) (a x : Loop) (i : Input) : Prop :=
  i.connected = true ∧
    match x.phase with
    | .mailbox => sparingCommand layer x.stack i.command = true
    | .receive => x.stack.receive.active = true
    | .lcp => LcpSpares a i x.stack layer
    | .pap => PapSpares x.stack.lcp x.stack.pap
    | .chap => ChapSpares x.stack.lcp x.stack.chap
    | .ipcp => IpcpSpares a i x.stack layer
    | .ipv4 | .request | .transmit => True

/-! ### The frame of another layer -/

section Foreign

variable (now : UInt32)

/-- A PAP client that is opened, or that the configuration does without, is opened once it has been serviced. -/
lemma papServiced_opened (flags : PeerFlags) (s : PapLayer)
    (hspares : s.pap.state = .opened ∧ s.pap.requestPending = false ∨ s.pap.state = .inactive ∧ flags.pap = false) :
    (s.serviced now flags).pap.state = .opened ∧ (s.serviced now flags).receive = s.receive := by
  refine ⟨?_, rfl⟩
  have hlower : (pppPapLowerUp flags s.credentials s.pap).state = .opened ∧
      (pppPapLowerUp flags s.credentials s.pap).requestPending = false := by
    unfold pppPapLowerUp
    rcases hspares with ⟨hopened, hpending⟩ | ⟨hinactive, hflag⟩
    · rw [if_pos (by simp [hopened])]
      exact ⟨hopened, hpending⟩
    · rw [if_neg (not_not.mpr hinactive), hflag]
      exact ⟨rfl, rfl⟩
  change (pppPapBuildPending now s.credentials (pppPapLowerUp flags s.credentials s.pap) s.transmit).1.state = .opened
  unfold pppPapBuildPending
  rw [hlower.2]
  exact hlower.1

lemma papPoll_spares (connected : Bool) (l : Lcp) (s : PapLayer)
    (hforeign : s.receive.decoder.lastProtocol ≠ protocolPap) (hspares : PapSpares l s.pap) :
    (pppPapPoll connected now l s).receive = s.receive := by
  unfold pppPapPoll
  split
  · rename_i hup
    have hopened : l.state = .opened := opened_of_linkUp hup
    obtain ⟨hstate, hreceive⟩ := papServiced_opened now l.peerFlags s (hspares hopened)
    change (PapLayer.dispatchFrame (s.serviced now l.peerFlags)).receive = s.receive
    unfold PapLayer.dispatchFrame
    rw [hreceive, if_neg hforeign, if_pos hstate]
    split
    · exact hreceive
    · exact hreceive
  · unfold PapLayer.lowerDown
    split
    · rfl
    · rfl

lemma chapPoll_spares (connected : Bool) (l : Lcp) (s : ChapLayer)
    (hforeign : s.receive.decoder.lastProtocol ≠ protocolChap) (hspares : ChapSpares l s.chap) :
    (pppChapPoll connected l s).receive = s.receive := by
  unfold pppChapPoll
  split
  · rename_i hup
    have hopened : l.state = .opened := opened_of_linkUp hup
    have hlower : (pppChapLowerUp l.peerFlags s.credentials s.chap).state = .opened := by
      unfold pppChapLowerUp
      rcases hspares hopened with hstate | ⟨hinactive, hflag⟩
      · rw [if_pos (by simp [hstate])]
        exact hstate
      · rw [if_neg (not_not.mpr hinactive), hflag]
        rfl
    have hstate : (s.serviced l.peerFlags).chap.state = .opened := by
      change (pppChapBuildPending s.credentials (pppChapLowerUp l.peerFlags s.credentials s.chap) s.transmit).1.state = _
      unfold pppChapBuildPending
      rw [if_pos (by simp [hlower])]
      exact hlower
    have hdispatches : (s.serviced l.peerFlags).dispatches = false := by
      change (s.receive.frameReady && decide (s.receive.decoder.lastProtocol = protocolChap)) = false
      simp [hforeign]
    unfold ChapLayer.dispatchFrame
    rw [hdispatches, if_neg (by decide), if_neg fun h => h.2 hstate]
    rfl
  · unfold ChapLayer.lowerDown
    split
    · rfl
    · rfl

/-- IPCP leaves a frame of LCP, and the option maps, while it waits for the encoder, and while it is closed. -/
lemma ipcpPoll_spares (connected : Bool) (state : LcpState) (authenticated : Bool) (s : IpcpLayer)
    (hspares : if (linkUp connected s.receive state && authenticated) = true then
      s.transmit.active = true ∧ (s.ipcp.state = .closed ∨ s.ipcp.state ≠ .stopped ∧ s.ipcp.pendingAction ≠ .none)
      else s.ipcp.state = .closed) :
    (pppIpcpPoll connected now state authenticated s).receive = s.receive ∧
      (pppIpcpPoll connected now state authenticated s).ram = s.ram := by
  have hwaits (s' : IpcpLayer) (hactive : s'.transmit.active = true) (hpending : s'.ipcp.pendingAction ≠ .none) :
      s'.service now = s' := by
    unfold IpcpLayer.service
    rw [ipcpServicePending_busy now s' hactive, decide_eq_true hpending]
  unfold pppIpcpPoll
  split
  · rename_i hup
    rw [if_pos hup] at hspares
    obtain ⟨hactive, hclosed | ⟨hstopped, hpending⟩⟩ := hspares
    · rw [hclosed]
      dsimp only
      rw [hwaits { s with ipcp := pppIpcpLowerUp s.ipcp } hactive (by simp [pppIpcpLowerUp, hclosed, ipcpEstablishment])]
      exact ⟨rfl, rfl⟩
    · cases hstate : s.ipcp.state with
      | stopped => exact absurd hstate hstopped
      | closed =>
        dsimp only
        rw [hwaits { s with ipcp := pppIpcpLowerUp s.ipcp } hactive (by simp [pppIpcpLowerUp, hstate, ipcpEstablishment])]
        exact ⟨rfl, rfl⟩
      | _ =>
        dsimp only
        rw [hwaits s hactive hpending]
        exact ⟨rfl, rfl⟩
  · rename_i hdown
    rw [if_neg hdown] at hspares
    unfold IpcpLayer.lowerDown
    rw [if_pos hspares]
    exact ⟨rfl, rfl⟩

/-- LCP in `Opened`, open and without an action of its own, or with one that waits for the encoder, leaves a frame of
the layers above and the option maps. -/
lemma lcpPoll_spares (s : LcpLayer) (henabled : s.receive.enabled = true)
    (hupper : LcpLayer.knownUpperProtocol s.receive.decoder.lastProtocol = true) (hopened : s.lcp.state = .opened)
    (hspares : if s.lcp.pendingAction = .none then s.lcp.administrativeOpen = true else s.transmit.active = true) :
    (pppLcpPoll true now s).receive = s.receive ∧ (pppLcpPoll true now s).lcp.optionRam = s.lcp.optionRam := by
  have hidle : s.closeIfIdle = s := by
    unfold LcpLayer.closeIfIdle
    refine if_neg fun h => ?_
    rw [if_pos h.2.2] at hspares
    simp [hspares] at h
  have hpoll : pppLcpPoll true now s = s.serviceExistingPending now := by
    unfold pppLcpPoll
    rw [henabled, hopened, if_neg (by decide), hidle]
  rw [hpoll]
  unfold LcpLayer.serviceExistingPending
  by_cases hnone : s.lcp.pendingAction = .none
  · have hpending : s.servicePending now = (s, false) := if_pos hnone
    have htimer : s.timer now = { s with lcp := pppLcpPollTimeout now s.lcp } := by
      have hafter : (pppLcpPollTimeout now s.lcp).pendingAction = .none := by
        unfold pppLcpPollTimeout
        rw [hopened]
        split
        · exact hnone
        · exact hnone
      unfold LcpLayer.timer
      rw [show LcpLayer.servicePending now { s with lcp := pppLcpPollTimeout now s.lcp } =
        ({ s with lcp := pppLcpPollTimeout now s.lcp }, false) from if_pos hafter]
    have hforeign : s.receive.decoder.lastProtocol ≠ protocolLcp := by
      intro h
      rw [h] at hupper
      exact absurd hupper (by decide)
    have hdispatch : s.dispatchFrame now = s.timer now := by
      unfold LcpLayer.dispatchFrame
      dsimp only
      rw [if_neg hforeign, if_neg (not_not.mpr hopened), if_pos hupper]
    have hram : (pppLcpPollTimeout now s.lcp).optionRam = s.lcp.optionRam := by
      unfold pppLcpPollTimeout
      rw [hopened]
      split
      · rfl
      · rfl
    rw [hpending]
    dsimp only
    rw [hdispatch, htimer]
    split
    · exact ⟨rfl, hram⟩
    · exact ⟨rfl, hram⟩
  · rw [if_neg hnone] at hspares
    rw [lcpServicePending_busy now s hspares, decide_eq_true hnone]
    exact ⟨rfl, rfl⟩

end Foreign

/-! ### The response -/

/-- What is known of a response of LCP while it waits: `response` is what an idle encoder would have been given. -/
structure LcpOwing (response : Option (List UInt8)) (s : Stack) : Prop where
  uses : s.lcp.pendingAction.usesFrame = true
  up : s.lcp.state ≠ .closed ∧ s.lcp.state ≠ .stopped
  walk : s.lcp.pendingAction.readsMaps = true →
    optionLoop s.receive.decoder.frameBuffer s.lcp.packetEnd maximumTurns firstOption = none
  foreign : LcpLayer.knownUpperProtocol s.receive.decoder.lastProtocol = false
  response : ∃ now t, t.active = false ∧
    response = givenFrame (pppLcpBuildPending now s.receive.decoder s.lcp t).2.1

/-- The same for IPCP. -/
structure IpcpOwing (response : Option (List UInt8)) (s : Stack) : Prop where
  uses : s.ipcp.pendingAction.usesFrame = true
  up : s.ipcp.state ≠ .closed ∧ s.ipcp.state ≠ .stopped
  walk : optionLoop s.receive.decoder.frameBuffer s.ipcp.packetEnd maximumTurns firstOption = none
  protocol : s.receive.decoder.lastProtocol = protocolIpcp
  response : ∃ now t, t.active = false ∧ response =
    givenFrame (pppIpcpBuildPending now s.receive.decoder.frameBuffer s.lcp.optionRam s.ipcp t).2.1

/-- The frame and what the response is made of are those of the accepting poll. -/
structure Held (a s : Stack) : Prop where
  frameReady : s.receive.frameReady = true
  enabled : s.receive.enabled = true
  decoder : s.receive.decoder = a.receive.decoder
  maps : Agree optionMapsEnd a.lcp.optionRam s.lcp.optionRam

/-- What is known of the response, by its protocol. -/
def Owing (response : Option (List UInt8)) (s : Stack) : Layer → Prop
  | .lcp => LcpOwing response s
  | .ipcp => IpcpOwing response s

/-- The variables of the protocol are those of the accepting poll, but for LCP's that a command and the memory behind
the maps change. -/
def SameVariables (a s : Stack) : Layer → Prop
  | .lcp => s.lcp = { a.lcp with optionRam := s.lcp.optionRam, administrativeOpen := s.lcp.administrativeOpen }
  | .ipcp => s.ipcp = a.ipcp

section Response

variable {a s : Stack} {response : Option (List UInt8)}

lemma Held.agree {layer : Layer} {l : Loop} {i : Input} (h : Held l.stack s) (hmaps : MapsKept layer l i) :
    Agree (layer.mapsEnd l.stack) l.stack.lcp.optionRam (s.found i).lcp.optionRam := by
  intro k hk
  change l.stack.lcp.optionRam k = if k < optionMapsEnd then s.lcp.optionRam k else i.ram k
  split
  · rename_i hinside
    exact h.maps k hinside
  · rename_i hbehind
    exact (hmaps k hk (Nat.not_lt.mp hbehind)).symm

/-- An encoder that takes a packet has its frame. -/
lemma givenFrame_of_active {t : Transmit} (hactive : t.active = true) : givenFrame t = some t.frame := if_pos hactive

/-- **The response of LCP** to the frame that was kept is the one that an idle encoder would have been given. -/
lemma lcpResponse_kept (howing : LcpOwing response a) (now : UInt32) {ram : Buffer} (administrativeOpen : Bool)
    (t : Transmit) (hmaps : Agree (Layer.lcp.mapsEnd a) a.lcp.optionRam ram)
    (htaken : (pppLcpBuildPending now a.receive.decoder
      { a.lcp with optionRam := ram, administrativeOpen := administrativeOpen } t).2.2 = false) :
    givenFrame (pppLcpBuildPending now a.receive.decoder
      { a.lcp with optionRam := ram, administrativeOpen := administrativeOpen } t).2.1 = response := by
  obtain ⟨now₀, t₀, hidle₀, hresponse⟩ := howing.response
  have hreach (hreads : a.lcp.pendingAction.readsMaps = true) : Agree (mapsReach a.lcp.packetEnd) a.lcp.optionRam ram := by
    unfold Layer.mapsEnd at hmaps
    rwa [if_pos hreads] at hmaps
  obtain ⟨built₀, built, hbuilt₀, hbuilt, hsame⟩ :=
    buildAction_retained administrativeOpen t₀.buffer t.buffer howing.uses howing.walk hreach
  have hactive := lcpBuildPending_active now a.receive.decoder
    { a.lcp with optionRam := ram, administrativeOpen := administrativeOpen } t
  have hactive₀ := lcpBuildPending_active now₀ a.receive.decoder a.lcp t₀
  rw [htaken] at hactive
  obtain ⟨-, hidle, hbusy⟩ := hactive.resolve_left fun h => Bool.false_ne_true h.1
  obtain ⟨hcarry, hframe⟩ := buildPending_of_built now₀ now hbuilt₀ hbuilt hsame hidle₀ hidle
  rw [hcarry] at htaken
  rw [htaken] at hactive₀
  obtain ⟨-, -, hbusy₀⟩ := hactive₀.resolve_left fun h => Bool.false_ne_true h.1
  rw [hresponse, givenFrame_of_active hbusy, givenFrame_of_active hbusy₀, hframe htaken]

/-- **The response of IPCP** likewise. -/
lemma ipcpResponse_kept (howing : IpcpOwing response a) (now : UInt32) {ram : Buffer} (t : Transmit)
    (hmaps : Agree (Layer.ipcp.mapsEnd a) a.lcp.optionRam ram)
    (htaken : (pppIpcpBuildPending now a.receive.decoder.frameBuffer ram a.ipcp t).2.2 = false) :
    givenFrame (pppIpcpBuildPending now a.receive.decoder.frameBuffer ram a.ipcp t).2.1 = response := by
  obtain ⟨now₀, t₀, hidle₀, hresponse⟩ := howing.response
  have hreach (hreads : a.ipcp.pendingAction.readsMaps = true) :
      Agree (ipcpMaps + mapsReach a.ipcp.packetEnd) a.lcp.optionRam ram := by
    unfold Layer.mapsEnd at hmaps
    rwa [if_pos hreads] at hmaps
  obtain ⟨built₀, built, hbuilt₀, hbuilt, hsame⟩ :=
    buildIpcpAction_retained t₀.buffer t.buffer howing.uses (fun _ => howing.walk) hreach
  have hcases := ipcpBuildPending_cases now t a.receive.decoder.frameBuffer ram a.ipcp
  have hcases₀ := ipcpBuildPending_cases now₀ t₀ a.receive.decoder.frameBuffer a.lcp.optionRam a.ipcp
  rw [htaken] at hcases
  obtain ⟨-, -, hidle, hbusy⟩ := hcases.resolve_left fun h => Bool.false_ne_true h.1
  obtain ⟨hcarry, hframe⟩ := ipcpBuildPending_of_built now₀ now hbuilt₀ hbuilt hsame hidle₀ hidle
  rw [hcarry] at htaken
  rw [htaken] at hcases₀
  obtain ⟨-, -, -, hbusy₀⟩ := hcases₀.resolve_left fun h => Bool.false_ne_true h.1
  rw [hresponse, givenFrame_of_active hbusy, givenFrame_of_active hbusy₀, hframe htaken]

end Response

/-! ### The accepting poll -/

section Accepts

variable {l : Loop} {i : Input}

lemma lcp_accepts (haccepts : Accepts .lcp l i) : DispatchesOnce .lcp l (step l i) ∧
    LcpOwing (idleResponse l i .lcp) (step l i).stack ∧ Held (step l i).stack (step l i).stack := by
  obtain ⟨hphase, hdone, howes⟩ := haccepts
  have hstep : (step l i).stack =
      (l.stack.found i).withLcpLayer (pppLcpPoll i.connected i.now (l.stack.found i).lcpLayer) := by
    rw [step_at hphase (by decide) i]
    rfl
  have howes' : (pppLcpPoll i.connected i.now (l.stack.found i).lcpLayer).lcp.pendingAction.usesFrame = true := by
    rw [hstep] at howes
    exact howes
  obtain ⟨s', hdispatched, hoffers⟩ := lcpPoll_offers i.now (l.stack.found i).lcpLayer i.connected hdone howes'
  have hreceive : (step l i).stack.receive = l.stack.receive := by
    rw [hstep]
    exact hoffers.receive
  have hidle : idleResponse l i .lcp = givenFrame
      (pppLcpBuildPending i.now (step l i).stack.receive.decoder (step l i).stack.lcp s'.idle.transmit).2.1 := by
    have hoffered : LcpLayer.offered s'.idle.receive.decoder s'.idle.lcp =
        some (pppLcpPoll i.connected i.now (l.stack.found i).lcpLayer).lcp := by
      change LcpLayer.offered s'.receive.decoder s'.lcp = _
      rw [hoffers.dispatched]
      exact hoffers.offered
    have hserved := lcpServiceThenTimer_served i.now
      { s'.idle with lcp := (pppLcpPoll i.connected i.now (l.stack.found i).lcpLayer).lcp } howes'
    unfold idleResponse
    rw [hdispatched, Option.bind_some, lcpDispatchFrame_offered i.now s'.idle hoffered, hserved.transmit, hreceive, hstep]
    have hdecoder : s'.idle.receive = l.stack.receive := hoffers.dispatched
    dsimp only
    rw [hdecoder]
    rfl
  refine ⟨?_, ⟨howes, ?_, ?_, ?_, i.now, s'.idle.transmit, rfl, hidle⟩, ?_, ?_, rfl, fun _ _ => rfl⟩
  · have hcount := hoffers.offer.receiveCount
    rw [hoffers.receiveCount] at hcount
    unfold DispatchesOnce
    rw [hstep]
    refine hcount.trans ?_
    change (if l.stack.receive.decoder.lastProtocol = protocolLcp then l.stack.lcp.receiveCount + 1
      else l.stack.lcp.receiveCount) =
        l.stack.lcp.receiveCount + if l.stack.receive.decoder.lastProtocol = protocolLcp then 1 else 0
    split_ifs
    · rfl
    · exact (UInt32.add_zero _).symm
  · rw [hstep]
    exact hoffers.offer.up
  · rw [hreceive, hstep]
    exact hoffers.offer.walk
  · rw [hreceive]
    exact hoffers.offer.foreign
  · rw [hreceive]
    exact hoffers.frameReady
  · rw [hreceive]
    exact hoffers.enabled

lemma ipcp_accepts (haccepts : Accepts .ipcp l i) : DispatchesOnce .ipcp l (step l i) ∧
    IpcpOwing (idleResponse l i .ipcp) (step l i).stack ∧ Held (step l i).stack (step l i).stack := by
  obtain ⟨hphase, hdone, howes⟩ := haccepts
  have hstep : (step l i).stack = (l.stack.found i).withIpcpLayer (pppIpcpPoll i.connected i.now
      (l.stack.found i).lcp.state (l.stack.found i).authenticated (l.stack.found i).ipcpLayer) := by
    rw [step_at hphase (by decide) i]
    rfl
  have howes' : (pppIpcpPoll i.connected i.now (l.stack.found i).lcp.state (l.stack.found i).authenticated
      (l.stack.found i).ipcpLayer).ipcp.pendingAction.usesFrame = true := by
    rw [hstep] at howes
    exact howes
  obtain ⟨s', hdispatched, hoffers, henabled⟩ := ipcpPoll_offers i.now (l.stack.found i).ipcpLayer i.connected
    (l.stack.found i).lcp.state (l.stack.found i).authenticated hdone howes'
  have hreceive : (step l i).stack.receive = l.stack.receive := by
    rw [hstep]
    exact hoffers.receive
  have hidle : idleResponse l i .ipcp = givenFrame (pppIpcpBuildPending i.now
      (step l i).stack.receive.decoder.frameBuffer (step l i).stack.lcp.optionRam (step l i).stack.ipcp
      s'.idle.transmit).2.1 := by
    have hdecoder : s'.idle.receive = l.stack.receive := hoffers.dispatched
    have hoffered := hoffers.offered
    rw [show (l.stack.found i).ipcpLayer.receive = s'.idle.receive from hdecoder.symm] at hoffered
    obtain ⟨-, hserved⟩ := ipcpDispatchFrame_offered i.now s'.idle hoffered
    unfold idleResponse
    dsimp only
    rw [hdispatched, Option.bind_some, hserved.transmit, hreceive, hstep]
    dsimp only
    rw [hdecoder]
    rfl
  refine ⟨?_, ⟨howes, ?_, ?_, ?_, i.now, s'.idle.transmit, rfl, hidle⟩, ?_, ?_, rfl, fun _ _ => rfl⟩
  · have hcount := hoffers.offer.receiveCount
    rw [hoffers.receiveCount] at hcount
    have hprotocol : l.stack.receive.decoder.lastProtocol = Layer.ipcp.protocol := hoffers.offer.protocol
    unfold DispatchesOnce
    rw [hstep, if_pos hprotocol]
    exact hcount
  · rw [hstep]
    exact hoffers.offer.up
  · rw [hreceive, hstep]
    exact hoffers.offer.walk
  · rw [hreceive]
    exact hoffers.offer.protocol
  · rw [hreceive]
    exact hoffers.frameReady
  · rw [hreceive]
    exact henabled

end Accepts

/-! ### The polls behind it -/

/-- The frame, and what the response is made of, with the variables of the protocol. -/
structure Keeps (layer : Layer) (a s : Stack) : Prop extends Held a s where
  kept : SameVariables a s layer

section Step

variable {layer : Layer} {a s s' : Stack} {response : Option (List UInt8)}

lemma Keeps.of_lcp (h : Keeps .lcp a s) (hreceive : s'.receive = s.receive) (hlcp : s'.lcp = s.lcp) :
    Keeps .lcp a s' := by
  obtain ⟨⟨hready, henabled, hdecoder, hmaps⟩, hkept⟩ := h
  unfold SameVariables at hkept
  refine ⟨⟨by rw [hreceive, hready], by rw [hreceive, henabled], by rw [hreceive, hdecoder], ?_⟩, ?_⟩
  · rw [hlcp]
    exact hmaps
  · unfold SameVariables
    rw [hlcp]
    exact hkept

lemma Keeps.of_ipcp (h : Keeps .ipcp a s) (hreceive : s'.receive = s.receive)
    (hmaps : s'.lcp.optionRam = s.lcp.optionRam) (hipcp : s'.ipcp = s.ipcp) : Keeps .ipcp a s' := by
  obtain ⟨⟨hready, henabled, hdecoder, hmaps'⟩, hkept⟩ := h
  refine ⟨⟨by rw [hreceive, hready], by rw [hreceive, henabled], by rw [hreceive, hdecoder], ?_⟩, hipcp.trans hkept⟩
  rw [hmaps]
  exact hmaps'

lemma Keeps.of_same (h : Keeps layer a s) (hreceive : s'.receive = s.receive) (hlcp : s'.lcp = s.lcp)
    (hipcp : s'.ipcp = s.ipcp) : Keeps layer a s' := by
  cases layer with
  | lcp => exact h.of_lcp hreceive hlcp
  | ipcp => exact h.of_ipcp hreceive (congrArg Lcp.optionRam hlcp) hipcp

/-- A poll reads the memory behind the option maps afresh. -/
lemma Keeps.found (h : Keeps layer a s) (i : Input) : Keeps layer a (s.found i) := by
  refine ⟨⟨h.frameReady, h.enabled, h.decoder, fun k hk => (h.maps k hk).trans (if_pos hk).symm⟩, ?_⟩
  have hkept := h.kept
  cases layer with
  | lcp => exact congrArg (fun l : Lcp => { l with optionRam := withRam s.lcp.optionRam i.ram }) hkept
  | ipcp => exact hkept

lemma Keeps.owes (howing : Owing response a layer) (h : Keeps layer a s) : layer.owes s = true := by
  have hkept := h.kept
  cases layer with
  | lcp =>
    unfold SameVariables at hkept
    unfold Layer.owes
    rw [hkept]
    exact howing.uses
  | ipcp =>
    unfold SameVariables at hkept
    unfold Layer.owes
    rw [hkept]
    exact howing.uses

lemma lcpOpen_optionRam (now : UInt32) (l : Lcp) : (pppLcpOpen now l).optionRam = l.optionRam := by
  unfold pppLcpOpen
  dsimp only
  split
  · rfl
  · rfl

lemma lcpClose_optionRam (l : Lcp) : (pppLcpClose l).optionRam = l.optionRam := by
  unfold pppLcpClose
  dsimp only
  split
  · rfl
  split
  · rfl
  split
  · rfl
  · rfl

/-- A close waits for the response of LCP. -/
lemma lcpClose_owed {l : Lcp} (huses : l.pendingAction.usesFrame = true) (hup : l.state ≠ .closed ∧ l.state ≠ .stopped) :
    pppLcpClose l = { l with administrativeOpen := false } := by
  have hpending : l.pendingAction ≠ .none := fun h => by rw [h] at huses; contradiction
  unfold pppLcpClose
  dsimp only
  rw [if_neg (not_or.mpr hup), if_pos hpending, ite_self]

lemma keeps_mailbox (howing : Owing response a layer) (h : Keeps layer a s) (now : UInt32) {command : Command}
    (hcommand : sparingCommand layer s command = true) : Keeps layer a (modemMailboxPoll now s command) := by
  have hupload (credentials : Credentials) {copies : Bool} (o : Overrun) (hcopies : copies = true) :
      Keeps layer a (s.upload credentials copies o) := by
    unfold Stack.upload
    rw [if_pos hcopies]
    exact h.of_same rfl rfl rfl
  cases command with
  | other => exact h
  | credentialsClear => exact h.of_same rfl rfl rfl
  | peerIdSet arguments b o => exact hupload _ o hcommand
  | passwordSet arguments b o => exact hupload _ o hcommand
  | receiveStart => contradiction
  | receiveStop => contradiction
  | selfTest left => contradiction
  | pppOpen =>
    refine ⟨⟨h.frameReady, h.enabled, h.decoder, ?_⟩, ?_⟩
    · change Agree optionMapsEnd a.lcp.optionRam (pppLcpOpen now s.lcp).optionRam
      rw [lcpOpen_optionRam]
      exact h.maps
    · have hkept := h.kept
      cases layer with
      | ipcp => exact hkept
      | lcp =>
        have hstate : s.lcp.state = .opened ∨ s.lcp.state = .closing := by simpa [sparingCommand] using hcommand
        have hopen : pppLcpOpen now s.lcp = { s.lcp with administrativeOpen := true } := if_pos hstate
        unfold SameVariables modemMailboxPoll
        dsimp only
        rw [hopen]
        exact congrArg (fun l : Lcp => { l with administrativeOpen := true }) hkept
  | pppClose =>
    refine ⟨⟨h.frameReady, h.enabled, h.decoder, ?_⟩, ?_⟩
    · change Agree optionMapsEnd a.lcp.optionRam (pppLcpClose s.lcp).optionRam
      rw [lcpClose_optionRam]
      exact h.maps
    · have hkept := h.kept
      cases layer with
      | ipcp => exact hkept
      | lcp =>
        have hstate : s.lcp.state = a.lcp.state := by
          unfold SameVariables at hkept
          rw [hkept]
        have hclose : pppLcpClose s.lcp = { s.lcp with administrativeOpen := false } :=
          lcpClose_owed (h.owes howing) (hstate ▸ howing.up)
        unfold SameVariables modemMailboxPoll
        dsimp only
        rw [hclose]
        exact congrArg (fun l : Lcp => { l with administrativeOpen := false }) hkept

lemma keeps_receive (h : Keeps layer a s) (ring : List UInt8) (hactive : s.receive.active = true) :
    Keeps layer a { s with receive := pppReceivePoll true ring s.receive } := by
  obtain ⟨hready, hdecoder, henabled⟩ := receivePoll_of_frameReady ring h.frameReady fun _ _ => hactive
  exact ⟨⟨hready, henabled.trans h.enabled, hdecoder.trans h.decoder, h.maps⟩, h.kept⟩

/-- A live LCP that owes a response goes on with it. -/
lemma lcpPoll_owed (now : UInt32) (s : LcpLayer) (henabled : s.receive.enabled = true)
    (huses : s.lcp.pendingAction.usesFrame = true) (hup : s.lcp.state ≠ .closed ∧ s.lcp.state ≠ .stopped) :
    pppLcpPoll true now s = s.serviceExistingPending now := by
  have hpending : s.lcp.pendingAction ≠ .none := fun h => by rw [h] at huses; contradiction
  have hidle : s.closeIfIdle = s := if_neg fun h => hpending h.2.2
  unfold pppLcpPoll
  rw [henabled, if_neg (by decide), hidle]
  cases hstate : s.lcp.state with
  | closed => exact absurd hstate hup.1
  | stopped => exact absurd hstate hup.2
  | _ => rfl

/-- A live IPCP that owes a response goes on with it. -/
lemma ipcpPoll_owed (now : UInt32) (connected : Bool) (state : LcpState) (authenticated : Bool) (s : IpcpLayer)
    (hlink : (linkUp connected s.receive state && authenticated) = true)
    (hup : s.ipcp.state ≠ .closed ∧ s.ipcp.state ≠ .stopped) :
    pppIpcpPoll connected now state authenticated s = s.service now := by
  unfold pppIpcpPoll
  rw [if_pos hlink]
  cases hstate : s.ipcp.state with
  | closed => exact absurd hstate hup.1
  | stopped => exact absurd hstate hup.2
  | _ => rfl

end Step

section Answer

variable {a x : Loop} {i : Input} {response : Option (List UInt8)}

/-- **The poll of LCP** answers, or keeps the frame. -/
lemma lcp_answers (howing : LcpOwing response a.stack) (h : Keeps .lcp a.stack x.stack) (hphase : x.phase = .lcp)
    (hconnected : i.connected = true) (hmaps : MapsKept .lcp a i) :
    Answers .lcp a response x i ∨ Keeps .lcp a.stack (step x i).stack := by
  have hfound := h.found i
  have hagree := h.agree hmaps
  have hstep : (step x i).stack =
      (x.stack.found i).withLcpLayer (pppLcpPoll true i.now (x.stack.found i).lcpLayer) := by
    rw [step_at hphase (by decide) i, ← hconnected]
    rfl
  have hlcp : (x.stack.found i).lcpLayer.lcp = { a.stack.lcp with
      optionRam := (x.stack.found i).lcp.optionRam
      administrativeOpen := (x.stack.found i).lcp.administrativeOpen } := hfound.kept
  have hdecoder : (x.stack.found i).lcpLayer.receive.decoder = a.stack.receive.decoder := hfound.decoder
  have huses : (x.stack.found i).lcpLayer.lcp.pendingAction.usesFrame = true := by
    rw [hlcp]
    exact howing.uses
  have hup : (x.stack.found i).lcpLayer.lcp.state ≠ .closed ∧ (x.stack.found i).lcpLayer.lcp.state ≠ .stopped := by
    rw [hlcp]
    exact howing.up
  have hserved := lcpServiceExistingPending_served i.now (x.stack.found i).lcpLayer huses
  rw [← lcpPoll_owed i.now (x.stack.found i).lcpLayer hfound.enabled huses hup] at hserved
  cases hserved with
  | refused _ hsame =>
    right
    rw [hstep, hsame]
    exact hfound.of_same rfl rfl rfl
  | taken hcarry htransmit htaken =>
    left
    rw [hdecoder, hlcp] at hcarry htransmit
    have hresponse := lcpResponse_kept howing i.now _ _ hagree hcarry
    refine ⟨hphase, htaken.idle, ?_, ?_, ?_, ?_⟩
    · rw [hstep, ← hresponse, ← htransmit]
      rfl
    · rw [hstep]
      exact htaken.active
    · rw [hstep]
      exact congrArg Receive.frameReady htaken.receive
    · rw [hstep]
      exact htaken.receiveCount.trans (by rw [hlcp]; rfl)

/-- **The poll of IPCP** answers, or keeps the frame. -/
lemma ipcp_answers (howing : IpcpOwing response a.stack) (h : Keeps .ipcp a.stack x.stack) (hphase : x.phase = .ipcp)
    (hconnected : i.connected = true) (hopened : x.stack.lcp.state = .opened)
    (hauthenticated : x.stack.authenticated = true) (hmaps : MapsKept .ipcp a i) :
    Answers .ipcp a response x i ∨ Keeps .ipcp a.stack (step x i).stack := by
  have hfound := h.found i
  have hagree := h.agree hmaps
  have hlink : (linkUp i.connected (x.stack.found i).ipcpLayer.receive (x.stack.found i).lcp.state &&
      (x.stack.found i).authenticated) = true := by
    have hauthenticated' : (x.stack.found i).authenticated = true := hauthenticated
    have hopened' : (x.stack.found i).lcp.state = .opened := hopened
    have henabled : (x.stack.found i).ipcpLayer.receive.enabled = true := hfound.enabled
    simp [linkUp, hauthenticated', hopened', henabled, hconnected]
  have hipcp : (x.stack.found i).ipcpLayer.ipcp = a.stack.ipcp := hfound.kept
  have hdecoder : (x.stack.found i).ipcpLayer.receive.decoder = a.stack.receive.decoder := hfound.decoder
  have huses : (x.stack.found i).ipcpLayer.ipcp.pendingAction.usesFrame = true := by
    rw [hipcp]
    exact howing.uses
  have hup : (x.stack.found i).ipcpLayer.ipcp.state ≠ .closed ∧ (x.stack.found i).ipcpLayer.ipcp.state ≠ .stopped := by
    rw [hipcp]
    exact howing.up
  have hstep : (step x i).stack =
      (x.stack.found i).withIpcpLayer ((x.stack.found i).ipcpLayer.service i.now) := by
    rw [step_at hphase (by decide) i, ← ipcpPoll_owed i.now i.connected _ _ _ hlink hup]
    rfl
  have hserved := ipcpService_served i.now (x.stack.found i).ipcpLayer huses
  cases hserved with
  | refused _ hsame =>
    right
    rw [hstep, hsame]
    exact hfound.of_same rfl rfl rfl
  | taken hcarry htransmit htaken =>
    left
    rw [hdecoder, hipcp] at hcarry htransmit
    have hresponse := ipcpResponse_kept howing i.now _ hagree hcarry
    refine ⟨hphase, htaken.idle, ?_, ?_, ?_, ?_⟩
    · rw [hstep, ← hresponse]
      exact congrArg givenFrame htransmit
    · rw [hstep]
      exact htaken.active
    · rw [hstep]
      exact congrArg Receive.frameReady htaken.receive
    · rw [hstep]
      exact htaken.receiveCount.trans (by rw [hipcp]; rfl)

/-- The frame is none of PAP, CHAP or IP. -/
lemma Owing.foreign {layer : Layer} {s : Stack} (howing : Owing response s layer) :
    s.receive.decoder.lastProtocol ≠ protocolPap ∧ s.receive.decoder.lastProtocol ≠ protocolChap ∧
      s.receive.decoder.lastProtocol ≠ protocolIp := by
  cases layer with
  | lcp =>
    have hforeign := LcpOwing.foreign howing
    simp only [LcpLayer.knownUpperProtocol, decide_eq_false_iff_not, not_or] at hforeign
    exact ⟨hforeign.1, hforeign.2.1, hforeign.2.2.2⟩
  | ipcp =>
    rw [howing.protocol]
    decide

/-- **The step lemma.**  A poll behind the accepting one answers, or keeps the frame. -/
theorem keeps_step {layer : Layer} (howing : Owing response a.stack layer) (h : Keeps layer a.stack x.stack)
    (hguard : Guard layer a x i) : Answers layer a response x i ∨ Keeps layer a.stack (step x i).stack := by
  obtain ⟨hconnected, hpoll⟩ := hguard
  have hfound := h.found i
  obtain ⟨hpap, hchap, hip⟩ := howing.foreign
  rw [← hfound.decoder] at hpap hchap hip
  cases hphase : x.phase with
  | transmit =>
    right
    unfold step pollLayer
    rw [hphase]
    exact hfound.of_same rfl rfl rfl
  | mailbox =>
    right
    rw [hphase] at hpoll
    rw [step_at hphase (by decide) i]
    exact keeps_mailbox howing hfound i.now hpoll
  | receive =>
    right
    rw [hphase] at hpoll
    rw [step_at hphase (by decide) i]
    unfold pollLayer
    rw [hconnected]
    exact keeps_receive hfound i.ring hpoll
  | lcp =>
    rw [hphase] at hpoll
    cases layer with
    | lcp => exact lcp_answers howing h hphase hconnected hpoll
    | ipcp =>
      right
      rw [step_at hphase (by decide) i]
      unfold pollLayer
      rw [hconnected]
      have hprotocol : (x.stack.found i).receive.decoder.lastProtocol = protocolIpcp := by
        rw [hfound.decoder]
        exact howing.protocol
      have hupper : LcpLayer.knownUpperProtocol (x.stack.found i).receive.decoder.lastProtocol = true := by
        rw [hprotocol]
        decide
      obtain ⟨hreceive, hmaps⟩ :=
        lcpPoll_spares i.now (x.stack.found i).lcpLayer hfound.enabled hupper hpoll.1 hpoll.2
      exact hfound.of_ipcp hreceive hmaps rfl
  | pap =>
    right
    rw [hphase] at hpoll
    rw [step_at hphase (by decide) i]
    exact hfound.of_same
      (papPoll_spares i.now i.connected (x.stack.found i).lcp (x.stack.found i).papLayer hpap hpoll) rfl rfl
  | chap =>
    right
    rw [hphase] at hpoll
    rw [step_at hphase (by decide) i]
    exact hfound.of_same
      (chapPoll_spares i.connected (x.stack.found i).lcp (x.stack.found i).chapLayer hchap hpoll) rfl rfl
  | ipcp =>
    rw [hphase] at hpoll
    cases layer with
    | ipcp => exact ipcp_answers howing h hphase hconnected hpoll.1 hpoll.2.1 hpoll.2.2
    | lcp =>
      right
      rw [step_at hphase (by decide) i]
      have hlink : (linkUp i.connected (x.stack.found i).ipcpLayer.receive (x.stack.found i).lcp.state &&
          (x.stack.found i).authenticated) = true ↔ x.stack.lcp.state = .opened ∧ x.stack.authenticated = true := by
        have henabled : (x.stack.found i).ipcpLayer.receive.enabled = true := hfound.enabled
        unfold linkUp
        rw [henabled, hconnected, Bool.and_eq_true]
        exact and_congr decide_eq_true_iff Iff.rfl
      obtain ⟨hreceive, hmaps⟩ := ipcpPoll_spares i.now i.connected (x.stack.found i).lcp.state
        (x.stack.found i).authenticated (x.stack.found i).ipcpLayer (by rw [if_congr hlink rfl rfl]; exact hpoll)
      exact hfound.of_lcp hreceive
        (congrArg (fun ram => { (x.stack.found i).lcp with optionRam := ram }) hmaps)
  | ipv4 =>
    right
    rw [step_at hphase (by decide) i]
    have hsame : pppIpv4Poll ((x.stack.found i).ipUp i.connected) i.reply (x.stack.found i).ipv4Layer =
        (x.stack.found i).ipv4Layer := if_pos (Or.inr hip)
    unfold pollLayer
    dsimp only
    rw [hsame]
    exact hfound.of_same rfl rfl rfl
  | request =>
    right
    rw [step_at hphase (by decide) i]
    exact hfound.of_same rfl rfl rfl

lemma Keeps.retains {layer : Layer} (howing : Owing response a.stack layer) (h : Keeps layer a.stack x.stack) :
    Retains layer a x := by
  refine ⟨h.owes howing, h.frameReady, h.decoder, ?_, ?_⟩
  · have hkept := h.kept
    cases layer with
    | lcp =>
      unfold SameVariables at hkept
      unfold Layer.packetLength
      rw [hkept]
    | ipcp =>
      unfold SameVariables at hkept
      unfold Layer.packetLength
      rw [hkept]
  · have hkept := h.kept
    cases layer with
    | lcp =>
      unfold SameVariables at hkept
      unfold Layer.receiveCount
      rw [hkept]
    | ipcp =>
      unfold SameVariables at hkept
      unfold Layer.receiveCount
      rw [hkept]

end Answer

/-- **The frame that a response of LCP or IPCP is made of** is kept until the encoder has the response, whatever the
run before, as long as the steps behind the accepting poll meet the guard. -/
theorem frame_retained (layer : Layer) (inputs inputs' : List Input) (i : Input)
    (haccepts : Accepts layer (Loop.after inputs) i)
    (hguard : Run.Along step (Guard layer (step (Loop.after inputs) i)) (step (Loop.after inputs) i) inputs') :
    FrameKept layer (Loop.after inputs) i inputs' := by
  obtain ⟨honce, howing, hkeeps⟩ : DispatchesOnce layer (Loop.after inputs) (step (Loop.after inputs) i) ∧
      Owing (idleResponse (Loop.after inputs) i layer) (step (Loop.after inputs) i).stack layer ∧
      Keeps layer (step (Loop.after inputs) i).stack (step (Loop.after inputs) i).stack := by
    cases layer with
    | lcp =>
      obtain ⟨honce, howing, hheld⟩ := lcp_accepts haccepts
      exact ⟨honce, howing, hheld, rfl⟩
    | ipcp =>
      obtain ⟨honce, howing, hheld⟩ := ipcp_accepts haccepts
      exact ⟨honce, howing, hheld, rfl⟩
  refine ⟨honce, Run.Until.mono (fun x hx => Keeps.retains howing hx) ?_⟩
  exact Run.until_of_step (fun x j hx hstep => keeps_step howing hx hstep) hkeeps hguard

section Scenario

/-- A poll that finds an Echo-Request in the RX ring, and no room in the TX ring. -/
def peerEcho : Input where
  ring := [0x7e, 0xff, 0x7d, 0x23, 0xc0, 0x21, 0x7d, 0x29, 0x7d, 0x25, 0x7d, 0x20, 0x7d, 0x28, 0x7d, 0x20, 0x7d, 0x20, 0x7d,
    0x20, 0x7d, 0x20, 0x7d, 0x38, 0x9e, 0x7e]

/-- The polls up to LCP's, which opens the link.  The TX ring has no room for the Configure-Ack, and IPCP's request
waits behind it. -/
def requestWaiting : List Input :=
  requestAcknowledged ++ turn { peerRequest with room := 0 } ++ turn {} ++ List.replicate 2 peerEcho

/-- The same, but the Configure-Ack has left the encoder, which has IPCP's request. -/
def requestTaken : List Input :=
  requestAcknowledged ++ turn peerRequest ++ turn {} ++ List.replicate 2 peerEcho

end Scenario

instance (layer : Layer) (l : Loop) (i : Input) : Decidable (Accepts layer l i) := by unfold Accepts; infer_instance

instance (layer : Layer) (a : Loop) (i : Input) : Decidable (MapsKept layer a i) := by unfold MapsKept; infer_instance

instance (a : Loop) (i : Input) (s : Stack) : (layer : Layer) → Decidable (LcpSpares a i s layer)
  | .lcp => inferInstanceAs (Decidable (MapsKept .lcp a i))
  | .ipcp => inferInstanceAs (Decidable (_ ∧ ite _ _ _))

instance (l : Lcp) (p : Pap) : Decidable (PapSpares l p) := by unfold PapSpares; infer_instance

instance (l : Lcp) (h : Chap) : Decidable (ChapSpares l h) := by unfold ChapSpares; infer_instance

instance (a : Loop) (i : Input) (s : Stack) : (layer : Layer) → Decidable (IpcpSpares a i s layer)
  | .lcp => inferInstanceAs (Decidable (ite _ _ _))
  | .ipcp => inferInstanceAs (Decidable (_ ∧ _ ∧ MapsKept .ipcp a i))

instance (layer : Layer) (a x : Loop) (i : Input) : Decidable (Guard layer a x i) := by
  unfold Guard
  cases x.phase <;> infer_instance

set_option maxRecDepth 100000 in
theorem frame_retained_echo :
    FrameKept .lcp (Loop.after requestWaiting) peerEcho (List.replicate 9 { room := 100 }) :=
  frame_retained .lcp requestWaiting (List.replicate 9 { room := 100 }) peerEcho (by decide +kernel) (by decide +kernel)

set_option maxRecDepth 100000 in
/-- **The Echo-Request is lost**: IPCP, with its own request in the encoder, releases the frame that LCP has kept for
the Echo-Reply. -/
theorem echo_request_released :
    Accepts .lcp (Loop.after requestTaken) peerEcho ∧
      ¬ FrameKept .lcp (Loop.after requestTaken) peerEcho (List.replicate 3 peerEcho) := by
  refine ⟨by decide +kernel, ?_⟩
  rintro ⟨-, -, hpap | ⟨-, hchap | ⟨-, hipcp | hreleased⟩⟩⟩
  · exact absurd hpap.phase (by decide +kernel)
  · exact absurd hchap.phase (by decide +kernel)
  · exact absurd hipcp.phase (by decide +kernel)
  · exact absurd hreleased.frameReady (by decide +kernel)

end FrameRetention

end SnesModem.Asm
