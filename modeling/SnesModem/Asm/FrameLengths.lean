import SnesModem.Asm.EchoReply
import SnesModem.Asm.FrameDelivery
import SnesModem.Asm.RetainedResponse

/-!
# The lengths of the frames that are sent

* `leastLength`: the least Information field of a packet, by its type;
* `Limited`: the Information field is no longer than the peer's MRU, or than the least one;
* `Hands`: what an encoder is given, if it is given a frame;
* the builders of the layers, with the lengths of their packets.
-/

namespace SnesModem.Asm

open SnesModem.Lib.Cpu65816 SnesModem.Lib.Octets SnesModem.Asm.FrameDelivery

/-- The least Information field: the header, with the magic number of an Echo-Reply, with the header of a rejected
packet, or with a rejected protocol. -/
def leastLength : List UInt8 → ℕ
  | _ :: _ :: a :: b :: code :: _ =>
    if a = 0x00 ∧ b = 0x21 then 20
    else if a = 0xc0 ∧ b = 0x21 then if code = 7 ∨ code = 10 then 8 else if code = 8 then 6 else 4
    else 4
  | _ => 4

/-- The Information field is no longer than the larger of the MRU and the least length of the packet's type. -/
def Limited (mru : UInt16) (frame : List UInt8) : Prop := frame.length - 4 ≤ max mru.toNat (leastLength frame)

instance (mru : UInt16) (frame : List UInt8) : Decidable (Limited mru frame) := by unfold Limited; infer_instance

section Limited

variable {mru : UInt16} {frame : List UInt8}

lemma le_leastLength (frame : List UInt8) : 4 ≤ leastLength frame := by
  unfold leastLength
  split
  · split_ifs <;> decide
  · decide

/-- The limit of a packet whose least length is that of its header. -/
lemma limited_of_le (length : ℕ) (hframe : frame.length ≤ length + 4) (hlength : length ≤ max mru.toNat 4) :
    Limited mru frame := by
  have hleast := le_leastLength frame
  unfold Limited
  omega

lemma leastLength_read (buffer : Buffer) {length : ℕ} (hlong : 5 ≤ length) :
    leastLength (read buffer 0 length) =
      if buffer 2 = 0x00 ∧ buffer 3 = 0x21 then 20
      else if buffer 2 = 0xc0 ∧ buffer 3 = 0x21 then if buffer 4 = 7 ∨ buffer 4 = 10 then 8 else if buffer 4 = 8 then 6 else 4
      else 4 := by
  obtain ⟨n, rfl⟩ := Nat.exists_eq_add_of_le' hlong
  simp only [read_succ, Nat.zero_add, Nat.reduceAdd]
  rfl

end Limited

/-! ### What an encoder is given -/

/-- An idle encoder that is busy afterwards has a frame with the property. -/
def Hands (P : List UInt8 → Prop) (t t' : Transmit) : Prop := t.active = false → t'.active = true → P t'.frame

section Hands

variable {P : List UInt8 → Prop} {t t' t'' : Transmit}

lemma hands_idle (hidle : t'.active = false) : Hands P t t' := by
  intro _ hactive
  rw [hidle] at hactive
  contradiction

lemma Hands.refl (t : Transmit) : Hands P t t := by
  intro hidle hactive
  rw [hidle] at hactive
  contradiction

/-- The second leaves a frame of the first alone. -/
lemma Hands.trans (h : Hands P t t') (h' : Hands P t' t'') (hgives : Gives t' t'') : Hands P t t'' := by
  intro hidle hactive
  cases hbetween : t'.active with
  | true =>
    obtain rfl := hgives.busy hbetween
    exact h hidle hbetween
  | false => exact h' hbetween hactive

lemma hands_begin {buffer : Buffer} {length : UInt16} (h : P (read buffer 0 length.toNat)) :
    Hands P t (pppTransmitBegin { t with buffer := buffer } length).1 := by
  rw [transmitBegin_eq]
  split_ifs
  · intro _ _
    exact h
  · intro hidle hactive
    have hbusy : t.active = true := hactive
    rw [hidle] at hbusy
    contradiction

lemma hands_sendFrame {frame : List UInt8} (hshort : frame.length ≤ 1504) (h : P frame) :
    Hands P t (sendFrame t frame).1 := by
  intro hidle _
  rw [(sendFrame_idle hidle hshort).2.2]
  exact h

end Hands

/-! ### Selective responses -/

/-- The options that a selective response carries. -/
def selectedOptions (buffer : Buffer) (rejects : Prop) [Decidable rejects] (classify : UInt8 → UInt16 → Disposition) :
    UInt8 → List UInt16 → List UInt16
  | _, [] => []
  | b, y :: offsets =>
    let next := high (advanceY buffer y)
    if rejects then
      if classify b y = .reject then y :: selectedOptions buffer rejects classify 0 offsets
      else selectedOptions buffer rejects classify next offsets
    else if classify b y = .nak then y :: selectedOptions buffer rejects classify next offsets
    else selectedOptions buffer rejects classify next offsets

/-- The length of the response: its header, and each option or the one suggested in its place. -/
def responseLength (buffer : Buffer) (packetEnd : UInt16) (rejects : Prop) [Decidable rejects]
    (suggestion : UInt16 → List UInt8) (classify : UInt8 → UInt16 → Disposition) : ℕ :=
  4 + ((selectedOptions buffer rejects classify 0 (options buffer packetEnd)).map fun y =>
    if rejects then (optionLength buffer y).toNat else (suggestion y).length).sum

/-- The longest response to the request that ends there: each of its options, or the one of its type that a Nak suggests
if that is longer. -/
def longestResponse (buffer : Buffer) (packetEnd : UInt16) (suggested : UInt8 → ℕ) : ℕ :=
  4 + ((options buffer packetEnd).map fun y => max (optionLength buffer y).toNat (suggested (buffer y.toNat))).sum

section Selective

variable {buffer : Buffer} (packetEnd : UInt16) (rejects : Prop) [Decidable rejects] (suggestion : UInt16 → List UInt8)
  (classify : UInt8 → UInt16 → Disposition)

lemma selectedOptions_cons (b : UInt8) (y : UInt16) (offsets : List UInt16) :
    selectedOptions buffer rejects classify b (y :: offsets) =
      if rejects then
        if classify b y = .reject then y :: selectedOptions buffer rejects classify 0 offsets
        else selectedOptions buffer rejects classify (high (advanceY buffer y)) offsets
      else if classify b y = .nak then y :: selectedOptions buffer rejects classify (high (advanceY buffer y)) offsets
      else selectedOptions buffer rejects classify (high (advanceY buffer y)) offsets := rfl

lemma put_cursor_le (build : Build) (octets : List UInt8) (b : UInt8) :
    (build.put octets b).cursor.toNat ≤ build.cursor.toNat + octets.length := by
  have hsum := toNat_add_le build.cursor (UInt16.ofNat octets.length)
  have hlength : (UInt16.ofNat octets.length).toNat ≤ octets.length := by
    rw [UInt16.toNat_ofNat']
    exact Nat.mod_le _ _
  change (build.cursor + UInt16.ofNat octets.length).toNat ≤ _
  omega

lemma select_cursor_le (offsets : List UInt16) (build : Build) :
    (offsets.foldl (selectOption buffer rejects suggestion classify) build).cursor.toNat ≤ build.cursor.toNat +
      ((selectedOptions buffer rejects classify build.b offsets).map fun y =>
        if rejects then (optionLength buffer y).toNat else (suggestion y).length).sum := by
  induction offsets generalizing build with
  | nil => exact Nat.le_add_right _ _
  | cons y offsets ih =>
    have hrest := ih (selectOption buffer rejects suggestion classify build y)
    have hreject := put_cursor_le build (read buffer y.toNat (optionLength buffer y).toNat) 0
    have hnak := put_cursor_le build (suggestion y) (high (advanceY buffer y))
    rw [length_read] at hreject
    simp only [List.foldl_cons]
    refine hrest.trans ?_
    rw [selectedOptions_cons]
    unfold selectOption
    dsimp only
    by_cases hrejects : rejects
    · simp only [if_pos hrejects]
      by_cases hclass : classify build.b y = .reject
      · rw [if_pos hclass, if_pos hclass, List.map_cons, List.sum_cons]
        change _ + ((selectedOptions buffer rejects classify 0 offsets).map _).sum ≤ _
        omega
      · rw [if_neg hclass, if_neg hclass]
    · simp only [if_neg hrejects]
      by_cases hclass : classify build.b y = .nak
      · rw [if_pos hclass, if_pos hclass, List.map_cons, List.sum_cons]
        change _ + ((selectedOptions buffer rejects classify (high (advanceY buffer y)) offsets).map _).sum ≤ _
        omega
      · rw [if_neg hclass, if_neg hclass]

/-- **The length of a selective response.** -/
theorem selectiveResponse_length (output : Buffer) (header : List UInt8) :
    (selectiveResponse buffer output packetEnd header rejects suggestion classify).2.toNat ≤
      responseLength buffer packetEnd rejects suggestion classify + 4 := by
  have hcursor : ((options buffer packetEnd).foldl (selectOption buffer rejects suggestion classify)
      ⟨0, firstOption, write output 4 header⟩).cursor.toNat ≤ firstOption.toNat +
        ((selectedOptions buffer rejects classify 0 (options buffer packetEnd)).map fun y =>
          if rejects then (optionLength buffer y).toNat else (suggestion y).length).sum :=
    select_cursor_le rejects suggestion classify _ _
  have hfirst : firstOption.toNat = 8 := rfl
  unfold responseLength
  rw [hfirst] at hcursor
  refine le_trans hcursor ?_
  omega

variable {suggestion classify} {suggested : UInt8 → ℕ}

lemma selectedOptions_sum_le
    (hsuggested : ∀ b y, classify b y = .nak → (suggestion y).length ≤ suggested (buffer y.toNat)) (b : UInt8)
    (offsets : List UInt16) :
    ((selectedOptions buffer rejects classify b offsets).map fun y =>
      if rejects then (optionLength buffer y).toNat else (suggestion y).length).sum ≤
        (offsets.map fun y => max (optionLength buffer y).toNat (suggested (buffer y.toNat))).sum := by
  induction offsets generalizing b with
  | nil => exact le_rfl
  | cons y offsets ih =>
    have hreject := ih 0
    have hnext := ih (high (advanceY buffer y))
    rw [selectedOptions_cons, List.map_cons, List.sum_cons]
    split_ifs at hreject hnext ⊢ with hrejects hclass hclass
    · rw [List.map_cons, List.sum_cons]
      exact Nat.add_le_add (le_max_left _ _) hreject
    · exact hnext.trans (Nat.le_add_left _ _)
    · rw [List.map_cons, List.sum_cons]
      exact Nat.add_le_add ((hsuggested b y hclass).trans (le_max_right _ _)) hnext
    · exact hnext.trans (Nat.le_add_left _ _)

/-- **No response is longer** than the longest one. -/
theorem responseLength_le
    (hsuggested : ∀ b y, classify b y = .nak → (suggestion y).length ≤ suggested (buffer y.toNat)) :
    responseLength buffer packetEnd rejects suggestion classify ≤ longestResponse buffer packetEnd suggested :=
  Nat.add_le_add_left (selectedOptions_sum_le rejects hsuggested 0 _) 4

end Selective

/-! ### The packets of LCP -/

/-- The length of a Configure-Nak or Configure-Reject. -/
def lcpResponseLength (d : Decoder) (l : Lcp) : ℕ :=
  responseLength d.frameBuffer l.packetEnd (l.pendingAction = .configureReject)
    (fun y => nakOption l (d.frameBuffer y.toNat)) (pppLcpClassifyPeerOption d.frameBuffer l)

/-- The Information field of the pending action's packet, where the builder does not bound it. -/
def lcpLength (d : Decoder) (l : Lcp) : ℕ :=
  match l.pendingAction with
  | .configureRequest => if l.magicRequest then 10 else 4
  | .configureAck => l.packetLength.toNat
  | .configureNak | .configureReject => lcpResponseLength d l
  | _ => 4

/-- The packet that is pending fits, by what the request has to which it responds. -/
def LcpFits (buffer : Buffer) (l : Lcp) (room : ℕ) : Prop :=
  match l.pendingAction with
  | .configureRequest => (if l.magicRequest then 10 else 4) ≤ room
  | .configureAck => l.packetLength.toNat ≤ room
  | .configureNak | .configureReject =>
    longestResponse buffer l.packetEnd (fun type => (nakOption l type).length) ≤ room
  | _ => True

instance (buffer : Buffer) (l : Lcp) (room : ℕ) : Decidable (LcpFits buffer l room) := by
  unfold LcpFits
  split
  · infer_instance
  · infer_instance
  · infer_instance
  · infer_instance
  · infer_instance

/-- The actions whose packet is one of the negotiation. -/
def LcpAction.configures : LcpAction → Bool
  | .configureRequest | .configureAck | .configureNak | .configureReject => true
  | _ => false

section Lcp

variable {d : Decoder} {l : Lcp} {output : Buffer}

lemma lcpLength_of_not_configures (h : l.pendingAction.configures = false) : lcpLength d l = 4 := by
  unfold lcpLength
  cases haction : l.pendingAction with
  | configureRequest => rw [haction] at h; contradiction
  | configureAck => rw [haction] at h; contradiction
  | configureNak => rw [haction] at h; contradiction
  | configureReject => rw [haction] at h; contradiction
  | _ => rfl

lemma lcpLength_le {room : ℕ} (hleast : 4 ≤ room) (hfits : LcpFits d.frameBuffer l room) :
    lcpLength d l ≤ room := by
  have hresponse (h : longestResponse d.frameBuffer l.packetEnd (fun type => (nakOption l type).length) ≤ room) :
      lcpResponseLength d l ≤ room := by
    refine le_trans ?_ h
    exact responseLength_le _ _ fun _ _ _ => le_rfl
  unfold LcpFits at hfits
  unfold lcpLength
  cases haction : l.pendingAction with
  | configureRequest => rw [haction] at hfits; exact hfits
  | configureAck => rw [haction] at hfits; exact hfits
  | configureNak => rw [haction] at hfits; exact hresponse hfits
  | configureReject => rw [haction] at hfits; exact hresponse hfits
  | _ => exact hleast

lemma buildPacket_length (output : Buffer) (code identifier : UInt8) (data : List UInt8) (hshort : data.length ≤ 1000) :
    (buildPacket output code identifier data).2.toNat = 8 + data.length := by
  have height : minimumFrameLength.toNat = 8 := rfl
  have hdata : (UInt16.ofNat data.length).toNat = data.length := UInt16.toNat_ofNat_of_lt' (show _ < 2 ^ 16 by omega)
  unfold buildPacket
  dsimp only
  rw [toNat_add_of_lt (by omega), height, hdata]

/-- A packet that its builder bounds. -/
lemma bounded_limited {built : Built} (least length : UInt16) (hleast : 4 ≤ least.toNat ∧ least.toNat ≤ 8)
    (hlength : built.2 = boundedLength l least length + frameOffset) (hprotocol : built.1 2 = 0xc0 ∧ built.1 3 = 0x21)
    (hcode : (if built.1 4 = 7 ∨ built.1 4 = 10 then 8 else if built.1 4 = 8 then 6 else 4) = least.toNat) :
    Limited l.peerMru (read built.1 0 built.2.toNat) := by
  have hbounded := toNat_boundedLength l least length
  have hfour : frameOffset.toNat = 4 := rfl
  have hnat : built.2.toNat = (boundedLength l least length).toNat + 4 := by
    rw [hlength, toNat_add_of_lt (by omega), hfour]
  unfold Limited
  rw [length_read, leastLength_read _ (by omega), hprotocol.1, hprotocol.2, if_neg (by decide), if_pos ⟨rfl, rfl⟩, hcode]
  omega

lemma buildReject_limited (code : UInt8) (source : ℕ) {least length : UInt16} (hleast : 4 ≤ least.toNat ∧ least.toNat ≤ 8)
    (hcode : (if code = 7 ∨ code = 10 then 8 else if code = 8 then 6 else 4) = least.toNat)
    (hprotocol : output 2 = 0xc0 ∧ output 3 = 0x21) :
    Limited l.peerMru (read (buildReject d l output code source (boundedLength l least length)).1 0
      (buildReject d l output code source (boundedLength l least length)).2.toNat) := by
  refine bounded_limited least length hleast rfl ?_ ?_
  · simpa [buildReject, write] using hprotocol
  · simpa [buildReject, write] using hcode

lemma buildEchoReply_limited (hprotocol : output 2 = 0xc0 ∧ output 3 = 0x21) :
    Limited l.peerMru (read (buildEchoReply d l output).1 0 (buildEchoReply d l output).2.toNat) := by
  refine bounded_limited 8 l.packetLength ⟨by decide, by decide⟩ rfl ?_ ?_
  · cases l.magicAcknowledged <;> simpa [buildEchoReply, write] using hprotocol
  · cases l.magicAcknowledged <;> simp [buildEchoReply, write]

/-- **The packets of LCP.** -/
theorem buildAction_limited {built : Built} (hbuilt : buildAction d l output = some built)
    (hlength : lcpLength d l ≤ max l.peerMru.toNat 4) : Limited l.peerMru (read built.1 0 built.2.toNat) := by
  have hprotocol : write output 0 [0xff, 0x03, 0xc0, 0x21] 2 = 0xc0 ∧ write output 0 [0xff, 0x03, 0xc0, 0x21] 3 = 0x21 :=
    ⟨rfl, rfl⟩
  have hfixed (code identifier : UInt8) : Limited l.peerMru
      (read (buildPacket (write output 0 [0xff, 0x03, 0xc0, 0x21]) code identifier []).1 0
        (buildPacket (write output 0 [0xff, 0x03, 0xc0, 0x21]) code identifier []).2.toNat) := by
    refine limited_of_le 4 ?_ (by omega)
    rw [length_read, buildPacket_length _ _ _ _ (by simp)]
    rfl
  have hresponse (hlength : lcpResponseLength d l ≤ max l.peerMru.toNat 4) : Limited l.peerMru
      (read (pppLcpBuildPeerResponse d.frameBuffer l (write output 0 [0xff, 0x03, 0xc0, 0x21])).1 0
        (pppLcpBuildPeerResponse d.frameBuffer l (write output 0 [0xff, 0x03, 0xc0, 0x21])).2.toNat) := by
    refine limited_of_le _ ?_ hlength
    rw [length_read, pppLcpBuildPeerResponse_eq]
    exact selectiveResponse_length _ _ _ _ _ _
  unfold lcpLength at hlength
  unfold buildAction at hbuilt
  cases haction : l.pendingAction with
  | none =>
    rw [haction] at hbuilt
    contradiction
  | terminateAck =>
    rw [haction] at hbuilt
    obtain rfl := Option.some.inj hbuilt
    exact hfixed _ _
  | terminateRequest =>
    rw [haction] at hbuilt
    obtain rfl := Option.some.inj hbuilt
    exact hfixed _ _
  | protocolReject =>
    rw [haction] at hbuilt
    obtain rfl := Option.some.inj hbuilt
    exact buildReject_limited 8 2 ⟨by decide, by decide⟩ rfl hprotocol
  | codeReject =>
    rw [haction] at hbuilt
    obtain rfl := Option.some.inj hbuilt
    exact buildReject_limited 7 4 ⟨by decide, by decide⟩ rfl hprotocol
  | echoReply =>
    rw [haction] at hbuilt
    obtain rfl := Option.some.inj hbuilt
    exact buildEchoReply_limited hprotocol
  | configureRequest =>
    rw [haction] at hbuilt hlength
    obtain rfl := Option.some.inj hbuilt
    refine limited_of_le _ ?_ hlength
    unfold buildRequest
    rw [length_read, buildPacket_length _ _ _ _ (by split <;> simp [spelledMagic])]
    cases l.magicRequest <;> simp [spelledMagic]
  | configureAck =>
    rw [haction] at hbuilt hlength
    obtain rfl := Option.some.inj hbuilt
    refine limited_of_le _ ?_ hlength
    rw [length_read]
    exact toNat_add_le _ _
  | configureNak =>
    rw [haction] at hbuilt hlength
    obtain rfl := Option.some.inj hbuilt
    exact hresponse hlength
  | configureReject =>
    rw [haction] at hbuilt hlength
    obtain rfl := Option.some.inj hbuilt
    exact hresponse hlength

end Lcp

/-! ### The packets of the other layers -/

/-- The length of a Configure-Nak or Configure-Reject. -/
def ipcpResponseLength (buffer ram : Buffer) (p : Ipcp) : ℕ :=
  responseLength buffer p.packetEnd (p.pendingAction = .configureReject) (fun _ => addressOption 3 defaultPeerAddress)
    (pppIpcpClassifyPeerOption buffer ram)

/-- The Information field of the pending action's packet. -/
def ipcpLength (buffer ram : Buffer) (p : Ipcp) : ℕ :=
  match p.pendingAction with
  | .none => 4
  | .configureRequest => 4 + p.requestData.length
  | .configureAck => p.packetLength.toNat
  | .configureNak | .configureReject => ipcpResponseLength buffer ram p

/-- What a Nak of IPCP suggests: an address. -/
def ipcpSuggested (type : UInt8) : ℕ := if type = 3 then 6 else 0

/-- The packets fit that are pending or that the frame asks for, if it is a request: that of the client, which has 22
octets at most, and the response, by what the request has. -/
def IpcpFits (r : Receive) (p : Ipcp) (room : ℕ) : Prop :=
  22 ≤ room ∧
    match p.pendingAction with
    | .configureRequest => True
    | .configureAck => p.packetLength.toNat ≤ room
    | .configureNak | .configureReject => longestResponse r.decoder.frameBuffer p.packetEnd ipcpSuggested ≤ room
    | .none =>
      let length := word (r.decoder.frameBuffer 6) (r.decoder.frameBuffer 7)
      r.frameReady = true → r.decoder.lastProtocol = protocolIpcp → (r.decoder.frameBuffer 4).toNat = 1 →
        length.toNat ≤ room ∧ longestResponse r.decoder.frameBuffer (length + frameOffset) ipcpSuggested ≤ room

instance (r : Receive) (p : Ipcp) (room : ℕ) : Decidable (IpcpFits r p room) := by
  unfold IpcpFits
  dsimp only
  split
  · infer_instance
  · infer_instance
  · infer_instance
  · infer_instance
  · infer_instance

section Layers

variable {mru : UInt16} {t : Transmit}

lemma requestData_length_le (p : Ipcp) : p.requestData.length ≤ 18 := by
  have hone (option : IpcpOption) :
      (if p.requests option then addressOption option.type (p.address option) else []).length ≤ 6 := by
    split
    · exact le_rfl
    · exact Nat.zero_le _
  have haddress := hone .ipAddress
  have hprimary := hone .primaryDns
  have hsecondary := hone .secondaryDns
  simp only [Ipcp.requestData, List.flatMap_cons, List.flatMap_nil, List.length_append, List.length_nil]
  omega

lemma ipcpResponseLength_le (buffer ram : Buffer) (p : Ipcp) :
    ipcpResponseLength buffer ram p ≤ longestResponse buffer p.packetEnd ipcpSuggested := by
  refine responseLength_le _ _ fun b y hnak => ?_
  have haddress : buffer y.toNat = 3 := by
    by_contra hother
    unfold pppIpcpClassifyPeerOption at hnak
    rw [if_pos hother] at hnak
    split_ifs at hnak
  unfold ipcpSuggested
  rw [if_pos haddress]
  exact le_rfl

/-- A packet that is no response. -/
lemma ipcpLength_of_own {buffer ram : Buffer} {p : Ipcp} (h : p.pendingAction.usesFrame = false) :
    ipcpLength buffer ram p ≤ 22 := by
  have hdata := requestData_length_le p
  unfold ipcpLength
  cases haction : p.pendingAction with
  | none => exact Nat.le_add_left 4 18
  | configureRequest =>
    dsimp only
    omega
  | _ =>
    rw [haction] at h
    contradiction

/-- What is pending is sent as it is. -/
lemma ipcpLength_of_pending {r : Receive} {ram : Buffer} {p : Ipcp} {room : ℕ} (hpending : p.pendingAction ≠ .none)
    (hfits : IpcpFits r p room) : ipcpLength r.decoder.frameBuffer ram p ≤ room := by
  obtain ⟨hroom, hfits⟩ := hfits
  have hresponse (h : longestResponse r.decoder.frameBuffer p.packetEnd ipcpSuggested ≤ room) :
      ipcpResponseLength r.decoder.frameBuffer ram p ≤ room := (ipcpResponseLength_le _ ram p).trans h
  unfold ipcpLength
  cases haction : p.pendingAction with
  | none => exact absurd haction hpending
  | configureRequest =>
    have hdata := requestData_length_le p
    dsimp only
    omega
  | configureAck => rw [haction] at hfits; exact hfits
  | configureNak => rw [haction] at hfits; exact hresponse hfits
  | configureReject => rw [haction] at hfits; exact hresponse hfits

/-- **The packets of IPCP.** -/
theorem buildIpcpAction_limited {buffer ram output : Buffer} {p : Ipcp} {built : Built}
    (hbuilt : buildIpcpAction buffer ram p output = some built)
    (hlength : ipcpLength buffer ram p ≤ max mru.toNat 4) : Limited mru (read built.1 0 built.2.toNat) := by
  have hresponse (hlength : ipcpResponseLength buffer ram p ≤ max mru.toNat 4) : Limited mru
      (read (pppIpcpBuildPeerResponse buffer ram p (write output 0 [0xff, 0x03, 0x80, 0x21])).1 0
        (pppIpcpBuildPeerResponse buffer ram p (write output 0 [0xff, 0x03, 0x80, 0x21])).2.toNat) := by
    refine limited_of_le _ ?_ hlength
    rw [length_read, pppIpcpBuildPeerResponse_eq]
    exact selectiveResponse_length _ _ _ _ _ _
  unfold ipcpLength at hlength
  unfold buildIpcpAction at hbuilt
  cases haction : p.pendingAction with
  | none =>
    rw [haction] at hbuilt
    contradiction
  | configureRequest =>
    rw [haction] at hbuilt hlength
    obtain rfl := Option.some.inj hbuilt
    have hdata := requestData_length_le p
    refine limited_of_le _ ?_ hlength
    dsimp only
    rw [length_read, buildPacket_length _ _ _ _ (by omega)]
    omega
  | configureAck =>
    rw [haction] at hbuilt hlength
    obtain rfl := Option.some.inj hbuilt
    refine limited_of_le _ ?_ hlength
    rw [length_read]
    exact toNat_add_le _ _
  | configureNak =>
    rw [haction] at hbuilt hlength
    obtain rfl := Option.some.inj hbuilt
    exact hresponse hlength
  | configureReject =>
    rw [haction] at hbuilt hlength
    obtain rfl := Option.some.inj hbuilt
    exact hresponse hlength

/-- The Information field of an Authenticate-Request and that of a Response, with the staged credentials. -/
def papRequestLength (c : Credentials) : ℕ :=
  match c.peerId, c.password with
  | some peerId, some password => 6 + peerId.octets.length + password.octets.length
  | _, _ => 4

def chapResponseLength (c : Credentials) : ℕ :=
  match c.peerId, c.password with
  | some peerId, some _ => 21 + peerId.octets.length
  | _, _ => 4

/-- **The packet of PAP.** -/
theorem papBuildPending_hands (now : UInt32) {c : Credentials} {p : Pap} (hlength : papRequestLength c ≤ max mru.toNat 4) :
    Hands (Limited mru) t (pppPapBuildPending now c p t).2 := by
  unfold papRequestLength at hlength
  unfold pppPapBuildPending
  split
  · exact .refl t
  split
  · rename_i peerId password hpeerId hpassword
    rw [hpeerId, hpassword] at hlength
    dsimp only at hlength
    have hid : peerId.octets.length ≤ 8 := peerId.length_le
    have hsecret : password.octets.length ≤ 24 := password.length_le
    have hframe : (authenticateRequest p.nextIdentifier peerId password).length =
        10 + peerId.octets.length + password.octets.length := by
      unfold authenticateRequest
      simp
      omega
    split
    · exact .refl t
    · have hsent : Hands (Limited mru) t (sendFrame t (authenticateRequest p.nextIdentifier peerId password)).1 :=
        hands_sendFrame (by omega) (limited_of_le _ (by omega) hlength)
      split
      · rename_i t' heq
        rw [heq] at hsent
        exact hsent
      · rename_i t' heq
        rw [heq] at hsent
        exact hsent
  · exact .refl t

/-- **The packet of CHAP.** -/
theorem chapBuildPending_hands {c : Credentials} {h : Chap} (hlength : chapResponseLength c ≤ max mru.toNat 4) :
    Hands (Limited mru) t (pppChapBuildPending c h t).2 := by
  unfold chapResponseLength at hlength
  unfold pppChapBuildPending
  split
  · exact .refl t
  split
  · exact .refl t
  split
  · rename_i peerId password hpeerId hpassword
    rw [hpeerId, hpassword] at hlength
    dsimp only at hlength
    extract_lets digest
    have hid : peerId.octets.length ≤ 8 := peerId.length_le
    have hdigest : digest.length = 16 := length_pppMd5Compute _
    have hframe : (responseFrame h.lastIdentifier digest peerId).length = 25 + peerId.octets.length := by
      unfold responseFrame
      simp [hdigest]
      omega
    have hsent : Hands (Limited mru) t (sendFrame t (responseFrame h.lastIdentifier digest peerId)).1 :=
      hands_sendFrame (by omega) (limited_of_le _ (by omega) hlength)
    split
    · rename_i t' heq
      rw [heq] at hsent
      exact hsent
    · rename_i t' heq
      rw [heq] at hsent
      exact hsent
  · exact .refl t

/-- An encoder that is given the packet of a client found the link open. -/
lemma beginTransmit_cases (p : Ipcp) (s : Ipv4Sender) (protocol : UInt8) (destination : Address) (length : UInt16) :
    (pppIpv4BeginTransmit p s protocol destination length).1.transmit = s.transmit ∨
      linkIsOpen p = true ∧ length ≤ ipv4MaximumPayloadLength := by
  unfold pppIpv4BeginTransmit
  split
  · exact Or.inl rfl
  rename_i hopen
  split
  · exact Or.inl rfl
  split
  · exact Or.inl rfl
  · rename_i hfits
    refine Or.inr ⟨?_, UInt16.not_lt.mp hfits⟩
    simpa [linkIsOpen] using hopen

/-- **A packet of IPv4.** -/
theorem beginTransmit_hands (p : Ipcp) (s : Ipv4Sender) (protocol : UInt8) (destination : Address) {length : UInt16}
    (hlength : 20 + length.toNat ≤ max mru.toNat 20) :
    Hands (Limited mru) s.transmit (pppIpv4BeginTransmit p s protocol destination length).1.transmit := by
  rcases beginTransmit_cases p s protocol destination length with hsame | ⟨hopen, hfits⟩
  · rw [hsame]
    exact .refl _
  · intro hidle _
    simp only [linkIsOpen, Bool.and_eq_true, decide_eq_true_eq] at hopen
    obtain ⟨t, checksum, hgiven, -, hframe, -⟩ := beginTransmit_given protocol destination hopen.1 hopen.2 hidle hfits
    rw [hgiven]
    dsimp only
    rw [hframe]
    unfold Limited ipv4Frame
    have hleast (payload : List UInt8) (source : Address) : leastLength ([0xff, 0x03, 0x00, 0x21] ++ ipv4Header
        s.nextIdentification (length + ipv4MinimumHeaderLength) protocol source destination checksum ++ payload) = 20 := rfl
    rw [hleast, List.length_append, length_read]
    change 24 + length.toNat - 4 ≤ _
    omega

end Layers

end SnesModem.Asm
