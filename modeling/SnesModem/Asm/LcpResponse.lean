import SnesModem.Asm.LcpPacketBounds
import SnesModem.Asm.LcpSteps
import SnesModem.Asm.SelectiveResponse

/-!
# The response of LCP to a packet

The responder builds a packet of what the parser has stored of the received one.

* `Buildable`: what is stored while a response waits for the encoder;
* `buildAction_congr`: the response is made of the packet;
* `respond`, `Contained`: the parser accepts what the reference parser accepts, and the response with an idle
  encoder is made of the packet;
* `contained_iff`: the packets that are contained.
-/

namespace SnesModem.Asm

open SnesModem.Lib SnesModem.Lib.Cpu65816 SnesModem.Lib.Octets

/-- The actions whose packet is made of the received LCP packet. -/
def LcpAction.answersPacket : LcpAction → Bool
  | .configureAck | .configureNak | .configureReject | .codeReject | .echoReply => true
  | _ => false

/-- The variables while a response to the packet in the frame buffer is pending. -/
structure Buildable (d : Decoder) (l : Lcp) : Prop extends Accepted d l where
  items : l.pendingAction.answersRequest = true →
    ∃ items, Placed d.frameBuffer 8 items ∧ 8 + span items = l.packetEnd.toNat
  echo : l.pendingAction = .echoReply → 8 ≤ l.packetLength.toNat

section Buildable

variable {d : Decoder} {l l' : Lcp}

lemma Accepted.of_sameParse (ha : Accepted d l) (h : SameParse l l') : Accepted d l' := by
  obtain ⟨hlength, hend, hcode, hidentifier⟩ := h
  constructor
  · rw [hlength, ha.packetLength]
  · rw [hlength]
    exact ha.four_le
  · rw [hend, hlength, ha.packetEnd]
  · rw [hend]
    exact ha.within
  · rw [hcode, ha.code]
  · rw [hidentifier, ha.identifier]
  · rw [hcode, hend]
    exact ha.options

/-- A response that a packet leaves pending can be built. -/
theorem buildable_of_receive (ha : Accepted d l) (hpending : l.pendingAction = .none) :
    Buildable d (receivePacket d l).1 := by
  have hsame := receivePacket_sameParse d l
  have hreaction := receivePacket_pending d l
  generalize (receivePacket d l).1 = l' at hsame hreaction
  have haccepted := ha.of_sameParse hsame
  refine ⟨haccepted, fun hanswers => ?_, fun hecho => ?_⟩
  · refine haccepted.options ?_
    rw [haccepted.code]
    generalize l'.pendingAction = action at hreaction hanswers
    cases hreaction with
    | answered hcode _ => exact toNat_lastCode hcode (by decide)
    | kept =>
      rw [hpending] at hanswers
      cases hanswers
    | completed => cases hanswers
    | requested => cases hanswers
    | terminating => cases hanswers
    | rejected => cases hanswers
    | echoed => cases hanswers
  · rw [hsame.packetLength]
    rw [hecho] at hreaction
    generalize haction : LcpAction.echoReply = action at hreaction
    cases hreaction with
    | echoed hlength => exact UInt16.le_iff_toNat_le.mp hlength
    | answered _ hanswers =>
      rw [← haction] at hanswers
      cases hanswers
    | kept =>
      rw [hpending] at haction
      cases haction
    | completed => cases haction
    | requested => cases haction
    | terminating => cases haction
    | rejected => cases haction

end Buildable

/-! ### The builders -/

section Builders

variable {d d' : Decoder} {l : Lcp} {output output' : Buffer}

lemma toNat_boundedLength (l : Lcp) (least length : UInt16) : (boundedLength l least length).toNat =
    max (min (min length.toNat l.peerMru.toNat) 1500) least.toNat := by
  unfold boundedLength
  rw [toNat_max, toNat_min, toNat_min]
  rfl

/-- The selective responses of LCP. -/
lemma pppLcpBuildPeerResponse_eq (buffer : Buffer) (l : Lcp) (output : Buffer) :
    pppLcpBuildPeerResponse buffer l output = selectiveResponse buffer output l.packetEnd
      [if l.pendingAction = .configureNak then 3 else 4, buffer 5] (l.pendingAction = .configureReject)
      (fun y => nakOption l (buffer y.toNat)) (pppLcpClassifyPeerOption buffer l) := rfl

lemma pppLcpBuildPeerResponse_sameBuilt (buffer : Buffer) (h : Agree 4 output output') :
    SameBuilt (pppLcpBuildPeerResponse buffer l output) (pppLcpBuildPeerResponse buffer l output') := by
  rw [pppLcpBuildPeerResponse_eq, pppLcpBuildPeerResponse_eq]
  exact selectiveResponse_congr _ _ (fun _ => True) trivial (fun _ _ => trivial) (fun _ _ _ => rfl) h

/-- A copied packet covers its frame, even where the length of the frame wraps. -/
lemma copyResponse_of_copy (hcopy : read d'.frameBuffer 4 l.packetLength.toNat = read d.frameBuffer 4 l.packetLength.toNat)
    (h : Agree 4 output output') : SameBuilt (copyResponse d l output) (copyResponse d' l output') := by
  have hsum : (l.packetLength + frameOffset).toNat ≤ l.packetLength.toNat + 4 := toNat_add_le _ _
  unfold copyResponse
  rw [hcopy]
  refine ⟨rfl, ?_⟩
  refine ((h.write_append (read d.frameBuffer 4 l.packetLength.toNat)).write_same 4 [2]).mono ?_
  rw [length_read]
  show (l.packetLength + frameOffset).toNat ≤ _
  omega

lemma copyResponse_sameBuilt (ha : Accepted d l) (hagree : Agree l.packetEnd.toNat d.frameBuffer d'.frameBuffer)
    (h : Agree 4 output output') : SameBuilt (copyResponse d l output) (copyResponse d' l output') := by
  have hend := ha.packetEnd
  exact copyResponse_of_copy (hagree.read (by omega)).symm h

lemma buildReject_sameBuilt (code : UInt8) (source : ℕ) (length : UInt16) (h4 : 4 ≤ length.toNat)
    (hlength : length.toNat ≤ 1504)
    (hcopy : read d'.frameBuffer source (length.toNat - 4) = read d.frameBuffer source (length.toNat - 4))
    (h : Agree 4 output output') :
    SameBuilt (buildReject d l output code source length) (buildReject d' l output' code source length) := by
  have hsum : (length + frameOffset).toNat = length.toNat + 4 :=
    toNat_add_of_lt (show length.toNat + 4 < 2 ^ 16 by omega)
  have hdata : (length - headerLength).toNat = length.toNat - 4 :=
    UInt16.toNat_sub_of_le _ _ (UInt16.le_iff_toNat_le.mpr h4)
  unfold buildReject
  rw [hdata, hcopy]
  refine ⟨rfl, ?_⟩
  have hheader := (h.write_append [code, l.rejectIdentifier]).write_append [high length, low length]
  refine (hheader.write_append (read d.frameBuffer source (length.toNat - 4))).mono ?_
  show (length + frameOffset).toNat ≤ 4 + 2 + 2 + (read d.frameBuffer source (length.toNat - 4)).length
  rw [length_read]
  omega

lemma buildCodeReject_sameBuilt (ha : Accepted d l) (hshort : d.lastFrameLength.toNat ≤ 1504)
    (hagree : Agree l.packetEnd.toNat d.frameBuffer d'.frameBuffer) (h : Agree 4 output output') :
    SameBuilt (buildCodeReject d l output) (buildCodeReject d' l output') := by
  have hend := ha.packetEnd
  have hwithin := ha.within
  have hfour := ha.four_le
  have hsum : (l.packetLength + headerLength).toNat = l.packetLength.toNat + 4 :=
    toNat_add_of_lt (show l.packetLength.toNat + 4 < 2 ^ 16 by omega)
  have hbounded := toNat_boundedLength l 8 (l.packetLength + headerLength)
  rw [hsum, show (8 : UInt16).toNat = 8 from rfl] at hbounded
  exact buildReject_sameBuilt 7 4 _ (by omega) (by omega) (hagree.read (by omega)).symm h

lemma buildEchoReply_of_copy (hcopy : read d'.frameBuffer 4 (boundedLength l 8 l.packetLength).toNat =
      read d.frameBuffer 4 (boundedLength l 8 l.packetLength).toNat) (h : Agree 4 output output') :
    SameBuilt (buildEchoReply d l output) (buildEchoReply d' l output') := by
  have hbounded := toNat_boundedLength l 8 l.packetLength
  rw [show (8 : UInt16).toNat = 8 from rfl] at hbounded
  have hsum : (boundedLength l 8 l.packetLength + frameOffset).toNat =
      (boundedLength l 8 l.packetLength).toNat + 4 :=
    toNat_add_of_lt (show (boundedLength l 8 l.packetLength).toNat + 4 < 2 ^ 16 by omega)
  unfold buildEchoReply
  dsimp only
  rw [hcopy]
  refine ⟨rfl, ?_⟩
  have hpacket := h.write_append (read d.frameBuffer 4 (boundedLength l 8 l.packetLength).toNat)
  refine (((hpacket.write_same 6 _).write_same 4 [10]).write_same 8 _).mono ?_
  rw [length_read]
  show (boundedLength l 8 l.packetLength + frameOffset).toNat ≤ _
  omega

lemma buildEchoReply_sameBuilt (ha : Accepted d l) (hecho : 8 ≤ l.packetLength.toNat)
    (hagree : Agree l.packetEnd.toNat d.frameBuffer d'.frameBuffer) (h : Agree 4 output output') :
    SameBuilt (buildEchoReply d l output) (buildEchoReply d' l output') := by
  have hend := ha.packetEnd
  have hbounded := toNat_boundedLength l 8 l.packetLength
  rw [show (8 : UInt16).toNat = 8 from rfl] at hbounded
  exact buildEchoReply_of_copy (hagree.read (by omega)).symm h

/-- **A response is made of the packet** and of what is stored: not of the octets behind the packet, nor of
what the transmit buffer held. -/
theorem buildAction_congr (output output' : Buffer) (hb : Buildable d l) (hshort : d.lastFrameLength.toNat ≤ 1504)
    (hanswers : l.pendingAction.answersPacket = true)
    (hagree : Agree l.packetEnd.toNat d.frameBuffer d'.frameBuffer) :
    ∃ built built', buildAction d l output = some built ∧ buildAction d' l output' = some built' ∧
      SameBuilt built built' := by
  have ha := hb.toAccepted
  have hwithin := ha.within
  have hstart : Agree 4 (write output 0 [0xff, 0x03, 0xc0, 0x21]) (write output' 0 [0xff, 0x03, 0xc0, 0x21]) :=
    ((Agree.nil output output').write_append [0xff, 0x03, 0xc0, 0x21]).mono (by simp)
  unfold buildAction
  cases haction : l.pendingAction with
  | configureAck => exact ⟨_, _, rfl, rfl, copyResponse_sameBuilt ha hagree hstart⟩
  | configureNak | configureReject =>
    obtain ⟨items, hplaced, hspan⟩ := hb.items (by rw [haction]; rfl)
    have hframe := buildPeerResponse_congr hplaced hspan hagree (by omega)
      (write output' 0 [0xff, 0x03, 0xc0, 0x21])
    refine ⟨_, _, rfl, rfl, ?_⟩
    rw [hframe]
    exact pppLcpBuildPeerResponse_sameBuilt d.frameBuffer hstart
  | codeReject => exact ⟨_, _, rfl, rfl, buildCodeReject_sameBuilt ha hshort hagree hstart⟩
  | echoReply => exact ⟨_, _, rfl, rfl, buildEchoReply_sameBuilt ha (hb.echo haction) hagree hstart⟩
  | none | configureRequest | terminateAck | protocolReject | terminateRequest =>
    rw [haction] at hanswers
    cases hanswers

end Builders

/-! ### Received frames -/

/-- The frame that answers the received one, with a packet made of it, when the encoder is idle. -/
def respond (now : UInt32) (d : Decoder) (l : Lcp) (t : Transmit) : Option (List UInt8) :=
  match pppLcpReceiveFrame d l with
  | (_, true) => none
  | (l, false) =>
    if l.pendingAction.answersPacket then
      match pppLcpBuildPending now d l { t with active := false } with
      | (_, _, true) => none
      | (_, t, false) => some t.frame
    else none

/-- **A received frame is contained**: the parser accepts it exactly if the reference parser does, and the
response, when no other is pending, depends neither on the octets behind the packet nor on what the transmit
buffer held. -/
structure Contained (d : Decoder) : Prop where
  accepts : ∀ l, (pppLcpParseFrame d l).2 = false ↔ ReferenceAccepts d
  answers : ∀ now l t t' d', l.pendingAction = .none → SamePacket d d' → respond now d' l t' = respond now d l t

section Contained

variable {d d' : Decoder} {l : Lcp}

lemma pendingAction_parseOptions (d : Decoder) (l : Lcp) :
    (parseOptions d l).1.pendingAction = l.pendingAction := by
  obtain ⟨error, herror⟩ := parseOptions_fst d l
  rw [herror]

lemma pendingAction_parseFrame (d : Decoder) (l : Lcp) :
    (pppLcpParseFrame d l).1.pendingAction = l.pendingAction := by
  unfold pppLcpParseFrame
  dsimp only
  split_ifs
  · rfl
  · rfl
  · rfl
  · rfl
  · exact pendingAction_parseOptions d _

/-- The encoder takes a packet, or not, from any transmit buffer, and has the same frame then. -/
lemma transmitBegin_congr {t t' : Transmit} {built built' : Built} (hsame : SameBuilt built built')
    (hactive : t.active = false) (hactive' : t'.active = false) :
    (pppTransmitBegin { t' with buffer := built'.1 } built'.2).2 = (pppTransmitBegin { t with buffer := built.1 } built.2).2 ∧
      (pppTransmitBegin { t' with buffer := built'.1 } built'.2).1.active =
        (pppTransmitBegin { t with buffer := built.1 } built.2).1.active ∧
      ((pppTransmitBegin { t with buffer := built.1 } built.2).2 = false →
        (pppTransmitBegin { t' with buffer := built'.1 } built'.2).1.frame =
          (pppTransmitBegin { t with buffer := built.1 } built.2).1.frame) := by
  obtain ⟨hlength, hagree⟩ := hsame
  unfold pppTransmitBegin
  rw [hlength]
  by_cases hlong : maximumTransmitFrameLength < built.2
  · rw [if_pos hlong, if_pos hlong]
    exact ⟨rfl, hactive'.trans hactive.symm, nofun⟩
  · rw [if_neg hlong, if_neg hlong, hactive, hactive']
    refine ⟨rfl, rfl, fun _ => ?_⟩
    exact (hagree.read (by simp)).symm

/-- The encoder takes a packet of the pending action, or not, wherever it was built. -/
lemma buildPending_of_built (now now' : UInt32) {l' : Lcp} {t t' : Transmit} {built built' : Built}
    (hbuilt : buildAction d l t.buffer = some built) (hbuilt' : buildAction d' l' t'.buffer = some built')
    (hsame : SameBuilt built built') (hactive : t.active = false) (hactive' : t'.active = false) :
    (pppLcpBuildPending now' d' l' t').2.2 = (pppLcpBuildPending now d l t).2.2 ∧
      ((pppLcpBuildPending now d l t).2.2 = false →
        (pppLcpBuildPending now' d' l' t').2.1.frame = (pppLcpBuildPending now d l t).2.1.frame) := by
  obtain ⟨hcarry, -, hframe⟩ := transmitBegin_congr hsame hactive hactive'
  unfold pppLcpBuildPending
  rw [if_neg (show ¬ t.active = true by simp [hactive]), if_neg (show ¬ t'.active = true by simp [hactive']), hbuilt,
    hbuilt']
  dsimp only
  generalize pppTransmitBegin { t with buffer := built.1 } built.2 = begun at hcarry hframe
  generalize pppTransmitBegin { t' with buffer := built'.1 } built'.2 = begun' at hcarry hframe
  obtain ⟨t₁, carry⟩ := begun
  obtain ⟨t₁', carry'⟩ := begun'
  obtain rfl : carry' = carry := hcarry
  cases carry' with
  | true => exact ⟨rfl, nofun⟩
  | false => exact ⟨rfl, hframe⟩

/-- The encoder takes the same frame from any transmit buffer. -/
lemma buildPending_congr (now : UInt32) (t t' : Transmit) (hb : Buildable d l) (hshort : d.lastFrameLength.toNat ≤ 1504)
    (hanswers : l.pendingAction.answersPacket = true)
    (hagree : Agree l.packetEnd.toNat d.frameBuffer d'.frameBuffer) (hactive : t.active = false)
    (hactive' : t'.active = false) :
    (pppLcpBuildPending now d' l t').2.2 = (pppLcpBuildPending now d l t).2.2 ∧
      ((pppLcpBuildPending now d l t).2.2 = false →
        (pppLcpBuildPending now d' l t').2.1.frame = (pppLcpBuildPending now d l t).2.1.frame) := by
  obtain ⟨built, built', hbuilt, hbuilt', hsame⟩ :=
    buildAction_congr t.buffer t'.buffer hb hshort hanswers hagree
  exact buildPending_of_built now now hbuilt hbuilt' hsame hactive hactive'

/-- The frames of which nothing is stale. -/
lemma contained_of_not_wraps (hprotocol : d.lastProtocol = protocolLcp) (hshort : d.lastFrameLength.toNat ≤ 1504)
    (hwraps : ¬ Wraps d) : Contained d := by
  constructor
  · intro l
    rw [referenceAccepts_iff]
    constructor
    · intro h
      have ha := parseFrame_accepted hshort hwraps h
      have hlength := ha.packetLength
      have hend := ha.packetEnd
      have hwithin := ha.within
      have hfour := ha.four_le
      rw [hlength] at hend hfour
      refine ⟨by omega, hfour, by omega, fun hcode => ?_⟩
      rw [← hend]
      exact ha.options (by rwa [ha.code])
    · rintro ⟨hheader, hfour, hwithin, hitems⟩
      have hend : (declaredLength d + frameOffset).toNat = (declaredLength d).toNat + 4 :=
        toNat_add_of_lt (show (declaredLength d).toNat + 4 < 2 ^ 16 by omega)
      rw [parseFrame_eq hprotocol hheader hfour (by omega), parseOptions_snd]
      intro hcode
      refine (optionLoop_iff hshort (by omega)).mpr ?_
      rw [hend]
      exact hitems hcode
  · intro now l t t' d' hpending hsame
    unfold respond pppLcpReceiveFrame
    rw [parseFrame_congr hshort hsame]
    have hkept := pendingAction_parseFrame d l
    have haccepted := parseFrame_accepted (l := l) hshort hwraps
    generalize pppLcpParseFrame d l = parsed at hkept haccepted
    obtain ⟨l₁, carry⟩ := parsed
    cases carry with
    | true => rfl
    | false =>
      have ha := haccepted rfl
      have hlength := ha.packetLength
      have hagree : Agree l₁.packetEnd.toNat d.frameBuffer d'.frameBuffer := by
        refine hsame.agree.mono ?_
        have hend := ha.packetEnd
        have hwithin := ha.within
        rw [hlength] at hend
        exact le_min hwithin (hend.le.trans (le_max_right _ _))
      dsimp only
      rw [receivePacket_congr ha hagree hshort]
      have hb := buildable_of_receive ha (hkept.trans hpending)
      have hparse := receivePacket_sameParse d l₁
      generalize receivePacket d l₁ = received at hb hparse
      obtain ⟨l₂, carry⟩ := received
      cases carry with
      | true => rfl
      | false =>
        dsimp only
        split_ifs with hanswers
        · have hagree₂ : Agree l₂.packetEnd.toNat d.frameBuffer d'.frameBuffer := by
            rw [hparse.packetEnd]
            exact hagree
          obtain ⟨hcarry, hframe⟩ := buildPending_congr now { t with active := false }
            { t' with active := false } hb hshort hanswers hagree₂ rfl rfl
          generalize pppLcpBuildPending now d l₂ { t with active := false } = built at hcarry hframe
          generalize pppLcpBuildPending now d' l₂ { t' with active := false } = built' at hcarry hframe
          obtain ⟨_, t₁, carry⟩ := built
          obtain ⟨_, t₁', carry'⟩ := built'
          obtain rfl : carry' = carry := hcarry
          cases carry' with
          | true => rfl
          | false => exact congrArg some (hframe rfl)
        · rfl

/-- A packet whose Length wraps is accepted, but not by the reference parser. -/
lemma not_contained_of_wraps (hprotocol : d.lastProtocol = protocolLcp) (hshort : d.lastFrameLength.toNat ≤ 1504)
    (hwraps : Wraps d) : ¬ Contained d := by
  obtain ⟨hheader, hcode, hlarge⟩ := hwraps
  intro h
  have hlt := (declaredLength d).toNat_lt
  have hsum := UInt16.toNat_add (declaredLength d) frameOffset
  rw [show frameOffset.toNat = 4 from rfl] at hsum
  have haccepts : (pppLcpParseFrame d (pppLcpInitialize default)).2 = false := by
    rw [parseFrame_eq hprotocol hheader (by omega) (by omega), parseOptions_snd]
    intro hcode'
    have : configureCode (d.frameBuffer 4) = true := hcode'
    rw [hcode] at this
    cases this
  have hreference := (h.accepts _).mp haccepts
  rw [referenceAccepts_iff] at hreference
  omega

/-- **The frames that are contained** are those whose Length does not wrap: Configure packets, and packets of
other codes that declare less than `$fffc` octets. -/
theorem contained_iff (d : Decoder) (hprotocol : d.lastProtocol = protocolLcp)
    (hshort : d.lastFrameLength ≤ maximumTransmitFrameLength) : Contained d ↔ ¬ Wraps d := by
  have hshort' : d.lastFrameLength.toNat ≤ 1504 := UInt16.le_iff_toNat_le.mp hshort
  constructor
  · exact fun h hwraps => not_contained_of_wraps hprotocol hshort' hwraps h
  · exact contained_of_not_wraps hprotocol hshort'

end Contained

/-- A frame of twelve octets with an Echo-Request that declares the given Length. -/
def echoRequest (length : UInt16) : Decoder :=
  { (default : Decoder) with
    lastFrameLength := 12
    lastProtocol := protocolLcp
    frameBuffer := write default 0 [0xff, 0x03, 0xc0, 0x21, 9, 1, high length, low length, 0, 0, 0, 0] }

/-- An Echo-Request of eight octets is contained. -/
theorem contained_echoRequest : Contained (echoRequest 8) :=
  (contained_iff (echoRequest 8) rfl (by decide)).mpr fun hwraps => absurd hwraps.2.2 (by decide)

/-- An Echo-Request of 65535 octets is accepted in a frame of twelve. -/
theorem not_contained_wrapped_echoRequest : ¬ Contained (echoRequest 0xffff) :=
  not_contained_of_wraps rfl (by decide) ⟨by decide, by decide, by decide⟩

end SnesModem.Asm
