import SnesModem.Asm.ChapSteps
import SnesModem.Asm.LcpPacketBounds
import SnesModem.Rust.Chap

/-!
# The CHAP parser against the reference

* `Agrees`: a frame is accepted as a Challenge exactly if the reference accepts it, with the same fields, and one that
  is refused leaves the Challenge and the state;
* `Regular`: what the frame and the client have to be for that;
* `agrees_iff`: the one is the other.
-/

namespace SnesModem.Asm.ChapRefinement

open SnesModem.Lib.Cpu65816 SnesModem.Lib.Octets SnesModem.Rust.Chap

/-! ### The reference -/

/-- The octets that the reference reads are a Challenge with a value that the buffer has room for. -/
def Reads (d : Decoder) (packet : Packet) (value : ValuePacket) : Prop :=
  Packet.parse (information d) = .ok packet ∧ packet.code = .challenge ∧ packet.valuePacket = .ok value ∧
    1 ≤ value.value.length ∧ value.value.length ≤ maximumChallengeLength

/-- The Value-Size and the Length in the frame buffer. -/
def valueSize (d : Decoder) : ℕ := (d.frameBuffer 8).toNat

def packetLength (d : Decoder) : ℕ := (chapLength d).toNat

section Reference

variable {d : Decoder} {packet : Packet} {value : ValuePacket}

lemma valuePacket_read (code : Code) (identifier : UInt8) (buffer : Buffer) (n : ℕ) :
    (Packet.mk code identifier (read buffer 8 (n + 1))).valuePacket =
      if n < (buffer 8).toNat then .error .truncatedValue
      else .ok ⟨read buffer 9 (buffer 8).toNat, read buffer (9 + (buffer 8).toNat) (n - (buffer 8).toNat)⟩ := by
  have hsplit : read buffer 8 (n + 1) = buffer 8 :: read buffer 9 n := read_succ _ _ _
  unfold Packet.valuePacket
  dsimp only
  rw [hsplit]
  dsimp only
  rw [List.length_cons, length_read]
  by_cases hshort : n < (buffer 8).toNat
  · rw [if_pos (by omega), if_pos hshort]
  · obtain ⟨k, rfl⟩ := Nat.exists_eq_add_of_le (Nat.not_lt.mp hshort)
    rw [if_neg (by omega), if_neg hshort, read_append, List.take_left' (length_read _ _ _),
      List.drop_left' (length_read _ _ _), Nat.add_sub_cancel_left]

/-- **What the reference reads.** -/
theorem reads_iff : Reads d packet value ↔
    Bounded d ∧ d.frameBuffer 4 = 1 ∧ valueSize d + 5 ≤ packetLength d ∧ 1 ≤ valueSize d ∧ valueSize d ≤ 64 ∧
      packet = ⟨.challenge, d.frameBuffer 5, read d.frameBuffer 8 (packetLength d - 4)⟩ ∧
      value = ⟨read d.frameBuffer 9 (valueSize d),
        read d.frameBuffer (9 + valueSize d) (packetLength d - (valueSize d + 5))⟩ := by
  by_cases hbounded : Bounded d
  · have hfour : 4 ≤ packetLength d := hbounded.2.1
    have hrefused (hcode : Code.fromOctet (d.frameBuffer 4) = none) :
        Packet.parse (information d) = .error .unsupportedCode := by
      unfold Packet.parse
      rw [parsePacket_information _ hbounded]
      dsimp only
      rw [hcode]
    have hparse (code : Code) (hcode : Code.fromOctet (d.frameBuffer 4) = some code) :
        Packet.parse (information d) = .ok ⟨code, d.frameBuffer 5, read d.frameBuffer 8 (packetLength d - 4)⟩ := by
      unfold Packet.parse
      rw [parsePacket_information _ hbounded]
      dsimp only
      rw [hcode]
      rfl
    constructor
    · rintro ⟨hpacket, hchallenge, hvalue, hpos, hle⟩
      cases hcode : Code.fromOctet (d.frameBuffer 4) with
      | none =>
        rw [hrefused hcode] at hpacket
        cases hpacket
      | some code =>
        rw [hparse code hcode] at hpacket
        cases hpacket
        obtain rfl : code = .challenge := hchallenge
        obtain hempty | ⟨n, hn⟩ : packetLength d - 4 = 0 ∨ ∃ n, packetLength d - 4 = n + 1 := by
          cases packetLength d - 4 with
          | zero => exact Or.inl rfl
          | succ n => exact Or.inr ⟨n, rfl⟩
        · rw [hempty] at hvalue
          cases hvalue
        rw [hn, valuePacket_read] at hvalue
        by_cases hshort : n < (d.frameBuffer 8).toNat
        · rw [if_pos hshort] at hvalue
          cases hvalue
        rw [if_neg hshort] at hvalue
        cases hvalue
        rw [length_read] at hpos hle
        have hsize : valueSize d = (d.frameBuffer 8).toNat := rfl
        have hrest : n - (d.frameBuffer 8).toNat = packetLength d - (valueSize d + 5) := by omega
        rw [hrest]
        exact ⟨hbounded, Code.fromOctet_eq_challenge_iff.mp hcode, by omega, hpos, hle, rfl, rfl⟩
    · rintro ⟨-, hcode, hwithin, hpos, hle, rfl, rfl⟩
      have hparsed := hparse _ (Code.fromOctet_eq_challenge_iff.mpr hcode)
      have hn : packetLength d - 4 = packetLength d - 5 + 1 := by omega
      have hsize : valueSize d = (d.frameBuffer 8).toNat := rfl
      refine ⟨hparsed, rfl, ?_, by rwa [length_read], by rwa [length_read]⟩
      rw [hn, valuePacket_read, if_neg (by omega), ← hsize,
        show packetLength d - 5 - valueSize d = packetLength d - (valueSize d + 5) by omega]
  · refine iff_of_false ?_ fun h => hbounded h.1
    rintro ⟨hpacket, -⟩
    obtain ⟨error, herror⟩ := parsePacket_information_error parseErrors hbounded
    unfold Packet.parse at hpacket
    rw [herror] at hpacket
    cases hpacket

end Reference

/-! ### The parser -/

/-- The packet was taken as a Challenge. -/
def Accepted (h' : Chap) : Prop := h'.lastError = .none ∧ h'.lastCode = 1

/-- What is stored of a Challenge, and the state. -/
def Untouched (h h' : Chap) : Prop :=
  h'.challenge = h.challenge ∧ h'.challengeLength = h.challengeLength ∧ h'.state = h.state

/-- The Challenge in the buffer is stored, and its Response pending. -/
def stored (d : Decoder) (h : Chap) : Chap :=
  { chapHeader d h with
    challengeLength := d.frameBuffer 8
    peerNameLength := low (chapLength d - (chapHeaderLength + 1)) - d.frameBuffer 8
    challenge := write h.challenge 0 (read d.frameBuffer 9 (valueSize d))
    lastError := .none
    state := .responsePending }

/-- The value does not lie in the packet, which is found when its length is stored already. -/
def cutShort (d : Decoder) (h : Chap) : Chap :=
  { chapHeader d h with challengeLength := d.frameBuffer 8, lastError := .valueTruncated }

/-- A Challenge, complete but for its value, that the client would take. -/
structure Offered (d : Decoder) (h : Chap) : Prop where
  state : h.state.acceptsChallenge = true
  complete : completeChap d = true
  code : d.frameBuffer 4 = 1
  present : 5 ≤ packetLength d
  pos : 1 ≤ valueSize d
  le : valueSize d ≤ 64

section Parser

variable {d : Decoder} {c : Credentials} {h : Chap}

lemma receiveFrame_offered (hoffered : Offered d h) :
    (pppChapReceiveFrame d c h).1 = if valueSize d + 5 ≤ packetLength d then stored d h else cutShort d h := by
  have hpresent : ¬ chapLength d < chapHeaderLength + 1 := by
    rw [UInt16.lt_iff_toNat_lt]
    show ¬ packetLength d < 5
    exact Nat.not_lt.mpr hoffered.present
  have hpos := hoffered.pos
  have hle := hoffered.le
  have hzero : d.frameBuffer 8 ≠ 0 := fun hzero => by
    unfold valueSize at hpos
    rw [hzero] at hpos
    exact absurd hpos (by decide)
  have hsum : (d.frameBuffer 8).toUInt16 + (chapHeaderLength + 1) ≤ chapLength d ↔
      valueSize d + 5 ≤ packetLength d := by
    rw [UInt16.le_iff_toNat_le, toNat_add_of_lt, UInt8.toNat_toUInt16]
    · rfl
    · rw [UInt8.toNat_toUInt16]
      show valueSize d + 5 < _
      omega
  rw [receiveFrame_complete hoffered.complete, dispatchChap_code_one hoffered.code]
  unfold receiveChallenge
  dsimp only
  have hstate : ¬ (!(chapHeader d h).state.acceptsChallenge) = true := by
    rw [show (chapHeader d h).state = h.state from rfl, hoffered.state]
    decide
  have hlong : ¬ maximumChallengeLength + 1 ≤ (d.frameBuffer 8).toNat := Nat.not_le.mpr (Nat.lt_succ_of_le hle)
  rw [show (chapHeader d h).packetLength = chapLength d from rfl, if_neg hstate, if_neg hpresent, if_neg hzero,
    if_neg hlong]
  by_cases hwithin : valueSize d + 5 ≤ packetLength d
  · rw [if_pos hwithin, if_neg (UInt16.not_lt.mpr (hsum.mpr hwithin))]
    rfl
  · rw [if_neg hwithin, if_pos (UInt16.not_le.mp (mt hsum.mp hwithin))]
    rfl

/-- Other packets are no Challenges, and an error leaves what is stored. -/
lemma receiveFrame_other (hprotocol : d.lastProtocol = protocolChap) (hother : ¬ Offered d h) :
    ¬ Accepted (pppChapReceiveFrame d c h).1 ∧
      ((pppChapReceiveFrame d c h).1.lastError ≠ .none → Untouched h (pppChapReceiveFrame d c h).1) := by
  have herror (h' : Chap) (error : ChapError) (hne : error ≠ .none) (hkept : Untouched h h') :
      ¬ Accepted (chapReturnError h' error) ∧
        ((chapReturnError h' error).lastError ≠ .none → Untouched h (chapReturnError h' error)) :=
    ⟨fun haccepted => hne haccepted.1, fun _ => hkept⟩
  have hkept : Untouched h (chapHeader d h) := ⟨rfl, rfl, rfl⟩
  cases hcomplete : completeChap d with
  | false =>
    have hnot := of_decide_eq_false hcomplete
    unfold pppChapReceiveFrame
    dsimp only
    rw [if_neg (by simp [hprotocol])]
    by_cases hheader : d.lastFrameLength < minimumFrameLength
    · rw [if_pos hheader]
      exact herror _ _ (by decide) ⟨rfl, rfl, rfl⟩
    rw [if_neg hheader]
    by_cases hlength : word (d.frameBuffer 6) (d.frameBuffer 7) < chapHeaderLength
    · rw [if_pos hlength]
      exact herror _ _ (by decide) ⟨rfl, rfl, rfl⟩
    rw [if_neg hlength]
    by_cases hwithin : d.lastFrameLength < word (d.frameBuffer 6) (d.frameBuffer 7) + frameOffset
    · rw [if_pos hwithin]
      exact herror _ _ (by decide) ⟨rfl, rfl, rfl⟩
    · exact absurd ⟨hprotocol, UInt16.not_lt.mp hheader, UInt16.not_lt.mp hlength, UInt16.not_lt.mp hwithin⟩ hnot
  | true =>
    rw [receiveFrame_complete hcomplete]
    by_cases hcode : d.frameBuffer 4 = 1
    · rw [dispatchChap_code_one hcode]
      unfold receiveChallenge
      dsimp only
      rw [show (chapHeader d h).packetLength = chapLength d from rfl]
      by_cases hstate : h.state.acceptsChallenge = true
      · rw [if_neg (by rw [show (chapHeader d h).state = h.state from rfl, hstate]; decide)]
        by_cases hpresent : chapLength d < chapHeaderLength + 1
        · rw [if_pos hpresent]
          exact herror _ _ (by decide) hkept
        rw [if_neg hpresent]
        by_cases hzero : d.frameBuffer 8 = 0
        · rw [if_pos hzero]
          exact herror _ _ (by decide) hkept
        rw [if_neg hzero]
        by_cases hlong : maximumChallengeLength + 1 ≤ (d.frameBuffer 8).toNat
        · rw [if_pos hlong]
          exact herror _ _ (by decide) hkept
        · refine absurd ⟨hstate, hcomplete, hcode, ?_, ?_, ?_⟩ hother
          · rw [UInt16.lt_iff_toNat_lt] at hpresent
            exact Nat.not_lt.mp hpresent
          · exact octet_pos hzero
          · exact Nat.lt_succ_iff.mp (Nat.not_le.mp hlong)
      · rw [if_pos (by rw [show (chapHeader d h).state = h.state from rfl]; simpa using hstate)]
        exact herror _ _ (by decide) hkept
    · have hresult : ¬ Accepted (receiveResult c (chapHeader d h)).1 ∧
          ((receiveResult c (chapHeader d h)).1.lastError ≠ .none → Untouched h (receiveResult c (chapHeader d h)).1) := by
        unfold receiveResult
        dsimp only
        split_ifs
        · exact herror _ _ (by decide) hkept
        · exact herror _ _ (by decide) hkept
        · exact ⟨fun haccepted => hcode haccepted.2, fun hne => absurd rfl hne⟩
        · exact ⟨fun haccepted => hcode haccepted.2, fun hne => absurd rfl hne⟩
      unfold dispatchChap
      split
      · rename_i hone
        exact absurd (UInt8.toNat_inj.mp hone) hcode
      · exact hresult
      · exact hresult
      · exact herror _ _ (by decide) hkept

end Parser

/-! ### Agreement -/

/-- **Agreement** of the parser and the reference on a frame, for a client. -/
structure Agrees (d : Decoder) (c : Credentials) (h : Chap) : Prop where
  /-- The frame is accepted as a Challenge, in a state that allows it, exactly if the reference accepts it. -/
  accepted_iff : Accepted (pppChapReceiveFrame d c h).1 ↔
    h.state.acceptsChallenge = true ∧ ∃ packet value, Reads d packet value
  /-- The fields of an accepted Challenge are those of the reference. -/
  fields : Accepted (pppChapReceiveFrame d c h).1 → ∀ packet value, Reads d packet value →
    (pppChapReceiveFrame d c h).1.lastIdentifier = packet.identifier ∧
      read (pppChapReceiveFrame d c h).1.challenge 0 (pppChapReceiveFrame d c h).1.challengeLength.toNat = value.value ∧
      (pppChapReceiveFrame d c h).1.peerNameLength.toNat = value.name.length
  /-- A frame that is refused changes nothing that is stored of a Challenge, nor the state. -/
  refused : (pppChapReceiveFrame d c h).1.lastError ≠ .none → Untouched h (pppChapReceiveFrame d c h).1

/-- The Challenges on which the parser agrees: if the client would take one with a Value-Size from 1 to 64, its Length
plus the PPP header fits sixteen bits; and if it is all received, then its name has no more than 255 octets, or its
value is cut short and the stored length is its Value-Size already. -/
def Regular (d : Decoder) (h : Chap) : Prop :=
  h.state.acceptsChallenge = true → d.frameBuffer 4 = 1 → 8 ≤ d.lastFrameLength.toNat →
    1 ≤ valueSize d → valueSize d ≤ 64 →
    packetLength d < 65532 ∧
      (Bounded d → 5 ≤ packetLength d →
        if valueSize d + 5 ≤ packetLength d then packetLength d < valueSize d + 5 + 256
        else h.challengeLength = d.frameBuffer 8)

section Agreement

variable {d : Decoder} {c : Credentials} {h : Chap}

/-- A packet is complete if it is, or if its Length wraps around. -/
lemma completeChap_iff (hprotocol : d.lastProtocol = protocolChap) : completeChap d = true ↔
    8 ≤ d.lastFrameLength.toNat ∧ 4 ≤ packetLength d ∧ (Bounded d ∨ 65532 ≤ packetLength d) := by
  have hlt : packetLength d < 65536 := (chapLength d).toNat_lt
  have hframe := d.lastFrameLength.toNat_lt
  have hbounded : Bounded d ↔ 8 ≤ d.lastFrameLength.toNat ∧ 4 ≤ packetLength d ∧
      packetLength d + 4 ≤ d.lastFrameLength.toNat := Iff.rfl
  have hsum : (chapLength d + frameOffset).toNat = (packetLength d + 4) % 65536 := UInt16.toNat_add _ _
  unfold completeChap
  rw [decide_eq_true_iff, UInt16.le_iff_toNat_le, UInt16.le_iff_toNat_le, UInt16.le_iff_toNat_le, hsum]
  show _ ∧ 8 ≤ d.lastFrameLength.toNat ∧ 4 ≤ packetLength d ∧ _ ↔ _
  rw [hbounded]
  constructor
  · rintro ⟨-, hheader, hfour, hwithin⟩
    refine ⟨hheader, hfour, ?_⟩
    omega
  · rintro ⟨hheader, hfour, hcase⟩
    exact ⟨hprotocol, hheader, hfour, by omega⟩

lemma toNat_peerNameLength (hwithin : valueSize d + 5 ≤ packetLength d) :
    (stored d h).peerNameLength.toNat = (packetLength d - (valueSize d + 5)) % 256 := by
  have hlt : packetLength d < 65536 := (chapLength d).toNat_lt
  have hsize : valueSize d < 256 := (d.frameBuffer 8).toNat_lt
  have hminus : (chapLength d - (chapHeaderLength + 1)).toNat = packetLength d - 5 := by
    rw [UInt16.toNat_sub]
    show (65536 - 5 + packetLength d) % 65536 = _
    omega
  show (low (chapLength d - (chapHeaderLength + 1)) - d.frameBuffer 8).toNat = _
  rw [UInt8.toNat_sub, toNat_low, hminus]
  show (256 - valueSize d + (packetLength d - 5) % 256) % 256 = _
  omega

/-- A Challenge that is read by the reference is one that the client would take. -/
lemma offered_of_reads {packet : Packet} {value : ValuePacket} (hprotocol : d.lastProtocol = protocolChap)
    (hstate : h.state.acceptsChallenge = true) (hreads : Reads d packet value) : Offered d h := by
  obtain ⟨hbounded, hcode, hwithin, hpos, hle, -, -⟩ := reads_iff.mp hreads
  exact ⟨hstate, (completeChap_iff hprotocol).mpr ⟨hbounded.1, hbounded.2.1, Or.inl hbounded⟩, hcode, by omega, hpos, hle⟩

lemma accepted_stored (hcode : d.frameBuffer 4 = 1) : Accepted (stored d h) := ⟨rfl, hcode⟩

lemma not_accepted_cutShort : ¬ Accepted (cutShort d h) := fun haccepted => by
  cases haccepted.1

/-- **The frames on which the parser agrees with the reference** are the regular ones. -/
theorem agrees_iff (d : Decoder) (c : Credentials) (h : Chap) (hprotocol : d.lastProtocol = protocolChap) :
    Agrees d c h ↔ Regular d h := by
  have hlt : packetLength d < 65536 := (chapLength d).toNat_lt
  have hframe := d.lastFrameLength.toNat_lt
  by_cases hoffered : Offered d h
  · have hframeEq := receiveFrame_offered (c := c) hoffered
    obtain ⟨hheader, hfour, hcase⟩ := (completeChap_iff hprotocol).mp hoffered.complete
    have hpresent := hoffered.present
    have hpos := hoffered.pos
    have hle := hoffered.le
    have hregular : Regular d h ↔ packetLength d < 65532 ∧
        (Bounded d → if valueSize d + 5 ≤ packetLength d then packetLength d < valueSize d + 5 + 256
          else h.challengeLength = d.frameBuffer 8) :=
      ⟨fun hregular => (hregular hoffered.state hoffered.code hheader hpos hle).imp_right fun hrest hbounded =>
          hrest hbounded hpresent,
        fun hrest _ _ _ _ _ => hrest.imp_right fun hrest hbounded _ => hrest hbounded⟩
    rw [hregular]
    by_cases hwithin : valueSize d + 5 ≤ packetLength d
    · rw [if_pos hwithin] at hframeEq ⊢
      constructor
      · intro hagrees
        obtain ⟨-, packet, value, hreads⟩ := hagrees.accepted_iff.mp (hframeEq ▸ accepted_stored hoffered.code)
        obtain ⟨hbounded, -, -, -, -, -, hvalue⟩ := reads_iff.mp hreads
        have hname := (hagrees.fields (hframeEq ▸ accepted_stored hoffered.code) packet value hreads).2.2
        rw [hframeEq, toNat_peerNameLength hwithin, hvalue, length_read] at hname
        have hspan : packetLength d + 4 ≤ d.lastFrameLength.toNat := hbounded.2.2
        exact ⟨by omega, fun _ => by omega⟩
      · rintro ⟨hsmall, hrest⟩
        have hbounded : Bounded d := hcase.resolve_right (by omega)
        have hname := hrest hbounded
        refine ⟨?_, ?_, ?_⟩
        · rw [hframeEq]
          exact iff_of_true (accepted_stored hoffered.code) ⟨hoffered.state, _, _,
            reads_iff.mpr ⟨hbounded, hoffered.code, hwithin, hpos, hle, rfl, rfl⟩⟩
        · intro _ packet value hreads
          obtain ⟨-, -, -, -, -, rfl, rfl⟩ := reads_iff.mp hreads
          have hread := read_write h.challenge 0 (read d.frameBuffer 9 (valueSize d))
          rw [length_read] at hread
          rw [hframeEq, toNat_peerNameLength hwithin, length_read, Nat.mod_eq_of_lt (by omega)]
          exact ⟨rfl, hread, rfl⟩
        · rw [hframeEq]
          exact fun herror => absurd rfl herror
    · rw [if_neg hwithin] at hframeEq ⊢
      have hbounded : Bounded d := hcase.resolve_right (by omega)
      constructor
      · intro hagrees
        have hkept := hagrees.refused (by rw [hframeEq]; exact fun h => by cases h)
        rw [hframeEq] at hkept
        exact ⟨by omega, fun _ => hkept.2.1.symm⟩
      · rintro ⟨-, hrest⟩
        refine ⟨?_, ?_, ?_⟩
        · rw [hframeEq]
          refine iff_of_false not_accepted_cutShort ?_
          rintro ⟨-, packet, value, hreads⟩
          exact hwithin (reads_iff.mp hreads).2.2.1
        · rw [hframeEq]
          exact fun haccepted => absurd haccepted not_accepted_cutShort
        · rw [hframeEq]
          exact fun _ => ⟨rfl, (hrest hbounded).symm, rfl⟩
  · obtain ⟨hrefused, huntouched⟩ := receiveFrame_other (c := c) hprotocol hoffered
    refine iff_of_true ⟨iff_of_false hrefused ?_, fun haccepted => absurd haccepted hrefused, huntouched⟩ ?_
    · rintro ⟨hstate, packet, value, hreads⟩
      exact hoffered (offered_of_reads hprotocol hstate hreads)
    · intro hstate hcode hheader hpos hle
      have hincomplete : completeChap d = true → packetLength d < 5 := fun hcomplete => by
        by_contra hpresent
        exact hoffered ⟨hstate, hcomplete, hcode, by omega, hpos, hle⟩
      rw [completeChap_iff hprotocol] at hincomplete
      refine ⟨?_, fun hbounded hpresent => ?_⟩
      · by_contra hwrap
        have := hincomplete ⟨hheader, by omega, Or.inr (by omega)⟩
        omega
      · have := hincomplete ⟨hheader, by omega, Or.inl hbounded⟩
        omega

/-- A frame with a Challenge that declares the Length and the Value-Size, and the client it comes to. -/
def challengeFrame (frameLength length : UInt16) (size : UInt8) : Decoder :=
  { (default : Decoder) with
    lastFrameLength := frameLength
    lastProtocol := protocolChap
    frameBuffer := write default 0 [0xff, 0x03, 0xc2, 0x23, 1, 7, high length, low length, size, 0xaa, 0x6e] }

def waitingClient : Chap := { (default : Chap) with state := .waitingChallenge }

/-- A Challenge of a value and a name of one octet each. -/
theorem agrees_iff_short : Agrees (challengeFrame 11 7 1) default waitingClient :=
  (agrees_iff (challengeFrame 11 7 1) default waitingClient rfl).mpr fun _ _ _ _ _ => ⟨by decide, fun _ _ => by decide⟩

/-- A Length of 65535 is accepted in a frame of eleven octets, a name of 256 octets is reported as an empty one, and a
value that is cut short changes the stored length. -/
theorem challenges_disagree : ¬ Agrees (challengeFrame 11 0xffff 1) default waitingClient ∧
    ¬ Agrees (challengeFrame 266 262 1) default waitingClient ∧
    ¬ Agrees (challengeFrame 11 7 64) default waitingClient := by
  refine ⟨fun hagrees => ?_, fun hagrees => ?_, fun hagrees => ?_⟩
  · obtain ⟨-, packet, value, hreads⟩ := hagrees.accepted_iff.mp ⟨by decide, by decide⟩
    exact absurd (reads_iff.mp hreads).1.2.2 (by decide)
  · have hname := (hagrees.fields ⟨by decide, by decide⟩ _ _
      (reads_iff.mpr ⟨⟨by decide, by decide, by decide⟩, by decide, by decide, by decide, by decide, rfl, rfl⟩)).2.2
    rw [length_read] at hname
    exact absurd hname (by decide)
  · have hlength := (hagrees.refused (by decide)).2.1
    exact absurd hlength (by decide)

end Agreement

end SnesModem.Asm.ChapRefinement
