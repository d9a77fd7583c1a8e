import SnesModem.Asm.OptionReads
import SnesModem.Rust.Lcp

/-!
# What LCP accepts and reads of a received frame

The parser bounds a packet by its declared Length plus the offset of the packet in the frame, a sum of
sixteen bits.

* `Accepted`: what an accepted packet satisfies, `Wraps`: the packets whose sum wraps past the check;
* `referenceAccepts_iff`: what the reference parser accepts, in terms of the frame;
* `parseFrame_congr`, `receivePacket_congr`: a packet is parsed and handled by its own octets.
-/

namespace SnesModem.Asm

open SnesModem.Lib SnesModem.Lib.Cpu65816 SnesModem.Lib.Octets
open SnesModem.Rust.ControlPacket (collectOptions parsePacket)

/-! ### The parser -/

def declaredLength (d : Decoder) : UInt16 := word (d.frameBuffer 6) (d.frameBuffer 7)

/-- The packet carries no options, and the sum of its declared Length and its offset wraps. -/
def Wraps (d : Decoder) : Prop :=
  8 ≤ d.lastFrameLength.toNat ∧ configureCode (d.frameBuffer 4) = false ∧ 2 ^ 16 - 4 ≤ (declaredLength d).toNat

/-- The variables after a packet was accepted. -/
structure Accepted (d : Decoder) (l : Lcp) : Prop where
  packetLength : l.packetLength = declaredLength d
  four_le : 4 ≤ l.packetLength.toNat
  packetEnd : l.packetEnd.toNat = l.packetLength.toNat + 4
  within : l.packetEnd.toNat ≤ d.lastFrameLength.toNat
  code : l.lastCode = d.frameBuffer 4
  identifier : l.lastIdentifier = d.frameBuffer 5
  options : configureCode l.lastCode = true →
    ∃ items, Placed d.frameBuffer 8 items ∧ 8 + span items = l.packetEnd.toNat

section Parser

variable {d d' : Decoder} {l : Lcp}

/-- The variables at `@checkAvailable`, with the end of the packet. -/
def readHeader (d : Decoder) (l : Lcp) : Lcp :=
  { l with
    receiveCount := l.receiveCount + 1
    lastCode := d.frameBuffer 4
    lastIdentifier := d.frameBuffer 5
    packetLength := declaredLength d
    packetEnd := declaredLength d + frameOffset }

/-- A frame that the parser does not drop before the options. -/
lemma parseFrame_eq (hprotocol : d.lastProtocol = protocolLcp) (hheader : 8 ≤ d.lastFrameLength.toNat)
    (hfour : 4 ≤ (declaredLength d).toNat)
    (hwithin : (declaredLength d + frameOffset).toNat ≤ d.lastFrameLength.toNat) :
    pppLcpParseFrame d l = parseOptions d (readHeader d l) := by
  have h8 : ¬ d.lastFrameLength < minimumFrameLength := by
    rw [UInt16.lt_iff_toNat_lt, show minimumFrameLength.toNat = 8 from rfl]
    omega
  have h4 : ¬ word (d.frameBuffer 6) (d.frameBuffer 7) < headerLength := by
    rw [UInt16.lt_iff_toNat_lt, show headerLength.toNat = 4 from rfl]
    show ¬ (declaredLength d).toNat < 4
    omega
  have hend : ¬ d.lastFrameLength < word (d.frameBuffer 6) (d.frameBuffer 7) + frameOffset := by
    rw [UInt16.lt_iff_toNat_lt]
    show ¬ d.lastFrameLength.toNat < (declaredLength d + frameOffset).toNat
    omega
  unfold pppLcpParseFrame
  dsimp only
  rw [if_neg (not_not.mpr hprotocol), if_neg h8, if_neg h4, if_neg hend]
  rfl

/-- A frame that the parser drops before the options. -/
lemma parseFrame_dropped (h : ¬ (d.lastProtocol = protocolLcp ∧ 8 ≤ d.lastFrameLength.toNat ∧
    4 ≤ (declaredLength d).toNat ∧ (declaredLength d + frameOffset).toNat ≤ d.lastFrameLength.toNat)) :
    (pppLcpParseFrame d l).2 = true := by
  unfold pppLcpParseFrame
  dsimp only
  split_ifs with hprotocol hheader hfour hwithin
  · rfl
  · rfl
  · rfl
  · rfl
  · rw [UInt16.lt_iff_toNat_lt] at hheader hfour hwithin
    rw [not_not] at hprotocol
    exact absurd ⟨hprotocol, Nat.le_of_not_lt hheader, Nat.le_of_not_lt hfour, Nat.le_of_not_lt hwithin⟩ h

lemma parseOptions_fst (d : Decoder) (l : Lcp) : ∃ error, (parseOptions d l).1 = { l with lastError := error } := by
  unfold parseOptions
  split_ifs
  · cases optionLoop d.frameBuffer l.packetEnd maximumTurns firstOption with
    | some error => exact ⟨error, rfl⟩
    | none => exact ⟨.none, rfl⟩
  · exact ⟨.none, rfl⟩

lemma parseOptions_snd (d : Decoder) (l : Lcp) : (parseOptions d l).2 = false ↔
    (configureCode l.lastCode = true → optionLoop d.frameBuffer l.packetEnd maximumTurns firstOption = none) := by
  unfold parseOptions
  split_ifs with hcode
  · cases optionLoop d.frameBuffer l.packetEnd maximumTurns firstOption with
    | some error => exact iff_of_false (by simp [parseFail]) (by simp [hcode])
    | none => exact iff_of_true rfl fun _ => rfl
  · exact iff_of_true rfl fun hcode' => absurd hcode' hcode

/-- The parser walks over an option area that lies inside the frame, or not at all. -/
lemma optionLoop_iff (hshort : d.lastFrameLength.toNat ≤ 1504)
    (hwithin : (declaredLength d + frameOffset).toNat ≤ d.lastFrameLength.toNat) :
    optionLoop d.frameBuffer (declaredLength d + frameOffset) maximumTurns firstOption = none ↔
      ∃ items, Placed d.frameBuffer 8 items ∧ 8 + span items = (declaredLength d + frameOffset).toNat := by
  have hfirst : firstOption.toNat = 8 := rfl
  by_cases h8 : 8 ≤ (declaredLength d + frameOffset).toNat
  · exact optionLoop_eq_none_iff (by omega) maximumTurns firstOption (by omega) (by unfold maximumTurns; omega)
  · -- The sum has wrapped, and the first comparison of the walk fails.
    refine iff_of_false ?_ ?_
    · show optionLoop d.frameBuffer _ (2 ^ 15 - 1 + 1) firstOption ≠ none
      have hne : firstOption ≠ declaredLength d + frameOffset := by
        intro heq
        rw [← heq] at h8
        omega
      have hlt : declaredLength d + frameOffset < firstOption + 2 := by
        rw [UInt16.lt_iff_toNat_lt]
        show _ < 10
        omega
      unfold optionLoop
      rw [if_neg hne, if_pos hlt]
      simp
    · rintro ⟨items, -, hspan⟩
      omega

/-- An accepted packet is one whose header is stored. -/
lemma parseFrame_eq_of_accepted (h : (pppLcpParseFrame d l).2 = false) :
    d.lastProtocol = protocolLcp ∧ 8 ≤ d.lastFrameLength.toNat ∧
      ∃ error, (pppLcpParseFrame d l).1 = { readHeader d l with lastError := error } := by
  by_cases hkept : d.lastProtocol = protocolLcp ∧ 8 ≤ d.lastFrameLength.toNat ∧
      4 ≤ (declaredLength d).toNat ∧ (declaredLength d + frameOffset).toNat ≤ d.lastFrameLength.toNat
  · obtain ⟨hprotocol, hheader, hfour, hwithin⟩ := hkept
    rw [parseFrame_eq hprotocol hheader hfour hwithin]
    exact ⟨hprotocol, hheader, parseOptions_fst d (readHeader d l)⟩
  · rw [parseFrame_dropped hkept] at h
    cases h

/-- **What an accepted packet satisfies.** -/
theorem parseFrame_accepted (hshort : d.lastFrameLength.toNat ≤ 1504) (hwraps : ¬ Wraps d)
    (h : (pppLcpParseFrame d l).2 = false) : Accepted d (pppLcpParseFrame d l).1 := by
  by_cases hkept : d.lastProtocol = protocolLcp ∧ 8 ≤ d.lastFrameLength.toNat ∧
      4 ≤ (declaredLength d).toNat ∧ (declaredLength d + frameOffset).toNat ≤ d.lastFrameLength.toNat
  · obtain ⟨hprotocol, hheader, hfour, hwithin⟩ := hkept
    rw [parseFrame_eq hprotocol hheader hfour hwithin] at h ⊢
    obtain ⟨error, hfst⟩ := parseOptions_fst d (readHeader d l)
    have hoptions := (parseOptions_snd d (readHeader d l)).mp h
    have hitems : configureCode (d.frameBuffer 4) = true →
        ∃ items, Placed d.frameBuffer 8 items ∧ 8 + span items = (declaredLength d + frameOffset).toNat :=
      fun hcode => (optionLoop_iff hshort hwithin).mp (hoptions hcode)
    have hlt := (declaredLength d).toNat_lt
    have hend : (declaredLength d + frameOffset).toNat = (declaredLength d).toNat + 4 := by
      have hsum := UInt16.toNat_add (declaredLength d) frameOffset
      rw [show frameOffset.toNat = 4 from rfl] at hsum
      cases hcode : configureCode (d.frameBuffer 4) with
      | false =>
        have hsmall : ¬ 2 ^ 16 - 4 ≤ (declaredLength d).toNat := fun hlarge => hwraps ⟨hheader, hcode, hlarge⟩
        omega
      | true =>
        obtain ⟨items, -, hspan⟩ := hitems hcode
        omega
    rw [hfst]
    exact ⟨rfl, hfour, hend, hwithin, rfl, rfl, hitems⟩
  · rw [parseFrame_dropped hkept] at h
    cases h

end Parser

/-! ### The reference parser -/

/-- The octets behind the PPP header. -/
def information (d : Decoder) : List UInt8 := read d.frameBuffer 4 (d.lastFrameLength.toNat - 4)

/-- The reference parser accepts the packet, and its options if it is a Configure packet. -/
def ReferenceAccepts (d : Decoder) : Prop :=
  ∃ packet, Rust.Lcp.Packet.parse (information d) = .ok packet ∧
    (configureCode packet.code = true → ∃ options, collectOptions Rust.Lcp.optionParseError packet.data = .ok options)

section Reference

variable {d : Decoder}

lemma parsePacket_of_short {ε : Type} (errors : Rust.ControlPacket.ParseErrors ε) {input : List UInt8}
    (h : input.length < 4) : ∃ error, parsePacket errors input = .error error := by
  match input with
  | [] => exact ⟨_, rfl⟩
  | [_] => exact ⟨_, rfl⟩
  | [_, _] => exact ⟨_, rfl⟩
  | [_, _, _] => exact ⟨_, rfl⟩
  | _ :: _ :: _ :: _ :: _ =>
    simp only [List.length_cons] at h
    omega

lemma value_declaredLength (d : Decoder) :
    BigEndian.value [d.frameBuffer 6, d.frameBuffer 7] = (declaredLength d).toNat := by
  rw [BigEndian.value_pair, declaredLength, toNat_word]

lemma information_eq (h : 8 ≤ d.lastFrameLength.toNat) : information d =
    d.frameBuffer 4 :: d.frameBuffer 5 :: d.frameBuffer 6 :: d.frameBuffer 7 ::
      read d.frameBuffer 8 (d.lastFrameLength.toNat - 8) := by
  unfold information
  have hlength : d.lastFrameLength.toNat - 4 = d.lastFrameLength.toNat - 8 + 4 := by omega
  rw [hlength, read_succ, read_succ, read_succ, read_succ]

lemma collectOptions_ok_iff (data : List UInt8) :
    (∃ options, collectOptions Rust.Lcp.optionParseError data = .ok options) ↔
      ∃ items : List Tlv.Item, data = items.flatMap Tlv.Item.encoded := by
  constructor
  · rintro ⟨options, hoptions⟩
    exact ⟨options, (Rust.ControlPacket.flatMap_of_collectOptions _ hoptions).symm⟩
  · rintro ⟨items, rfl⟩
    exact ⟨items, Rust.ControlPacket.collectOptions_flatMap _ items⟩

/-- The option area of a packet inside the frame. -/
lemma options_parse_iff (n : ℕ) : (∃ options, collectOptions Rust.Lcp.optionParseError (read d.frameBuffer 8 n) = .ok options) ↔
    ∃ items, Placed d.frameBuffer 8 items ∧ span items = n := by
  rw [collectOptions_ok_iff]
  constructor
  · rintro ⟨items, hitems⟩
    have hspan : span items = n := by
      unfold span
      rw [← hitems, length_read]
    refine ⟨items, placed_iff.mpr ?_, hspan⟩
    rw [hspan, hitems]
  · rintro ⟨items, hplaced, rfl⟩
    exact ⟨items, placed_iff.mp hplaced⟩

/-- The bounds that a control packet has in its frame. -/
def Bounded (d : Decoder) : Prop :=
  8 ≤ d.lastFrameLength.toNat ∧ 4 ≤ (declaredLength d).toNat ∧
    (declaredLength d).toNat + 4 ≤ d.lastFrameLength.toNat

section Packet

variable {ε : Type} (errors : Rust.ControlPacket.ParseErrors ε)

/-- The packet that the reference codecs read. -/
lemma parsePacket_information (h : Bounded d) : parsePacket errors (information d) =
    .ok ⟨d.frameBuffer 4, d.frameBuffer 5, read d.frameBuffer 8 ((declaredLength d).toNat - 4)⟩ := by
  obtain ⟨hheader, hfour, hwithin⟩ := h
  have h4 : Rust.ControlPacket.headerLength = 4 := rfl
  rw [information_eq hheader, Rust.ControlPacket.parsePacket_cons, value_declaredLength, length_read, h4,
    if_neg (by omega), if_neg (by omega), take_read _ _ (by omega)]

/-- A packet outside these bounds is an error of each codec. -/
lemma parsePacket_information_error (h : ¬ Bounded d) : ∃ error, parsePacket errors (information d) = .error error := by
  by_cases hheader : 8 ≤ d.lastFrameLength.toNat
  · have h4 : Rust.ControlPacket.headerLength = 4 := rfl
    rw [information_eq hheader, Rust.ControlPacket.parsePacket_cons, value_declaredLength, length_read, h4]
    by_cases hfour : (declaredLength d).toNat < 4
    · exact ⟨_, if_pos hfour⟩
    · rw [if_neg hfour]
      refine ⟨_, if_pos ?_⟩
      by_contra hwithin
      exact h ⟨hheader, by omega, by omega⟩
  · refine parsePacket_of_short errors ?_
    unfold information
    rw [length_read]
    omega

end Packet

/-- **The reference parser**, in terms of the frame. -/
theorem referenceAccepts_iff : ReferenceAccepts d ↔ 8 ≤ d.lastFrameLength.toNat ∧ 4 ≤ (declaredLength d).toNat ∧
    (declaredLength d).toNat + 4 ≤ d.lastFrameLength.toNat ∧ (configureCode (d.frameBuffer 4) = true →
      ∃ items, Placed d.frameBuffer 8 items ∧ 8 + span items = (declaredLength d).toNat + 4) := by
  unfold ReferenceAccepts Rust.Lcp.Packet.parse
  by_cases hbounded : Bounded d
  · rw [parsePacket_information _ hbounded]
    obtain ⟨hheader, hfour, hwithin⟩ := hbounded
    have hoptions := options_parse_iff (d := d) ((declaredLength d).toNat - 4)
    have hspan (items : List Tlv.Item) : span items = (declaredLength d).toNat - 4 ↔
        8 + span items = (declaredLength d).toNat + 4 := by omega
    simp only [hspan] at hoptions
    constructor
    · rintro ⟨packet, hpacket, hconfigure⟩
      cases hpacket
      exact ⟨hheader, hfour, hwithin, fun hcode => hoptions.mp (hconfigure hcode)⟩
    · rintro ⟨-, -, -, hconfigure⟩
      exact ⟨_, rfl, fun hcode => hoptions.mpr (hconfigure hcode)⟩
  · obtain ⟨error, herror⟩ := parsePacket_information_error Rust.Lcp.parseErrors hbounded
    refine iff_of_false ?_ fun h => hbounded ⟨h.1, h.2.1, h.2.2.1⟩
    rintro ⟨packet, hpacket, -⟩
    rw [herror] at hpacket
    cases hpacket

end Reference

/-! ### Frames with the same packet -/

/-- The end of the received packet, or of its header if that is more, in the frame. -/
def extent (d : Decoder) : ℕ := min d.lastFrameLength.toNat (max 8 ((declaredLength d).toNat + 4))

/-- Two frame buffers with the same packet, and anything behind it. -/
structure SamePacket (d d' : Decoder) : Prop where
  lastProtocol : d'.lastProtocol = d.lastProtocol
  lastFrameLength : d'.lastFrameLength = d.lastFrameLength
  agree : Agree (extent d) d.frameBuffer d'.frameBuffer

section Receive

variable {d d' : Decoder} {l : Lcp}

lemma optionLoop_congr {buffer buffer' : Buffer} {packetEnd : UInt16} (hagree : Agree packetEnd.toNat buffer buffer')
    (hend : packetEnd.toNat < 2 ^ 15) (turns : ℕ) (x : UInt16) (hx : x.toNat < 2 ^ 15) :
    optionLoop buffer' packetEnd turns x = optionLoop buffer packetEnd turns x := by
  induction turns generalizing x with
  | zero => rfl
  | succ turns ih =>
    have htwo : (x + 2).toNat = x.toNat + 2 := toNat_add_of_lt (show x.toNat + 2 < 2 ^ 16 by omega)
    unfold optionLoop
    by_cases hdone : x = packetEnd
    · rw [if_pos hdone, if_pos hdone]
    rw [if_neg hdone, if_neg hdone]
    by_cases hheader : packetEnd < x + 2
    · rw [if_pos hheader, if_pos hheader]
    rw [if_neg hheader, if_neg hheader]
    rw [UInt16.lt_iff_toNat_lt] at hheader
    have hlength : optionLength buffer' x = optionLength buffer x := by
      unfold optionLength
      rw [hagree (x.toNat + 1) (by omega)]
    rw [hlength]
    split_ifs with hshort hover
    · rfl
    · rfl
    · rw [UInt16.lt_iff_toNat_lt] at hover
      exact ih _ (by omega)

/-- The parser reads the packet only. -/
lemma parseFrame_congr (hshort : d.lastFrameLength.toNat ≤ 1504) (hsame : SamePacket d d') :
    pppLcpParseFrame d' l = pppLcpParseFrame d l := by
  obtain ⟨hprotocol, hlength, hagree⟩ := hsame
  unfold pppLcpParseFrame
  dsimp only
  rw [hprotocol, hlength]
  by_cases hwrong : d.lastProtocol ≠ protocolLcp
  · rw [if_pos hwrong, if_pos hwrong]
  rw [if_neg hwrong, if_neg hwrong]
  by_cases hheader : d.lastFrameLength < minimumFrameLength
  · rw [if_pos hheader, if_pos hheader]
  rw [if_neg hheader, if_neg hheader]
  rw [UInt16.lt_iff_toNat_lt] at hheader
  have h8 : 8 ≤ extent d := by
    have : minimumFrameLength.toNat = 8 := rfl
    unfold extent
    omega
  rw [← hagree 4 (by omega), ← hagree 5 (by omega), ← hagree 6 (by omega), ← hagree 7 (by omega)]
  split_ifs with hfour hwithin
  · rfl
  · rfl
  · rw [UInt16.lt_iff_toNat_lt] at hwithin
    have hsum := UInt16.toNat_add (word (d.frameBuffer 6) (d.frameBuffer 7)) frameOffset
    have h4 : frameOffset.toNat = 4 := rfl
    have hextent : (word (d.frameBuffer 6) (d.frameBuffer 7) + frameOffset).toNat ≤ extent d := by
      unfold extent declaredLength
      omega
    unfold parseOptions
    dsimp only
    rw [optionLoop_congr (hagree.mono hextent) (by omega) _ _ (by decide)]

/-! #### Accepted packets -/

lemma toNat_lastCode {value : UInt8} {n : ℕ} (h : value.toNat = n) (hn : 1 ≤ n ∧ n < 5) : configureCode value = true := by
  unfold configureCode
  simp only [decide_eq_true_eq, UInt8.le_iff_toNat_le, UInt8.lt_iff_toNat_lt, h]
  exact hn

variable (ha : Accepted d l) (hagree : Agree l.packetEnd.toNat d.frameBuffer d'.frameBuffer)

include ha hagree

lemma receiveConfigureAck_congr : receiveConfigureAck d' l = receiveConfigureAck d l := by
  have hvalid : ackValid d' l = ackValid d l := by
    unfold ackValid
    by_cases hlength : l.packetLength = headerLength + 6
    · have hend : l.packetEnd.toNat = 14 := by
        rw [ha.packetEnd, hlength]
        rfl
      rw [hagree 8 (by omega), hagree 9 (by omega), hagree.read (by omega)]
    · simp only [hlength, false_and]
  unfold receiveConfigureAck
  rw [hvalid]

lemma receiveEchoRequest_congr : receiveEchoRequest d' l = receiveEchoRequest d l := by
  unfold receiveEchoRequest
  by_cases hlength : l.packetLength < headerLength + 4
  · rw [if_pos hlength, if_pos hlength]
  · have hend := ha.packetEnd
    rw [UInt16.lt_iff_toNat_lt] at hlength
    have h8 : (headerLength + 4).toNat = 8 := rfl
    rw [hagree.read (by omega)]

variable (hshort : d.lastFrameLength.toNat ≤ 1504)

include hshort

lemma receiveConfigureRequest_congr (hcode : (d.frameBuffer 4).toNat = 1) :
    receiveConfigureRequest d' l = receiveConfigureRequest d l := by
  have hwithin := ha.within
  obtain ⟨items, hplaced, hspan⟩ := ha.options (by rw [ha.code]; exact toNat_lastCode hcode (by decide))
  unfold receiveConfigureRequest
  rw [evaluatePeerRequest_congr hplaced hspan hagree (by omega)]

lemma receiveConfigureNegative_congr (hcode : (d.frameBuffer 4).toNat = 3 ∨ (d.frameBuffer 4).toNat = 4) :
    receiveConfigureNegative d' l = receiveConfigureNegative d l := by
  have hwithin := ha.within
  have hconfigure : configureCode l.lastCode = true := by
    rw [ha.code]
    rcases hcode with hcode | hcode
    · exact toNat_lastCode hcode (by decide)
    · exact toNat_lastCode hcode (by decide)
  obtain ⟨items, hplaced, hspan⟩ := ha.options hconfigure
  unfold receiveConfigureNegative
  rw [applyNegativeOptions_congr hplaced hspan hagree (by omega)]

/-- **A received packet** is handled by its octets only. -/
theorem receivePacket_congr : receivePacket d' l = receivePacket d l := by
  have hfour := ha.four_le
  have hend := ha.packetEnd
  unfold receivePacket
  rw [← hagree 4 (by omega)]
  split_ifs with hclosed
  · rfl
  · split
    · exact receiveConfigureRequest_congr ha hagree hshort (by assumption)
    · exact receiveConfigureAck_congr ha hagree
    · exact receiveConfigureNegative_congr ha hagree hshort (Or.inl (by assumption))
    · exact receiveConfigureNegative_congr ha hagree hshort (Or.inr (by assumption))
    · rfl
    · rfl
    · rfl
    · rfl
    · exact receiveEchoRequest_congr ha hagree
    · rfl
    · rfl
    · rfl

end Receive

end SnesModem.Asm
