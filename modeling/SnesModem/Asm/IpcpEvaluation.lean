import SnesModem.Asm.FrameLengths
import SnesModem.Asm.LcpEvaluation
import SnesModem.Rust.Ipcp

/-!
# The evaluation of an IPCP Configure-Request refines the reference

As with LCP, the option maps are indexed by the types alone as long as the packet ends before octet 256 of its frame.

* `classifyPeerOption_eq`: one option;
* `classifyOption_foldl`, `commitOption_foldl`, `buildOption_foldl`: the passes over the options;
* `evaluatePeerRequest_eq`: the disposition and the peer's address are those of the reference;
* `buildIpcpAction_response`: the frame of the response carries the packet of the reference.
-/

namespace SnesModem.Asm.IpcpEvaluation

open SnesModem.Lib SnesModem.Lib.Cpu65816 SnesModem.Lib.Octets
open SnesModem.Rust.ControlPacket (ConfigurationOption collectOptions collectOptions_flatMap duplicateTypeMap markType)
open SnesModem.Rust.Ipcp (Ipv4Address addressOfData encodeAddressOption knownType optionParseError unspecifiedAddress)
open SnesModem.Rust.Ipcp.Client (OptionDisposition PeerEvaluation evaluateOption evaluatePeerRequest)

/-- An address, as the reference has it. -/
def reference (address : Address) : Ipv4Address := ⟨address.a, address.b, address.c, address.d⟩

lemma reference_inj {a b : Address} : reference a = reference b ↔ a = b := by
  constructor
  · intro h
    cases a
    cases b
    cases h
    rfl
  · rintro rfl
    rfl

lemma reference_zero {a : Address} : reference a = unspecifiedAddress ↔ a = .zero := reference_inj (b := .zero)

/-- The address that both clients prefer for the peer. -/
abbrev preferred : Ipv4Address := reference defaultPeerAddress

/-- The disposition of an option, without the replacement that a Nak suggests. -/
def dispositionOf : OptionDisposition → Disposition
  | .ack => .ack
  | .nak _ => .nak
  | .reject => .reject

/-- What the reference finds for an option: its disposition, and the address that it names. -/
def evaluated (duplicates : UInt8 → Bool) (option : ConfigurationOption) : OptionDisposition × Option Ipv4Address :=
  if duplicates option.type then (.reject, none) else evaluateOption preferred option

/-! ### One option -/

section One

variable {buffer ram : Buffer} {y : UInt16} {item : Tlv.Item} {items : List Tlv.Item}

lemma addressOfData_placed (hplaced : Placed buffer y.toNat [item]) (h : item.data.length = 4) :
    addressOfData item.data = some (reference (readAddress buffer (y.toNat + 2))) := by
  rw [data_four hplaced h]
  rfl

lemma addressOfData_eq_none {data : List UInt8} (h : data.length ≠ 4) : addressOfData data = none := by
  unfold addressOfData
  split
  · exact absurd rfl h
  · rfl

lemma length_eq_six (hplaced : Placed buffer y.toNat [item]) :
    buffer (y.toNat + 1) = addressOptionLength ↔ item.data.length = 4 := octet_one_eq_iff hplaced (by omega)

lemma knownType_eq_ipAddress : knownType item = some .ipAddress ↔ item.type = 3 := by
  unfold knownType
  constructor
  · intro h
    apply UInt8.toNat_inj.mp
    unfold Rust.Ipcp.OptionType.fromOctet at h
    split at h <;> cases h
    assumption
  · intro h
    rw [h]
    rfl

/-- An option that names an address, by its data. -/
lemma evaluateOption_of_address (htype : item.type = 3) : evaluateOption preferred item =
    match addressOfData item.data with
    | some address =>
      if address = unspecifiedAddress then (.nak (encodeAddressOption .ipAddress preferred).encoded, none)
      else (.ack, some address)
    | none => (.nak (encodeAddressOption .ipAddress preferred).encoded, none) := by
  have hpreferred : preferred ≠ unspecifiedAddress := by decide
  unfold evaluateOption
  rw [knownType_eq_ipAddress.mpr htype]
  dsimp only
  cases addressOfData item.data with
  | none => exact if_neg hpreferred
  | some address =>
    by_cases hzero : address = unspecifiedAddress
    · exact (if_pos ⟨hzero, hpreferred⟩).trans (if_pos hzero).symm
    · exact (if_neg fun h => hzero h.1).trans ((if_neg hzero).trans (if_neg hzero).symm)

lemma evaluateOption_of_other (htype : item.type ≠ 3) : evaluateOption preferred item = (.reject, none) := by
  have hknown := mt knownType_eq_ipAddress.mp htype
  unfold evaluateOption
  split
  · exact absurd (by assumption) hknown
  · rfl

/-- The window of the memory that the maps of IPCP are. -/
lemma ipcpWindow_with (window : Buffer) : ipcpWindow (withIpcpWindow ram window) = window := by
  funext i
  unfold ipcpWindow withIpcpWindow
  rw [if_neg (by omega), Nat.add_sub_cancel_left]

variable {duplicates : UInt8 → Bool}
  (hduplicates : ∀ type : UInt8, ipcpWindow ram (duplicateMap + type.toNat) = 0 ↔ duplicates type = false)

include hduplicates

/-- **One option** is classified as the reference evaluates it. -/
theorem classifyPeerOption_eq (hplaced : Placed buffer y.toNat (item :: items)) :
    pppIpcpClassifyPeerOption buffer ram 0 y = dispositionOf (evaluated duplicates item).1 := by
  have hone : Placed buffer y.toNat [item] := ⟨hplaced.head, trivial⟩
  unfold pppIpcpClassifyPeerOption evaluated
  rw [optionIndex_zero, hplaced.type]
  cases hdup : duplicates item.type with
  | true =>
    have hmarked : ipcpWindow ram (duplicateMap + item.type.toNat) ≠ 0 := by
      rw [Ne, hduplicates, hdup]
      nofun
    rw [if_pos hmarked, if_pos rfl]
    rfl
  | false =>
    rw [if_neg (not_not_intro ((hduplicates item.type).mpr hdup)), if_neg Bool.false_ne_true]
    by_cases htype : item.type = 3
    · rw [if_neg (not_not_intro htype), evaluateOption_of_address htype]
      by_cases hlength : item.data.length = 4
      · rw [if_neg (not_not_intro ((length_eq_six hone).mpr hlength)), addressOfData_placed hone hlength]
        by_cases hzero : readAddress buffer (y.toNat + 2) = .zero
        · rw [if_pos hzero, hzero]
          rfl
        · dsimp only
          rw [if_neg hzero, if_neg (mt reference_zero.mp hzero)]
          rfl
      · rw [if_pos (mt (length_eq_six hone).mp hlength), addressOfData_eq_none hlength]
        rfl
    · rw [if_pos htype, evaluateOption_of_other htype]
      rfl

end One

/-! ### The loops -/

section Loops

variable {buffer ram : Buffer} {y : UInt16} {items : List Tlv.Item} {duplicates : UInt8 → Bool}

/-- The request carries a suggestion for the option. -/
def naks : OptionDisposition → Bool
  | .nak _ => true
  | _ => false

/-- An accepted option is one that names an address. -/
lemma of_ack {item : Tlv.Item} (h : (evaluated duplicates item).1 = .ack) : item.type = 3 ∧ item.data.length = 4 ∧
    ∀ address, addressOfData item.data = some address → (evaluated duplicates item).2 = some address := by
  unfold evaluated at h ⊢
  by_cases htype : item.type = 3
  · rw [evaluateOption_of_address htype] at h ⊢
    by_cases hlength : item.data.length = 4
    · refine ⟨htype, hlength, fun address haddress => ?_⟩
      rw [haddress] at h ⊢
      dsimp only at h ⊢
      split_ifs at h ⊢
      rfl
    · rw [addressOfData_eq_none hlength] at h
      split_ifs at h
  · rw [evaluateOption_of_other htype, ite_self] at h
    cases h

/-- **The commit** takes the address that the reference takes. -/
theorem commitOption_foldl (hack : ∀ item ∈ items, (evaluated duplicates item).1 = .ack)
    (hplaced : Placed buffer y.toNat items) (hend : y.toNat + span items < 256) {p : Ipcp}
    (hvalid : p.flags.peerValid = true) (before : Ipv4Address) (found : Option Ipv4Address)
    (hfound : reference p.peerAddress = found.getD before) :
    ∃ address, (positions y items).foldl (ipcpCommitOption buffer) p = { p with peerAddress := address } ∧
      reference address = (items.foldl (fun found item => (evaluated duplicates item).2 <|> found) found).getD before := by
  induction items generalizing y p found with
  | nil => exact ⟨p.peerAddress, rfl, hfound⟩
  | cons item items ih =>
    obtain ⟨hadvance, -, hplaced', hend', -⟩ := advanceY_placed hplaced hend
    have hone : Placed buffer y.toNat [item] := ⟨hplaced.head, trivial⟩
    obtain ⟨htype, hlength, hnamed⟩ := of_ack (hack item List.mem_cons_self)
    have haddress := hnamed _ (addressOfData_placed hone hlength)
    have hflags : ({ p.flags with peerValid := true } : IpcpFlags) = p.flags := by
      rw [← hvalid]
    have hcommit : ipcpCommitOption buffer p y = { p with peerAddress := readAddress buffer (y.toNat + 2) } := by
      unfold ipcpCommitOption
      rw [if_pos (hplaced.type.trans htype), hflags]
    rw [positions, List.foldl_cons, List.foldl_cons, ← hadvance, hcommit, haddress]
    exact ih (fun item hmem => hack item (List.mem_cons_of_mem _ hmem)) hplaced' hend'
      (p := { p with peerAddress := readAddress buffer (y.toNat + 2) }) hvalid (some _) rfl

variable (hduplicates : ∀ type : UInt8, ipcpWindow ram (duplicateMap + type.toNat) = 0 ↔ duplicates type = false)

include hduplicates

/-- **The second pass** finds the dispositions that the reference finds. -/
theorem classifyOption_foldl (hplaced : Placed buffer y.toNat items) (hend : y.toNat + span items < 256)
    (hasReject hasNak : Bool) :
    let found := (positions y items).foldl (ipcpClassifyOption buffer ram) (hasReject, hasNak, 0)
    found.1 = (hasReject || items.any fun item => (evaluated duplicates item).1 = .reject) ∧
      found.2.1 = (hasNak || items.any fun item => naks (evaluated duplicates item).1) := by
  induction items generalizing y hasReject hasNak with
  | nil => simp [positions]
  | cons item items ih =>
    obtain ⟨hadvance, hhigh, hplaced', hend', -⟩ := advanceY_placed hplaced hend
    have hclassify := classifyPeerOption_eq hduplicates hplaced
    have hstep : ipcpClassifyOption buffer ram (hasReject, hasNak, 0) y =
        (hasReject || decide ((evaluated duplicates item).1 = .reject), hasNak || naks (evaluated duplicates item).1,
          0) := by
      unfold ipcpClassifyOption
      rw [hclassify, hhigh]
      cases (evaluated duplicates item).1 with
      | ack => rfl
      | nak data => rfl
      | reject => rfl
    rw [positions, List.foldl_cons, ← hadvance, hstep]
    obtain ⟨hreject, hnak⟩ := ih hplaced' hend' (hasReject || decide ((evaluated duplicates item).1 = .reject))
      (hasNak || naks (evaluated duplicates item).1)
    dsimp only
    rw [hreject, hnak, List.any_cons, List.any_cons, Bool.or_assoc, Bool.or_assoc]
    exact ⟨rfl, rfl⟩

omit hduplicates in
/-- What an option contributes to a response. -/
def contribution (reject : Bool) (duplicates : UInt8 → Bool) (item : Tlv.Item) : List UInt8 :=
  match (evaluated duplicates item).1 with
  | .reject => if reject then item.encoded else []
  | .nak replacement => if reject then [] else replacement
  | .ack => []

omit hduplicates in
lemma evaluateOption_nak {item : Tlv.Item} {data : List UInt8} (h : (evaluated duplicates item).1 = .nak data) :
    data = addressOption 3 defaultPeerAddress := by
  unfold evaluated at h
  by_cases htype : item.type = 3
  · rw [evaluateOption_of_address htype] at h
    cases haddress : addressOfData item.data with
    | none =>
      rw [haddress] at h
      split_ifs at h
      exact (OptionDisposition.nak.inj h).symm
    | some address =>
      rw [haddress] at h
      dsimp only at h
      split_ifs at h
      exact (OptionDisposition.nak.inj h).symm
  · rw [evaluateOption_of_other htype, ite_self] at h
    cases h

omit hduplicates in
variable (duplicates) in
lemma length_contribution (reject : Bool) (item : Tlv.Item) :
    (contribution reject duplicates item).length ≤ item.data.length + 2 + 6 := by
  unfold contribution
  cases h : (evaluated duplicates item).1 with
  | ack => simp
  | nak data =>
    rw [evaluateOption_nak h]
    cases reject <;> simp [addressOption, Address.octets]
  | reject => cases reject <;> simp

omit hduplicates in
variable (duplicates) in
lemma length_contributions (reject : Bool) (items : List Tlv.Item) :
    (items.flatMap (contribution reject duplicates)).length ≤ span items + 6 * items.length := by
  induction items with
  | nil => simp
  | cons item items ih =>
    have hlength := length_contribution duplicates reject item
    rw [List.flatMap_cons, List.length_append, span_cons, List.length_cons]
    omega

/-- One option of the third pass. -/
lemma buildOption_eq {item : Tlv.Item} (hplaced : Placed buffer y.toNat (item :: items))
    (hend : y.toNat + span (item :: items) < 256) {p : Ipcp} {build : Build} (hb : build.b = 0) :
    ipcpBuildOption buffer ram p build y =
      build.put (contribution (p.pendingAction = .configureReject) duplicates item) 0 := by
  obtain ⟨-, hhigh, -⟩ := advanceY_placed hplaced hend
  have hclassify := classifyPeerOption_eq hduplicates hplaced
  have hput : build.put [] 0 = { build with b := 0 } := by
    have hcursor : build.cursor + UInt16.ofNat 0 = build.cursor := UInt16.add_zero _
    unfold Build.put
    rw [write_nil, List.length_nil, hcursor]
  have hcopy : read buffer y.toNat (optionLength buffer y).toNat = item.encoded := by
    rw [hplaced.optionLength, toNat_ofNat_length, hplaced.head]
  unfold ipcpBuildOption contribution
  rw [hb, hclassify, hhigh, hcopy]
  cases h : (evaluated duplicates item).1 with
  | ack => simp [dispositionOf, hput]
  | nak data =>
    rw [evaluateOption_nak h]
    by_cases hreject : p.pendingAction = .configureReject
    · simp [hreject, dispositionOf, hput]
    · simp [hreject, dispositionOf]
  | reject =>
    by_cases hreject : p.pendingAction = .configureReject
    · simp [hreject, dispositionOf]
    · simp [hreject, dispositionOf, hput]

/-- **The third pass** writes the response of the reference. -/
theorem buildOption_foldl (hplaced : Placed buffer y.toNat items) (hend : y.toNat + span items < 256) {p : Ipcp}
    {build : Build} (hb : build.b = 0) (hcursor : build.cursor.toNat + span items + 6 * items.length < 2 ^ 16) :
    (positions y items).foldl (ipcpBuildOption buffer ram p) build =
      build.put (items.flatMap (contribution (p.pendingAction = .configureReject) duplicates)) 0 := by
  induction items generalizing y build with
  | nil =>
    have hzero : build.cursor + UInt16.ofNat 0 = build.cursor := UInt16.add_zero _
    obtain ⟨b, cursor, output⟩ := build
    obtain rfl : b = 0 := hb
    simp [positions, Build.put]
  | cons item items ih =>
    obtain ⟨hadvance, -, hplaced', hend', -⟩ := advanceY_placed hplaced hend
    have hstep := buildOption_eq hduplicates hplaced hend (p := p) hb
    have hlength := length_contribution duplicates (p.pendingAction = .configureReject) item
    rw [span_cons, List.length_cons] at hcursor
    rw [positions, List.foldl_cons, ← hadvance, hstep, List.flatMap_cons]
    set piece := contribution (p.pendingAction = .configureReject) duplicates item
    have hpieceLength : (UInt16.ofNat piece.length).toNat = piece.length :=
      UInt16.toNat_ofNat_of_lt' (show piece.length < 2 ^ 16 by omega)
    have hnext : (build.put piece 0).cursor.toNat = build.cursor.toNat + piece.length := by
      show (build.cursor + UInt16.ofNat piece.length).toNat = _
      rw [toNat_add_of_lt (by omega), hpieceLength]
    rw [ih hplaced' hend' rfl (by omega), put_put _ _ _ _ _ (by omega)]

end Loops

/-! ### Requests -/

/-- The action that answers with a packet of the code. -/
def answerAction : Rust.Ipcp.Code → IpcpAction
  | .configureAck => .configureAck
  | .configureNak => .configureNak
  | .configureReject => .configureReject
  | _ => .none

/-- What the reference makes of the options of a request. -/
def evaluation (items : List Tlv.Item) : PeerEvaluation :=
  let duplicates := duplicateTypeMap items
  if items.any fun item => (evaluated duplicates item).1 = .reject then
    ⟨.configureReject, items.flatMap (contribution true duplicates), none⟩
  else if items.any fun item => naks (evaluated duplicates item).1 then
    ⟨.configureNak, items.flatMap (contribution false duplicates), none⟩
  else
    ⟨.configureAck, items.flatMap Tlv.Item.encoded,
      items.foldl (fun found item => (evaluated duplicates item).2 <|> found) none⟩

section Evaluation

variable {buffer : Buffer} {items : List Tlv.Item} {p : Ipcp}

lemma flatMap_rejected (duplicates : UInt8 → Bool) (items : List Tlv.Item) :
    (items.filter fun item => (evaluated duplicates item).1 = .reject).flatMap Tlv.Item.encoded =
      items.flatMap (contribution true duplicates) := by
  induction items with
  | nil => rfl
  | cons item items ih =>
    rw [List.filter_cons, List.flatMap_cons, ← ih]
    unfold contribution
    cases (evaluated duplicates item).1 with
    | ack => rfl
    | nak data => rfl
    | reject => rfl

/-- The reference, where the options of the packet are given. -/
lemma evaluatePeerRequest_flatMap (code identifier : UInt8) (items : List Tlv.Item) :
    evaluatePeerRequest ⟨code, identifier, items.flatMap Tlv.Item.encoded⟩ preferred = .ok (evaluation items) := by
  have hoptions := collectOptions_flatMap optionParseError items
  unfold evaluatePeerRequest evaluation
  rw [hoptions]
  dsimp only
  rw [show (fun option : ConfigurationOption => (option, if duplicateTypeMap items option.type then (.reject, none)
    else evaluateOption preferred option)) = fun option => (option, evaluated (duplicateTypeMap items) option) from rfl]
  generalize duplicateTypeMap items = duplicates
  simp only [List.any_map, List.filter_map, List.flatMap_map, List.foldl_map, Function.comp_def]
  by_cases hreject : items.any (fun item => (evaluated duplicates item).1 = .reject) = true
  · rw [if_pos hreject, if_pos hreject, ← flatMap_rejected]
  · rw [if_neg hreject, if_neg hreject]
    -- Where no option is rejected, the others are those with a suggestion.
    have hnot (item : Tlv.Item) (hmem : item ∈ items) : (evaluated duplicates item).1 ≠ .reject := fun h =>
      hreject (List.any_eq_true.mpr ⟨item, hmem, decide_eq_true h⟩)
    have hnaks : (items.any fun item => decide ((evaluated duplicates item).1 ≠ .ack)) =
        items.any fun item => naks (evaluated duplicates item).1 := by
      rw [Bool.eq_iff_iff, List.any_eq_true, List.any_eq_true]
      refine exists_congr fun item => and_congr_right fun hmem => ?_
      have hitem := hnot item hmem
      cases h : (evaluated duplicates item).1 with
      | ack => simp [naks]
      | nak data => simp [naks]
      | reject => exact absurd h hitem
    have hsuggestions : (items.flatMap fun item => match (evaluated duplicates item).1 with
        | .nak replacement => replacement
        | _ => []) = items.flatMap (contribution false duplicates) := by
      refine congrArg (fun f => items.flatMap f) (funext fun item => ?_)
      unfold contribution
      cases (evaluated duplicates item).1 with
      | ack => rfl
      | nak data => rfl
      | reject => rfl
    rw [hnaks]
    split_ifs
    · exact congrArg (fun data => Except.ok (PeerEvaluation.mk .configureNak data none)) hsuggestions
    · rfl

/-- **The evaluation** ends with the disposition and with the peer's address of the reference, and leaves the
duplicates of the reference in the maps. -/
theorem evaluatePeerRequest_eq (ram : Buffer) (hplaced : Placed buffer 8 items)
    (hspan : 8 + span items = p.packetEnd.toNat) (hend : p.packetEnd.toNat < 256) (hvalid : p.flags.peerValid = true) :
    ∃ ram' address, pppIpcpEvaluatePeerRequest buffer ram p =
        (answerAction (evaluation items).code, ram', { p with peerAddress := address }) ∧
      reference address = (evaluation items).peerAddress.getD (reference p.peerAddress) ∧
      ∀ type : UInt8, ipcpWindow ram' (duplicateMap + type.toNat) = 0 ↔ duplicateTypeMap items type = false := by
  have hfirst : firstOption.toNat = 8 := rfl
  have hoptions : options buffer p.packetEnd = positions firstOption items :=
    (options_congr hplaced hspan (fun _ _ => rfl) (by omega)).1
  have hhigh : high p.packetEnd = 0 := high_eq_zero.mpr hend
  have hwalked : firstOption.toNat + span items < 256 := by omega
  have hmaps := recordType_foldl (y := firstOption) (clearMaps_sameMaps (ipcpWindow ram)) hplaced hwalked
  set ram' := withIpcpWindow ram ((positions firstOption items).foldl (recordType buffer)
    (clearMaps (ipcpWindow ram), 0)).1 with hram
  have hduplicates : ∀ type : UInt8,
      ipcpWindow ram' (duplicateMap + type.toNat) = 0 ↔ duplicateTypeMap items type = false := by
    intro type
    rw [hram, ipcpWindow_with]
    exact (hmaps type).2
  obtain ⟨hreject, hnak⟩ := classifyOption_foldl hduplicates (y := firstOption) hplaced hwalked false false
  rw [Bool.false_or] at hreject hnak
  have hevaluate : pppIpcpEvaluatePeerRequest buffer ram p =
      if items.any fun item => (evaluated (duplicateTypeMap items) item).1 = .reject then (.configureReject, ram', p)
      else if items.any fun item => naks (evaluated (duplicateTypeMap items) item).1 then (.configureNak, ram', p)
      else (.configureAck, ram', (positions firstOption items).foldl (ipcpCommitOption buffer) p) := by
    unfold pppIpcpEvaluatePeerRequest
    simp only [hoptions, hhigh]
    rw [← hram, hreject, hnak]
  rw [hevaluate]
  unfold evaluation
  dsimp only
  by_cases hanyReject : items.any (fun item => (evaluated (duplicateTypeMap items) item).1 = .reject) = true
  · rw [if_pos hanyReject, if_pos hanyReject]
    exact ⟨ram', p.peerAddress, rfl, rfl, hduplicates⟩
  rw [if_neg hanyReject, if_neg hanyReject]
  by_cases hanyNak : items.any (fun item => naks (evaluated (duplicateTypeMap items) item).1) = true
  · rw [if_pos hanyNak, if_pos hanyNak]
    exact ⟨ram', p.peerAddress, rfl, rfl, hduplicates⟩
  rw [if_neg hanyNak, if_neg hanyNak]
  have hack : ∀ item ∈ items, (evaluated (duplicateTypeMap items) item).1 = .ack := by
    intro item hmem
    cases h : (evaluated (duplicateTypeMap items) item).1 with
    | ack => rfl
    | nak data => exact absurd (List.any_eq_true.mpr ⟨item, hmem, by rw [h]; rfl⟩) hanyNak
    | reject => exact absurd (List.any_eq_true.mpr ⟨item, hmem, decide_eq_true h⟩) hanyReject
  obtain ⟨address, hcommit, haddress⟩ := commitOption_foldl (y := firstOption) hack hplaced hwalked hvalid
    (reference p.peerAddress) none rfl
  exact ⟨ram', address, by rw [hcommit]; rfl, haddress, hduplicates⟩

end Evaluation

/-! ### Frames -/

/-- A packet in its frame. -/
def controlFrame (code identifier : UInt8) (data : List UInt8) : List UInt8 :=
  [0xff, 0x03, 0x80, 0x21] ++ (code :: identifier :: BigEndian.octets 2 (4 + data.length) ++ data)

section Frames

variable {buffer ram : Buffer} {items : List Tlv.Item} {p : Ipcp} {data : List UInt8}

@[simp] lemma length_controlFrame (code identifier : UInt8) (data : List UInt8) :
    (controlFrame code identifier data).length = 8 + data.length := by
  simp [controlFrame]
  omega

/-- A frame written in one piece. -/
lemma read_write_frame (output : Buffer) (packet : List UInt8) :
    read (write (write output 0 [0xff, 0x03, 0x80, 0x21]) 4 packet) 0 (4 + packet.length) =
      [0xff, 0x03, 0x80, 0x21] ++ packet := by
  have hwrite := write_write output 0 [0xff, 0x03, 0x80, 0x21] packet
  have hread := read_write output 0 ([0xff, 0x03, 0x80, 0x21] ++ packet)
  rw [← hwrite, List.length_append] at hread
  exact hread

/-- A frame whose Length is stored last. -/
lemma read_write_length (output : Buffer) (code identifier : UInt8) (length : List UInt8) (hlength : length.length = 2) :
    read (write (write (write (write output 0 [0xff, 0x03, 0x80, 0x21]) 4 [code, identifier]) 8 data) 6 length) 0
      (8 + data.length) = [0xff, 0x03, 0x80, 0x21] ++ (code :: identifier :: length ++ data) := by
  have hheader : read (write (write (write (write output 0 [0xff, 0x03, 0x80, 0x21]) 4 [code, identifier]) 8 data) 6
      length) 0 4 = [0xff, 0x03, 0x80, 0x21] := by
    rw [read_write_of_disjoint _ _ _ (Or.inl (by omega)), read_write_of_disjoint _ _ _ (Or.inl (by omega)),
      read_write_of_disjoint _ _ _ (Or.inl (by omega))]
    exact read_write output 0 [0xff, 0x03, 0x80, 0x21]
  have hcode : read (write (write (write (write output 0 [0xff, 0x03, 0x80, 0x21]) 4 [code, identifier]) 8 data) 6
      length) 4 2 = [code, identifier] := by
    rw [read_write_of_disjoint _ _ _ (Or.inl (by omega)), read_write_of_disjoint _ _ _ (Or.inl (by omega))]
    exact read_write _ 4 [code, identifier]
  have hdata : read (write (write (write (write output 0 [0xff, 0x03, 0x80, 0x21]) 4 [code, identifier]) 8 data) 6
      length) 8 data.length = data := by
    rw [read_write_of_disjoint _ _ _ (Or.inr (by omega)), read_write]
  have hsix := read_write (write (write (write output 0 [0xff, 0x03, 0x80, 0x21]) 4 [code, identifier]) 8 data) 6 length
  rw [hlength] at hsix
  rw [show 8 + data.length = 4 + (2 + (2 + data.length)) by omega, read_append, read_append, read_append, hheader,
    hcode, hsix, hdata]
  simp

/-- The Configure-Ack is a copy of the request. -/
lemma read_copyIpcpResponse (output : Buffer) (hlength : p.packetLength.toNat = 4 + data.length)
    (hshort : 4 + data.length + 4 < 2 ^ 16) (hspelled : word (buffer 6) (buffer 7) = p.packetLength)
    (hdata : read buffer 8 data.length = data) :
    (copyIpcpResponse buffer p (write output 0 [0xff, 0x03, 0x80, 0x21])).2.toNat = 8 + data.length ∧
      read (copyIpcpResponse buffer p (write output 0 [0xff, 0x03, 0x80, 0x21])).1 0 (8 + data.length) =
        controlFrame 2 (buffer 5) data := by
  have hframe : frameOffset.toNat = 4 := rfl
  have hoctets : BigEndian.octets 2 (4 + data.length) = [buffer 6, buffer 7] := by
    rw [← hlength, ← hspelled]
    show [high (word (buffer 6) (buffer 7)), low (word (buffer 6) (buffer 7))] = _
    rw [high_word, low_word]
  have hcopy : read buffer 4 p.packetLength.toNat =
      [] ++ [buffer 4] ++ (buffer 5 :: buffer 6 :: buffer 7 :: data) := by
    rw [hlength, Nat.add_comm, read_succ, read_succ, read_succ, read_succ, hdata]
    rfl
  have hwithin := write_within (write output 0 [0xff, 0x03, 0x80, 0x21]) 4 [] [buffer 4]
    (buffer 5 :: buffer 6 :: buffer 7 :: data) [2] rfl
  have hwhole := read_write_frame output (2 :: buffer 5 :: buffer 6 :: buffer 7 :: data)
  have hcount : 4 + (2 :: buffer 5 :: buffer 6 :: buffer 7 :: data).length = 8 + data.length := by
    simp only [List.length_cons]
    omega
  refine ⟨?_, ?_⟩
  · show (p.packetLength + frameOffset).toNat = _
    rw [toNat_add_of_lt (by omega), hlength, hframe]
    omega
  · unfold copyIpcpResponse controlFrame
    dsimp only
    rw [hcopy, hoctets]
    rw [hcount] at hwhole
    exact (congrArg (fun b => read b 0 (8 + data.length)) hwithin).trans hwhole

/-- The frame of the client's own request. -/
theorem buildIpcpAction_request (buffer ram output : Buffer) (hpending : p.pendingAction = .configureRequest) :
    ∃ built, buildIpcpAction buffer ram p output = some built ∧ built.2.toNat = 8 + p.requestData.length ∧
      read built.1 0 (8 + p.requestData.length) = controlFrame 1 p.requestIdentifier p.requestData := by
  have hdata := requestData_length_le p
  have hlength := buildPacket_length (write output 0 [0xff, 0x03, 0x80, 0x21]) 1 p.requestIdentifier p.requestData
    (by omega)
  have hoctets : BigEndian.octets 2 (4 + p.requestData.length) = [0, 4 + UInt8.ofNat p.requestData.length] := by
    have hzero : (4 + p.requestData.length) / 256 = 0 := by omega
    show [UInt8.ofNat ((4 + p.requestData.length) / 256), UInt8.ofNat (4 + p.requestData.length)] = _
    rw [hzero, UInt8.ofNat_add]
    rfl
  refine ⟨buildPacket (write output 0 [0xff, 0x03, 0x80, 0x21]) 1 p.requestIdentifier p.requestData, ?_, hlength, ?_⟩
  · unfold buildIpcpAction
    rw [hpending]
  · have hwhole := read_write_frame output ([1, p.requestIdentifier, 0, 4 + UInt8.ofNat p.requestData.length] ++
      p.requestData)
    have hcount : 4 + ([1, p.requestIdentifier, 0, 4 + UInt8.ofNat p.requestData.length] ++ p.requestData).length =
        8 + p.requestData.length := by
      rw [List.length_append]
      show 4 + (4 + _) = _
      omega
    rw [hcount] at hwhole
    unfold controlFrame
    rw [hoctets]
    exact hwhole

/-- A selective response. -/
lemma read_buildPeerResponse (output : Buffer) (code : UInt8)
    (hcode : code = if p.pendingAction = .configureNak then 3 else 4)
    (hplaced : Placed buffer 8 items) (hspan : 8 + span items = p.packetEnd.toNat) (hend : p.packetEnd.toNat < 256)
    (hduplicates : ∀ type : UInt8, ipcpWindow ram (duplicateMap + type.toNat) = 0 ↔ duplicateTypeMap items type = false)
    (hdata : data = items.flatMap (contribution (p.pendingAction = .configureReject) (duplicateTypeMap items))) :
    (pppIpcpBuildPeerResponse buffer ram p (write output 0 [0xff, 0x03, 0x80, 0x21])).2.toNat = 8 + data.length ∧
      read (pppIpcpBuildPeerResponse buffer ram p (write output 0 [0xff, 0x03, 0x80, 0x21])).1 0 (8 + data.length) =
        controlFrame code p.lastIdentifier data := by
  have hfirst : firstOption.toNat = 8 := rfl
  have hframe : frameOffset.toNat = 4 := rfl
  have hitems := two_mul_length_le_span items
  have hbound := length_contributions (duplicateTypeMap items) (p.pendingAction = .configureReject) items
  rw [← hdata] at hbound
  have hoptions : options buffer p.packetEnd = positions firstOption items :=
    (options_congr hplaced hspan (fun _ _ => rfl) (by omega)).1
  set start : Build := ⟨0, firstOption, write (write output 0 [0xff, 0x03, 0x80, 0x21]) 4 [code, p.lastIdentifier]⟩
  have hbuild : (options buffer p.packetEnd).foldl (ipcpBuildOption buffer ram p) start = start.put data 0 := by
    have hcursor : start.cursor.toNat + span items + 6 * items.length < 2 ^ 16 := by
      show firstOption.toNat + span items + 6 * items.length < 2 ^ 16
      omega
    rw [hoptions, hdata]
    exact buildOption_foldl hduplicates (y := firstOption) hplaced (by omega) rfl hcursor
  have hcount : (UInt16.ofNat data.length).toNat = data.length :=
    UInt16.toNat_ofNat_of_lt' (show data.length < 2 ^ 16 by omega)
  have hcursor : (firstOption + UInt16.ofNat data.length).toNat = 8 + data.length := by
    rw [toNat_add_of_lt (by omega), hcount, hfirst]
  have hlength : (firstOption + UInt16.ofNat data.length - frameOffset).toNat = 4 + data.length := by
    have hle : frameOffset ≤ firstOption + UInt16.ofNat data.length := by
      rw [UInt16.le_iff_toNat_le]
      omega
    rw [UInt16.toNat_sub_of_le _ _ hle, hcursor, hframe]
    omega
  have hbuilt : pppIpcpBuildPeerResponse buffer ram p (write output 0 [0xff, 0x03, 0x80, 0x21]) =
      (write (write (write (write output 0 [0xff, 0x03, 0x80, 0x21]) 4 [code, p.lastIdentifier]) 8 data) 6
        (BigEndian.octets 2 (4 + data.length)), firstOption + UInt16.ofNat data.length) := by
    unfold pppIpcpBuildPeerResponse
    dsimp only
    rw [← hcode, hbuild, ← hlength]
    rfl
  rw [hbuilt]
  refine ⟨hcursor, ?_⟩
  exact read_write_length output code p.lastIdentifier _ (BigEndian.length_octets 2 _)

lemma length_evaluation (items : List Tlv.Item) : (evaluation items).data.length ≤ span items + 6 * items.length := by
  have hcontributions (reject : Bool) := length_contributions (duplicateTypeMap items) reject items
  unfold evaluation
  dsimp only
  split_ifs
  · exact hcontributions true
  · exact hcontributions false
  · exact Nat.le_add_right _ _

lemma code_evaluation (items : List Tlv.Item) : (evaluation items).code = .configureAck ∧
      (evaluation items).data = items.flatMap Tlv.Item.encoded ∨
    (evaluation items).code = .configureNak ∧
      (evaluation items).data = items.flatMap (contribution false (duplicateTypeMap items)) ∨
    (evaluation items).code = .configureReject ∧
      (evaluation items).data = items.flatMap (contribution true (duplicateTypeMap items)) := by
  unfold evaluation
  dsimp only
  split_ifs
  · exact Or.inr (Or.inr ⟨rfl, rfl⟩)
  · exact Or.inr (Or.inl ⟨rfl, rfl⟩)
  · exact Or.inl ⟨rfl, rfl⟩

/-- **The response** of the console is that of the reference, with the identifier of the request. -/
theorem buildIpcpAction_response (output : Buffer) (hplaced : Placed buffer 8 items)
    (hspan : 8 + span items = p.packetEnd.toNat) (hend : p.packetEnd.toNat < 256)
    (hduplicates : ∀ type : UInt8, ipcpWindow ram (duplicateMap + type.toNat) = 0 ↔ duplicateTypeMap items type = false)
    (hpending : p.pendingAction = answerAction (evaluation items).code) (hlength : p.packetLength.toNat + 4 = p.packetEnd.toNat)
    (hspelled : word (buffer 6) (buffer 7) = p.packetLength) (hidentifier : p.lastIdentifier = buffer 5) :
    ∃ built, buildIpcpAction buffer ram p output = some built ∧
      built.2.toNat = 8 + (evaluation items).data.length ∧
      read built.1 0 (8 + (evaluation items).data.length) =
        controlFrame (evaluation items).code.octet p.lastIdentifier (evaluation items).data := by
  unfold buildIpcpAction
  rcases code_evaluation items with ⟨hcode, hdata⟩ | ⟨hcode, hdata⟩ | ⟨hcode, hdata⟩
  · have hread : read buffer 8 (evaluation items).data.length = (evaluation items).data := by
      rw [hdata]
      exact placed_iff.mp hplaced
    have hcount : (evaluation items).data.length = span items := by
      rw [hdata]
      rfl
    obtain ⟨hend', hcopy⟩ := read_copyIpcpResponse output (by omega) (by omega) hspelled hread
    rw [hpending, hcode, hidentifier]
    exact ⟨_, rfl, hend', hcopy⟩
  · rw [hcode] at hpending
    have hdata' : (evaluation items).data =
        items.flatMap (contribution (p.pendingAction = .configureReject) (duplicateTypeMap items)) := by
      rw [hdata, hpending]
      rfl
    obtain ⟨hend', hselective⟩ := read_buildPeerResponse output 3 (by rw [hpending]; rfl) hplaced hspan hend
      hduplicates hdata'
    rw [hpending, hcode]
    exact ⟨_, rfl, hend', hselective⟩
  · rw [hcode] at hpending
    have hdata' : (evaluation items).data =
        items.flatMap (contribution (p.pendingAction = .configureReject) (duplicateTypeMap items)) := by
      rw [hdata, hpending]
      rfl
    obtain ⟨hend', hselective⟩ := read_buildPeerResponse output 4 (by rw [hpending]; rfl) hplaced hspan hend
      hduplicates hdata'
    rw [hpending, hcode]
    exact ⟨_, rfl, hend', hselective⟩

end Frames

end SnesModem.Asm.IpcpEvaluation
