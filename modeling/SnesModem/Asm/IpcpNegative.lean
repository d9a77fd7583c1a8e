import SnesModem.Asm.IpcpEvaluation
import SnesModem.Rust.IpcpIgnored

/-!
# The negative answers to an IPCP request refine the reference

The console checks all options of a Configure-Nak or Configure-Reject before it applies the first; the reference
applies them one by one.

* `SameRequest`: both clients request the same options with the same values;
* `applyNak_foldl`, `applyReject_foldl`: an accepted answer leaves the same request;
* `acceptNakOptions_answered`, `acceptRejectOptions_answered`: an answer is accepted by both clients or by neither.
-/

namespace SnesModem.Asm.IpcpNegative

open SnesModem.Lib SnesModem.Lib.Octets SnesModem.Asm.IpcpEvaluation
open SnesModem.Rust.ControlPacket (ConfigurationOption hasDuplicateTypes hasDuplicateTypes_eq_false_iff)
open SnesModem.Rust.Ipcp (Client Ipv4Address OptionType addressOfData encodeAddressOption knownType unspecifiedAddress)
open SnesModem.Rust.IpcpIgnored

/-! ### Options -/

/-- The option, as the reference has it. -/
def known : IpcpOption → OptionType
  | .ipAddress => .ipAddress
  | .primaryDns => .primaryDnsServerAddress
  | .secondaryDns => .secondaryDnsServerAddress

lemma known_inj {a b : IpcpOption} (h : known a = known b) : a = b := by
  cases a <;> cases b <;> first | rfl | cases h

lemma octet_known (option : IpcpOption) : (known option).octet = option.type := by cases option <;> rfl

lemma fromOctet_type (option : IpcpOption) : OptionType.fromOctet option.type = some (known option) := by
  cases option <;> rfl

lemma ofType_type (option : IpcpOption) : IpcpOption.ofType option.type = some option := by cases option <;> rfl

lemma type_of_ofType {type : UInt8} {option : IpcpOption} (h : IpcpOption.ofType type = some option) :
    type = option.type := by
  have hfound := List.find?_some h
  exact (of_decide_eq_true hfound).symm

/-- Only the three options of a request are requested. -/
lemma known_of_requests {c : Client} {type : OptionType} (h : requests c type = true) : ∃ option, type = known option := by
  cases type with
  | ipAddress => exact ⟨.ipAddress, rfl⟩
  | primaryDnsServerAddress => exact ⟨.primaryDns, rfl⟩
  | secondaryDnsServerAddress => exact ⟨.secondaryDns, rfl⟩
  | ipAddresses | ipCompressionProtocol => cases h

/-- Both clients request the same options with the same values, and the reference has no address of a DNS server that
it does not request. -/
structure SameRequest (p : Ipcp) (c : Client) : Prop where
  requests : ∀ option, requests c (known option) = p.requests option
  held : ∀ option, p.requests option = true → held c (known option) = reference (p.address option)
  withdrawn : ∀ option, option ≠ .ipAddress → p.requests option = false → Rust.IpcpIgnored.held c (known option) =
    unspecifiedAddress

/-! ### One option of an answer -/

section One

variable {buffer : Buffer} {p : Ipcp} {c : Client} {y : UInt16} {item : Tlv.Item}

/-- The suggestions of a Nak, in terms of the console. -/
lemma suggestion_eq (h : SameRequest p c) (hplaced : Placed buffer y.toNat [item]) {option : IpcpOption}
    (htype : item.type = option.type) :
    suggestion c item = if p.requests option = true ∧ buffer (y.toNat + 1) = addressOptionLength ∧
        readAddress buffer (y.toNat + 2) ≠ .zero then
      some (known option, reference (readAddress buffer (y.toNat + 2))) else none := by
  have hknown : knownType item = some (known option) := by
    unfold knownType
    rw [htype, fromOctet_type]
  unfold suggestion
  rw [hknown]
  dsimp only
  rw [h.requests]
  by_cases hrequests : p.requests option = true
  · rw [if_pos hrequests]
    by_cases hlength : item.data.length = 4
    · have hsix := (length_eq_six hplaced).mpr hlength
      rw [addressOfData_placed hplaced hlength]
      by_cases hzero : readAddress buffer (y.toNat + 2) = .zero
      · rw [if_neg fun hall => hall.2.2 hzero, hzero]
        rfl
      · have hne : reference (readAddress buffer (y.toNat + 2)) ≠ unspecifiedAddress := mt reference_zero.mp hzero
        rw [if_pos ⟨hrequests, hsix, hzero⟩]
        simp [Option.filter, hne]
    · rw [addressOfData_eq_none hlength, if_neg fun hall => hlength ((length_eq_six hplaced).mp hall.2.1)]
      rfl
  · rw [if_neg hrequests, if_neg fun hall => hrequests hall.1]

lemma suggestion_of_other (h : IpcpOption.ofType item.type = none) : suggestion c item = none := by
  cases hsuggestion : suggestion c item with
  | none => rfl
  | some found =>
    obtain ⟨htype, hrequests⟩ := knownType_of_suggestion hsuggestion
    obtain ⟨option, hoption⟩ := known_of_requests hrequests
    have hoctet := octet_of_fromOctet htype
    rw [hoption, octet_known] at hoctet
    rw [hoctet, ofType_type] at h
    cases h

/-- The repeated options of a Reject, in terms of the console. -/
lemma repeatsRequest_iff (h : SameRequest p c) (hplaced : Placed buffer y.toNat [item]) {option : IpcpOption}
    (htype : item.type = option.type) :
    repeatsRequest c item = true ↔ p.requests option = true ∧ buffer (y.toNat + 1) = addressOptionLength ∧
      readAddress buffer (y.toNat + 2) = p.address option := by
  have hknown : knownType item = some (known option) := by
    unfold knownType
    rw [htype, fromOctet_type]
  unfold repeatsRequest
  rw [hknown]
  dsimp only
  rw [h.requests, Bool.and_eq_true, beq_iff_eq]
  refine and_congr_right fun hrequests => ?_
  rw [h.held option hrequests, length_eq_six hplaced]
  have hoctet := octet_known option
  constructor
  · intro hencoded
    have hlength := congrArg List.length hencoded
    rw [Tlv.length_encoded, Tlv.length_encoded] at hlength
    have hfour : item.data.length = 4 := Nat.add_right_cancel hlength
    have hdata := data_four hplaced hfour
    unfold Tlv.Item.encoded at hencoded
    rw [List.cons.injEq, List.cons.injEq, hdata] at hencoded
    refine ⟨hfour, reference_inj.mp ?_⟩
    obtain ⟨ha, hb⟩ := List.cons.inj hencoded.2.2
    obtain ⟨hb, hc⟩ := List.cons.inj hb
    obtain ⟨hc, hd⟩ := List.cons.inj hc
    obtain ⟨hd, -⟩ := List.cons.inj hd
    unfold reference readAddress
    rw [Rust.Ipcp.Ipv4Address.mk.injEq]
    exact ⟨ha, hb, hc, hd⟩
  · rintro ⟨hfour, haddress⟩
    have hdata := data_four hplaced hfour
    unfold Tlv.Item.encoded encodeAddressOption
    rw [hdata, ← haddress, hoctet, htype]
    rfl

lemma repeatsRequest_of_other (h : IpcpOption.ofType item.type = none) : repeatsRequest c item = false := by
  rw [Bool.eq_false_iff]
  intro hrepeats
  obtain ⟨type, htype, hrequests⟩ := knownType_of_repeatsRequest hrepeats
  obtain ⟨option, hoption⟩ := known_of_requests hrequests
  have hoctet := octet_of_fromOctet htype
  rw [hoption, octet_known] at hoctet
  rw [hoctet, ofType_type] at h
  cases h

end One

/-! ### The options of an answer -/

/-- The option of an item that names one. -/
def optionOf (item : Tlv.Item) : IpcpOption := (IpcpOption.ofType item.type).getD .ipAddress

lemma optionOf_of_type {item : Tlv.Item} {option : IpcpOption} (h : item.type = option.type) : optionOf item = option := by
  unfold optionOf
  rw [h, ofType_type]
  rfl

section Options

variable {buffer : Buffer} {p : Ipcp} {y : UInt16} {item : Tlv.Item} {items : List Tlv.Item}

/-- The walk from an item to the next. -/
lemma placed_next (hplaced : Placed buffer y.toNat (item :: items)) (hend : y.toNat + span (item :: items) < 2 ^ 16) :
    Placed buffer (y + UInt16.ofNat (item.data.length + 2)).toNat items ∧
      (y + UInt16.ofNat (item.data.length + 2)).toNat + span items < 2 ^ 16 := by
  rw [span_cons] at hend
  have hlength := toNat_ofNat_length item
  have hnext : (y + UInt16.ofNat (item.data.length + 2)).toNat = y.toNat + (item.data.length + 2) := by
    rw [toNat_add_of_lt (by omega), hlength]
  rw [hnext]
  exact ⟨hplaced.tail, by omega⟩

/-- The check of an answer passes, with the options found before. -/
structure Admissible (accepts : Tlv.Item → Bool) (found : List IpcpOption) (items : List Tlv.Item) : Prop where
  accepted : ∀ item ∈ items, accepts item = true
  nodup : (items.map (·.type)).Nodup
  fresh : ∀ item ∈ items, ∀ option ∈ found, item.type ≠ option.type
  nonempty : items ≠ [] ∨ found ≠ []

lemma admissible_cons {accepts : Tlv.Item → Bool} {found : List IpcpOption} {option : IpcpOption}
    (hitem : item.type = option.type) :
    Admissible accepts found (item :: items) ↔
      accepts item = true ∧ option ∉ found ∧ Admissible accepts (option :: found) items := by
  constructor
  · rintro ⟨haccepted, hnodup, hfresh, -⟩
    obtain ⟨hnotin, hnodup⟩ := List.nodup_cons.mp hnodup
    refine ⟨haccepted item List.mem_cons_self, ?_, ?_⟩
    · intro hmem
      exact hfresh item List.mem_cons_self option hmem hitem
    · refine ⟨fun other hmem => haccepted other (List.mem_cons_of_mem _ hmem), hnodup, ?_, Or.inr (by simp)⟩
      intro other hmem
      rw [List.forall_mem_cons]
      refine ⟨fun heq => hnotin ?_, hfresh other (List.mem_cons_of_mem _ hmem)⟩
      exact List.mem_map.mpr ⟨other, hmem, heq.trans hitem.symm⟩
  · rintro ⟨hitemAccepted, hnotin, haccepted, hnodup, hfresh, -⟩
    refine ⟨List.forall_mem_cons.mpr ⟨hitemAccepted, haccepted⟩, ?_, ?_, Or.inl (by simp)⟩
    · refine List.nodup_cons.mpr ⟨fun hmem => ?_, hnodup⟩
      obtain ⟨other, hother, heq⟩ := List.mem_map.mp hmem
      exact hfresh other hother option List.mem_cons_self (heq.trans hitem)
    · refine List.forall_mem_cons.mpr ⟨fun other hmem heq => hnotin ?_, fun other hmem => ?_⟩
      · have hsame := ofType_type other
        rw [← heq, hitem, ofType_type] at hsame
        exact Option.some.inj hsame ▸ hmem
      · exact fun option hoption => hfresh other hmem option (List.mem_cons_of_mem _ hoption)

variable (acceptable : IpcpOption → UInt16 → Bool) (accepts : Tlv.Item → Bool)
  (haccepts : ∀ {y : UInt16} {item : Tlv.Item} {option : IpcpOption}, Placed buffer y.toNat [item] →
    item.type = option.type → (accepts item = true ↔ p.requests option = true ∧
      buffer (y.toNat + 1) = addressOptionLength ∧ acceptable option y = true))
  (hother : ∀ item, IpcpOption.ofType item.type = none → accepts item = false)

include haccepts hother

/-- **The check** of an answer. -/
theorem negativeOptions_cases (hplaced : Placed buffer y.toNat items) (hend : y.toNat + span items < 2 ^ 16)
    (found : List IpcpOption) :
    Admissible accepts found items ∧
      negativeOptions buffer p acceptable (positions y items) found = some ((items.map optionOf).reverse ++ found) ∨
    ¬ Admissible accepts found items ∧ negativeOptions buffer p acceptable (positions y items) found = none := by
  induction items generalizing y found with
  | nil =>
    unfold positions negativeOptions
    by_cases hfound : found = []
    · exact Or.inr ⟨fun h => h.nonempty.elim (fun h => h rfl) (fun h => h hfound), if_pos hfound⟩
    · exact Or.inl ⟨⟨by simp, by simp, by simp, Or.inr hfound⟩, if_neg hfound⟩
  | cons item items ih =>
    have hone : Placed buffer y.toNat [item] := ⟨hplaced.head, trivial⟩
    obtain ⟨hplaced', hend'⟩ := placed_next hplaced hend
    unfold positions negativeOptions
    rw [hplaced.type]
    cases htype : IpcpOption.ofType item.type with
    | none =>
      refine Or.inr ⟨fun h => ?_, rfl⟩
      have hrefused := hother item htype
      rw [h.accepted item List.mem_cons_self] at hrefused
      cases hrefused
    | some option =>
      have hitem := type_of_ofType htype
      rw [admissible_cons hitem, haccepts hone hitem]
      dsimp only
      by_cases hcheck : p.requests option = true ∧ option ∉ found ∧ buffer (y.toNat + 1) = addressOptionLength ∧
          acceptable option y = true
      · obtain ⟨hrequests, hfresh, hlength, hacceptable⟩ := hcheck
        rw [if_pos ⟨hrequests, hfresh, hlength, hacceptable⟩, List.map_cons, optionOf_of_type hitem,
          List.reverse_cons, List.append_assoc]
        refine (ih hplaced' hend' (option :: found)).imp ?_ ?_
        · rintro ⟨hadmissible, hfound⟩
          exact ⟨⟨⟨hrequests, hlength, hacceptable⟩, hfresh, hadmissible⟩, hfound⟩
        · rintro ⟨hadmissible, hfound⟩
          exact ⟨fun h => hadmissible h.2.2, hfound⟩
      · rw [if_neg hcheck]
        refine Or.inr ⟨?_, rfl⟩
        rintro ⟨⟨hrequests, hlength, hacceptable⟩, hfresh, -⟩
        exact hcheck ⟨hrequests, hfresh, hlength, hacceptable⟩

end Options

/-! ### What an answer leaves -/

/-- The clients behind an answer have the same request, and are what they were otherwise. -/
structure Applied (p : Ipcp) (c : Client) (p' : Ipcp) (c' : Client) : Prop where
  same : SameRequest p' c'
  state : p'.state = p.state
  identifier : p'.requestIdentifier = p.requestIdentifier
  peer : p'.peerAddress = p.peerAddress
  peerValid : p'.flags.peerValid = p.flags.peerValid
  referenceState : c'.state = c.state
  settings : c'.settings = c.settings
  referencePeer : c'.peerAddress = c.peerAddress
  referenceIdentifier : c'.requestIdentifier = c.requestIdentifier
  next : c'.nextIdentifier = c.nextIdentifier

section Apply

variable {buffer : Buffer} {p p' p'' : Ipcp} {c c' c'' : Client} {y : UInt16} {items : List Tlv.Item}

lemma Applied.refl (h : SameRequest p c) : Applied p c p c := ⟨h, rfl, rfl, rfl, rfl, rfl, rfl, rfl, rfl, rfl⟩

lemma Applied.trans (h : Applied p c p' c') (h' : Applied p' c' p'' c'') : Applied p c p'' c'' :=
  ⟨h'.same, h'.state.trans h.state, h'.identifier.trans h.identifier, h'.peer.trans h.peer,
    h'.peerValid.trans h.peerValid, h'.referenceState.trans h.referenceState, h'.settings.trans h.settings,
    h'.referencePeer.trans h.referencePeer, h'.referenceIdentifier.trans h.referenceIdentifier, h'.next.trans h.next⟩

/-- The option of a suggestion, stored by the console. -/
def stored (p : Ipcp) (address : Address) : IpcpOption → Ipcp
  | .ipAddress => { p with
      localAddress := address
      flags := { p.flags with requestAddress := true, localValid := true } }
  | .primaryDns => { p with primaryDnsAddress := address, flags := { p.flags with primaryDnsValid := false } }
  | .secondaryDns => { p with secondaryDnsAddress := address, flags := { p.flags with secondaryDnsValid := false } }

lemma applyNakOption_eq {option : IpcpOption} (htype : buffer y.toNat = option.type) :
    applyNakOption buffer p y = stored p (readAddress buffer (y.toNat + 2)) option := by
  unfold applyNakOption
  rw [htype]
  cases option <;> rfl

/-- The option of a suggestion is stored by both. -/
lemma applied_store (h : SameRequest p c) {option : IpcpOption} (hrequests : p.requests option = true)
    (address : Address) : Applied p c (stored p address option) (store c (known option) (reference address)) := by
  have hself (other : IpcpOption) : (stored p address option).requests other = p.requests other := by
    cases option <;> cases other <;> first | rfl | exact hrequests.symm
  have haddress : (stored p address option).address option = address := by cases option <;> rfl
  have hothers (other : IpcpOption) (hne : other ≠ option) : (stored p address option).address other = p.address other := by
    cases option <;> cases other <;> first | rfl | exact absurd rfl hne
  have hknown {other : IpcpOption} (hne : other ≠ option) : known other ≠ known option := fun heq => hne (known_inj heq)
  refine ⟨⟨fun other => ?_, fun other hother => ?_, fun other hdns hother => ?_⟩, ?_, ?_, ?_, ?_, ?_, ?_, ?_, ?_, ?_⟩
  · rw [requests_store, h.requests, hself]
  · rw [hself] at hother
    by_cases hne : other = option
    · subst hne
      rw [held_store_self _ _ _ ((h.requests other).trans hother), haddress]
    · rw [held_store_of_ne _ _ _ (hknown hne), hothers other hne, h.held other hother]
  · rw [hself] at hother
    have hne : other ≠ option := by
      rintro rfl
      rw [hrequests] at hother
      cases hother
    rw [held_store_of_ne _ _ _ (hknown hne), h.withdrawn other hdns hother]
  all_goals cases option <;> rfl

/-- The order in which options are withdrawn does not matter. -/
instance : RightCommutative applyReject := ⟨fun p a b => by cases a <;> cases b <;> rfl⟩

/-- The option of a Reject is withdrawn by both. -/
lemma applied_withdraw (h : SameRequest p c) (option : IpcpOption) :
    Applied p c (applyReject p option) (withdraw c (known option)) := by
  have hself : (applyReject p option).requests option = false := by cases option <;> rfl
  have hothers (other : IpcpOption) (hne : other ≠ option) :
      (applyReject p option).requests other = p.requests other := by
    cases option <;> cases other <;> first | rfl | exact absurd rfl hne
  have haddress (other : IpcpOption) : (applyReject p option).address other = p.address other := by
    cases option <;> cases other <;> rfl
  have hknown {other : IpcpOption} (hne : other ≠ option) : known other ≠ known option := fun heq => hne (known_inj heq)
  refine ⟨⟨fun other => ?_, fun other hother => ?_, fun other hdns hother => ?_⟩, ?_, ?_, ?_, ?_, ?_, ?_, ?_, ?_, ?_⟩
  · by_cases hne : other = option
    · subst hne
      rw [requests_withdraw_self, hself]
    · rw [requests_withdraw_of_ne _ _ (hknown hne), h.requests, hothers other hne]
  · have hne : other ≠ option := by
      rintro rfl
      rw [hself] at hother
      cases hother
    rw [hothers other hne] at hother
    rw [held_withdraw_of_ne _ _ (hknown hne), haddress, h.held other hother]
  · by_cases hne : other = option
    · subst hne
      cases other with
      | ipAddress => exact absurd rfl hdns
      | primaryDns => rfl
      | secondaryDns => rfl
    · rw [hothers other hne] at hother
      rw [held_withdraw_of_ne _ _ (hknown hne), h.withdrawn other hdns hother]
  all_goals cases option <;> rfl

/-- **An accepted Nak** leaves the same request. -/
theorem applyNak_foldl (h : SameRequest p c) (hplaced : Placed buffer y.toNat items)
    (hend : y.toNat + span items < 2 ^ 16) (hall : ∀ item ∈ items, (suggestion c item).isSome = true) :
    Applied p c ((positions y items).foldl (applyNakOption buffer) p) (Client.optionLoop Client.nakOption c items).1 := by
  induction items generalizing y p c with
  | nil => exact .refl h
  | cons item items ih =>
    have hone : Placed buffer y.toNat [item] := ⟨hplaced.head, trivial⟩
    obtain ⟨hplaced', hend'⟩ := placed_next hplaced hend
    have hitem := hall item List.mem_cons_self
    have hrest : ∀ other ∈ items, (suggestion c other).isSome = true := fun other hmem =>
      hall other (List.mem_cons_of_mem _ hmem)
    cases htype : IpcpOption.ofType item.type with
    | none =>
      rw [suggestion_of_other htype] at hitem
      cases hitem
    | some option =>
      have hoption := type_of_ofType htype
      have hsuggestion := suggestion_eq h hone hoption
      rw [hsuggestion] at hitem
      split_ifs at hitem with hvalid
      · rw [if_pos hvalid] at hsuggestion
        have hturn : Client.optionLoop Client.nakOption c (item :: items) = Client.optionLoop Client.nakOption
            (store c (known option) (reference (readAddress buffer (y.toNat + 2)))) items := by
          rw [Client.optionLoop, Rust.IpcpIgnored.nakOption_eq, hsuggestion]
          rfl
        have hstored := applied_store h hvalid.1 (readAddress buffer (y.toNat + 2))
        rw [hturn, positions, List.foldl_cons, applyNakOption_eq (hplaced.type.trans hoption)]
        refine hstored.trans (ih hstored.same hplaced' hend' fun other hmem => ?_)
        rw [suggestion_store]
        exact hrest other hmem
      · cases hitem

/-- **An accepted Reject** leaves the same request. -/
theorem applyReject_foldl (h : SameRequest p c) (hnodup : (items.map (·.type)).Nodup)
    (hall : ∀ item ∈ items, repeatsRequest c item = true) :
    Applied p c ((items.map optionOf).foldl applyReject p) (Client.optionLoop Client.rejectOption c items).1 := by
  induction items generalizing p c with
  | nil => exact .refl h
  | cons item items ih =>
    have hitem := hall item List.mem_cons_self
    obtain ⟨hnotin, hnodup⟩ := List.nodup_cons.mp hnodup
    obtain ⟨type, htype, hrequests⟩ := knownType_of_repeatsRequest hitem
    obtain ⟨option, rfl⟩ := known_of_requests hrequests
    have hoption : item.type = option.type := (octet_of_fromOctet htype).trans (octet_known option)
    have hturn : Client.optionLoop Client.rejectOption c (item :: items) =
        Client.optionLoop Client.rejectOption (withdraw c (known option)) items := by
      rw [Client.optionLoop, rejectOption_eq, if_pos hitem, htype]
      rfl
    have hwithdrawn := applied_withdraw h option
    rw [hturn, List.map_cons, List.foldl_cons, optionOf_of_type hoption]
    refine hwithdrawn.trans (ih hwithdrawn.same hnodup fun other hmem => ?_)
    rw [repeatsRequest_withdraw]
    · exact hall other (List.mem_cons_of_mem _ hmem)
    · exact knownType_ne (fun heq => hnotin (List.mem_map.mpr ⟨other, hmem, heq.symm⟩)) htype

end Apply

/-! ### Answers -/

/-- What the two clients make of the options of an answer, which the reference reads with a loop over `turn`. -/
inductive Answered (turn : Client → ConfigurationOption → Option Client) (p : Ipcp) (c : Client) (items : List Tlv.Item) :
    Option Ipcp → Prop
  | accepted {p' : Ipcp} (nonempty : items ≠ []) (distinct : hasDuplicateTypes items = false)
    (finished : (Client.optionLoop turn c items).2 = true) (applied : Applied p c p' (Client.optionLoop turn c items).1) :
    Answered turn p c items (some p')
  | refused (invalid : items = [] ∨ hasDuplicateTypes items = true ∨ (Client.optionLoop turn c items).2 = false) :
    Answered turn p c items none

section Answers

variable {buffer : Buffer} {p : Ipcp} {c : Client} {items : List Tlv.Item} (h : SameRequest p c)
  (hplaced : Placed buffer 8 items) (hspan : 8 + span items = p.packetEnd.toNat) (hshort : p.packetEnd.toNat < 2 ^ 15)

/-- An answer whose check does not pass is one that the reference refuses. -/
lemma invalid_of_not_admissible {accepts : Tlv.Item → Bool} (hnot : ¬ Admissible accepts [] items) :
    items = [] ∨ hasDuplicateTypes items = true ∨ items.all accepts = false := by
  by_contra hvalid
  rw [not_or, not_or, Bool.not_eq_true, Bool.not_eq_false] at hvalid
  obtain ⟨hnonempty, hdistinct, hall⟩ := hvalid
  refine hnot ⟨List.all_eq_true.mp hall, (hasDuplicateTypes_eq_false_iff items).mp hdistinct, ?_, Or.inl hnonempty⟩
  intro item _ option hoption
  cases hoption

include h hplaced hspan hshort

/-- **A Nak** is accepted by both clients or by neither. -/
theorem acceptNakOptions_answered : Answered Client.nakOption p c items (acceptNakOptions buffer p) := by
  have hfirst : firstOption.toNat = 8 := rfl
  have hoptions : options buffer p.packetEnd = positions firstOption items :=
    (options_congr hplaced hspan (fun _ _ => rfl) hshort).1
  have hcheck := negativeOptions_cases (fun _ y => readAddress buffer (y.toNat + 2) ≠ .zero)
    (fun item => (suggestion c item).isSome) (fun {y item option} hone htype => by
      rw [suggestion_eq h hone htype, decide_eq_true_iff]
      split_ifs with hvalid
      · exact iff_of_true rfl hvalid
      · exact iff_of_false nofun hvalid)
    (fun item hother => by rw [suggestion_of_other hother]; rfl) (y := firstOption) hplaced (by omega) []
  unfold acceptNakOptions
  dsimp only
  rw [hoptions]
  rcases hcheck with ⟨hadmissible, hfound⟩ | ⟨hrefused, hfound⟩
  · rw [hfound]
    refine .accepted (hadmissible.nonempty.resolve_right (not_not_intro rfl))
      ((hasDuplicateTypes_eq_false_iff items).mpr hadmissible.nodup) ?_
      (applyNak_foldl (y := firstOption) h hplaced (by omega) hadmissible.accepted)
    rw [nakLoop_finishes]
    exact List.all_eq_true.mpr hadmissible.accepted
  · rw [hfound]
    refine .refused ?_
    rw [nakLoop_finishes]
    exact invalid_of_not_admissible hrefused

/-- **A Reject** is accepted by both clients or by neither. -/
theorem acceptRejectOptions_answered : Answered Client.rejectOption p c items (acceptRejectOptions buffer p) := by
  have hfirst : firstOption.toNat = 8 := rfl
  have hoptions : options buffer p.packetEnd = positions firstOption items :=
    (options_congr hplaced hspan (fun _ _ => rfl) hshort).1
  have hcheck := negativeOptions_cases (fun option y => readAddress buffer (y.toNat + 2) = p.address option)
    (repeatsRequest c) (fun {y item option} hone htype => by
      rw [repeatsRequest_iff h hone htype, decide_eq_true_iff])
    (fun item hother => repeatsRequest_of_other hother) (y := firstOption) hplaced (by omega) []
  unfold acceptRejectOptions
  dsimp only
  rw [hoptions]
  rcases hcheck with ⟨hadmissible, hfound⟩ | ⟨hrefused, hfound⟩
  · -- The console withdraws the options in the other order.
    have horder : (items.map optionOf).reverse.foldl applyReject p = (items.map optionOf).foldl applyReject p :=
      (List.reverse_perm _).foldl_eq p
    rw [hfound, List.append_nil]
    refine .accepted (hadmissible.nonempty.resolve_right (not_not_intro rfl))
      ((hasDuplicateTypes_eq_false_iff items).mpr hadmissible.nodup) ?_ ?_
    · rw [rejectLoop_finishes c items hadmissible.nodup]
      exact List.all_eq_true.mpr hadmissible.accepted
    · dsimp only
      rw [horder]
      exact applyReject_foldl h hadmissible.nodup hadmissible.accepted
  · rw [hfound]
    refine .refused ?_
    by_cases hdistinct : hasDuplicateTypes items = true
    · exact Or.inr (Or.inl hdistinct)
    · rw [rejectLoop_finishes c items
        ((hasDuplicateTypes_eq_false_iff items).mp (by simpa using hdistinct))]
      exact invalid_of_not_admissible hrefused

end Answers

end SnesModem.Asm.IpcpNegative
