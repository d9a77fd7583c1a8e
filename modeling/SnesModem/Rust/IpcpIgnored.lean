import SnesModem.Rust.Ipcp

/-!
# What an ignored IPCP packet leaves behind

A packet whose result names a reason to ignore it should leave the client as it was.  The two negative
answers are read option by option, and each option is written before the next one is checked.

* `suggestion`, `repeatsRequest`: when the loops accept an option, said of the client before the packet;
* `nakLoop_eq_iff`, `rejectLoop_eq_iff`: when a loop leaves the client as it was;
* `ignoredIntact_iff`: the packets that are ignored and yet change the client.
-/

namespace SnesModem.Rust.IpcpIgnored

open SnesModem.Lib SnesModem.Rust.ControlPacket SnesModem.Rust.Ipcp SnesModem.Rust.Ipcp.Client

/-! ### The client by option types -/

/-- Whether the outstanding request has the option. -/
def requests (c : Client) : OptionType → Bool
  | .ipAddress => c.requestAddressOption
  | .primaryDnsServerAddress => c.requestPrimaryDnsOption
  | .secondaryDnsServerAddress => c.requestSecondaryDnsOption
  | _ => false

/-- The address that the client holds for the option. -/
def held (c : Client) : OptionType → Ipv4Address
  | .ipAddress => c.localAddress
  | .primaryDnsServerAddress => c.primaryDnsAddress
  | .secondaryDnsServerAddress => c.secondaryDnsAddress
  | _ => unspecifiedAddress

/-- The requested option that a Nak suggests a value for, and the value. -/
def suggestion (c : Client) (option : ConfigurationOption) : Option (OptionType × Ipv4Address) :=
  match knownType option with
  | none => none
  | some type =>
    if requests c type then
      ((addressOfData option.data).filter fun address => address ≠ unspecifiedAddress).map (type, ·)
    else none

/-- The suggestion is not what the client holds. -/
def suggestsNew (c : Client) (option : ConfigurationOption) : Bool :=
  match suggestion c option with
  | some (type, address) => address ≠ held c type
  | none => false

/-- The option of a Reject is one of the outstanding request, octet by octet. -/
def repeatsRequest (c : Client) (option : ConfigurationOption) : Bool :=
  match knownType option with
  | none => false
  | some type => requests c type && option.encoded == (encodeAddressOption type (held c type)).encoded

/-- The client with another address for the option. -/
def store (c : Client) (type : OptionType) (address : Ipv4Address) : Client :=
  match type with
  | .ipAddress => { c with localAddress := address }
  | .primaryDnsServerAddress => { c with primaryDnsAddress := address }
  | .secondaryDnsServerAddress => { c with secondaryDnsAddress := address }
  | _ => c

/-- The client that no longer requests the option. -/
def withdraw (c : Client) (type : OptionType) : Client :=
  match type with
  | .ipAddress => { c with requestAddressOption := false }
  | .primaryDnsServerAddress =>
    { c with requestPrimaryDnsOption := false, primaryDnsAddress := unspecifiedAddress }
  | .secondaryDnsServerAddress =>
    { c with requestSecondaryDnsOption := false, secondaryDnsAddress := unspecifiedAddress }
  | _ => c

section Fields

variable (c : Client) (type : OptionType) (address : Ipv4Address)

@[simp] lemma requests_store : requests (store c type address) = requests c := by
  funext other
  cases type <;> cases other <;> rfl

lemma held_store_self (h : requests c type = true) : held (store c type address) type = address := by
  cases type <;> first | rfl | simp [requests] at h

lemma held_store_of_ne {other : OptionType} (h : other ≠ type) :
    held (store c type address) other = held c other := by
  cases type <;> cases other <;> first | rfl | simp at h

lemma store_held : store c type (held c type) = c := by cases type <;> rfl

lemma requests_withdraw_self : requests (withdraw c type) type = false := by cases type <;> rfl

lemma requests_withdraw_of_ne {other : OptionType} (h : other ≠ type) :
    requests (withdraw c type) other = requests c other := by
  cases type <;> cases other <;> first | rfl | simp at h

lemma held_withdraw_of_ne {other : OptionType} (h : other ≠ type) :
    held (withdraw c type) other = held c other := by
  cases type <;> cases other <;> first | rfl | simp at h

lemma requests_withdraw_le (other : OptionType) (h : requests (withdraw c type) other = true) :
    requests c other = true := by
  by_cases hne : other = type
  · subst hne
    rw [requests_withdraw_self] at h
    cases h
  · rwa [requests_withdraw_of_ne c type hne] at h

end Fields

/-! ### The turns of the two loops -/

lemma octet_of_fromOctet {value : UInt8} {type : OptionType} (h : OptionType.fromOctet value = some type) :
    value = type.octet := by
  apply UInt8.toNat_inj.mp
  unfold OptionType.fromOctet at h
  split at h <;> cases h <;> assumption

/-- Options of different types have different known types. -/
lemma knownType_ne {option other : ConfigurationOption} {type : OptionType} (h : option.type ≠ other.type)
    (htype : knownType option = some type) : knownType other ≠ some type := by
  intro hother
  exact h ((octet_of_fromOctet htype).trans (octet_of_fromOctet hother).symm)

theorem nakOption_eq (c : Client) (option : ConfigurationOption) :
    nakOption c option = (suggestion c option).map fun found => store c found.1 found.2 := by
  unfold nakOption suggestion optionAddress
  cases htype : knownType option with
  | none => rfl
  | some type =>
    cases type with
    | ipAddresses => rfl
    | ipCompressionProtocol => rfl
    | ipAddress => cases h : c.requestAddressOption <;> simp [requests, store, h, Function.comp_def]
    | primaryDnsServerAddress =>
      cases h : c.requestPrimaryDnsOption <;> simp [requests, store, h, Function.comp_def]
    | secondaryDnsServerAddress =>
      cases h : c.requestSecondaryDnsOption <;> simp [requests, store, h, Function.comp_def]

theorem rejectOption_eq (c : Client) (option : ConfigurationOption) :
    rejectOption c option = if repeatsRequest c option then (knownType option).map (withdraw c) else none := by
  unfold rejectOption repeatsRequest
  cases htype : knownType option with
  | none => rfl
  | some type => cases type <;> simp [requests, held, withdraw]

section NakLoop

lemma suggestion_store (c : Client) (type : OptionType) (address : Ipv4Address) :
    suggestion (store c type address) = suggestion c := by
  funext option
  simp [suggestion]

lemma knownType_of_suggestion {c : Client} {option : ConfigurationOption} {found : OptionType × Ipv4Address}
    (h : suggestion c option = some found) : knownType option = some found.1 ∧ requests c found.1 = true := by
  unfold suggestion at h
  split at h
  · cases h
  · rename_i type htype
    split_ifs at h with hrequests
    obtain ⟨address, -, rfl⟩ := Option.map_eq_some_iff.mp h
    exact ⟨htype, hrequests⟩

/-- The loop comes to its end when every option is a suggestion. -/
theorem nakLoop_finishes (c : Client) (options : List ConfigurationOption) :
    (optionLoop nakOption c options).2 = options.all fun option => (suggestion c option).isSome := by
  induction options generalizing c with
  | nil => rfl
  | cons option options ih =>
    rw [optionLoop, nakOption_eq]
    cases h : suggestion c option with
    | none => simp [h]
    | some found =>
      simp only [Option.map_some, List.all_cons, h, Option.isSome_some, Bool.true_and]
      rw [ih, suggestion_store]

lemma held_nakLoop (c : Client) (options : List ConfigurationOption) (type : OptionType)
    (h : ∀ option ∈ options, knownType option ≠ some type) :
    held (optionLoop nakOption c options).1 type = held c type := by
  induction options generalizing c with
  | nil => rfl
  | cons option options ih =>
    rw [optionLoop, nakOption_eq]
    cases hs : suggestion c option with
    | none => rfl
    | some found =>
      have hne : type ≠ found.1 := by
        rintro rfl
        exact h option (by simp) (knownType_of_suggestion hs).1
      rw [Option.map_some]
      show held (optionLoop nakOption (store c found.1 found.2) options).1 type = held c type
      rw [ih _ fun other hother => h other (by simp [hother]), held_store_of_ne c _ _ hne]

/-- **The Nak loop leaves the client as it was** when the suggestions before the first option that is none
are all held already. -/
theorem nakLoop_eq_iff (c : Client) (options : List ConfigurationOption)
    (hnodup : (options.map (·.type)).Nodup) :
    (optionLoop nakOption c options).1 = c ↔
      ∀ option ∈ options.takeWhile fun option => (suggestion c option).isSome, suggestsNew c option = false := by
  induction options with
  | nil => simp [optionLoop]
  | cons option options ih =>
    obtain ⟨hnotin, hnodup⟩ := List.nodup_cons.mp hnodup
    rw [optionLoop, nakOption_eq]
    cases hs : suggestion c option with
    | none => simp [hs]
    | some found =>
      obtain ⟨htype, hrequests⟩ := knownType_of_suggestion hs
      have hrest : ∀ other ∈ options, knownType other ≠ some found.1 := fun other hother =>
        knownType_ne (fun heq => hnotin (List.mem_map.mpr ⟨other, hother, heq.symm⟩)) htype
      rw [Option.map_some, List.takeWhile_cons_of_pos (by rw [hs]; rfl)]
      simp only [List.forall_mem_cons, suggestsNew, hs]
      by_cases hheld : found.2 = held c found.1
      · rw [hheld, store_held, ih hnodup]
        simp [suggestsNew]
      · -- The value stays in the client: no later option has this type.
        have hchanged : (optionLoop nakOption (store c found.1 found.2) options).1 ≠ c := by
          intro heq
          apply hheld
          rw [← held_store_self c found.1 found.2 hrequests, ← held_nakLoop _ _ _ hrest, heq]
        simp [hchanged, hheld]

end NakLoop

section RejectLoop

lemma repeatsRequest_withdraw {c : Client} {type : OptionType} {option : ConfigurationOption}
    (h : knownType option ≠ some type) : repeatsRequest (withdraw c type) option = repeatsRequest c option := by
  unfold repeatsRequest
  cases htype : knownType option with
  | none => rfl
  | some other =>
    have hne : other ≠ type := fun heq => h (by rw [htype, heq])
    simp only [requests_withdraw_of_ne c type hne, held_withdraw_of_ne c type hne]

lemma knownType_of_repeatsRequest {c : Client} {option : ConfigurationOption}
    (h : repeatsRequest c option = true) : ∃ type, knownType option = some type ∧ requests c type = true := by
  unfold repeatsRequest at h
  split at h
  · cases h
  · rename_i type htype
    exact ⟨type, htype, (Bool.and_eq_true_iff.mp h).1⟩

/-- The loop comes to its end when every option repeats the request. -/
theorem rejectLoop_finishes (c : Client) (options : List ConfigurationOption)
    (hnodup : (options.map (·.type)).Nodup) :
    (optionLoop rejectOption c options).2 = options.all (repeatsRequest c) := by
  induction options generalizing c with
  | nil => rfl
  | cons option options ih =>
    obtain ⟨hnotin, hnodup⟩ := List.nodup_cons.mp hnodup
    rw [optionLoop, rejectOption_eq]
    cases hr : repeatsRequest c option with
    | false => simp [hr]
    | true =>
      obtain ⟨type, htype, -⟩ := knownType_of_repeatsRequest hr
      simp only [if_true, htype, Option.map_some, List.all_cons, hr, Bool.true_and]
      rw [ih _ hnodup, Bool.eq_iff_iff, List.all_eq_true, List.all_eq_true]
      refine forall₂_congr fun other hother => ?_
      rw [repeatsRequest_withdraw]
      exact knownType_ne (fun heq => hnotin (List.mem_map.mpr ⟨other, hother, heq.symm⟩)) htype

lemma requests_rejectLoop (c : Client) (options : List ConfigurationOption) (type : OptionType)
    (h : requests (optionLoop rejectOption c options).1 type = true) : requests c type = true := by
  induction options generalizing c with
  | nil => exact h
  | cons option options ih =>
    rw [optionLoop, rejectOption_eq] at h
    cases hr : repeatsRequest c option with
    | false => simpa [hr] using h
    | true =>
      obtain ⟨found, htype, -⟩ := knownType_of_repeatsRequest hr
      simp only [hr, if_true, htype, Option.map_some] at h
      exact requests_withdraw_le c found type (ih _ h)

/-- **The Reject loop leaves the client as it was** when not even the first option repeats the request. -/
theorem rejectLoop_eq_iff (c : Client) (options : List ConfigurationOption) :
    (optionLoop rejectOption c options).1 = c ↔ options.takeWhile (repeatsRequest c) = [] := by
  cases options with
  | nil => simp [optionLoop]
  | cons option options =>
    rw [optionLoop, rejectOption_eq]
    cases hr : repeatsRequest c option with
    | false => simp [hr]
    | true =>
      obtain ⟨type, htype, hrequests⟩ := knownType_of_repeatsRequest hr
      have hchanged : (optionLoop rejectOption (withdraw c type) options).1 ≠ c := by
        intro heq
        have := requests_rejectLoop (withdraw c type) options type (by rw [heq]; exact hrequests)
        rw [requests_withdraw_self] at this
        cases this
      simp [htype, hr, hchanged]

end RejectLoop

/-! ### Ignored packets -/

/-- If the outcome is to ignore the packet, the client is `c` and there is no action. -/
def Intact (c : Client) (outcome : Outcome) : Prop :=
  ∀ transition, outcome.2 = .ok transition → transition.ignored ≠ none →
    outcome.1 = c ∧ transition.actions = []

/-- **The packet leaves the client as it was** if it is ignored. -/
def IgnoredIntact (c : Client) (input : List UInt8) (nowMs : ℕ) : Prop := Intact c (c.receive input nowMs)

/-- An option is no suggestion, and one before the first such option suggests a new value. -/
def NakWrites (c : Client) (options : List ConfigurationOption) : Prop :=
  (∃ option ∈ options, suggestion c option = none) ∧
    ∃ option ∈ options.takeWhile fun option => (suggestion c option).isSome, suggestsNew c option = true

/-- An option does not repeat the request, and the first option does. -/
def RejectWrites (c : Client) (options : List ConfigurationOption) : Prop :=
  (∃ option ∈ options, repeatsRequest c option = false) ∧ options.takeWhile (repeatsRequest c) ≠ []

/-- The packet is a negative answer to the outstanding request whose options the loop reads, in which an
option the loop does not accept comes after one that it has written to the client. -/
def PartialUpdate (c : Client) (input : List UInt8) : Prop :=
  c.state ≠ .closed ∧ c.state ≠ .stopped ∧ ∃ packet options,
    Packet.parse input = .ok packet ∧ packet.identifier = c.requestIdentifier ∧
    collectOptions optionParseError packet.data = .ok options ∧ hasDuplicateTypes options = false ∧
    (knownCode packet = some .configureNak ∧ NakWrites c options ∨
      knownCode packet = some .configureReject ∧ RejectWrites c options)

section Intact

lemma intact_ignored (c : Client) (reason : Option IgnoreReason) : Intact c (c, .ok { ignored := reason }) := by
  intro transition h _
  cases h
  exact ⟨rfl, rfl⟩

lemma intact_of_not_ignored {c : Client} {outcome : Outcome}
    (h : ∀ transition, outcome.2 = .ok transition → transition.ignored = none) : Intact c outcome := by
  intro transition hok hignored
  exact absurd (h transition hok) hignored

lemma not_ignored_map {ε α : Type} {packet : Except ε α} {actions : α → List Action} {transition : Transition}
    (h : (packet.map fun p => ({ actions := actions p } : Transition)) = .ok transition) :
    transition.ignored = none := by
  cases packet with
  | error => cases h
  | ok p => cases h; rfl

lemma intact_request (c : Client) (packet : Packet) (nowMs : ℕ) :
    Intact c (c.receiveConfigureRequest packet nowMs) := by
  unfold receiveConfigureRequest
  split
  · exact intact_ignored c _
  · split
    · exact intact_of_not_ignored fun _ h => by cases h
    · refine intact_of_not_ignored fun transition h => ?_
      dsimp only at h
      split at h
      · cases h; rfl
      · cases h; rfl
      · split at h <;> (cases h; rfl)
      · split at h <;> (cases h; try rfl)
      · cases h; rfl
      · cases h; rfl

lemma intact_ack (c : Client) (packet : Packet) (nowMs : ℕ) :
    Intact c (c.receiveConfigureAck packet nowMs) := by
  unfold receiveConfigureAck
  split
  · exact intact_ignored c _
  · refine intact_of_not_ignored fun transition h => ?_
    split at h
    · cases h; rfl
    · cases h; rfl
    · exact not_ignored_map h
    · exact not_ignored_map h
    · cases h; rfl
    · cases h; rfl

/-- A negative answer, by the loop that reads its options. -/
lemma intact_negative_iff (turn : Client → ConfigurationOption → Option Client) (c : Client) (packet : Packet)
    (nowMs : ℕ) :
    Intact c (receiveNegative turn c packet nowMs) ↔
      ∀ options, packet.identifier = c.requestIdentifier →
        collectOptions optionParseError packet.data = .ok options → hasDuplicateTypes options = false →
        (optionLoop turn c options).2 = false → (optionLoop turn c options).1 = c := by
  unfold receiveNegative
  by_cases hid : packet.identifier = c.requestIdentifier
  · rw [if_neg (by simpa using hid)]
    cases hoptions : collectOptions optionParseError packet.data with
    | error => exact iff_of_true (intact_ignored c _) (fun _ _ h => by cases h)
    | ok options =>
      dsimp only
      by_cases hcheck : options = [] ∨ hasDuplicateTypes options = true
      · rw [if_pos hcheck]
        refine iff_of_true (intact_ignored c _) ?_
        rintro _ - ⟨⟩ hdup hloop
        rcases hcheck with rfl | hcheck
        · rfl
        · rw [hdup] at hcheck
          cases hcheck
      · rw [if_neg hcheck]
        have hdup : hasDuplicateTypes options = false := by simpa using (not_or.mp hcheck).2
        cases hloop : optionLoop turn c options with
        | mk left finished =>
          cases finished with
          | true =>
            refine iff_of_true (intact_of_not_ignored fun _ h => ?_) ?_
            · exact not_ignored_map h
            · rintro _ - ⟨⟩ - h
              rw [hloop] at h
              cases h
          | false =>
            constructor
            · rintro h _ - ⟨⟩ - -
              rw [hloop]
              exact (h invalidResponse rfl (by simp [invalidResponse])).1
            · intro h
              have hleft := h options hid rfl hdup (by rw [hloop])
              rw [hloop] at hleft
              dsimp only at hleft ⊢
              rw [hleft]
              exact intact_ignored c _
  · rw [if_pos (by simpa using hid)]
    exact iff_of_true (intact_ignored c _) (fun _ h => absurd h hid)

end Intact

section Writes

variable {c : Client} {options : List ConfigurationOption} (hdup : hasDuplicateTypes options = false)
include hdup

lemma nakWrites_iff :
    ((optionLoop nakOption c options).2 = false → (optionLoop nakOption c options).1 = c) ↔
      ¬ NakWrites c options := by
  have hnodup := (hasDuplicateTypes_eq_false_iff options).mp hdup
  rw [nakLoop_finishes, nakLoop_eq_iff c options hnodup, NakWrites, not_and, List.all_eq_false]
  simp

lemma rejectWrites_iff :
    ((optionLoop rejectOption c options).2 = false → (optionLoop rejectOption c options).1 = c) ↔
      ¬ RejectWrites c options := by
  have hnodup := (hasDuplicateTypes_eq_false_iff options).mp hdup
  rw [rejectLoop_finishes c options hnodup, rejectLoop_eq_iff, RejectWrites, not_and, List.all_eq_false]
  simp

end Writes

section PartialUpdate

variable {c : Client} {input : List UInt8} {packet : Packet} (hparse : Packet.parse input = .ok packet)
include hparse

lemma partialUpdate_iff (hclosed : c.state ≠ .closed) (hstopped : c.state ≠ .stopped) :
    PartialUpdate c input ↔ ∃ options, packet.identifier = c.requestIdentifier ∧
      collectOptions optionParseError packet.data = .ok options ∧ hasDuplicateTypes options = false ∧
      (knownCode packet = some .configureNak ∧ NakWrites c options ∨
        knownCode packet = some .configureReject ∧ RejectWrites c options) := by
  unfold PartialUpdate
  constructor
  · rintro ⟨-, -, found, options, hfound, h⟩
    obtain rfl : packet = found := by simpa [hparse] using hfound
    exact ⟨options, h⟩
  · rintro ⟨options, h⟩
    exact ⟨hclosed, hstopped, packet, options, hparse, h⟩

lemma not_partialUpdate_of_code (hnak : knownCode packet ≠ some .configureNak)
    (hreject : knownCode packet ≠ some .configureReject) : ¬ PartialUpdate c input := by
  intro h
  obtain ⟨_, -, -, -, ⟨hcode, -⟩ | ⟨hcode, -⟩⟩ := (partialUpdate_iff hparse h.1 h.2.1).mp h
  · exact hnak hcode
  · exact hreject hcode

end PartialUpdate

/-- **An ignored packet leaves the client as it was, unless it is a partial update.** -/
theorem ignoredIntact_iff (c : Client) (input : List UInt8) (nowMs : ℕ) :
    IgnoredIntact c input nowMs ↔ ¬ PartialUpdate c input := by
  unfold IgnoredIntact Client.receive
  by_cases hstate : c.state = .closed ∨ c.state = .stopped
  · rw [if_pos hstate]
    refine iff_of_true (intact_ignored c _) fun h => ?_
    exact hstate.elim h.1 h.2.1
  · rw [if_neg hstate]
    obtain ⟨hclosed, hstopped⟩ := not_or.mp hstate
    cases hparse : Packet.parse input with
    | error => exact iff_of_true (intact_ignored c _) (by rintro ⟨-, -, _, _, h, -⟩; simp [hparse] at h)
    | ok packet =>
      have other : knownCode packet ≠ some .configureNak → knownCode packet ≠ some .configureReject →
          ¬ PartialUpdate c input := not_partialUpdate_of_code hparse
      have negative := partialUpdate_iff hparse hclosed hstopped
      dsimp only
      cases hcode : knownCode packet with
      | none => exact iff_of_true (intact_ignored c _) (other (by simp [hcode]) (by simp [hcode]))
      | some code =>
        cases code with
        | configureRequest => exact iff_of_true (intact_request c _ _) (other (by simp [hcode]) (by simp [hcode]))
        | configureAck => exact iff_of_true (intact_ack c _ _) (other (by simp [hcode]) (by simp [hcode]))
        | configureNak =>
          rw [negative]
          refine (intact_negative_iff nakOption c packet nowMs).trans ⟨?_, fun h options hid hoptions hdup => ?_⟩
          · rintro h ⟨options, hid, hoptions, hdup, ⟨-, hwrites⟩ | ⟨hreject, -⟩⟩
            · exact (nakWrites_iff hdup).mp (h options hid hoptions hdup) hwrites
            · simp [hcode] at hreject
          · refine (nakWrites_iff hdup).mpr fun hwrites => h ?_
            exact ⟨options, hid, hoptions, hdup, Or.inl ⟨hcode, hwrites⟩⟩
        | configureReject =>
          rw [negative]
          refine (intact_negative_iff rejectOption c packet nowMs).trans ⟨?_, fun h options hid hoptions hdup => ?_⟩
          · rintro h ⟨options, hid, hoptions, hdup, ⟨hnak, -⟩ | ⟨-, hwrites⟩⟩
            · simp [hcode] at hnak
            · exact (rejectWrites_iff hdup).mp (h options hid hoptions hdup) hwrites
          · refine (rejectWrites_iff hdup).mpr fun hwrites => h ?_
            exact ⟨options, hid, hoptions, hdup, Or.inr ⟨hcode, hwrites⟩⟩
        | terminateRequest | terminateAck | codeReject =>
          exact iff_of_true (intact_ignored c _) (other (by simp [hcode]) (by simp [hcode]))

/-- The Nak of a fresh request that suggests an address, and then names an option that was not requested:
the client ignores it and has taken the address. -/
theorem nak_then_unknown_option_not_intact :
    ¬ ∀ c, Client.Reachable c → ∀ input nowMs, IgnoredIntact c input nowMs := by
  intro h
  let settings : Settings := ⟨3000, 10, unspecifiedAddress, ⟨10, 24, 0, 1⟩⟩
  have hreach : Client.Reachable ((Client.new settings).doOpen 0).1 := .doOpen 0 (.new settings)
  have hintact := h _ hreach [3, 1, 0, 12, 3, 6, 10, 24, 0, 2, 7, 2] 10 invalidResponse
    (by decide +kernel) (by decide)
  exact absurd (congrArg Client.localAddress hintact.1) (by decide +kernel)

end SnesModem.Rust.IpcpIgnored
