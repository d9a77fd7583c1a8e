import SnesModem.Rust.Lcp

/-!
# The iterator over configuration options

* `ConfigurationOptions.next`: one call of the iterator, on the octets that are left;
* `outcomes`: what the calls yield up to the first `None`;
* `outcomes_items`: the iterator reads the octets as `Tlv.items` does;
* `outcomes_of_partition`, `partition_of_outcomes`: it accepts the areas that are options one behind another.
-/

namespace SnesModem.Rust.LcpOptions

open SnesModem.Lib SnesModem.Rust.Lcp

structure ConfigurationOption where
  optionType : UInt8
  data : List UInt8
  encoded : List UInt8
  deriving DecidableEq, Repr

structure ConfigurationOptions where
  remaining : List UInt8
  failed : Bool
  deriving DecidableEq, Repr

def configurationOptions (data : List UInt8) : ConfigurationOptions := ⟨data, false⟩

abbrev Outcome := Except OptionParseError ConfigurationOption

namespace ConfigurationOptions

/-- `Iterator::next`. -/
def next (s : ConfigurationOptions) : Option Outcome × ConfigurationOptions :=
  if s.failed then (none, s)
  else match s.remaining with
    | [] => (none, s)
    | [_] => (some (.error (.headerTruncated 1)), { s with failed := true })
    | optionType :: length :: rest =>
      let declaredLength := length.toNat
      let remaining := optionType :: length :: rest
      if declaredLength < 2 ∨ remaining.length < declaredLength then
        (some (.error (.invalidLength optionType declaredLength remaining.length)), { s with failed := true })
      else
        let encoded := remaining.take declaredLength
        (some (.ok ⟨optionType, encoded.drop 2, encoded⟩), { s with remaining := remaining.drop declaredLength })

/-- What a call that yields something uses up: octets, or the right to fail. -/
def size (s : ConfigurationOptions) : ℕ := s.remaining.length + if s.failed then 0 else 1

lemma size_lt {s s' : ConfigurationOptions} {outcome : Outcome} (h : s.next = (some outcome, s')) : s'.size < s.size := by
  obtain ⟨remaining, failed⟩ := s
  cases failed with
  | true => cases h
  | false =>
    match remaining with
    | [] => cases h
    | [_] =>
      cases h
      simp [size]
    | optionType :: length :: rest =>
      rw [next, if_neg (by simp)] at h
      dsimp only at h
      split_ifs at h with hlength
      · cases h
        simp [size]
      · cases h
        simp only [size, List.length_drop, List.length_cons] at hlength ⊢
        omega

/-- What the iterator yields up to its end. -/
def outcomes (s : ConfigurationOptions) : List Outcome :=
  match _h : s.next with
  | (none, _) => []
  | (some outcome, s') => outcome :: outcomes s'
termination_by s.size
decreasing_by exact size_lt _h

lemma outcomes_none {s s' : ConfigurationOptions} (h : s.next = (none, s')) : s.outcomes = [] := by
  rw [outcomes]
  split
  · rfl
  · simp_all

lemma outcomes_some {s s' : ConfigurationOptions} {outcome : Outcome} (h : s.next = (some outcome, s')) :
    s.outcomes = outcome :: s'.outcomes := by
  rw [outcomes]
  split <;> simp_all

lemma outcomes_failed (remaining : List UInt8) : outcomes ⟨remaining, true⟩ = [] :=
  outcomes_none (show next ⟨remaining, true⟩ = (none, ⟨remaining, true⟩) from rfl)

end ConfigurationOptions

/-! ### The items of the area -/

section Items

/-- The option that stands for an item. -/
def ofItem (item : Tlv.Item) : ConfigurationOption := ⟨item.type, item.data, item.encoded⟩

lemma next_encoded (item : Tlv.Item) (rest : List UInt8) :
    (configurationOptions (item.encoded ++ rest)).next = (some (.ok (ofItem item)), configurationOptions rest) := by
  have hlength := Tlv.toNat_length item
  have htake : (item.encoded ++ rest).take (item.data.length + 2) = item.encoded :=
    List.take_left' (Tlv.length_encoded item)
  have hdrop : (item.encoded ++ rest).drop (item.data.length + 2) = rest :=
    List.drop_left' (Tlv.length_encoded item)
  simp only [Tlv.Item.encoded, List.cons_append] at htake hdrop
  simp only [configurationOptions, ConfigurationOptions.next, Tlv.Item.encoded, List.cons_append, hlength, htake, hdrop]
  rw [if_neg (by simp), if_neg (by simp)]
  rfl

lemma next_fault {octets : List UInt8} {fault : Tlv.Fault} (h : Tlv.items octets = ([], some fault)) :
    (configurationOptions octets).next = (some (.error (optionParseError fault)), ⟨octets, true⟩) := by
  match octets with
  | [] => cases h
  | [_] =>
    cases h
    rfl
  | optionType :: length :: rest =>
    by_cases hvalid : 2 ≤ length.toNat ∧ length.toNat ≤ rest.length + 2
    · simp only [Tlv.items, List.length_cons, Tlv.read, if_pos hvalid] at h
      cases h
    · rw [Tlv.items_cons_cons _ _ _ hvalid] at h
      cases h
      have hlength : length.toNat < 2 ∨ (optionType :: length :: rest).length < length.toNat := by
        simp only [List.length_cons]
        omega
      rw [configurationOptions, ConfigurationOptions.next, if_neg (by simp)]
      dsimp only
      rw [if_pos hlength]
      rfl

/-- **The iterator** yields the items of the area, and the fault behind them if there is one. -/
theorem outcomes_items (data : List UInt8) :
    (configurationOptions data).outcomes =
      (Tlv.items data).1.map (fun item => .ok (ofItem item)) ++
        ((Tlv.items data).2.map fun fault => .error (optionParseError fault)).toList := by
  induction data using Tlv.induct with
  | nil =>
    have hend : (configurationOptions []).next = (none, configurationOptions []) := rfl
    exact ConfigurationOptions.outcomes_none hend
  | fault octets fault h =>
    rw [ConfigurationOptions.outcomes_some (next_fault h), ConfigurationOptions.outcomes_failed, h]
    rfl
  | item item rest ih =>
    rw [ConfigurationOptions.outcomes_some (next_encoded item rest), ih, Tlv.items_encoded_append]
    rfl

end Items

/-! ### Partitions -/

section Partitions

/-- One option: a type, a length that counts all octets of the option, and the data. -/
def IsOption (octets : List UInt8) : Prop :=
  ∃ (optionType length : UInt8) (data : List UInt8), octets = optionType :: length :: data ∧
    length.toNat = octets.length

lemma isOption_encoded (item : Tlv.Item) : IsOption item.encoded :=
  ⟨item.type, _, item.data, rfl, by rw [Tlv.toNat_length, Tlv.length_encoded]⟩

lemma exists_item {octets : List UInt8} (h : IsOption octets) : ∃ item : Tlv.Item, item.encoded = octets := by
  obtain ⟨optionType, length, data, rfl, hlength⟩ := h
  simp only [List.length_cons] at hlength
  have hlt := length.toNat_lt
  have hoctet : UInt8.ofNat (data.length + 2) = length := by rw [← hlength, UInt8.ofNat_toNat]
  refine ⟨⟨optionType, data, by omega⟩, ?_⟩
  rw [Tlv.Item.encoded, hoctet]

/-- The items of a partition into options. -/
lemma exists_items {parts : List (List UInt8)} (h : ∀ part ∈ parts, IsOption part) :
    ∃ items : List Tlv.Item, items.map Tlv.Item.encoded = parts := by
  induction parts with
  | nil => exact ⟨[], rfl⟩
  | cons part parts ih =>
    obtain ⟨item, hitem⟩ := exists_item (h part (by simp))
    obtain ⟨items, hitems⟩ := ih fun part hpart => h part (by simp [hpart])
    exact ⟨item :: items, by rw [List.map_cons, hitem, hitems]⟩

/-- **A partition into options is what the iterator yields**, so that there is one at most. -/
theorem outcomes_of_partition {parts : List (List UInt8)} (h : ∀ part ∈ parts, IsOption part) :
    ∃ options : List ConfigurationOption, options.map (·.encoded) = parts ∧
      (configurationOptions parts.flatten).outcomes = options.map .ok := by
  obtain ⟨items, rfl⟩ := exists_items h
  refine ⟨items.map ofItem, ?_, ?_⟩
  · rw [List.map_map]
    rfl
  · rw [← List.flatMap_def, outcomes_items, Tlv.items_flatMap, List.map_map]
    exact List.append_nil _

/-- **What the iterator yields is a partition** of the area if it yields no error, and else its last call yields one. -/
theorem partition_of_outcomes (data : List UInt8) :
    (∃ options : List ConfigurationOption, (configurationOptions data).outcomes = options.map .ok ∧
      (options.map (·.encoded)).flatten = data ∧
      ∀ option ∈ options, IsOption option.encoded ∧
        option.encoded.take 1 = [option.optionType] ∧ option.encoded.drop 2 = option.data) ∨
    ∃ (options : List ConfigurationOption) (error : OptionParseError),
      (configurationOptions data).outcomes = options.map .ok ++ [.error error] := by
  rw [outcomes_items]
  cases hfault : (Tlv.items data).2 with
  | none =>
    refine Or.inl ⟨(Tlv.items data).1.map ofItem, by simp, ?_, ?_⟩
    · rw [List.map_map]
      exact Tlv.flatMap_items data hfault
    · intro option hoption
      obtain ⟨item, -, rfl⟩ := List.mem_map.mp hoption
      exact ⟨isOption_encoded item, rfl, rfl⟩
  | some fault => exact Or.inr ⟨(Tlv.items data).1.map ofItem, optionParseError fault, by simp⟩

end Partitions

end SnesModem.Rust.LcpOptions
