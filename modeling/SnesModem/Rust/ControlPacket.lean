import SnesModem.Lib.BigEndian
import SnesModem.Lib.Tlv

/-!
# The packet codec of the control protocols

Every control protocol of the reference crate has its own copy of one packet codec: a header of Code,
Identifier and Length, and, in Configure packets, a list of options.  The copies differ in the names of
their errors only, so each of them is the codec of this module at its own errors.

* `parsePacket`, `encodePacket`: the packet, with `parsePacket_encodePacket` between them;
* `collectOptions`: the options of a packet, or the first fault;
* `duplicateTypeMap`, `hasDuplicateTypes`: the check for options of one type.
-/

namespace SnesModem.Rust.ControlPacket

open SnesModem.Lib

abbrev headerLength : ℕ := 4

structure Packet where
  code : UInt8
  identifier : UInt8
  data : List UInt8
  deriving DecidableEq, Repr

/-- The three errors of a parser, each from the lengths that its report names. -/
structure ParseErrors (ε : Type) where
  /-- Fewer octets than a header, from their number. -/
  headerTruncated : ℕ → ε
  /-- A declared length below the header, from it and the octets there are. -/
  declaredShort : ℕ → ℕ → ε
  /-- A declared length past the octets there are, from the two. -/
  declaredLong : ℕ → ℕ → ε

/-- `Packet::parse`: octets after the declared Length are padding. -/
def parsePacket {ε : Type} (errors : ParseErrors ε) : List UInt8 → Except ε Packet
  | code :: identifier :: high :: low :: rest =>
    let declared := BigEndian.value [high, low]
    if declared < headerLength then .error (errors.declaredShort declared (rest.length + 4))
    else if rest.length + 4 < declared then .error (errors.declaredLong declared (rest.length + 4))
    else .ok { code, identifier, data := rest.take (declared - headerLength) }
  | input => .error (errors.headerTruncated input.length)

/-- `encode_into` with an output of the packet's own length. -/
def encodePacket {ε : Type} (tooLong : ℕ → ε) (code identifier : UInt8) (data : List UInt8) :
    Except ε (List UInt8) :=
  if headerLength + data.length < 2 ^ 16 then
    .ok (code :: identifier :: BigEndian.octets 2 (headerLength + data.length) ++ data)
  else .error (tooLong data.length)

section Codec

variable {ε δ : Type} (errors : ParseErrors ε) (tooLong : ℕ → δ)

theorem parsePacket_cons (code identifier high low : UInt8) (rest : List UInt8) :
    parsePacket errors (code :: identifier :: high :: low :: rest) =
      if BigEndian.value [high, low] < headerLength then
        .error (errors.declaredShort (BigEndian.value [high, low]) (rest.length + 4))
      else if rest.length + 4 < BigEndian.value [high, low] then
        .error (errors.declaredLong (BigEndian.value [high, low]) (rest.length + 4))
      else .ok ⟨code, identifier, rest.take (BigEndian.value [high, low] - headerLength)⟩ := rfl

/-- **What the encoder writes is parsed back**, padding after it or not. -/
theorem parsePacket_encodePacket {code identifier : UInt8} {data packet : List UInt8}
    (h : encodePacket tooLong code identifier data = .ok packet) (padding : List UInt8) :
    parsePacket errors (packet ++ padding) = .ok ⟨code, identifier, data⟩ := by
  unfold encodePacket at h
  split at h
  · rename_i hlength
    cases h
    have two : ∀ n < 2 ^ 16, ∃ high low, BigEndian.octets 2 n = [high, low] ∧
        BigEndian.value [high, low] = n := by
      intro n hn
      refine ⟨UInt8.ofNat (n / 256), UInt8.ofNat n, rfl, ?_⟩
      exact BigEndian.value_octets 2 n (by simpa using hn)
    obtain ⟨high, low, hoctets, hvalue⟩ := two _ hlength
    rw [hoctets]
    simp only [List.cons_append, List.nil_append]
    have hheader : headerLength = 4 := rfl
    rw [parsePacket_cons, hvalue, if_neg (by omega), if_neg (by rw [List.length_append]; omega)]
    simp
  · cases h

/-- A packet that is parsed has a declared length that fits two octets. -/
theorem length_data_of_parsePacket {input : List UInt8} {packet : Packet}
    (h : parsePacket errors input = .ok packet) : headerLength + packet.data.length < 2 ^ 16 := by
  unfold parsePacket at h
  split at h
  · rename_i high low rest
    have := BigEndian.value_lt [high, low]
    dsimp only at h
    split_ifs at h
    cases h
    simp only [List.length_take, List.length_cons, List.length_nil] at this ⊢
    omega
  · cases h

theorem encodePacket_ok {code identifier : UInt8} {data : List UInt8}
    (h : headerLength + data.length < 2 ^ 16) : ∃ packet, encodePacket tooLong code identifier data = .ok packet :=
  ⟨_, if_pos h⟩

end Codec

/-! ### Options -/

abbrev ConfigurationOption := Tlv.Item

/-- `collect_options`: all options of the packet, or the first fault. -/
def collectOptions {ε : Type} (error : Tlv.Fault → ε) (data : List UInt8) :
    Except ε (List ConfigurationOption) :=
  match Tlv.items data with
  | (options, none) => .ok options
  | (_, some fault) => .error (error fault)

section Options

variable {ε : Type} (error : Tlv.Fault → ε)

theorem collectOptions_flatMap (options : List ConfigurationOption) :
    collectOptions error (options.flatMap Tlv.Item.encoded) = .ok options := by
  unfold collectOptions
  rw [Tlv.items_flatMap]

theorem flatMap_of_collectOptions {data : List UInt8} {options : List ConfigurationOption}
    (h : collectOptions error data = .ok options) : options.flatMap Tlv.Item.encoded = data := by
  have hread := Tlv.flatMap_items data
  unfold collectOptions at h
  split at h
  · rename_i heq
    cases h
    simpa [heq] using hread
  · cases h

end Options

/-- One turn of the loop of `duplicateTypeMap`, on the types seen and the types seen twice. -/
def markType (maps : (UInt8 → Bool) × (UInt8 → Bool)) (option : ConfigurationOption) :
    (UInt8 → Bool) × (UInt8 → Bool) :=
  (Function.update maps.1 option.type true,
    Function.update maps.2 option.type (maps.2 option.type || maps.1 option.type))

/-- The types that more than one option has. -/
def duplicateTypeMap (options : List ConfigurationOption) : UInt8 → Bool :=
  (options.foldl markType (fun _ => false, fun _ => false)).2

def hasDuplicateTypes (options : List ConfigurationOption) : Bool :=
  (List.range 256).any fun index => duplicateTypeMap options (UInt8.ofNat index)

section Duplicates

lemma foldl_markType (options : List ConfigurationOption) (maps : (UInt8 → Bool) × (UInt8 → Bool)) (type : UInt8) :
    (options.foldl markType maps).1 type = (maps.1 type || decide (type ∈ options.map (·.type))) ∧
    (options.foldl markType maps).2 type =
      (maps.2 type || (maps.1 type && decide (type ∈ options.map (·.type))) ||
        decide (2 ≤ (options.map (·.type)).count type)) := by
  induction options generalizing maps with
  | nil => simp
  | cons option options ih =>
    obtain ⟨ih₁, ih₂⟩ := ih (markType maps option)
    rw [List.foldl_cons, ih₁, ih₂, List.map_cons, List.count_cons]
    by_cases ht : type = option.type
    · subst ht
      have hone : 1 ≤ (options.map (·.type)).count option.type ↔ option.type ∈ options.map (·.type) :=
        List.one_le_count_iff
      have htwo : 2 ≤ (options.map (·.type)).count option.type → option.type ∈ options.map (·.type) :=
        fun h => hone.mp (by omega)
      by_cases hmem : option.type ∈ options.map (·.type)
      · simp [markType, hmem, hone.mpr hmem]
      · have hnone : ¬ 2 ≤ (options.map (·.type)).count option.type := mt htwo hmem
        simp [markType, hmem, hnone, mt hone.mp hmem]
    · simp [markType, ht, Ne.symm ht]

/-- **The map of duplicates** marks the types that occur at least twice. -/
theorem duplicateTypeMap_eq (options : List ConfigurationOption) (type : UInt8) :
    duplicateTypeMap options type = decide (2 ≤ (options.map (·.type)).count type) := by
  have := (foldl_markType options (fun _ => false, fun _ => false) type).2
  simpa [duplicateTypeMap] using this

theorem hasDuplicateTypes_eq_false_iff (options : List ConfigurationOption) :
    hasDuplicateTypes options = false ↔ (options.map (·.type)).Nodup := by
  rw [List.nodup_iff_count_le_one]
  unfold hasDuplicateTypes
  simp only [List.any_eq_false, List.mem_range, duplicateTypeMap_eq, decide_eq_true_eq]
  constructor
  · intro h type
    have := h type.toNat type.toNat_lt
    rw [UInt8.ofNat_toNat] at this
    omega
  · intro h index _
    have := h (UInt8.ofNat index)
    omega

end Duplicates

end SnesModem.Rust.ControlPacket
