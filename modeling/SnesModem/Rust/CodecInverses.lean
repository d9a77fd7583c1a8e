import SnesModem.Rust.LcpOptions
import SnesModem.Rust.Pap

/-!
# Decoding and encoding are inverse

A parsed PAP request is the encoding of what is read from it, up to its declared Length, and an area of LCP options is
the concatenation of the options that the iterator yields.

* `parsePacket_ok`, `splitField_ok`: what a parser that succeeds has read;
* `encodeAuthenticateRequest_of_parse`: the request that is encoded from the fields of a parsed one;
* `requests_and_options_inverse`: both codecs.
-/

namespace SnesModem.Rust.CodecInverses

open SnesModem.Lib SnesModem.Rust.Pap
open SnesModem.Rust.ControlPacket hiding ConfigurationOption

/-- The declared Length of a packet. -/
def declaredLength (input : List UInt8) : ℕ := BigEndian.value ((input.drop 2).take 2)

section Parse

variable {ε : Type} {errors : ParseErrors ε}

/-- The octets of a parsed packet. -/
lemma parsePacket_ok {input : List UInt8} {packet : Packet} (h : parsePacket errors input = .ok packet) :
    headerLength ≤ declaredLength input ∧ declaredLength input ≤ input.length ∧
      packet.data.length = declaredLength input - headerLength ∧
      input.take (declaredLength input) =
        packet.code :: packet.identifier :: BigEndian.octets 2 (declaredLength input) ++ packet.data := by
  match input with
  | code :: identifier :: high :: low :: rest =>
    have hdeclared : declaredLength (code :: identifier :: high :: low :: rest) = BigEndian.value [high, low] := rfl
    have hoctets := BigEndian.octets_value [high, low]
    have hheader : headerLength = 4 := rfl
    rw [hdeclared]
    rw [parsePacket_cons] at h
    split_ifs at h with hshort hlong
    cases h
    refine ⟨by omega, by simp only [List.length_cons]; omega, by simp only [List.length_take]; omega, ?_⟩
    have htake : BigEndian.value [high, low] = BigEndian.value [high, low] - headerLength + 4 := by omega
    rw [show (2 : ℕ) = [high, low].length from rfl, hoctets, htake]
    rfl
  | [] | [_] | [_, _] | [_, _, _] => cases h

/-- Only the octets up to the declared Length are read. -/
lemma parsePacket_padded {input : List UInt8} {packet : Packet} (h : parsePacket errors input = .ok packet)
    (padding : List UInt8) : parsePacket errors (input.take (declaredLength input) ++ padding) = .ok packet := by
  obtain ⟨hheader, -, hlength, htake⟩ := parsePacket_ok h
  have hdata := length_data_of_parsePacket errors h
  have hencode : encodePacket (fun _ => ()) packet.code packet.identifier packet.data =
      .ok (input.take (declaredLength input)) := by
    rw [encodePacket, if_pos hdata, htake, hlength, Nat.add_sub_cancel' hheader]
  exact parsePacket_encodePacket errors _ hencode padding

end Parse

/-- The octets of a field that is read. -/
lemma splitField_ok {missing : DataParseError} {truncated : ℕ → ℕ → DataParseError} {data field trailing : List UInt8}
    (h : splitField missing truncated data = .ok (field, trailing)) :
    field.length ≤ 255 ∧ data = UInt8.ofNat field.length :: field ++ trailing := by
  cases data with
  | nil => cases h
  | cons length remaining =>
    unfold splitField at h
    dsimp only at h
    split_ifs at h with htruncated
    cases h
    have hlt := length.toNat_lt
    have hlength : (remaining.take length.toNat).length = length.toNat := by
      rw [List.length_take]
      omega
    rw [hlength, UInt8.ofNat_toNat, List.cons_append, List.take_append_drop]
    exact ⟨by omega, rfl⟩

/-- The packet of a request that is read. -/
lemma authenticateRequest_ok {packet : Packet} {peerId password : List UInt8}
    (h : authenticateRequest packet = .ok (peerId, password)) :
    packet.code = Code.authenticateRequest.octet ∧ peerId.length ≤ 255 ∧ password.length ≤ 255 ∧
      packet.data = UInt8.ofNat peerId.length :: peerId ++ UInt8.ofNat password.length :: password := by
  unfold authenticateRequest at h
  split_ifs at h with hcode
  split at h
  · cases h
  rename_i peerId' remaining hpeer
  split at h
  · cases h
  rename_i password' trailing hpassword
  split_ifs at h with htrailing
  cases h
  obtain ⟨hpeerLength, hdata⟩ := splitField_ok hpeer
  obtain ⟨hpasswordLength, hremaining⟩ := splitField_ok hpassword
  rw [ne_eq, not_not] at htrailing
  rw [htrailing, List.append_nil] at hremaining
  refine ⟨?_, hpeerLength, hpasswordLength, by rw [hdata, hremaining]⟩
  rw [ne_eq, not_not, knownCode] at hcode
  exact Code.fromOctet_eq_some_iff.mp hcode

/-- **A parsed request is encoded again** from its identifier and its fields: the octets up to the declared Length. -/
theorem encodeAuthenticateRequest_of_parse {input : List UInt8} {packet : Packet} {peerId password : List UInt8}
    (hparse : Packet.parse input = .ok packet) (hrequest : authenticateRequest packet = .ok (peerId, password))
    {available : ℕ} (havailable : declaredLength input ≤ available) :
    encodeAuthenticateRequest packet.identifier peerId password available =
      .ok (input.take (declaredLength input)) := by
  obtain ⟨hheader, hinput, hlength, htake⟩ := parsePacket_ok hparse
  obtain ⟨hcode, hpeer, hpassword, hdata⟩ := authenticateRequest_ok hrequest
  have hfits := length_data_of_parsePacket _ hparse
  have hencode : encodePacket EncodeError.packetTooLong Code.authenticateRequest.octet packet.identifier packet.data =
      .ok (input.take (declaredLength input)) := by
    rw [encodePacket, if_pos hfits, htake, hlength, Nat.add_sub_cancel' hheader, hcode]
  rw [encodeAuthenticateRequest, if_neg (by omega), if_neg (by omega), ← hdata, encodeData, hencode]
  dsimp only
  rw [if_neg]
  rw [List.length_take]
  omega

/-! ### Both codecs -/

section Inverses

open SnesModem.Rust.LcpOptions (ConfigurationOption configurationOptions IsOption)

/-- An area is accepted if the iterator yields no error. -/
def Accepted (area : List UInt8) : Prop := ∀ outcome ∈ (configurationOptions area).outcomes, ∃ option, outcome = .ok option

lemma yielded_injective :
    Function.Injective (List.map (.ok : ConfigurationOption → LcpOptions.Outcome)) :=
  List.map_injective_iff.mpr fun _ _ h => Except.ok.inj h

lemma accepted_iff (area : List UInt8) :
    Accepted area ↔ ∃ options : List ConfigurationOption, (configurationOptions area).outcomes = options.map .ok := by
  constructor
  · intro h
    rcases LcpOptions.partition_of_outcomes area with ⟨options, houtcomes, -⟩ | ⟨options, error, houtcomes⟩
    · exact ⟨options, houtcomes⟩
    · obtain ⟨option, hoption⟩ := h (.error error) (by simp [houtcomes])
      cases hoption
  · rintro ⟨options, houtcomes⟩ outcome houtcome
    rw [houtcomes] at houtcome
    obtain ⟨option, -, rfl⟩ := List.mem_map.mp houtcome
    exact ⟨option, rfl⟩

/-- **Decoding and encoding are inverse**: a request that is encoded is read back, with anything behind it; a request
that is read, with anything behind its declared Length, is the encoding of what is read; and an area of options is
accepted exactly if it is a concatenation of options, which are then the ones that the iterator yields. -/
theorem requests_and_options_inverse :
    (∀ (identifier : UInt8) (peerId password packet padding : List UInt8) (available : ℕ),
      encodeAuthenticateRequest identifier peerId password available = .ok packet →
        ∃ parsed, Packet.parse (packet ++ padding) = .ok parsed ∧ parsed.identifier = identifier ∧
          authenticateRequest parsed = .ok (peerId, password)) ∧
    (∀ (input : List UInt8) (packet : Packet) (peerId password : List UInt8),
      Packet.parse input = .ok packet → authenticateRequest packet = .ok (peerId, password) →
        declaredLength input ≤ input.length ∧
        (∀ available, declaredLength input ≤ available →
          encodeAuthenticateRequest packet.identifier peerId password available =
            .ok (input.take (declaredLength input))) ∧
        ∀ padding, Packet.parse (input.take (declaredLength input) ++ padding) = .ok packet) ∧
    ∀ area : List UInt8,
      (Accepted area ↔ ∃ parts : List (List UInt8), parts.flatten = area ∧ ∀ part ∈ parts, IsOption part) ∧
      ∀ options : List ConfigurationOption, (configurationOptions area).outcomes = options.map .ok →
        (options.map (·.encoded)).flatten = area ∧
          (∀ option ∈ options, IsOption option.encoded ∧
            option.encoded.take 1 = [option.optionType] ∧ option.encoded.drop 2 = option.data) ∧
          ∀ parts : List (List UInt8), (∀ part ∈ parts, IsOption part) → parts.flatten = area →
            parts = options.map (·.encoded) := by
  refine ⟨?_, ?_, fun area => ?_⟩
  · intro identifier peerId password packet padding available hencode
    exact encodeAuthenticateRequest_parses hencode padding
  · intro input packet peerId password hparse hrequest
    refine ⟨(parsePacket_ok hparse).2.1, fun available havailable => ?_, parsePacket_padded hparse⟩
    exact encodeAuthenticateRequest_of_parse hparse hrequest havailable
  · have hyielded (options : List ConfigurationOption)
        (houtcomes : (configurationOptions area).outcomes = options.map .ok) :
        (options.map (·.encoded)).flatten = area ∧ ∀ option ∈ options, IsOption option.encoded ∧
          option.encoded.take 1 = [option.optionType] ∧ option.encoded.drop 2 = option.data := by
      rcases LcpOptions.partition_of_outcomes area with ⟨options', houtcomes', hparts⟩ | ⟨options', error, houtcomes'⟩
      · rw [yielded_injective (houtcomes.symm.trans houtcomes')]
        exact hparts
      · have herror : (.error error : LcpOptions.Outcome) ∈ options.map .ok := by
          rw [← houtcomes, houtcomes']
          simp
        obtain ⟨_, -, h⟩ := List.mem_map.mp herror
        cases h
    refine ⟨?_, fun options houtcomes => ⟨(hyielded options houtcomes).1, (hyielded options houtcomes).2, ?_⟩⟩
    · rw [accepted_iff]
      constructor
      · rintro ⟨options, houtcomes⟩
        obtain ⟨hflatten, hoptions⟩ := hyielded options houtcomes
        refine ⟨options.map (·.encoded), hflatten, fun part hpart => ?_⟩
        obtain ⟨option, hoption, rfl⟩ := List.mem_map.mp hpart
        exact (hoptions option hoption).1
      · rintro ⟨parts, rfl, hparts⟩
        obtain ⟨options, -, houtcomes⟩ := LcpOptions.outcomes_of_partition hparts
        exact ⟨options, houtcomes⟩
    · rintro parts hparts rfl
      obtain ⟨options', rfl, houtcomes'⟩ := LcpOptions.outcomes_of_partition hparts
      rw [yielded_injective (houtcomes'.symm.trans houtcomes)]

/-- A request with two octets of padding, and the area of an option of four octets. -/
theorem requests_and_options_inverse_padded :
    encodeAuthenticateRequest 7 [98, 111, 98] [120] 64 = .ok [1, 7, 0, 10, 3, 98, 111, 98, 1, 120] ∧
      Accepted [1, 4, 5, 220] := by
  obtain ⟨-, hrequest, hoptions⟩ := requests_and_options_inverse
  have hparse : Packet.parse [1, 7, 0, 10, 3, 98, 111, 98, 1, 120, 0, 0] = .ok ⟨1, 7, [3, 98, 111, 98, 1, 120]⟩ := rfl
  have hfields : authenticateRequest ⟨1, 7, [3, 98, 111, 98, 1, 120]⟩ = .ok ([98, 111, 98], [120]) := rfl
  have hparts : ∀ part ∈ [[1, 4, 5, 220]], IsOption part := by
    intro part hpart
    rw [List.mem_singleton.mp hpart]
    exact ⟨1, 4, [5, 220], rfl, rfl⟩
  exact ⟨(hrequest _ _ _ _ hparse hfields).2.1 64 (by decide), (hoptions _).1.mpr ⟨_, rfl, hparts⟩⟩

end Inverses

end SnesModem.Rust.CodecInverses
