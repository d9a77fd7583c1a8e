import SnesModem.Rust.DnsResponses

/-!
# DNS queries

`encode_a_query` against the host names, and the codec as a whole.

* `checkLabels_eq_ok_iff`: the loop over the parts between the dots passes if each is a label that is not too long;
* `writeLabels_eq`, `writeQuery_eq`: each write puts its octets before what is still zero, and none is out of bounds;
* `encodeAQuery_encodes`: the names that are accepted, and what is written;
* `codec_correct`: the encoder and the parser, with the responses that the parser refuses by its header.
-/

namespace SnesModem.Rust.Dns

open SnesModem.Lib SnesModem.Lib.DomainNames SnesModem.Lib.DnsMessages
open SnesModem.Lib.Octets (high low octet_forall)

/-! ### The labels -/

section Check

lemma validCharacter_eq (octet : UInt8) : (!isAsciiAlphanumeric octet && octet ≠ 0x2d) = !hostCharacter octet :=
  octet_forall (P := fun octet => (!isAsciiAlphanumeric octet && octet ≠ 0x2d) = !hostCharacter octet)
    (by decide +kernel) octet

lemma isAscii_of_character {octet : UInt8} (h : hostCharacter octet = true) : isAscii octet = true := by
  revert h
  exact octet_forall (P := fun octet => hostCharacter octet = true → isAscii octet = true) (by decide +kernel) octet

/-- **The labels that pass**, and the length that the loop counts. -/
theorem checkLabels_eq_ok_iff {labels : List (List UInt8)} {counted length : ℕ} :
    checkLabels labels counted = .ok length ↔
      (∀ label ∈ labels, IsLabel label ∧ label.length ≤ maxLabelLength) ∧
        length = counted + (wireLabels labels).length := by
  induction labels generalizing counted with
  | nil =>
    rw [checkLabels, wireLabels_nil, List.length_nil, Nat.add_zero]
    constructor
    · intro h
      exact ⟨nofun, (Except.ok.inj h).symm⟩
    · rintro ⟨-, rfl⟩
      rfl
  | cons label labels ih =>
    have hlength : counted + (wireLabels (label :: labels)).length =
        counted + (1 + label.length) + (wireLabels labels).length := by
      rw [wireLabels_cons, List.length_cons, List.length_append]
      omega
    rw [checkLabels, List.forall_mem_cons, hlength]
    by_cases hempty : label = []
    · rw [if_pos hempty]
      exact ⟨nofun, fun h => absurd hempty h.1.1.1.nonempty⟩
    rw [if_neg hempty]
    by_cases hlong : maxLabelLength < label.length
    · rw [if_pos hlong]
      exact ⟨nofun, fun h => absurd h.1.1.2 (Nat.not_le.mpr hlong)⟩
    rw [if_neg hlong]
    simp only [validCharacter_eq]
    cases hfind : label.find? fun octet => !hostCharacter octet with
    | some octet =>
      have hbad := List.find?_some hfind
      rw [Bool.not_eq_true'] at hbad
      refine ⟨nofun, fun h => ?_⟩
      have hgood := h.1.1.1.characters octet (List.mem_of_find?_eq_some hfind)
      exact absurd (hgood.symm.trans hbad) nofun
    | none =>
      have hcharacters : IsLabel label := by
        refine ⟨hempty, fun octet hmem => ?_⟩
        have hoctet := List.find?_eq_none.mp hfind octet hmem
        simpa using hoctet
      dsimp only
      rw [ih]
      constructor
      · rintro ⟨hlabels, hcount⟩
        exact ⟨⟨⟨hcharacters, Nat.not_lt.mp hlong⟩, hlabels⟩, hcount⟩
      · rintro ⟨⟨-, hlabels⟩, hcount⟩
        exact ⟨hlabels, hcount⟩

end Check

/-! ### The octets -/

section Write

variable (written data : List UInt8) (room : ℕ)

/-- Octets that are copied to where the output is still zero. -/
lemma copyFromSlice_zeros {first : ℕ} (hfirst : first = written.length) :
    Slices.copyFromSlice (written ++ List.replicate (data.length + room) 0) first (first + data.length) data =
      some (written ++ data ++ List.replicate room 0) := by
  subst hfirst
  rw [Slices.copyFromSlice_eq (Nat.le_add_right _ _) (by rw [List.length_append, List.length_replicate]; omega)
    (Nat.add_sub_cancel_left _ _).symm, List.take_left' rfl, List.replicate_add, ← List.append_assoc,
    List.drop_left' (by rw [List.length_append, List.length_replicate])]

lemma store_zeros (octet : UInt8) {offset : ℕ} (hoffset : offset = written.length) :
    Slices.store (written ++ List.replicate (1 + room) 0) offset octet =
      some (written ++ [octet] ++ List.replicate room 0) := by
  subst hoffset
  rw [Slices.store_eq (by rw [List.length_append, List.length_replicate]; omega),
    List.set_append_right _ _ (Nat.le_refl _), Nat.sub_self, Nat.add_comm, List.replicate_succ, List.set_cons_zero,
    List.append_assoc]
  rfl

lemma writeU16_zeros (value : UInt16) {offset : ℕ} (hoffset : offset = written.length) :
    writeU16 (written ++ List.replicate (2 + room) 0) offset value =
      some (written ++ wireWord value ++ List.replicate room 0) :=
  copyFromSlice_zeros written (wireWord value) room hoffset

/-- **The labels are written one behind the other.** -/
theorem writeLabels_eq (labels : List (List UInt8)) {offset : ℕ} (hoffset : offset = written.length) :
    writeLabels labels (written ++ List.replicate ((wireLabels labels).length + room) 0) offset =
      some (written ++ wireLabels labels ++ List.replicate room 0, offset + (wireLabels labels).length) := by
  induction labels generalizing written offset with
  | nil =>
    rw [wireLabels_nil, List.append_nil, List.length_nil, Nat.zero_add]
    rfl
  | cons label labels ih =>
    have hlength : (wireLabels (label :: labels)).length + room =
        1 + (label.length + ((wireLabels labels).length + room)) := by
      rw [wireLabels_cons, List.length_cons, List.length_append]
      omega
    have hbehind : offset + 1 = (written ++ [UInt8.ofNat label.length]).length := by
      rw [List.length_append, List.length_singleton, hoffset]
    have hnext : offset + 1 + label.length = (written ++ [UInt8.ofNat label.length] ++ label).length := by
      rw [List.length_append, ← hbehind]
    rw [hlength, writeLabels, store_zeros _ _ _ hoffset]
    dsimp only [Option.bind_eq_bind, Option.bind_some]
    rw [copyFromSlice_zeros _ _ _ hbehind]
    dsimp only [Option.bind_eq_bind, Option.bind_some]
    rw [ih _ hnext, wireLabels_cons]
    refine congrArg some (Prod.ext ?_ ?_)
    · simp
    · simp only [List.length_cons, List.length_append]
      omega

/-- The message of a query: one question, and no records. -/
def query (identifier : UInt16) (labels : List (List UInt8))
    (h : ∀ label ∈ labels, label ≠ [] ∧ label.length ≤ maximumLabel) : Message where
  identifier := identifier
  flags := flagRecursionDesired
  questions := [⟨⟨labels, none, h, nofun⟩, typeA, classIn⟩]
  answers := []
  authorities := []
  additionals := []
  questions_lt := Nat.one_lt_two_pow (by decide)
  answers_lt := by decide
  authorities_lt := by decide
  additionals_lt := by decide
  pointer_lt := by
    intro name hname
    obtain rfl := List.mem_singleton.mp hname
    exact nofun

lemma query_wire (identifier : UInt16) (labels : List (List UInt8))
    (h : ∀ label ∈ labels, label ≠ [] ∧ label.length ≤ maximumLabel) :
    (query identifier labels h).wire =
      (query identifier labels h).header ++ (wireName labels ++ (wireWord typeA ++ wireWord classIn)) := by
  have hquestions : (query identifier labels h).questions.flatMap Question.wire =
      wireName labels ++ (wireWord typeA ++ wireWord classIn) := List.append_nil _
  have hanswers : (query identifier labels h).answers.flatMap Record.wire ++ (query identifier labels h).behind = [] :=
    rfl
  rw [Content.wire, hquestions, hanswers, List.append_nil]

lemma length_query_wire (identifier : UInt16) (labels : List (List UInt8))
    (h : ∀ label ∈ labels, label ≠ [] ∧ label.length ≤ maximumLabel) :
    (query identifier labels h).wire.length = headerLength + (wireName labels).length + 4 := by
  have hheader : (query identifier labels h).header.length = headerLength := rfl
  rw [query_wire, List.length_append, List.length_append, hheader, Nat.add_assoc]
  rfl

/-- The question of a query is read behind its header, whatever is behind the query. -/
lemma readQuestion_query (identifier : UInt16) (labels : List (List UInt8))
    (h : ∀ label ∈ labels, label ≠ [] ∧ label.length ≤ maximumLabel) (behind : List UInt8) :
    readQuestion (((query identifier labels h).wire ++ behind).drop headerLength) =
      some (labels, typeA, classIn, behind) := by
  have hquestion : ((query identifier labels h).wire ++ behind).drop headerLength =
      wireName labels ++ (wireWord typeA ++ wireWord classIn ++ behind) := by
    rw [query_wire, List.append_assoc, List.append_assoc]
    exact List.drop_left' rfl
  rw [hquestion]
  exact readQuestion_wire h typeA classIn behind

/-- **The writes of a query**: none is out of bounds, and together they are its message. -/
theorem writeQuery_eq (identifier : UInt16) (labels : List (List UInt8))
    (h : ∀ label ∈ labels, label ≠ [] ∧ label.length ≤ maximumLabel) :
    writeQuery identifier labels (headerLength + (1 + (wireLabels labels).length) + 4) =
      some (query identifier labels h).wire := by
  have hrequired : headerLength + (1 + (wireLabels labels).length) + 4 =
      2 + (2 + (2 + (6 + ((wireLabels labels).length + (1 + (2 + (2 + 0))))))) := by
    change 12 + _ + 4 = _
    omega
  set header := (query identifier labels h).header with hheader
  -- the counts of the other sections stay zero
  have hlast : [] ++ wireWord identifier ++ wireWord flagRecursionDesired ++ wireWord 1 ++ List.replicate 6 0 =
      header := by
    have hnone : wireWord (UInt16.ofNat 0) = [0, 0] := by decide
    rw [hheader, Content.header]
    simp only [query, List.length_nil, List.length_singleton, hnone, List.append_assoc]
    rfl
  have hcounts : ∀ room, [] ++ wireWord identifier ++ wireWord flagRecursionDesired ++ wireWord 1 ++
      List.replicate (6 + room) 0 = header ++ List.replicate room 0 := by
    intro room
    rw [List.replicate_add, ← List.append_assoc, hlast]
  have hname : headerLength + (wireLabels labels).length = (header ++ wireLabels labels).length := by
    rw [List.length_append]
    rfl
  have hzero : headerLength + (wireLabels labels).length + 1 = (header ++ wireLabels labels ++ [0]).length := by
    rw [hname]
    simp only [List.length_append, List.length_singleton]
  have htype : headerLength + (wireLabels labels).length + 1 + 2 =
      (header ++ wireLabels labels ++ [0] ++ wireWord typeA).length := by
    rw [hzero]
    simp only [List.length_append, length_wireWord]
  unfold writeQuery
  rw [hrequired, ← List.nil_append (List.replicate _ 0)]
  dsimp only [Option.bind_eq_bind]
  rw [writeU16_zeros _ _ _ (by rfl)]
  dsimp only [Option.bind_some]
  rw [writeU16_zeros _ _ _ (by rfl)]
  dsimp only [Option.bind_some]
  rw [writeU16_zeros _ _ _ (by rfl)]
  dsimp only [Option.bind_some]
  rw [hcounts, writeLabels_eq _ _ _ (by rfl)]
  dsimp only [Option.bind_some]
  rw [store_zeros _ _ _ hname]
  dsimp only [Option.bind_some]
  rw [writeU16_zeros _ _ _ hzero]
  dsimp only [Option.bind_some]
  rw [writeU16_zeros _ _ _ htype, query_wire]
  simp [wireName, hheader]

end Write

/-! ### The encoder -/

/-- The names that a query asks for: host names with labels and a length that a message has room for. -/
def Encodable (name : List UInt8) : Prop :=
  1 ≤ name.length ∧ name.length ≤ maxNameLength ∧
    ∃ n : HostName, n.dotted = name ∧ ∀ label ∈ n.labels, label.length ≤ maxLabelLength

/-- The octets of the query for a name. -/
def requiredLength (name : List UInt8) : ℕ := headerLength + (name.length + 2) + 4

/-- What the encoder does: it accepts the names that can be asked for, if the output is large enough, and then writes the
message of the query, whose question has the labels of the name; otherwise the output stays. -/
structure Encodes (identifier : UInt16) (name output : List UInt8) (result : Except EncodeError ℕ)
    (written : List UInt8) : Prop where
  accepts : (∃ length, result = .ok length) ↔
    Encodable (stripDot name) ∧ requiredLength (stripDot name) ≤ output.length
  asks : ∀ length, result = .ok length → ∀ n : HostName, n.dotted = stripDot name →
    (∃ h, written = (query identifier n.labels h).wire ++ output.drop length ∧
      (query identifier n.labels h).wire.length = length) ∧
    readQuestion (written.drop headerLength) = some (n.labels, typeA, classIn, output.drop length)
  unchanged : ∀ error, result = .error error → written = output

section Encode

variable {identifier : UInt16} {name output : List UInt8}

lemma encodable_iff : Encodable name ↔ (1 ≤ name.length ∧ name.length ≤ maxNameLength) ∧
    ∀ label ∈ name.splitOn dot, IsLabel label ∧ label.length ≤ maxLabelLength := by
  constructor
  · rintro ⟨hpos, hle, n, rfl, hshort⟩
    refine ⟨⟨hpos, hle⟩, fun label hlabel => ?_⟩
    rw [n.splitOn_dotted] at hlabel
    exact ⟨n.isLabel label hlabel, hshort label hlabel⟩
  · rintro ⟨⟨hpos, hle⟩, hlabels⟩
    obtain ⟨n, hn⟩ := exists_dotted_iff.mpr fun label hlabel => (hlabels label hlabel).1
    refine ⟨hpos, hle, n, hn, fun label hlabel => ?_⟩
    rw [← n.splitOn_dotted, hn] at hlabel
    exact (hlabels label hlabel).2

/-- The names that can be asked for are ASCII. -/
lemma isAscii_of_labels (h : ∀ label ∈ name.splitOn dot, IsLabel label) : name.all isAscii = true := by
  refine List.all_eq_true.mpr fun octet hmem => ?_
  by_cases hdot : octet = separator
  · rw [hdot]
    rfl
  · exact isAscii_of_character (hostCharacter_of_splitOn h hmem hdot)

lemma required_eq : headerLength + (1 + (wireLabels (name.splitOn dot)).length) + 4 = requiredLength name := by
  have hwire := length_wireName_splitOn name
  rw [wireName, List.length_append, List.length_singleton] at hwire
  unfold requiredLength
  rw [← hwire, Nat.add_comm 1]

/-- A name that can be asked for, with enough room. -/
lemma encodeAQuery_of_encodable (hname : Encodable (stripDot name))
    (hroom : requiredLength (stripDot name) ≤ output.length)
    (h : ∀ label ∈ (stripDot name).splitOn dot, label ≠ [] ∧ label.length ≤ maximumLabel) :
    encodeAQuery identifier name output = some (.ok (requiredLength (stripDot name)),
      (query identifier ((stripDot name).splitOn dot) h).wire ++ output.drop (requiredLength (stripDot name))) := by
  obtain ⟨⟨hpos, hle⟩, hlabels⟩ := encodable_iff.mp hname
  have hne : stripDot name ≠ [] := List.ne_nil_of_length_pos hpos
  have hascii := isAscii_of_labels fun label hlabel => (hlabels label hlabel).1
  have hchecked : checkLabels ((stripDot name).splitOn dot) 1 = .ok _ := checkLabels_eq_ok_iff.mpr ⟨hlabels, rfl⟩
  unfold encodeAQuery
  dsimp only
  rw [if_neg hne, if_neg (Nat.not_lt.mpr hle), hascii, if_neg (by decide), hchecked]
  dsimp only
  rw [required_eq, if_neg (Nat.not_lt.mpr hroom), ← required_eq, writeQuery_eq _ _ h]
  rfl

/-- Every other name, or an output that is too small, is an error. -/
lemma encodeAQuery_of_not (h : ¬ (Encodable (stripDot name) ∧ requiredLength (stripDot name) ≤ output.length)) :
    ∃ error, encodeAQuery identifier name output = some (.error error, output) := by
  rw [encodable_iff] at h
  unfold encodeAQuery
  dsimp only
  split_ifs with hempty hlong hascii
  · exact ⟨_, rfl⟩
  · exact ⟨_, rfl⟩
  · exact ⟨_, rfl⟩
  cases hchecked : checkLabels ((stripDot name).splitOn dot) 1 with
  | error error => exact ⟨_, rfl⟩
  | ok length =>
    obtain ⟨hlabels, rfl⟩ := checkLabels_eq_ok_iff.mp hchecked
    dsimp only
    rw [required_eq]
    by_cases hroom : output.length < requiredLength (stripDot name)
    · rw [if_pos hroom]
      exact ⟨_, rfl⟩
    · have hpos := List.length_pos_of_ne_nil hempty
      exact absurd ⟨⟨⟨hpos, Nat.not_lt.mp hlong⟩, hlabels⟩, Nat.not_lt.mp hroom⟩ h

/-- **The encoder does what it is for**, for any name and any output. -/
theorem encodeAQuery_encodes (identifier : UInt16) (name output : List UInt8) :
    ∃ result written, encodeAQuery identifier name output = some (result, written) ∧
      Encodes identifier name output result written := by
  by_cases haccepted : Encodable (stripDot name) ∧ requiredLength (stripDot name) ≤ output.length
  · obtain ⟨hname, hroom⟩ := haccepted
    obtain ⟨-, hlabels⟩ := encodable_iff.mp hname
    have h : ∀ label ∈ (stripDot name).splitOn dot, label ≠ [] ∧ label.length ≤ maximumLabel :=
      fun label hlabel => ⟨(hlabels label hlabel).1.nonempty, (hlabels label hlabel).2⟩
    refine ⟨_, _, encodeAQuery_of_encodable hname hroom h, ⟨fun _ => ⟨hname, hroom⟩, fun _ => ⟨_, rfl⟩⟩, ?_,
      nofun⟩
    intro length hlength n hn
    obtain rfl := Except.ok.inj hlength
    have hsplit : (stripDot name).splitOn dot = n.labels := by
      rw [← hn]
      exact n.splitOn_dotted
    have hwire := length_wireName_splitOn (stripDot name)
    rw [hsplit] at hwire
    generalize (stripDot name).splitOn dot = labels at h hsplit
    subst hsplit
    have hlength : (query identifier n.labels h).wire.length = requiredLength (stripDot name) := by
      rw [length_query_wire, hwire]
      rfl
    exact ⟨⟨h, rfl, hlength⟩, readQuestion_query identifier n.labels h _⟩
  · obtain ⟨error, herror⟩ : ∃ error, encodeAQuery identifier name output = some (.error error, output) :=
      encodeAQuery_of_not haccepted
    refine ⟨_, _, herror, ⟨?_, fun h => absurd h haccepted⟩, nofun, fun _ _ => rfl⟩
    rintro ⟨length, hlength⟩
    cases hlength

end Encode

/-! ### The codec -/

/-- What the parser makes of a response that is not truncated: the first address of the answer section if the response
succeeded, and an error if there is none or it did not succeed. -/
structure Parses (m : Message) : Prop where
  address : Succeeded m → ∀ answer, m.answers.find? Record.isAddress = some answer →
    parseAResponse m.identifier m.wire = some (.ok ⟨0, UInt16.ofNat m.answers.length, answer.data⟩)
  noAddress : Succeeded m → m.answers.find? Record.isAddress = none →
    ∃ error, parseAResponse m.identifier m.wire = some (.error error)
  failed : ¬ Succeeded m → ∃ error, parseAResponse m.identifier m.wire = some (.error error)

lemma parses_of_response {m : Message} (hresponse : m.isResponse = true) (hwhole : m.isTruncated = false) : Parses m := by
  refine ⟨fun h answer hanswer => ?_, fun h hnone => ?_, parseAResponse_failed hresponse hwhole⟩
  · have hanswers : m.answers ≠ [] := by
      intro hnil
      rw [hnil] at hanswer
      cases hanswer
    rw [parseAResponse_succeeded hresponse hwhole h, if_neg hanswers, firstAddress, hanswer]
  · rw [parseAResponse_succeeded hresponse hwhole h]
    split_ifs
    · exact ⟨_, rfl⟩
    · rw [firstAddress, hnone]
      exact ⟨_, rfl⟩

/-- **The codec**: the parser returns for any octets, finds the address of a response that succeeded, and the encoder
writes the query of a name or nothing. -/
theorem codec_correct :
    (∀ identifier bytes, parseAResponse identifier bytes ≠ none) ∧
    (∀ m : Message, m.isResponse = true → m.isTruncated = false → Parses m) ∧
    (∀ identifier name output, ∃ result written, encodeAQuery identifier name output = some (result, written) ∧
      Encodes identifier name output result written) :=
  ⟨parseAResponse_ne_none, fun _ => parses_of_response, encodeAQuery_encodes⟩

/-- The name of the root. -/
def rootName : Name := ⟨[], none, nofun, nofun⟩

/-- The address 192.0.2.1. -/
def addressRecord : Record where
  name := rootName
  recordType := typeA
  recordClass := classIn
  timeToLive := 60
  data := [192, 0, 2, 1]
  fits := by decide

/-- A response with the address of the root, and with the question for it or without. -/
def response (flags : UInt16) (asked : Bool) : Message where
  identifier := 0x4e44
  flags := flags
  questions := if asked then [⟨rootName, typeA, classIn⟩] else []
  answers := [addressRecord]
  authorities := []
  additionals := []
  questions_lt := by
    cases asked
    · exact Nat.two_pow_pos 16
    · exact Nat.one_lt_two_pow (by decide)
  answers_lt := by decide
  authorities_lt := by decide
  additionals_lt := by decide
  pointer_lt := by
    intro name hname
    have hroot : name = rootName := by
      cases asked
      · exact List.mem_singleton.mp hname
      · rcases List.mem_cons.mp hname with h | h
        · exact h
        · exact List.mem_singleton.mp h
    rw [hroot]
    exact nofun

theorem codec_correct_plain : Parses (response 0x8180 true) := codec_correct.2.1 _ (by decide) (by decide)

/-- An error, a status and a response without a question: each has an address, and is refused by its header. -/
theorem refused_by_header :
    (∀ m ∈ [response 0x8183 true, response 0x9000 true, response 0x8180 false],
      m.isResponse = true ∧ m.isTruncated = false ∧ m.answers.find? Record.isAddress = some addressRecord) ∧
    parseAResponse 0x4e44 (response 0x8183 true).wire = some (.error (.responseCode 3)) ∧
    parseAResponse 0x4e44 (response 0x9000 true).wire = some (.error (.unsupportedOpcode 2)) ∧
    parseAResponse 0x4e44 (response 0x8180 false).wire = some (.error .noQuestion) := by
  have hresponses : ∀ m ∈ [response 0x8183 true, response 0x9000 true, response 0x8180 false],
      m.isResponse = true ∧ m.isTruncated = false ∧ m.answers.find? Record.isAddress = some addressRecord := by
    intro m hm
    rcases List.mem_cons.mp hm with rfl | hm
    · exact ⟨by decide, by decide, rfl⟩
    rcases List.mem_cons.mp hm with rfl | hm
    · exact ⟨by decide, by decide, rfl⟩
    obtain rfl := List.mem_singleton.mp hm
    exact ⟨by decide, by decide, rfl⟩
  exact ⟨hresponses, by decide +kernel, by decide +kernel, by decide +kernel⟩

end SnesModem.Rust.Dns
