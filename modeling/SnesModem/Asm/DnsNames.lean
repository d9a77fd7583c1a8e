import SnesModem.Asm.Dns
import SnesModem.Lib.DomainNames

/-!
# The names of DNS queries

What `validateName` admits and `pppDnsPoll` writes, against the names that are documented: host names of up to
`PPP_DNS_MAXIMUM_NAME_LENGTH` octets.

* `walk_iff`: the walk over the characters admits the octets that spell a host name;
* `validateCharacters_eq`: below the maximum length `validateCharacter` is that walk.  At the maximum length it is not
  (`validateCharacters_maximum`): the counter meets the bound before the end of the name is tested;
* `validateName_iff`: what the check of the last character adds is the octet that it reads, wherever that lies;
* `dnsQueryPacket_eq`: the lengths that are patched in behind the labels are those of the parts between the dots;
* `request_meets_iff`: a request does what is documented if its name is shorter than the maximum, and the octet that is
  taken for the last character is not a dot.
-/

namespace SnesModem.Asm.DnsNames

open SnesModem.Lib.Octets SnesModem.Lib.DomainNames

/-! ### The characters -/

lemma nameCharacter_eq (octet : UInt8) : nameCharacter octet = hostCharacter octet :=
  octet_forall (P := fun octet => nameCharacter octet = hostCharacter octet) (by decide +kernel) octet

/-- The walk over the characters that are left, with the length of the label so far. -/
def walk : ℕ → List UInt8 → Bool
  | labelLength, [] => labelLength ≠ 0
  | labelLength, octet :: rest =>
    if octet = dot then if labelLength = 0 then false else walk 0 rest
    else if nameCharacter octet then walk (labelLength + 1) rest
    else false

lemma walk_nil (labelLength : ℕ) : walk labelLength [] = true ↔ labelLength ≠ 0 := by
  rw [walk, decide_eq_true_eq]

/-- A dot ends a label that has begun, and no other. -/
lemma walk_dot (labelLength : ℕ) (rest : List UInt8) :
    walk labelLength (dot :: rest) = true ↔ labelLength ≠ 0 ∧ walk 0 rest = true := by
  rw [walk, if_pos rfl]
  split_ifs with hzero
  · exact ⟨nofun, fun h => absurd hzero h.1⟩
  · exact ⟨fun h => ⟨hzero, h⟩, fun h => h.2⟩

/-- **The walk admits the names of labels**, with the label that has begun before what is left. -/
theorem walk_iff (begun rest : List UInt8) (hbegun : ∀ octet ∈ begun, hostCharacter octet = true) :
    walk begun.length rest = true ↔ ∀ label ∈ (begun ++ rest).splitOn separator, IsLabel label := by
  have hnotMem : separator ∉ begun := fun hmem => separator_ne_of_character (hbegun _ hmem) rfl
  induction rest generalizing begun with
  | nil =>
    rw [walk_nil, ne_eq, List.length_eq_zero_iff, List.append_nil, List.splitOn_eq_singleton hnotMem,
      List.forall_mem_singleton]
    exact ⟨fun h => ⟨h, hbegun⟩, fun h => h.nonempty⟩
  | cons octet rest ih =>
    by_cases hdot : octet = dot
    · -- the label that has begun ends here
      subst hdot
      have hrest : walk 0 rest = true ↔ ∀ label ∈ rest.splitOn separator, IsLabel label := ih [] nofun nofun
      rw [List.splitOn_append_cons_self_of_not_mem hnotMem, List.forall_mem_cons, walk_dot, hrest, ne_eq,
        List.length_eq_zero_iff]
      constructor
      · rintro ⟨hne, hlabels⟩
        exact ⟨⟨hne, hbegun⟩, hlabels⟩
      · rintro ⟨hlabel, hlabels⟩
        exact ⟨hlabel.nonempty, hlabels⟩
    · rw [walk, if_neg hdot, nameCharacter_eq]
      by_cases hcharacter : hostCharacter octet = true
      · have hextended : ∀ o ∈ begun ++ [octet], hostCharacter o = true := by
          intro o ho
          rcases List.mem_append.mp ho with ho | ho
          · exact hbegun o ho
          · rw [List.mem_singleton.mp ho]
            exact hcharacter
        have hrest := ih (begun ++ [octet]) hextended
          (fun hmem => separator_ne_of_character (hextended _ hmem) rfl)
        rw [List.length_append, List.length_singleton, List.append_assoc, List.singleton_append] at hrest
        rw [if_pos hcharacter]
        exact hrest
      · rw [if_neg hcharacter]
        refine ⟨nofun, fun h => absurd ?_ hcharacter⟩
        exact hostCharacter_of_splitOn h (List.mem_append_right _ List.mem_cons_self) hdot

/-! ### `validateName` -/

section Validate

variable (name : Buffer)

/-- **Below the maximum length the loop is the walk** over the octets from `x` on. -/
theorem validateCharacters_eq {length : ℕ} (hlength : length < dnsMaximumNameLength) (fuel x labelLength : ℕ)
    (hx : x < length) (hfuel : length - x ≤ fuel) :
    validateCharacters name length fuel x labelLength = walk labelLength (read name x (length - x)) := by
  induction fuel generalizing x labelLength with
  | zero => omega
  | succ fuel ih =>
    have hnext : ∀ labelLength,
        (if x + 1 = dnsMaximumNameLength then false
          else if x + 1 < length then validateCharacters name length fuel (x + 1) labelLength
          else decide (labelLength ≠ 0)) = walk labelLength (read name (x + 1) (length - (x + 1))) := by
      intro labelLength
      rw [if_neg (by omega)]
      split_ifs with hmore
      · exact ih (x + 1) labelLength hmore (by omega)
      · have hend : length - (x + 1) = 0 := by omega
        rw [hend, read_zero, walk]
    have hread : read name x (length - x) = name x :: read name (x + 1) (length - (x + 1)) := by
      have hsucc : length - x = length - (x + 1) + 1 := by omega
      rw [hsucc, read_succ]
    rw [hread, walk, validateCharacters]
    dsimp only
    rw [hnext, hnext]

/-- **At the maximum length the loop admits nothing**: the index is the maximum before it is past the name. -/
theorem validateCharacters_maximum (fuel x labelLength : ℕ) (hx : x < dnsMaximumNameLength) :
    validateCharacters name dnsMaximumNameLength fuel x labelLength = false := by
  induction fuel generalizing x labelLength with
  | zero => rfl
  | succ fuel ih =>
    have hnext : ∀ labelLength,
        (if x + 1 = dnsMaximumNameLength then false
          else if x + 1 < dnsMaximumNameLength then validateCharacters name dnsMaximumNameLength fuel (x + 1) labelLength
          else decide (labelLength ≠ 0)) = false := by
      intro labelLength
      by_cases hbound : x + 1 = dnsMaximumNameLength
      · rw [if_pos hbound]
      · rw [if_neg hbound, if_pos (by omega)]
        exact ih (x + 1) labelLength (by omega)
    rw [validateCharacters]
    dsimp only
    rw [hnext, hnext]
    split_ifs
    · rfl
    · rfl
    · rfl
    · rfl

/-- A dot at the end leaves an empty label behind it. -/
lemma walk_append_dot (labelLength : ℕ) (octets : List UInt8) : walk labelLength (octets ++ [dot]) = false := by
  induction octets generalizing labelLength with
  | nil =>
    rw [List.nil_append, walk, if_pos rfl]
    split_ifs
    · rfl
    · rfl
  | cons octet octets ih =>
    rw [List.cons_append, walk]
    split_ifs
    · rfl
    · exact ih 0
    · exact ih (labelLength + 1)
    · rfl

/-- **The names that `validateName` admits**, with the octet `last` that it takes for the last character. -/
theorem validateName_iff (length last : UInt8) : validateName name length last = true ↔
    length ≠ 0 ∧ length.toNat < dnsMaximumNameLength ∧ last ≠ dot ∧
      ∃ n : HostName, n.dotted = read name 0 length.toNat := by
  have hmaximum : dnsMaximumNameLength = 27 := rfl
  unfold validateName
  by_cases hlength : length = 0 ∨ dnsMaximumNameLength < length.toNat
  · rw [if_pos hlength]
    refine ⟨nofun, fun ⟨hnonzero, hshort, _⟩ => ?_⟩
    rcases hlength with hzero | hlong
    · exact absurd hzero hnonzero
    · omega
  obtain ⟨hnonzero, hle⟩ := not_or.mp hlength
  have hpos := octet_pos hnonzero
  rw [if_neg hlength, exists_dotted_iff]
  by_cases hbound : length.toNat = dnsMaximumNameLength
  · -- the loop turns down what the first test lets pass
    rw [hbound, validateCharacters_maximum name _ 0 0 (by omega), ite_self]
    exact ⟨nofun, fun h => absurd h.2.1 (lt_irrefl _)⟩
  have hshort : length.toNat < dnsMaximumNameLength := by omega
  have hwalk : walk 0 (read name 0 length.toNat) = true ↔
      ∀ label ∈ (read name 0 length.toNat).splitOn separator, IsLabel label := walk_iff [] _ nofun
  have hloop := validateCharacters_eq name hshort dnsMaximumNameLength 0 0 hpos (by omega)
  rw [Nat.sub_zero] at hloop
  rw [hloop]
  by_cases hends : name 0 = dot ∨ last = dot
  · rw [if_pos hends]
    refine ⟨nofun, fun ⟨_, _, hlast, hlabels⟩ => ?_⟩
    rcases hends with hfirst | hdot
    · -- the walk meets the first dot with no label before it
      have hread : read name 0 length.toNat = dot :: read name 1 (length.toNat - 1) := by
        have hsucc : length.toNat = length.toNat - 1 + 1 := by omega
        rw [hsucc, read_succ, hfirst, Nat.add_sub_cancel]
      rw [← hwalk, hread, walk_dot] at hlabels
      exact absurd rfl hlabels.1
    · exact absurd hdot hlast
  · rw [if_neg hends, hwalk]
    exact ⟨fun h => ⟨hnonzero, hshort, (not_or.mp hends).2, h⟩, fun h => h.2.2.2⟩

end Validate

/-! ### The query -/

section Encode

variable (packet : Buffer) (position : ℕ)

lemma write_singleton (octet : UInt8) : write packet position [octet] = Function.update packet position octet := by
  funext i
  unfold write
  by_cases hi : i = position
  · subst hi
    rw [if_pos ⟨Nat.le_refl _, Nat.lt_succ_self _⟩, Nat.sub_self, Function.update_self]
    rfl
  · rw [if_neg (by rw [List.length_singleton]; omega), Function.update_of_ne hi]

/-- The octet that is left free before a label, filled in when the label ends. -/
lemma update_write (filler octet : UInt8) (octets : List UInt8) :
    Function.update (write packet position (filler :: octets)) position octet =
      write packet position (octet :: octets) := by
  have hwithin := write_within packet position [] [filler] octets [octet] rfl
  rw [List.length_nil, Nat.add_zero, write_singleton] at hwithin
  exact hwithin

lemma write_append_singleton (octets : List UInt8) (octet : UInt8) :
    Function.update (write packet position octets) (position + octets.length) octet =
      write packet position (octets ++ [octet]) := by
  rw [← write_singleton, write_write]

/-- Where `encodeName` stands in a label that has begun: its octets lie behind the octet that its length goes to. -/
def inLabel (filler : UInt8) (begun : List UInt8) : NameCursor :=
  ⟨write packet position (filler :: begun), position + 1 + begun.length, position, UInt8.ofNat begun.length⟩

/-- A dot ends the label, and the next one begins behind it; the octet of the dot is left free. -/
lemma encodeNameOctet_dot (filler : UInt8) (begun : List UInt8) :
    let ended := write packet position (UInt8.ofNat begun.length :: begun)
    encodeNameOctet (inLabel packet position filler begun) dot =
      inLabel ended (position + 1 + begun.length) (ended (position + 1 + begun.length)) [] := by
  unfold inLabel
  dsimp only
  rw [write_singleton, Function.update_eq_self, encodeNameOctet, if_pos rfl]
  dsimp only
  rw [update_write]
  rfl

lemma encodeNameOctet_character (filler : UInt8) (begun : List UInt8) {octet : UInt8} (hdot : octet ≠ dot) :
    encodeNameOctet (inLabel packet position filler begun) octet = inLabel packet position filler (begun ++ [octet]) := by
  have hlength : position + 1 + begun.length = position + (filler :: begun).length := by
    rw [List.length_cons]
    omega
  rw [encodeNameOctet, if_neg hdot]
  dsimp only [inLabel]
  rw [hlength, write_append_singleton, List.length_append, List.length_singleton, UInt8.ofNat_add, ← hlength]
  rfl

/-- **The turns of `encodeName`** write what is left as a message has it, from a label that has begun on. -/
theorem foldl_encodeNameOctet (filler : UInt8) (begun rest : List UInt8) (hbegun : separator ∉ begun) :
    let c := rest.foldl encodeNameOctet (inLabel packet position filler begun)
    Function.update c.packet c.labelPosition c.labelLength =
      write packet position (wireLabels ((begun ++ rest).splitOn separator)) := by
  induction rest generalizing packet position filler begun with
  | nil =>
    dsimp only [List.foldl_nil, inLabel]
    rw [update_write, List.append_nil, List.splitOn_eq_singleton hbegun, wireLabels_cons, wireLabels_nil, List.append_nil]
  | cons octet rest ih =>
    rw [List.foldl_cons]
    by_cases hdot : octet = dot
    · subst hdot
      rw [encodeNameOctet_dot, List.splitOn_append_cons_self_of_not_mem hbegun]
      refine (ih _ _ _ [] List.not_mem_nil).trans ?_
      have hcons : position + 1 + begun.length = position + (UInt8.ofNat begun.length :: begun).length := by
        rw [List.length_cons]
        omega
      rw [hcons, write_write]
      rfl
    · have hextended : separator ∉ begun ++ [octet] := by
        intro hmem
        rcases List.mem_append.mp hmem with hmem | hmem
        · exact hbegun hmem
        · exact hdot (List.mem_singleton.mp hmem).symm
      have hrest := ih packet position filler (begun ++ [octet]) hextended
      rw [List.append_assoc, List.singleton_append] at hrest
      rw [encodeNameOctet_character packet position filler begun hdot]
      exact hrest

lemma encodeNameOctet_x (octets : List UInt8) (c : NameCursor) :
    (octets.foldl encodeNameOctet c).x = c.x + octets.length := by
  induction octets generalizing c with
  | nil => rfl
  | cons octet octets ih =>
    have hone : (encodeNameOctet c octet).x = c.x + 1 := by
      unfold encodeNameOctet
      split
      · rfl
      · rfl
    rw [List.foldl_cons, ih, hone, List.length_cons]
    omega

/-- The header of a query. -/
def queryHeader (transactionId : UInt16) : List UInt8 :=
  [high transactionId, low transactionId, 0x01, 0x00, 0x00, 0x01, 0, 0, 0, 0, 0, 0]

/-- **The octets of a query**: the header, the parts of the name between its dots, and the type and the class. -/
theorem dnsQueryPacket_eq (transactionId : UInt16) (name : Buffer) (length : UInt8) :
    dnsQueryPacket transactionId name length =
      queryHeader transactionId ++ wireName ((read name 0 (max 1 length.toNat)).splitOn separator) ++ [0, 1, 0, 1] := by
  set octets := read name 0 (max 1 length.toNat) with hoctets
  set labels := octets.splitOn separator with hlabels
  set base := write default 0 (queryHeader transactionId) with hbase
  have hstart : (⟨base, 13, 12, 0⟩ : NameCursor) = inLabel base 12 (base 12) [] := by
    rw [inLabel, write_singleton, Function.update_eq_self]
    rfl
  have hpacket : (encodeName base name length).packet = write base 12 (wireLabels labels) := by
    have hfold := foldl_encodeNameOctet base 12 (base 12) [] octets List.not_mem_nil
    rw [← hstart] at hfold
    exact hfold
  have hx : (encodeName base name length).x = 12 + (wireLabels labels).length := by
    have hwire := length_wireName_splitOn octets
    rw [wireName, List.length_append, List.length_singleton, ← hlabels] at hwire
    have hfold := encodeNameOctet_x octets ⟨base, 13, 12, 0⟩
    have hcursor : (encodeName base name length).x = 13 + octets.length := hfold
    rw [hcursor]
    omega
  have hheader : 12 = 0 + (queryHeader transactionId).length := rfl
  have hall : write (encodeName base name length).packet (encodeName base name length).x [0, 0, 1, 0, 1] =
      write default 0 (queryHeader transactionId ++ (wireLabels labels ++ [0, 0, 1, 0, 1])) := by
    rw [hpacket, hx, write_write, hbase, hheader, write_write]
  have hlength : (encodeName base name length).x + 5 =
      (queryHeader transactionId ++ (wireLabels labels ++ [0, 0, 1, 0, 1])).length := by
    rw [hx, List.length_append, List.length_append, hheader, Nat.zero_add, Nat.add_assoc]
    rfl
  have hread : dnsQueryPacket transactionId name length =
      read (write (encodeName base name length).packet (encodeName base name length).x [0, 0, 1, 0, 1]) 0
        ((encodeName base name length).x + 5) := rfl
  rw [hread, hall, hlength, read_write, wireName]
  simp only [List.append_assoc, List.cons_append, List.nil_append]

/-- The header, the name between two octets, and the type and class. -/
lemma dnsQueryPacket_length (transactionId : UInt16) (name : Buffer) (length : UInt8) :
    (dnsQueryPacket transactionId name length).length = 18 + max 1 length.toNat := by
  rw [dnsQueryPacket_eq, List.length_append, List.length_append, length_wireName_splitOn, length_read]
  change 12 + (max 1 length.toNat + 2) + 4 = _
  omega

end Encode

/-! ### The transmit buffer -/

section Poll

variable (p : Ipcp) (s : Ipv4Sender)

/-- The headers are written before the payload. -/
lemma pppIpv4BeginTransmit_payload (protocol : UInt8) (destination : Address) (length : UInt16) {offset n : ℕ}
    (hoffset : ipv4PayloadOffset ≤ offset) :
    read (pppIpv4BeginTransmit p s protocol destination length).1.transmit.buffer offset n =
      read s.transmit.buffer offset n := by
  have hpayload : ipv4PayloadOffset = 24 := rfl
  unfold pppIpv4BeginTransmit
  split_ifs
  · rfl
  · rfl
  · rfl
  extract_lets totalLength header checksum buffer
  have hheader : read buffer offset n = read s.transmit.buffer offset n := by
    refine read_write_of_disjoint _ _ _ (.inr ?_)
    change 24 ≤ offset
    omega
  unfold pppTransmitBegin
  split_ifs
  · exact hheader
  · exact hheader

lemma pppUdpBeginTransmit_payload (sourcePort destinationPort : UInt16) (destination : Address) (length : UInt16)
    {offset n : ℕ} (hoffset : udpTransmitPayloadOffset ≤ offset) :
    read (pppUdpBeginTransmit p s sourcePort destinationPort destination length).1.transmit.buffer offset n =
      read s.transmit.buffer offset n := by
  have hpayload : udpTransmitPayloadOffset = 32 := rfl
  unfold pppUdpBeginTransmit
  split_ifs
  · rfl
  extract_lets udpLength ports buffer sum checksum filled
  rw [pppIpv4BeginTransmit_payload _ _ _ _ _ (by change 24 ≤ offset; omega)]
  have hchecksum : read filled offset n = read buffer offset n := by
    refine read_write_of_disjoint _ _ _ (.inr ?_)
    change 32 ≤ offset
    omega
  refine hchecksum.trans (read_write_of_disjoint _ _ _ (.inr ?_))
  change 32 ≤ offset
  omega

/-- A request on an open link, for an idle encoder. -/
lemma dnsPoll_sends (now : UInt32) {d : Dns} (hrequested : d.state = .requested) (hopen : linkIsOpen p = true)
    (hidle : s.transmit.active = false) :
    (pppDnsPoll p now d s).2 = (sendDnsQuery p s d.resolver d.transactionId d.queryName d.queryNameLength).1 := by
  unfold pppDnsPoll
  rw [hrequested, hopen, hidle]
  simp only [Bool.not_true, Bool.false_eq_true, if_false]
  generalize sendDnsQuery p s d.resolver d.transactionId d.queryName d.queryNameLength = sent
  obtain ⟨s', carry⟩ := sent
  cases carry with
  | true => rfl
  | false => rfl

/-- **The query of a poll**: the octets behind the header of the datagram. -/
theorem pppDnsPoll_query (now : UInt32) {d : Dns} (hrequested : d.state = .requested) (hopen : linkIsOpen p = true)
    (hidle : s.transmit.active = false) :
    read (pppDnsPoll p now d s).2.transmit.buffer udpTransmitPayloadOffset (18 + max 1 d.queryNameLength.toNat) =
      dnsQueryPacket d.transactionId d.queryName d.queryNameLength := by
  rw [dnsPoll_sends p s now hrequested hopen hidle]
  unfold sendDnsQuery
  extract_lets packet buffer
  rw [pppUdpBeginTransmit_payload _ _ _ _ _ _ (Nat.le_refl _),
    ← dnsQueryPacket_length d.transactionId d.queryName d.queryNameLength]
  exact read_write _ _ _

end Poll

/-! ### The request -/

/-- The name of a request. -/
def nameOf (d : Dns) : List UInt8 := read d.queryName 0 d.queryNameLength.toNat

/-- The names that a request is documented to take. -/
def Documented (name : List UInt8) : Prop :=
  1 ≤ name.length ∧ name.length ≤ dnsMaximumNameLength ∧ ∃ n : HostName, n.dotted = name

/-- A request does what is documented: it is accepted if its name is a documented one, and only then, and the poll that
sends the query writes the labels of the name. -/
structure Meets (p : Ipcp) (caller : DnsCaller) (d : Dns) : Prop where
  accepts : (pppDnsRequest p caller d).2 = none ↔ Documented (nameOf d)
  writes : (pppDnsRequest p caller d).2 = none → ∀ n : HostName, n.dotted = nameOf d →
    ∀ (p' : Ipcp) (now : UInt32) (s : Ipv4Sender), linkIsOpen p' = true → s.transmit.active = false →
      read (pppDnsPoll p' now (pppDnsRequest p caller d).1 s).2.transmit.buffer
        (udpTransmitPayloadOffset + dnsHeaderLength.toNat) ((nameOf d).length + 2) = wireName n.labels

section Request

variable {p : Ipcp} {caller : DnsCaller} {d : Dns}

lemma request_accepted_iff (hopen : linkIsOpen p = true) (hfree : d.state.outstanding = false) :
    (pppDnsRequest p caller d).2 = none ↔ validateName d.queryName d.queryNameLength (caller.last d) = true := by
  unfold pppDnsRequest
  rw [hopen, hfree]
  cases validateName d.queryName d.queryNameLength (caller.last d) with
  | true => exact ⟨fun _ => rfl, fun _ => rfl⟩
  | false => exact ⟨nofun, nofun⟩

lemma requested_of_accepted (h : (pppDnsRequest p caller d).2 = none) :
    (pppDnsRequest p caller d).1.state = .requested ∧ (pppDnsRequest p caller d).1.queryName = d.queryName ∧
      (pppDnsRequest p caller d).1.queryNameLength = d.queryNameLength := by
  revert h
  unfold pppDnsRequest
  split_ifs
  · exact nofun
  · exact nofun
  · exact nofun
  · exact fun _ => ⟨rfl, rfl, rfl⟩
  · exact fun _ => ⟨rfl, rfl, rfl⟩

/-- The octet that is taken for the last character of a host name: with a hidden half of zero it is that character. -/
lemma last_ne_dot_iff (hpos : 1 ≤ d.queryNameLength.toNat) (hname : ∃ n : HostName, n.dotted = nameOf d) :
    caller.last d ≠ dot ↔
      caller.b = 0 ∨ caller.memory (256 * caller.b.toNat + d.queryNameLength.toNat - 1) ≠ dot := by
  unfold DnsCaller.last
  split_ifs with hzero
  · refine ⟨fun _ => .inl hzero, fun _ hdot => ?_⟩
    have hread : nameOf d = read d.queryName 0 (d.queryNameLength.toNat - 1) ++ [dot] := by
      have hsucc : d.queryNameLength.toNat = d.queryNameLength.toNat - 1 + 1 := by omega
      unfold nameOf
      rw [hsucc, read_append, Nat.zero_add, Nat.add_sub_cancel, read_succ, hdot, read_zero]
    have hwalk : walk 0 (nameOf d) = true ↔ ∀ label ∈ (nameOf d).splitOn separator, IsLabel label :=
      walk_iff [] _ nofun
    have htrue := hwalk.mpr (exists_dotted_iff.mp hname)
    rw [hread, walk_append_dot] at htrue
    exact absurd htrue nofun
  · refine ⟨.inr, fun h => ?_⟩
    rcases h with h | h
    · exact absurd h hzero
    · exact h

/-- **The query of an accepted request** has the labels of its name, each behind its length, and the zero octet. -/
theorem writes_of_accepted (haccepted : (pppDnsRequest p caller d).2 = none) (hpos : 1 ≤ d.queryNameLength.toNat)
    {n : HostName} (hname : n.dotted = nameOf d) {p' : Ipcp} (now : UInt32) {s : Ipv4Sender}
    (hopen : linkIsOpen p' = true) (hidle : s.transmit.active = false) :
    read (pppDnsPoll p' now (pppDnsRequest p caller d).1 s).2.transmit.buffer
      (udpTransmitPayloadOffset + dnsHeaderLength.toNat) ((nameOf d).length + 2) = wireName n.labels := by
  obtain ⟨hstate, hbuffer, hlength⟩ := requested_of_accepted haccepted
  have hquery := pppDnsPoll_query p' s now hstate hopen hidle
  have hmax : max 1 d.queryNameLength.toNat = d.queryNameLength.toNat := by omega
  have hlabels : (read d.queryName 0 d.queryNameLength.toNat).splitOn separator = n.labels := by
    have hsplit := n.splitOn_dotted
    rwa [hname] at hsplit
  rw [dnsQueryPacket_eq, hbuffer, hlength, hmax, hlabels] at hquery
  have hwire : (wireName n.labels).length = (nameOf d).length + 2 := by
    rw [← hlabels]
    exact length_wireName_splitOn _
  have hnameLength : (nameOf d).length = d.queryNameLength.toNat := length_read _ _ _
  have htotal : 18 + d.queryNameLength.toNat = dnsHeaderLength.toNat + (((nameOf d).length + 2) + 4) := by
    rw [hnameLength]
    change _ = 12 + _
    omega
  rw [htotal, read_append, read_append, List.append_assoc] at hquery
  have hbehind := (List.append_inj hquery (length_read _ _ _)).2
  exact (List.append_inj hbehind (by rw [length_read, hwire])).1

/-- **A request on an open link, with no query outstanding, does what is documented if and only if** its name, if it is a
documented one, is shorter than the maximum, and the octet that the check of the last character reads is not a dot. -/
theorem request_meets_iff (hopen : linkIsOpen p = true) (hfree : d.state.outstanding = false) :
    Meets p caller d ↔
      (Documented (nameOf d) → d.queryNameLength.toNat ≠ dnsMaximumNameLength ∧
        (caller.b = 0 ∨ caller.memory (256 * caller.b.toNat + d.queryNameLength.toNat - 1) ≠ dot)) := by
  have hnameLength : (nameOf d).length = d.queryNameLength.toNat := length_read _ _ _
  have haccepted : (pppDnsRequest p caller d).2 = none ↔ _ := request_accepted_iff hopen hfree
  rw [validateName_iff] at haccepted
  constructor
  · rintro hmeets hdocumented
    obtain ⟨-, hshort, hlast, hname⟩ := haccepted.mp (hmeets.accepts.mpr hdocumented)
    exact ⟨hshort.ne, (last_ne_dot_iff (hnameLength ▸ hdocumented.1) hname).mp hlast⟩
  · intro hcondition
    refine ⟨⟨fun h => ?_, fun hdocumented => ?_⟩, fun h n hname p' now s hopen' hidle => ?_⟩
    · obtain ⟨hnonzero, hshort, -, hname⟩ := haccepted.mp h
      have hpos := octet_pos hnonzero
      exact ⟨by omega, by omega, hname⟩
    · obtain ⟨hpos, hle, hname⟩ := hdocumented
      obtain ⟨hne, hoctet⟩ := hcondition ⟨hpos, hle, hname⟩
      rw [hnameLength] at hpos hle
      refine haccepted.mpr ⟨?_, by omega, (last_ne_dot_iff hpos hname).mpr hoctet, hname⟩
      rintro hzero
      rw [hzero] at hpos
      exact absurd hpos (by decide)
    · obtain ⟨hnonzero, -⟩ := haccepted.mp h
      have hpos := octet_pos hnonzero
      exact writes_of_accepted h (by omega) hname now hopen' hidle

/-- A link that is open. -/
def openLink : Ipcp := { (default : Ipcp) with state := .opened, flags := { (default : IpcpFlags) with localValid := true } }

/-- A client with a name to ask for. -/
def client (name : List UInt8) : Dns :=
  { (default : Dns) with queryNameLength := UInt8.ofNat name.length, queryName := write default 0 name }

lemma nameOf_client {name : List UInt8} (h : name.length < 256) : nameOf (client name) = name := by
  have hlength : (client name).queryNameLength.toNat = name.length := UInt8.toNat_ofNat_of_lt h
  unfold nameOf
  rw [hlength]
  exact read_write _ _ _

/-- A label of letters alone is a documented name, up to the maximum length. -/
lemma documented_letters {n : ℕ} (hpos : 1 ≤ n) (hle : n ≤ dnsMaximumNameLength) :
    Documented (nameOf (client (List.replicate n 0x61))) := by
  have hmaximum : dnsMaximumNameLength = 27 := rfl
  have hname : nameOf (client (List.replicate n 0x61)) = List.replicate n 0x61 := by
    refine nameOf_client ?_
    rw [List.length_replicate]
    omega
  have hlabel : IsLabel (List.replicate n 0x61) := by
    refine ⟨?_, fun octet hmem => ?_⟩
    · rw [ne_eq, ← List.length_eq_zero_iff, List.length_replicate]
      omega
    · rw [List.eq_of_mem_replicate hmem]
      decide
  rw [hname]
  refine ⟨?_, ?_, ⟨[List.replicate n 0x61], List.cons_ne_nil _ _, List.forall_mem_singleton.mpr hlabel⟩, ?_⟩
  · rwa [List.length_replicate]
  · rwa [List.length_replicate]
  · exact dotted_singleton _

/-- A client that asks for `a-1.b`, one that asks for a name of twenty-seven letters, and one that asks for a letter. -/
def shortClient : Dns := client [0x61, 0x2d, 0x31, 0x2e, 0x62]
def longClient : Dns := client (List.replicate 27 0x61)
def letterClient : Dns := client (List.replicate 1 0x61)

/-- A caller with a hidden half of zero, and one with a dot where the check reads with a hidden half of one. -/
def clearCaller : DnsCaller := ⟨0, default⟩
def hiddenCaller : DnsCaller := ⟨1, fun _ => dot⟩

theorem request_meets_iff_short :
    Meets openLink clearCaller shortClient ↔
      (Documented (nameOf shortClient) → shortClient.queryNameLength.toNat ≠ dnsMaximumNameLength ∧
        (clearCaller.b = 0 ∨
          clearCaller.memory (256 * clearCaller.b.toNat + shortClient.queryNameLength.toNat - 1) ≠ dot)) :=
  request_meets_iff (by decide) (by decide)

theorem longest_name_refused :
    linkIsOpen openLink = true ∧
    (longClient.state.outstanding = false ∧ Documented (nameOf longClient) ∧
      (pppDnsRequest openLink clearCaller longClient).2 = some .invalidName ∧
      ¬ Meets openLink clearCaller longClient) ∧
    (letterClient.state.outstanding = false ∧ Documented (nameOf letterClient) ∧
      (pppDnsRequest openLink hiddenCaller letterClient).2 = some .invalidName ∧
      ¬ Meets openLink hiddenCaller letterClient) := by
  have hlong : Documented (nameOf longClient) := documented_letters (n := 27) (by decide) (by decide)
  have hletter : Documented (nameOf letterClient) := documented_letters (n := 1) (by decide) (by decide)
  have hlongRefused : (pppDnsRequest openLink clearCaller longClient).2 = some .invalidName := by decide +kernel
  have hletterRefused : (pppDnsRequest openLink hiddenCaller letterClient).2 = some .invalidName := by decide +kernel
  refine ⟨by decide, ⟨by decide, hlong, hlongRefused, fun hmeets => ?_⟩, by decide, hletter, hletterRefused,
    fun hmeets => ?_⟩
  · exact absurd (hlongRefused.symm.trans (hmeets.accepts.mpr hlong)) nofun
  · exact absurd (hletterRefused.symm.trans (hmeets.accepts.mpr hletter)) nofun

end Request

end SnesModem.Asm.DnsNames
