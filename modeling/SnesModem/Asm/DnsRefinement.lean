import SnesModem.Asm.DnsWalk

/-!
# The DNS client of the console against the reference parser

* `header_refines`: both reject the same headers;
* `Meets`: the walk ends, moves forward only, rejects what does not fit, and takes the addresses of the reference parser;
* `Regular`: the counts are no multiples of 256, and no record reaches past the address space;
* `meets_iff_regular`: the client meets this exactly on the regular responses.
-/

namespace SnesModem.Asm.DnsRefinement

open SnesModem.Lib SnesModem.Lib.Cpu65816 SnesModem.Lib.Octets SnesModem.Rust.Dns SnesModem.Asm.DnsWalk
open DnsMessage (Cursor Verdict walkFuel)

section Message

variable {m : DnsMessage}

/-! ### The header -/

/-- The counts and the walk, as the reference parser has them. -/
def parseBody (bytes : List UInt8) (code : UInt8) (questions answers : UInt16) : Option (Except ParseError AResponse) :=
  if questions = 0 then some (.error .noQuestion)
  else if answers = 0 then some (.error .noAnswer)
  else
    match skipQuestions bytes questions.toNat Rust.Dns.headerLength with
    | .error error => some (.error error)
    | .ok offset => findAnswer bytes code answers answers.toNat offset

lemma word_cursorAt (o : ℕ) : cursorAt m o = m.offset + UInt16.ofNat o := by
  apply UInt16.toNat_inj.mp
  simp only [cursorAt, UInt16.toNat_add, UInt16.toNat_ofNat']
  omega

lemma flags_and (a b c d : UInt8) : word a b &&& word c d = 0 ↔ a &&& c = 0 ∧ b &&& d = 0 := by
  rw [word_and, word_eq_zero]

/-- **Both reject the same headers**, and go on to the counts otherwise. -/
lemma header_refines (h : DnsWalk.Placed m) (hheader : 12 ≤ m.payloadLength.toNat) :
    (∃ e, m.headerError = some e ∧ ∃ e', parseAResponse (m.word m.offset) (octets m) = some (.error e')) ∨
    (m.headerError = none ∧
      ∃ code, parseAResponse (m.word m.offset) (octets m) =
        parseBody (octets m) code m.questionCount m.answerCount) := by
  have hlength : (octets m).length = m.payloadLength.toNat := length_read _ _ _
  have hid : readU16 (octets m) 0 = some (m.word m.offset) := by
    rw [h.readU16_eq (by omega)]
    simp only [cursorAt, Nat.add_zero, UInt16.ofNat_toNat]
  have hflags : readU16 (octets m) 2 = some (word (m.frameBuffer (m.offset.toNat + 2)) (m.frameBuffer (m.offset.toNat + 3))) := by
    rw [h.readU16_eq (by omega)]
    unfold DnsMessage.word wordAt
    rw [h.toNat_cursorAt (by omega)]
  have hquestions : readU16 (octets m) 4 = some m.questionCount := by
    rw [h.readU16_eq (by omega), word_cursorAt 4]
    rfl
  have hanswers : readU16 (octets m) 6 = some m.answerCount := by
    rw [h.readU16_eq (by omega), word_cursorAt 6]
    rfl
  unfold parseAResponse
  rw [if_neg (by rw [hlength]; exact Nat.not_lt.mpr hheader), hid, hflags, hquestions, hanswers]
  simp only [Option.bind_eq_bind, Option.bind_some, ne_eq, not_true_eq_false, if_false]
  unfold DnsMessage.headerError
  generalize m.frameBuffer (m.offset.toNat + 2) = first
  generalize m.frameBuffer (m.offset.toNat + 3) = second
  have hresponse : word first second &&& flagResponse = 0 ↔ first &&& 0x80 = 0 := by
    have hmask : flagResponse = word 0x80 0 := by decide
    rw [hmask, flags_and]
    exact and_iff_left (octet_forall (P := fun octet => octet &&& 0 = 0) (by decide +kernel) second)
  have htruncated : word first second &&& flagTruncated = 0 ↔ first &&& 0x02 = 0 := by
    have hmask : flagTruncated = word 0x02 0 := by decide
    rw [hmask, flags_and]
    exact and_iff_left (octet_forall (P := fun octet => octet &&& 0 = 0) (by decide +kernel) second)
  have hopcode : ((word first second &&& opcodeMask) >>> 11).toUInt8 = 0 ↔ first &&& 0x78 = 0 := by
    have hmask : opcodeMask = word 0x78 0 := by decide
    have hzero : second &&& 0 = 0 := octet_forall (P := fun octet => octet &&& 0 = 0) (by decide +kernel) second
    rw [hmask, word_and, hzero]
    exact octet_forall (P := fun octet => (word (octet &&& 0x78) 0 >>> 11).toUInt8 = 0 ↔ octet &&& 0x78 = 0)
      (by decide +kernel) first
  have hcode : (word first second &&& responseCodeMask).toUInt8 = 0 ↔ second &&& 0x0f = 0 := by
    have hmask : responseCodeMask = word 0 0x0f := by decide
    have hzero : first &&& 0 = 0 := octet_forall (P := fun octet => octet &&& 0 = 0) (by decide +kernel) first
    rw [hmask, word_and, hzero]
    exact octet_forall (P := fun octet => (word 0 (octet &&& 0x0f)).toUInt8 = 0 ↔ octet &&& 0x0f = 0)
      (by decide +kernel) second
  by_cases h1 : first &&& 0x80 = 0
  · rw [if_pos h1, if_pos (hresponse.mpr h1)]
    exact Or.inl ⟨_, rfl, _, rfl⟩
  rw [if_neg h1, if_neg (mt hresponse.mp h1)]
  by_cases h2 : first &&& 0x78 = 0
  swap
  · rw [if_pos h2, if_pos (mt hopcode.mp h2)]
    exact Or.inl ⟨_, rfl, _, rfl⟩
  rw [if_neg (not_not_intro h2), if_neg (not_not_intro (hopcode.mpr h2))]
  by_cases h3 : first &&& 0x02 = 0
  swap
  · rw [if_pos h3, if_pos (mt htruncated.mp h3)]
    exact Or.inl ⟨_, rfl, _, rfl⟩
  rw [if_neg (not_not_intro h3), if_neg (not_not_intro (htruncated.mpr h3))]
  by_cases h4 : second &&& 0x0f = 0
  swap
  · rw [if_pos h4, if_pos (mt hcode.mp h4)]
    exact Or.inl ⟨_, rfl, _, rfl⟩
  rw [if_neg (not_not_intro h4), if_neg (not_not_intro (hcode.mpr h4))]
  exact Or.inr ⟨rfl, _, rfl⟩

/-! ### The response as a whole -/

/-- The message has a header that is accepted, and the walk is begun. -/
structure Starts (m : DnsMessage) : Prop where
  header : 12 ≤ m.payloadLength.toNat
  accepted : m.headerError = none
  questions : low m.questionCount ≠ 0
  answers : low m.answerCount ≠ 0

/-- The cursors of the walk. -/
def Reached (m : DnsMessage) (c : Cursor) : Prop :=
  Starts m ∧ Relation.ReflTransGen (fun c c' => m.next m.answerCount c = .ok c') m.start c

/-- The client reads a response within the packet, and as the reference parser does. -/
structure Meets (now : UInt32) (d : Dns) (datagram : UdpDatagram) : Prop where
  terminates : Starts datagram.message → ∃ verdict, datagram.message.parse = some verdict
  forward : ∀ c c', Reached datagram.message c → datagram.message.next datagram.message.answerCount c = .ok c' →
    position c < position c' ∧ position c' ≤ datagram.message.packetEnd
  record : ∀ x remaining, Reached datagram.message (.answer x remaining) →
    datagram.message.packetEnd.toNat < x.toNat + 10 + (datagram.message.word (x + 8)).toNat →
    datagram.message.next datagram.message.answerCount (.answer x remaining) = .error (.failed .truncated)
  questionCount : (pppDnsReceive now datagram d).lastError = .noQuestion → datagram.message.questionCount = 0
  answerCount : (pppDnsReceive now datagram d).lastError = .noAnswer → datagram.message.answerCount = 0
  accepts : ∀ address, ((pppDnsReceive now datagram d).state = .received ∧
      (pppDnsReceive now datagram d).answerAddress = address) ↔
    ∃ response, parseAResponse d.transactionId (octets datagram.message) = some (.ok response) ∧
      response.address = address.octets

/-- The counts are no multiples of 256 but zero, and no record of the message reaches past the address space. -/
def Regular (m : DnsMessage) : Prop :=
  12 ≤ m.payloadLength.toNat → m.headerError = none →
    (low m.questionCount = 0 → m.questionCount = 0) ∧
    (m.questionCount ≠ 0 → low m.answerCount = 0 → m.answerCount = 0) ∧
    ∀ q, m.questionCount ≠ 0 → skipQuestions (octets m) m.questionCount.toNat Rust.Dns.headerLength = .ok q →
      ∀ r ∈ answerRecords (octets m) m.answerCount.toNat q, Unwrapped m r

lemma low_zero : low 0 = 0 := by decide

lemma ne_zero_of_low {value : UInt16} (h : low value ≠ 0) : value ≠ 0 := fun hzero => h (by rw [hzero, low_zero])

lemma ofNat_toNat_pos {value : UInt16} (h : value ≠ 0) :
    0 < value.toNat ∧ value.toNat < 2 ^ 16 ∧ UInt16.ofNat value.toNat = value :=
  ⟨word_pos h, value.toNat_lt, UInt16.ofNat_toNat⟩

lemma start_eq : m.start = .name false (cursorAt m 12) m.questionCount := by
  unfold DnsMessage.start
  rw [word_cursorAt]
  rfl

lemma within_start (h : DnsWalk.Placed m) (hstarts : Starts m) : Within m m.start := by
  rw [start_eq]
  exact ⟨h.cursorAt_le hstarts.header, ne_zero_of_low hstarts.questions⟩

lemma parse_of_starts (hstarts : Starts m) : m.parse = m.walk m.answerCount walkFuel m.start := by
  unfold DnsMessage.parse
  rw [hstarts.accepted]
  dsimp only
  rw [if_neg hstarts.questions, if_neg hstarts.answers]

/-- **Every response is read to an end.** -/
theorem parse_ends (h : DnsWalk.Placed m) (hstarts : Starts m) : ∃ verdict, m.parse = some verdict := by
  have hbounded := h.bounded
  have hquestions := m.questionCount.toNat_lt
  have hanswers := m.answerCount.toNat_lt
  have hrank : rank m m.start < walkFuel := by
    have hleft : recordsLeft m.answerCount m.start ≤ 131070 := by
      change m.questionCount.toNat + m.answerCount.toNat ≤ _
      omega
    have hmul : (m.packetEnd.toNat + 1) * recordsLeft m.answerCount m.start ≤ 1505 * 131070 :=
      Nat.mul_le_mul (by omega) hleft
    have hfuel : walkFuel = 1073741824 := by decide
    unfold rank
    omega
  rw [parse_of_starts hstarts]
  exact walk_ends h (ne_zero_of_low hstarts.answers) (within_start h hstarts) hrank

/-- Both come to the same end of a regular message. -/
lemma message_end (h : DnsWalk.Placed m) (hstarts : Starts m) (hregular : Regular m) (code : UInt8) :
    ((∃ e, parseBody (octets m) code m.questionCount m.answerCount = some (.error e)) ∧
      ∃ e, Ends m m.start (.failed e)) ∨
    (∃ address, parseBody (octets m) code m.questionCount m.answerCount =
        some (.ok ⟨code, m.answerCount, address.octets⟩) ∧ Ends m m.start (.accepted address)) := by
  have hquestions := ne_zero_of_low hstarts.questions
  have hanswers := ne_zero_of_low hstarts.answers
  obtain ⟨hpositive, hlt, hcount⟩ := ofNat_toNat_pos hquestions
  obtain ⟨hpositive', hlt', hcount'⟩ := ofNat_toNat_pos hanswers
  obtain ⟨n, hn⟩ : ∃ n, m.questionCount.toNat = n + 1 := ⟨m.questionCount.toNat - 1, by omega⟩
  have hstart : m.start = .name false (cursorAt m 12) (UInt16.ofNat (n + 1)) := by rw [← hn, hcount, start_eq]
  have hunwrapped := (hregular hstarts.header hstarts.accepted).2.2
  unfold parseBody
  rw [if_neg hquestions, if_neg hanswers, hn, hstart]
  rw [hn] at hunwrapped
  rcases @questions_advances m h n (by omega) 12 hstarts.header with ⟨⟨e, herror⟩, e', hends⟩ | ⟨q, hq, hskip, hadvances⟩
  · exact Or.inl ⟨⟨e, by rw [herror]⟩, e', hends⟩
  · have hend := answers_end h code m.answerCount hpositive' hlt' hq (hunwrapped q hquestions hskip)
    rw [hcount'] at hend
    rw [hskip]
    rcases hend with ⟨herror, e, hends⟩ | ⟨address, hok, hends⟩
    · exact Or.inl ⟨herror, e, hadvances.ends hends⟩
    · exact Or.inr ⟨address, hok, hadvances.ends hends⟩

lemma headerError_ne {e : DnsError} (h : m.headerError = some e) : e ≠ .noQuestion ∧ e ≠ .noAnswer := by
  unfold DnsMessage.headerError at h
  extract_lets flags at h
  split_ifs at h <;> (obtain rfl := Option.some.inj h; decide)

lemma octets_injective {a b : Address} (h : a.octets = b.octets) : a = b := by
  obtain ⟨a1, a2, a3, a4⟩ := a
  obtain ⟨b1, b2, b3, b4⟩ := b
  simp only [Address.octets, List.cons.injEq, and_true] at h
  obtain ⟨rfl, rfl, rfl, rfl⟩ := h
  rfl

/-! ### The client -/

lemma not_short {datagram : UdpDatagram} (hheader : 12 ≤ datagram.payloadLength.toNat) :
    ¬ datagram.payloadLength < dnsHeaderLength := by
  rw [UInt16.lt_iff_toNat_lt]
  show ¬ _ < 12
  omega

section Client

variable (now : UInt32) {d : Dns} {datagram : UdpDatagram} (hwaiting : d.state = .waiting)
  (hcandidate : d.mismatch datagram = none)

include hwaiting hcandidate

lemma receive_short (hshort : datagram.payloadLength.toNat < 12) : pppDnsReceive now datagram d = d.fail .truncated := by
  have hlt : datagram.payloadLength < dnsHeaderLength := UInt16.lt_iff_toNat_lt.mpr hshort
  unfold pppDnsReceive
  rw [if_neg (not_not_intro hwaiting), hcandidate]
  exact if_pos hlt

variable (hid : datagram.message.word datagram.message.offset = d.transactionId)
  (hheader : 12 ≤ datagram.payloadLength.toNat)

include hid hheader

lemma receive_failed {e : DnsError} (hparse : datagram.message.parse = some (.failed e)) :
    (pppDnsReceive now datagram d).state = .failed ∧ (pppDnsReceive now datagram d).lastError = e := by
  unfold pppDnsReceive
  rw [if_neg (not_not_intro hwaiting), hcandidate]
  dsimp only
  rw [if_neg (not_short hheader), if_neg (not_not_intro hid), hparse]
  exact ⟨rfl, rfl⟩

lemma receive_accepted {address : Address} (hparse : datagram.message.parse = some (.accepted address)) :
    (pppDnsReceive now datagram d).state = .received ∧ (pppDnsReceive now datagram d).lastError = .none ∧
      (pppDnsReceive now datagram d).answerAddress = address := by
  unfold pppDnsReceive
  rw [if_neg (not_not_intro hwaiting), hcandidate]
  dsimp only
  rw [if_neg (not_short hheader), if_neg (not_not_intro hid), hparse]
  exact ⟨rfl, rfl, rfl⟩

end Client

/-- A response that is rejected on both sides before the walk. -/
lemma meets_of_rejected {now : UInt32} {d : Dns} {datagram : UdpDatagram} {e : DnsError}
    (hstarts : ¬ Starts datagram.message) (hstate : (pppDnsReceive now datagram d).state = .failed)
    (herror : (pppDnsReceive now datagram d).lastError = e)
    (hquestions : e = .noQuestion → datagram.message.questionCount = 0)
    (hanswers : e = .noAnswer → datagram.message.answerCount = 0)
    (hreference : ∃ e, parseAResponse d.transactionId (octets datagram.message) = some (.error e)) :
    Meets now d datagram where
  terminates := fun h => absurd h hstarts
  forward := fun _ _ h => absurd h.1 hstarts
  record := fun _ _ h => absurd h.1 hstarts
  questionCount := fun h => hquestions (herror.symm.trans h)
  answerCount := fun h => hanswers (herror.symm.trans h)
  accepts := by
    obtain ⟨e', he'⟩ := hreference
    intro address
    constructor
    · rintro ⟨hreceived, -⟩
      exact absurd (hstate.symm.trans hreceived) nofun
    · rintro ⟨response, hok, -⟩
      exact absurd (Option.some.inj (he'.symm.trans hok)) nofun

section Theorem

variable {now : UInt32} {d : Dns} {datagram : UdpDatagram} (hwaiting : d.state = .waiting)
  (hcandidate : d.mismatch datagram = none)
  (hid : datagram.message.word datagram.message.offset = d.transactionId) (h : DnsWalk.Placed datagram.message)

include hwaiting hcandidate hid h

lemma meets_of_regular (hregular : Regular datagram.message) : Meets now d datagram := by
  by_cases hheader : 12 ≤ datagram.payloadLength.toNat
  swap
  · have hreceive : pppDnsReceive now datagram d = d.fail .truncated :=
      receive_short now hwaiting hcandidate (by omega)
    refine meets_of_rejected (e := .truncated) (fun hstarts => hheader hstarts.header) (by rw [hreceive]; rfl) (by rw [hreceive]; rfl)
      nofun nofun ⟨.truncated, if_pos ?_⟩
    have hlength : (octets datagram.message).length = datagram.payloadLength.toNat := length_read _ _ _
    rw [hlength]
    exact Nat.not_le.mp hheader
  rcases header_refines h hheader with ⟨e, herror, hreference⟩ | ⟨haccepted, code, hparse⟩
  · have hparse : datagram.message.parse = some (.failed e) := by
      unfold DnsMessage.parse
      rw [herror]
    obtain ⟨hstate, hlast⟩ := receive_failed now hwaiting hcandidate hid hheader hparse
    obtain ⟨hquestion, hanswer⟩ := headerError_ne herror
    rw [hid] at hreference
    exact meets_of_rejected (fun hstarts => absurd (herror.symm.trans hstarts.accepted) nofun) hstate hlast
      (fun he => absurd he hquestion) (fun he => absurd he hanswer) hreference
  obtain ⟨hquestions, hanswers, -⟩ := hregular hheader haccepted
  rw [hid] at hparse
  by_cases hlow : low datagram.message.questionCount = 0
  · have hfailed : datagram.message.parse = some (.failed .noQuestion) := by
      unfold DnsMessage.parse
      rw [haccepted]
      exact if_pos hlow
    obtain ⟨hstate, hlast⟩ := receive_failed now hwaiting hcandidate hid hheader hfailed
    refine meets_of_rejected (fun hstarts => hstarts.questions hlow) hstate hlast (fun _ => hquestions hlow) nofun
      ⟨.noQuestion, ?_⟩
    rw [hparse]
    exact if_pos (hquestions hlow)
  have hnonzero := ne_zero_of_low hlow
  by_cases hlow' : low datagram.message.answerCount = 0
  · have hfailed : datagram.message.parse = some (.failed .noAnswer) := by
      unfold DnsMessage.parse
      rw [haccepted]
      dsimp only
      rw [if_neg hlow, if_pos hlow']
    have hzero := hanswers hnonzero hlow'
    obtain ⟨hstate, hlast⟩ := receive_failed now hwaiting hcandidate hid hheader hfailed
    refine meets_of_rejected (fun hstarts => hstarts.answers hlow') hstate hlast nofun (fun _ => hzero)
      ⟨.noAnswer, ?_⟩
    rw [hparse]
    unfold parseBody
    rw [if_neg hnonzero, if_pos hzero]
  have hstarts : Starts datagram.message := ⟨hheader, haccepted, hlow, hlow'⟩
  obtain ⟨verdict, hverdict⟩ := parse_ends h hstarts
  have hwalk := (parse_of_starts hstarts).symm.trans hverdict
  have hgood : ∀ c, Reached datagram.message c → Good datagram.message c := by
    rintro c ⟨-, hreached⟩
    rcases message_end h hstarts hregular code with ⟨-, e, hends⟩ | ⟨address, -, hends⟩
    · exact (hends.of_reached hreached).good
    · exact (hends.of_reached hreached).good
  have hforward : ∀ c c', Reached datagram.message c →
      datagram.message.next datagram.message.answerCount c = .ok c' →
      position c < position c' ∧ position c' ≤ datagram.message.packetEnd :=
    fun c c' hreached hnext => (hgood c hreached).forward c' hnext
  have hrecord : ∀ x remaining, Reached datagram.message (.answer x remaining) →
      datagram.message.packetEnd.toNat < x.toNat + 10 + (datagram.message.word (x + 8)).toNat →
      datagram.message.next datagram.message.answerCount (.answer x remaining) = .error (.failed .truncated) :=
    fun x remaining hreached hlong => (hgood _ hreached).record x remaining rfl hlong
  rcases message_end h hstarts hregular code with ⟨⟨e', herror⟩, e, hends⟩ | ⟨address, hok, hends⟩
  · obtain rfl := hends.walk_eq hwalk
    obtain ⟨hquestion, hanswer⟩ := hends.error_ne
    obtain ⟨hstate, hlast⟩ := receive_failed now hwaiting hcandidate hid hheader hverdict
    refine ⟨fun _ => ⟨_, hverdict⟩, hforward, hrecord, fun he => absurd (hlast.symm.trans he) hquestion,
      fun he => absurd (hlast.symm.trans he) hanswer, fun address => ⟨?_, ?_⟩⟩
    · rintro ⟨hreceived, -⟩
      exact absurd (hstate.symm.trans hreceived) nofun
    · rintro ⟨response, hresponse, -⟩
      exact absurd (Option.some.inj ((hparse.trans herror).symm.trans hresponse)) nofun
  · obtain rfl := hends.walk_eq hwalk
    obtain ⟨hstate, hlast, haddress⟩ := receive_accepted now hwaiting hcandidate hid hheader hverdict
    refine ⟨fun _ => ⟨_, hverdict⟩, hforward, hrecord, fun he => absurd (hlast.symm.trans he) nofun,
      fun he => absurd (hlast.symm.trans he) nofun, fun address' => ⟨?_, ?_⟩⟩
    · rintro ⟨-, rfl⟩
      exact ⟨_, hparse.trans hok, by rw [haddress]⟩
    · rintro ⟨response, hresponse, heq⟩
      obtain rfl := Except.ok.inj (Option.some.inj ((hparse.trans hok).symm.trans hresponse))
      exact ⟨hstate, haddress.trans (octets_injective heq)⟩

lemma regular_of_meets (hmeets : Meets now d datagram) : Regular datagram.message := by
  intro hheader haccepted
  have hquestions : low datagram.message.questionCount = 0 → datagram.message.questionCount = 0 := by
    intro hlow
    have hfailed : datagram.message.parse = some (.failed .noQuestion) := by
      unfold DnsMessage.parse
      rw [haccepted]
      exact if_pos hlow
    exact hmeets.questionCount (receive_failed now hwaiting hcandidate hid hheader hfailed).2
  have hanswers : datagram.message.questionCount ≠ 0 → low datagram.message.answerCount = 0 →
      datagram.message.answerCount = 0 := by
    intro hnonzero hlow
    have hfailed : datagram.message.parse = some (.failed .noAnswer) := by
      unfold DnsMessage.parse
      rw [haccepted]
      dsimp only
      rw [if_neg (mt hquestions hnonzero), if_pos hlow]
    exact hmeets.answerCount (receive_failed now hwaiting hcandidate hid hheader hfailed).2
  refine ⟨hquestions, hanswers, fun q hnonzero hskip r hr => ?_⟩
  by_contra hwrapped
  have hsome : datagram.message.answerCount ≠ 0 := by
    intro hzero
    rw [hzero] at hr
    exact absurd hr (List.not_mem_nil)
  have hstarts : Starts datagram.message := ⟨hheader, haccepted, mt hquestions hnonzero, mt (hanswers hnonzero) hsome⟩
  obtain ⟨hpositive, hlt, hcount⟩ := ofNat_toNat_pos hnonzero
  obtain ⟨-, hlt', hcount'⟩ := ofNat_toNat_pos hsome
  obtain ⟨n, hn⟩ : ∃ n, datagram.message.questionCount.toNat = n + 1 :=
    ⟨datagram.message.questionCount.toNat - 1, by omega⟩
  have hstart : datagram.message.start = .name false (cursorAt datagram.message 12) (UInt16.ofNat (n + 1)) := by
    rw [← hn, hcount, start_eq]
  rw [hn] at hskip
  rcases @questions_advances _ h n (by omega) 12 hheader with ⟨⟨e, herror⟩, -⟩ | ⟨q', hq, hskip', hadvances⟩
  · exact absurd (herror.symm.trans hskip) nofun
  obtain rfl := Except.ok.inj (hskip'.symm.trans hskip)
  obtain ⟨hfits, remaining, hadvances'⟩ := record_advances h hlt' hq hr
  rw [hcount'] at hadvances'
  have hreached : Reached datagram.message (.answer (cursorAt datagram.message r) remaining) := by
    refine ⟨hstarts, ?_⟩
    rw [hstart]
    exact Relation.ReflTransGen.mono (fun _ _ hstep => hstep.2) _ _ (hadvances.trans hadvances')
  -- The record does not fit, and is let through all the same.
  have hsum := h.sum
  have hbounded := h.bounded
  have hx := h.toNat_cursorAt (o := r) (by omega)
  have height : cursorAt datagram.message r + 8 = cursorAt datagram.message (r + 8) := cursorAt_add r 8
  have hlong : datagram.message.packetEnd.toNat < (cursorAt datagram.message r).toNat + 10 +
      (datagram.message.word (cursorAt datagram.message r + 8)).toNat := by
    rw [height, hx]
    change _ < _ + (dataLengthAt datagram.message r).toNat
    unfold Unwrapped at hwrapped
    omega
  have hrejected := hmeets.record _ _ hreached hlong
  have hturn := answer_turn h (o := r) (by omega) remaining
  rw [if_pos hfits, requireBytes_of_wrapped h hfits hwrapped, if_neg (by decide)] at hturn
  have hends := hturn.symm.trans hrejected
  split_ifs at hends
  all_goals cases hends

end Theorem

/-- A packet of at most 1500 octets lies behind the four of the frame header. -/
lemma placed_of_packet {datagram : UdpDatagram}
    (h : datagram.packetOffset.toNat + 8 + datagram.payloadLength.toNat ≤ 1504) : DnsWalk.Placed datagram.message := by
  have hoffset : (datagram.packetOffset + udpHeaderLength).toNat = datagram.packetOffset.toNat + 8 :=
    toNat_add_of_lt (by change datagram.packetOffset.toNat + 8 < _; omega)
  have hsum : (datagram.packetOffset + udpHeaderLength + datagram.payloadLength).toNat =
      (datagram.packetOffset + udpHeaderLength).toNat + datagram.payloadLength.toNat := toNat_add_of_lt (by omega)
  exact ⟨hsum, by change (datagram.packetOffset + udpHeaderLength + datagram.payloadLength).toNat ≤ _; omega⟩

end Message

/-- **The client agrees with the reference parser exactly on the regular responses**: the walk ends and moves forward
within the packet, rejects every record that does not fit, takes the counts for what they are, and accepts what the
reference parser accepts. -/
theorem meets_iff_regular (now : UInt32) (d : Dns) (datagram : UdpDatagram) (hwaiting : d.state = .waiting)
    (hcandidate : d.mismatch datagram = none)
    (hid : datagram.message.word datagram.message.offset = d.transactionId)
    (hpacket : datagram.packetOffset.toNat + 8 + datagram.payloadLength.toNat ≤ 1504) :
    Meets now d datagram ↔ Regular datagram.message :=
  ⟨regular_of_meets hwaiting hcandidate hid (placed_of_packet hpacket),
    meets_of_regular hwaiting hcandidate hid (placed_of_packet hpacket)⟩

/-! ### Three responses -/

/-- A client that waits for the answer to its query. -/
def waitingClient : Dns := { (default : Dns) with state := .waiting, resolver := ⟨192, 0, 2, 53⟩, transactionId := 0x1234 }

/-- A message of the resolver, as it lies in the frame buffer. -/
def response (bytes : List UInt8) : UdpDatagram where
  source := ⟨192, 0, 2, 53⟩
  sourcePort := dnsServerPort
  destinationPort := dnsClientPort
  payloadLength := UInt16.ofNat bytes.length
  packetOffset := 24
  frameBuffer := write default 32 bytes

/-- One question, and one answer with an address. -/
def plainMessage : List UInt8 :=
  [0x12, 0x34, 0x80, 0, 0, 1, 0, 1, 0, 0, 0, 0, 0, 0, 1, 0, 1, 0, 0, 1, 0, 1, 0, 0, 0, 0, 0, 4, 192, 0, 2, 66]

/-- The same with an answer count of 256. -/
def manyMessage : List UInt8 :=
  [0x12, 0x34, 0x80, 0, 0, 1, 1, 0, 0, 0, 0, 0, 0, 0, 1, 0, 1, 0, 0, 1, 0, 1, 0, 0, 0, 0, 0, 4, 192, 0, 2, 66]

/-- A record of 65505 octets, which leads back into the name of the question. -/
def wrappedMessage : List UInt8 :=
  [0x12, 0x34, 0x80, 0, 0, 1, 0, 2, 0, 0, 0, 0, 15, 0, 0, 1, 0, 1, 0, 0, 0, 0, 0, 4, 192, 0, 2, 66, 0, 0, 1, 0, 1,
    0, 0, 5, 0, 1, 0, 0, 0, 0, 0xff, 0xe1]

theorem meets_iff_regular_plain :
    Meets 0 waitingClient (response plainMessage) ↔ Regular (response plainMessage).message :=
  meets_iff_regular 0 waitingClient (response plainMessage) rfl (by decide +kernel) (by decide +kernel)
    (by decide +kernel)

/-- **Two responses on which the client fails.**  An answer count of 256 is taken for none, and a record that is longer
than the packet leads back to an address that the reference parser does not come to. -/
theorem counts_and_records_fail :
    (waitingClient.state = .waiting ∧ waitingClient.mismatch (response manyMessage) = none ∧
      waitingClient.mismatch (response wrappedMessage) = none) ∧
    ((pppDnsReceive 0 (response manyMessage) waitingClient).lastError = .noAnswer ∧
      parseAResponse waitingClient.transactionId (octets (response manyMessage).message) =
        some (.ok ⟨0, 256, [192, 0, 2, 66]⟩)) ∧
    ((pppDnsReceive 0 (response wrappedMessage) waitingClient).state = .received ∧
      (pppDnsReceive 0 (response wrappedMessage) waitingClient).answerAddress = ⟨192, 0, 2, 66⟩ ∧
      parseAResponse waitingClient.transactionId (octets (response wrappedMessage).message) =
        some (.error .truncated)) ∧
    ¬ Meets 0 waitingClient (response manyMessage) ∧ ¬ Meets 0 waitingClient (response wrappedMessage) := by
  have hmany : (pppDnsReceive 0 (response manyMessage) waitingClient).lastError = .noAnswer := by decide +kernel
  have hstate : (pppDnsReceive 0 (response wrappedMessage) waitingClient).state = .received := by decide +kernel
  have haddress : (pppDnsReceive 0 (response wrappedMessage) waitingClient).answerAddress = ⟨192, 0, 2, 66⟩ := by
    decide +kernel
  have hreference : parseAResponse waitingClient.transactionId (octets (response wrappedMessage).message) =
      some (.error .truncated) := by decide +kernel
  refine ⟨by decide +kernel, ⟨hmany, by decide +kernel⟩, ⟨hstate, haddress, hreference⟩, fun hmeets => ?_,
    fun hmeets => ?_⟩
  · exact absurd (hmeets.answerCount hmany) (by decide +kernel)
  · obtain ⟨_, hresponse, -⟩ := (hmeets.accepts _).mp ⟨hstate, haddress⟩
    exact absurd (Option.some.inj (hreference.symm.trans hresponse)) nofun

end SnesModem.Asm.DnsRefinement
