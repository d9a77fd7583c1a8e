import SnesModem.Lib.DnsMessages
import SnesModem.Rust.Dns

/-!
# DNS responses

`parse_a_response` on the messages of the grammar, and on any octets at all.

* `parseAResponse_ne_none`: no access lies outside the octets;
* `skipName_wire`: a name is skipped, with its pointer, which is not followed;
* `skipQuestions_wire`, `findAnswer_wire`: the cursor stands behind each entry in turn;
* `parseAResponse_wire`: the result for a response that is not truncated.
-/

namespace SnesModem.Rust.Dns

open SnesModem.Lib SnesModem.Lib.Cpu65816 SnesModem.Lib.DomainNames SnesModem.Lib.DnsMessages
open SnesModem.Lib.Octets (high low word_high_low)

/-! ### Any octets -/

section Bounds

variable {bytes : List UInt8}

lemma readU16_ne_none (bytes : List UInt8) (offset : ℕ) (h : offset + 2 ≤ bytes.length) :
    ∃ value, readU16 bytes offset = some value := by
  have hfirst : bytes[offset]? = some bytes[offset] := List.getElem?_eq_getElem (by omega)
  have hsecond : bytes[offset + 1]? = some bytes[offset + 1] := List.getElem?_eq_getElem (by omega)
  refine ⟨word bytes[offset] bytes[offset + 1], ?_⟩
  unfold readU16
  rw [hfirst, hsecond]
  rfl

lemma findAnswer_ne_none (responseCode : UInt8) (answerCount : UInt16) (count offset : ℕ) :
    findAnswer bytes responseCode answerCount count offset ≠ none := by
  induction count generalizing offset with
  | zero => exact nofun
  | succ count ih =>
    unfold findAnswer
    cases skipName bytes offset with
    | error error => exact nofun
    | ok offset =>
      dsimp only
      split_ifs with hfields
      · exact nofun
      obtain ⟨recordType, htype⟩ := readU16_ne_none bytes offset (by omega)
      obtain ⟨recordClass, hclass⟩ := readU16_ne_none bytes (offset + 2) (by omega)
      obtain ⟨dataLength, hlength⟩ := readU16_ne_none bytes (offset + 8) (by omega)
      rw [htype, hclass, hlength]
      dsimp only [Option.bind_eq_bind, Option.bind_some]
      split_ifs with hdata haddress
      · exact nofun
      · -- the four octets of the address are there
        have hfour : dataLength.toNat = 4 := by
          rw [haddress.2.2]
          rfl
        rw [List.getElem?_eq_getElem (by omega : offset + 10 < bytes.length),
          List.getElem?_eq_getElem (by omega : offset + 11 < bytes.length),
          List.getElem?_eq_getElem (by omega : offset + 12 < bytes.length),
          List.getElem?_eq_getElem (by omega : offset + 13 < bytes.length)]
        exact nofun
      · exact ih _

/-- **`parse_a_response` returns for any octets**: no access is out of range. -/
theorem parseAResponse_ne_none (identifier : UInt16) (bytes : List UInt8) : parseAResponse identifier bytes ≠ none := by
  unfold parseAResponse
  split_ifs with hheader
  · exact nofun
  have hlength : headerLength = 12 := rfl
  obtain ⟨received, hreceived⟩ := readU16_ne_none bytes 0 (by omega)
  obtain ⟨flags, hflags⟩ := readU16_ne_none bytes 2 (by omega)
  obtain ⟨questionCount, hquestions⟩ := readU16_ne_none bytes 4 (by omega)
  obtain ⟨answerCount, hanswers⟩ := readU16_ne_none bytes 6 (by omega)
  rw [hreceived, hflags, hquestions, hanswers]
  dsimp only [Option.bind_eq_bind, Option.bind_some]
  split_ifs
  · exact nofun
  · exact nofun
  · exact nofun
  · exact nofun
  · exact nofun
  · exact nofun
  · exact nofun
  · cases skipQuestions bytes questionCount.toNat headerLength with
    | error error => exact nofun
    | ok offset => exact findAnswer_ne_none _ _ _ _

end Bounds

/-! ### Names -/

section Names

variable {bytes : List UInt8}

lemma getElem?_of_eq_append {before rest : List UInt8} {octet : UInt8} (h : bytes = before ++ octet :: rest) :
    bytes[before.length]? = some octet := by
  rw [h, List.getElem?_append_right (Nat.le_refl _), Nat.sub_self]
  rfl

lemma readU16_of_eq_append {before rest : List UInt8} {value : UInt16} (h : bytes = before ++ (wireWord value ++ rest)) :
    readU16 bytes before.length = some value := by
  have hfirst : bytes[before.length]? = some (high value) := getElem?_of_eq_append h
  have hsecond : bytes[before.length + 1]? = some (low value) := by
    have hbytes : bytes = (before ++ [high value]) ++ low value :: rest := by
      rw [h]
      simp [wireWord]
    have hget := getElem?_of_eq_append hbytes
    rwa [List.length_append, List.length_singleton] at hget
  unfold readU16
  rw [hfirst, hsecond]
  exact congrArg some (word_high_low value)

/-- A label is stepped over. -/
lemma skipName_label {before label rest : List UInt8} (hne : label ≠ []) (hle : label.length ≤ maximumLabel)
    (h : bytes = before ++ (wireLabel label ++ rest)) :
    skipName bytes before.length = skipName bytes (before ++ wireLabel label).length := by
  have hpos := List.length_pos_of_ne_nil hne
  have hmaximum : maximumLabel = 63 := rfl
  have hlength : (UInt8.ofNat label.length).toNat = label.length := UInt8.toNat_ofNat_of_lt (by
    show _ < 256
    omega)
  have hshort : ∀ n < 64, UInt8.ofNat n &&& 0xc0 = 0 := by decide
  have hbits := hshort label.length (by omega)
  have hnonzero : UInt8.ofNat label.length ≠ 0 := by
    intro hzero
    rw [hzero] at hlength
    exact absurd hlength.symm hpos.ne'
  have htotal : bytes.length = before.length + (1 + label.length + rest.length) := by
    rw [h, List.length_append, List.length_append, wireLabel, List.length_cons]
    omega
  have hnext : (before ++ wireLabel label).length = before.length + (1 + label.length) := by
    rw [List.length_append, wireLabel, List.length_cons]
    omega
  have hallowed : ¬ ((0 : UInt8) ≠ 0 ∨ maxLabelLength < label.length) := by
    rintro (hbad | hbad)
    · exact hbad rfl
    · exact absurd hle (Nat.not_le.mpr hbad)
  rw [skipName_of_some (getElem?_of_eq_append h), if_neg hnonzero, hbits, if_neg (by decide), hlength, if_neg hallowed,
    if_neg (by omega), hnext]

lemma skipName_ending {before rest : List UInt8} {pointer : Option ℕ} (hsmall : ∀ target ∈ pointer, target < 2 ^ 14)
    (hinside : ∀ target ∈ pointer, target < bytes.length) (h : bytes = before ++ (ending pointer ++ rest)) :
    skipName bytes before.length = .ok (before ++ ending pointer).length := by
  cases pointer with
  | none =>
    rw [skipName_of_some (getElem?_of_eq_append h), if_pos rfl, List.length_append]
    rfl
  | some target =>
    have hlt := hsmall target rfl
    have hfacts : ∀ n < 64, UInt8.ofNat (0xc0 + n) ≠ 0 ∧ UInt8.ofNat (0xc0 + n) &&& 0xc0 = 0xc0 ∧
        (UInt8.ofNat (0xc0 + n) &&& 0x3f).toNat = n := by decide
    obtain ⟨hnonzero, hbits, hhigh⟩ := hfacts (target / 256) (by omega)
    have hsecond : bytes[before.length + 1]? = some (UInt8.ofNat target) := by
      have hbytes : bytes = (before ++ [UInt8.ofNat (0xc0 + target / 256)]) ++ UInt8.ofNat target :: rest := by
        rw [h]
        simp [ending]
      have hget := getElem?_of_eq_append hbytes
      rwa [List.length_append, List.length_singleton] at hget
    have htarget : (word (UInt8.ofNat (0xc0 + target / 256) &&& 0x3f) (UInt8.ofNat target)).toNat = target := by
      rw [toNat_word, hhigh, UInt8.toNat_ofNat']
      omega
    rw [skipName_of_some (getElem?_of_eq_append h), if_neg hnonzero, if_pos hbits, hsecond]
    dsimp only
    rw [htarget, if_neg (Nat.not_le.mpr (hinside target rfl)), List.length_append]
    rfl

/-- **A name is skipped**, and what its pointer points at is not looked at. -/
theorem skipName_wire {before rest : List UInt8} (n : Name) (hinside : ∀ target ∈ n.pointer, target < bytes.length)
    (h : bytes = before ++ (n.wire ++ rest)) : skipName bytes before.length = .ok (before ++ n.wire).length := by
  obtain ⟨labels, pointer, isLabel, hsmall⟩ := n
  simp only [Name.wire] at h ⊢
  induction labels generalizing before with
  | nil => exact skipName_ending hsmall hinside h
  | cons label labels ih =>
    obtain ⟨⟨hne, hle⟩, hlabels⟩ := List.forall_mem_cons.mp isLabel
    have hcons : wireLabels (label :: labels) = wireLabel label ++ wireLabels labels := rfl
    rw [hcons, List.append_assoc, List.append_assoc] at h
    have hrest : bytes = before ++ wireLabel label ++ (wireLabels labels ++ ending pointer ++ rest) := by
      rw [h, List.append_assoc, List.append_assoc]
    rw [skipName_label hne hle h, hcons, List.append_assoc, ← List.append_assoc before]
    exact ih hlabels hinside hrest

end Names

/-! ### Sections -/

section Sections

variable {bytes : List UInt8}

/-- A question is skipped by its name and four octets. -/
lemma skipQuestions_question {before rest : List UInt8} (question : Question) (count : ℕ)
    (hinside : ∀ target ∈ question.name.pointer, target < bytes.length)
    (h : bytes = before ++ (question.wire ++ rest)) :
    skipQuestions bytes (count + 1) before.length = skipQuestions bytes count (before ++ question.wire).length := by
  set fields := wireWord question.questionType ++ wireWord question.questionClass with hfields
  have hfour : fields.length = 4 := rfl
  have hname : bytes = before ++ (question.name.wire ++ (fields ++ rest)) := by
    rw [h, Question.wire, List.append_assoc]
  have hnext : (before ++ question.name.wire).length + 4 = (before ++ question.wire).length := by
    rw [Question.wire, ← hfields]
    simp only [List.length_append, hfour, Nat.add_assoc]
  have htotal : bytes.length = (before ++ question.wire).length + rest.length := by
    rw [h, ← List.append_assoc, List.length_append]
  rw [skipQuestions, skipName_wire question.name hinside hname]
  dsimp only
  rw [hnext, if_neg (by omega)]

/-- **The questions are skipped**, one after the other. -/
theorem skipQuestions_wire {before rest : List UInt8} (questions : List Question)
    (hinside : ∀ question ∈ questions, ∀ target ∈ question.name.pointer, target < bytes.length)
    (h : bytes = before ++ (questions.flatMap Question.wire ++ rest)) :
    skipQuestions bytes questions.length before.length = .ok (before ++ questions.flatMap Question.wire).length := by
  induction questions generalizing before with
  | nil =>
    rw [List.flatMap_nil, List.append_nil]
    rfl
  | cons question questions ih =>
    obtain ⟨hquestion, hquestions⟩ := List.forall_mem_cons.mp hinside
    rw [List.flatMap_cons, List.append_assoc] at h
    have hrest : bytes = before ++ question.wire ++ (questions.flatMap Question.wire ++ rest) := by
      rw [h, List.append_assoc]
    rw [List.length_cons, skipQuestions_question question _ hquestion h, ih hquestions hrest, List.flatMap_cons,
      List.append_assoc]

/-- What is read of a record between its name and its data. -/
lemma readU16_fields {cursor rest : List UInt8} (r : Record) (h : bytes = cursor ++ (r.fields ++ rest)) :
    readU16 bytes cursor.length = some r.recordType ∧ readU16 bytes (cursor.length + 2) = some r.recordClass ∧
      readU16 bytes (cursor.length + 8) = some (UInt16.ofNat r.data.length) := by
  have hclass : bytes = (cursor ++ wireWord r.recordType) ++ (wireWord r.recordClass ++
      (BigEndian.octets 4 r.timeToLive.toNat ++ wireWord (UInt16.ofNat r.data.length) ++ rest)) := by
    rw [h, Record.fields]
    simp only [List.append_assoc]
  have hlength : bytes = (cursor ++ (wireWord r.recordType ++ wireWord r.recordClass ++
      BigEndian.octets 4 r.timeToLive.toNat)) ++ (wireWord (UInt16.ofNat r.data.length) ++ rest) := by
    rw [h, Record.fields]
    simp only [List.append_assoc]
  have hreadClass := readU16_of_eq_append hclass
  have hreadLength := readU16_of_eq_append hlength
  rw [List.length_append] at hreadClass hreadLength
  rw [List.append_assoc] at hclass
  exact ⟨readU16_of_eq_append hclass, hreadClass, hreadLength⟩

lemma octets_of_length_four {data : List UInt8} (h : data.length = 4) : ∃ a b c d, data = [a, b, c, d] := by
  rcases data with _ | ⟨a, _ | ⟨b, _ | ⟨c, _ | ⟨d, _ | ⟨e, rest⟩⟩⟩⟩⟩
  · cases h
  · cases h
  · cases h
  · cases h
  · exact ⟨a, b, c, d, rfl⟩
  · simp at h

/-- The four octets of an address. -/
lemma getElem?_address {cursor rest : List UInt8} {a b c d : UInt8} (h : bytes = cursor ++ ([a, b, c, d] ++ rest)) :
    bytes[cursor.length]? = some a ∧ bytes[cursor.length + 1]? = some b ∧ bytes[cursor.length + 2]? = some c ∧
      bytes[cursor.length + 3]? = some d := by
  have hget : ∀ i, bytes[cursor.length + i]? = ([a, b, c, d] ++ rest)[i]? := by
    intro i
    rw [h, List.getElem?_append_right (Nat.le_add_right _ _), Nat.add_sub_cancel_left]
  exact ⟨hget 0, hget 1, hget 2, hget 3⟩

/-- An answer is the result if it is an address, and otherwise skipped by its name and the length of its data. -/
lemma findAnswer_record {before rest : List UInt8} (responseCode : UInt8) (answerCount : UInt16) (answer : Record)
    (count : ℕ) (hinside : ∀ target ∈ answer.name.pointer, target < bytes.length)
    (h : bytes = before ++ (answer.wire ++ rest)) :
    findAnswer bytes responseCode answerCount (count + 1) before.length =
      if answer.isAddress then some (.ok ⟨responseCode, answerCount, answer.data⟩)
      else findAnswer bytes responseCode answerCount count (before ++ answer.wire).length := by
  set cursor := before ++ answer.name.wire with hcursor
  have hname : bytes = before ++ (answer.name.wire ++ (answer.fields ++ (answer.data ++ rest))) := by
    rw [h, Record.wire]
    simp only [List.append_assoc]
  have hfields : bytes = cursor ++ (answer.fields ++ (answer.data ++ rest)) := by
    rw [hname, hcursor, List.append_assoc]
  have hdata : (UInt16.ofNat answer.data.length).toNat = answer.data.length := UInt16.toNat_ofNat_of_lt' answer.fits
  have htotal : bytes.length = cursor.length + 10 + answer.data.length + rest.length := by
    rw [hfields]
    simp only [List.length_append, Record.length_fields]
    omega
  have hnext : cursor.length + 10 + answer.data.length = (before ++ answer.wire).length := by
    rw [hcursor, Record.wire]
    simp only [List.length_append, Record.length_fields]
    omega
  obtain ⟨htype, hclass, hlength⟩ := readU16_fields answer hfields
  rw [findAnswer, skipName_wire answer.name hinside hname]
  dsimp only
  rw [← hcursor, if_neg (by omega), htype, hclass, hlength]
  dsimp only [Option.bind_eq_bind, Option.bind_some]
  rw [hdata, if_neg (by omega)]
  have haddress : (answer.recordType = typeA ∧ answer.recordClass = classIn ∧ UInt16.ofNat answer.data.length = 4) ↔
      answer.isAddress = true := by
    have hfour : UInt16.ofNat answer.data.length = 4 ↔ answer.data.length = 4 := by
      rw [← UInt16.toNat_inj, hdata]
      rfl
    simp only [Record.isAddress, Bool.and_eq_true, decide_eq_true_eq, hfour, and_assoc]
  by_cases hfound : answer.isAddress = true
  · -- the four octets of the data are read one by one
    have hfour : answer.data.length = 4 := by
      simp only [Record.isAddress, Bool.and_eq_true, decide_eq_true_eq] at hfound
      exact hfound.2
    obtain ⟨a, b, c, d, hoctets⟩ := octets_of_length_four hfour
    have hbehind : bytes = (cursor ++ answer.fields) ++ ([a, b, c, d] ++ rest) := by
      rw [hfields, hoctets]
      simp only [List.append_assoc]
    obtain ⟨ha, hb, hc, hd⟩ := getElem?_address hbehind
    rw [List.length_append, Record.length_fields] at ha hb hc hd
    rw [if_pos (haddress.mpr hfound), if_pos hfound, ha, hb, hc, hd, hoctets]
    rfl
  · rw [if_neg (mt haddress.mp hfound), if_neg hfound, hnext]

/-- The result of the loop over the answers: that of the first address. -/
def firstAddress (responseCode : UInt8) (answerCount : UInt16) (answers : List Record) : Except ParseError AResponse :=
  match answers.find? Record.isAddress with
  | some answer => .ok ⟨responseCode, answerCount, answer.data⟩
  | none => .error .noIpv4Answer

/-- **The answers are searched in order.** -/
theorem findAnswer_wire {before rest : List UInt8} (responseCode : UInt8) (answerCount : UInt16) (answers : List Record)
    (hinside : ∀ answer ∈ answers, ∀ target ∈ answer.name.pointer, target < bytes.length)
    (h : bytes = before ++ (answers.flatMap Record.wire ++ rest)) :
    findAnswer bytes responseCode answerCount answers.length before.length =
      some (firstAddress responseCode answerCount answers) := by
  induction answers generalizing before with
  | nil => rfl
  | cons answer answers ih =>
    obtain ⟨hanswer, hanswers⟩ := List.forall_mem_cons.mp hinside
    rw [List.flatMap_cons, List.append_assoc] at h
    have hrest : bytes = before ++ answer.wire ++ (answers.flatMap Record.wire ++ rest) := by
      rw [h, List.append_assoc]
    rw [List.length_cons, findAnswer_record _ _ answer _ hanswer h]
    by_cases haddress : answer.isAddress = true
    · rw [if_pos haddress, firstAddress, List.find?_cons_of_pos haddress]
    · rw [if_neg haddress, ih hanswers hrest, firstAddress, firstAddress, List.find?_cons_of_neg haddress]

end Sections

/-! ### Responses -/

section Responses

lemma readU16_header (c : Content) :
    readU16 c.wire 0 = some c.identifier ∧ readU16 c.wire 2 = some c.flags ∧
      readU16 c.wire 4 = some (UInt16.ofNat c.questions.length) ∧
      readU16 c.wire 6 = some (UInt16.ofNat c.answers.length) := by
  have hword : ∀ value : UInt16, some (word (high value) (low value)) = some value :=
    fun value => congrArg some (word_high_low value)
  exact ⟨hword _, hword _, hword _, hword _⟩

/-- A response that says that it succeeded, and repeats a question. -/
def Succeeded (m : Message) : Prop := m.opcode = 0 ∧ m.responseCode = 0 ∧ m.questions ≠ []

variable {m : Message}

lemma count_eq_zero {n : ℕ} (h : n < 2 ^ 16) : UInt16.ofNat n = 0 ↔ n = 0 := by
  rw [← UInt16.toNat_inj, UInt16.toNat_ofNat_of_lt' h]
  rfl

lemma toUInt8_eq_zero {value : UInt16} (h : value.toNat < 256) : value.toUInt8 = 0 ↔ value = 0 := by
  rw [← UInt8.toNat_inj, ← UInt16.toNat_inj, UInt16.toNat_toUInt8, Nat.mod_eq_of_lt h]
  rfl

lemma opcode_eq_zero (c : Content) : c.opcode.toUInt8 = 0 ↔ c.opcode = 0 := by
  refine toUInt8_eq_zero ?_
  have hmask : (c.flags &&& 0x7800).toNat ≤ 0x7800 := by
    rw [UInt16.toNat_and]
    exact Nat.and_le_right
  have hshift : c.opcode.toNat = (c.flags &&& 0x7800).toNat / 2 ^ 11 := by
    rw [Content.opcode, UInt16.toNat_shiftRight]
    exact Nat.shiftRight_eq_div_pow _ _
  omega

lemma responseCode_eq_zero (c : Content) : c.responseCode.toUInt8 = 0 ↔ c.responseCode = 0 := by
  refine toUInt8_eq_zero ?_
  have hmask : c.responseCode.toNat ≤ 0x000f := by
    rw [Content.responseCode, UInt16.toNat_and]
    exact Nat.and_le_right
  omega

/-- What is done once the header has passed. -/
def searchAnswers (m : Message) : Option (Except ParseError AResponse) :=
  match skipQuestions m.wire m.questions.length headerLength with
  | .error error => some (.error error)
  | .ok offset => findAnswer m.wire m.responseCode.toUInt8 (UInt16.ofNat m.answers.length) m.answers.length offset

/-- The checks of the header that are left for a response that is not truncated. -/
lemma parseAResponse_header (hresponse : m.isResponse = true) (hwhole : m.isTruncated = false) :
    parseAResponse m.identifier m.wire =
      if m.opcode ≠ 0 then some (.error (.unsupportedOpcode m.opcode.toUInt8))
      else if m.responseCode ≠ 0 then some (.error (.responseCode m.responseCode.toUInt8))
      else if m.questions.length = 0 then some (.error .noQuestion)
      else if m.answers.length = 0 then some (.error .noAnswer)
      else searchAnswers m := by
  obtain ⟨hidentifier, hflags, hquestions, hanswers⟩ := readU16_header m.toContent
  have hlong : ¬ m.wire.length < headerLength := by
    rw [Content.wire, List.length_append, Content.length_header]
    change ¬ _ < 12
    omega
  have hset : ¬ m.flags &&& flagResponse = 0 := by simpa [Content.isResponse] using hresponse
  have hclear : ¬ m.flags &&& flagTruncated ≠ 0 := by simpa [Content.isTruncated] using hwhole
  have hopcode : ((m.flags &&& opcodeMask) >>> 11).toUInt8 = m.opcode.toUInt8 := rfl
  have hcode : (m.flags &&& responseCodeMask).toUInt8 = m.responseCode.toUInt8 := rfl
  unfold parseAResponse
  rw [if_neg hlong, hidentifier, hflags, hquestions, hanswers]
  dsimp only [Option.bind_eq_bind, Option.bind_some]
  rw [if_neg (not_not_intro rfl), if_neg hset, if_neg hclear, hopcode, hcode, UInt16.toNat_ofNat_of_lt' m.questions_lt,
    UInt16.toNat_ofNat_of_lt' m.answers_lt]
  simp only [ne_eq, opcode_eq_zero, responseCode_eq_zero, count_eq_zero m.questions_lt, count_eq_zero m.answers_lt]
  rfl

/-- **A response that succeeded** is searched for its first address. -/
theorem parseAResponse_succeeded (hresponse : m.isResponse = true) (hwhole : m.isTruncated = false) (h : Succeeded m) :
    parseAResponse m.identifier m.wire =
      some (if m.answers = [] then .error .noAnswer
        else firstAddress 0 (UInt16.ofNat m.answers.length) m.answers) := by
  obtain ⟨hopcode, hcode, hquestions⟩ := h
  have hasked : m.questions.length ≠ 0 := fun hzero => hquestions (List.length_eq_zero_iff.mp hzero)
  rw [parseAResponse_header hresponse hwhole, if_neg (not_not_intro hopcode), if_neg (not_not_intro hcode),
    if_neg hasked]
  by_cases hanswers : m.answers = []
  · rw [hanswers]
    rfl
  have hanswered : m.answers.length ≠ 0 := fun hzero => hanswers (List.length_eq_zero_iff.mp hzero)
  have hsections : m.wire =
      m.header ++ (m.questions.flatMap Question.wire ++ (m.answers.flatMap Record.wire ++ m.behind)) := rfl
  have hrecords : m.wire =
      m.header ++ m.questions.flatMap Question.wire ++ (m.answers.flatMap Record.wire ++ m.behind) := by
    rw [hsections, List.append_assoc]
  have hskipped := skipQuestions_wire m.questions (fun question hmem => m.pointer_question hmem) hsections
  have hfound := findAnswer_wire 0 (UInt16.ofNat m.answers.length) m.answers (fun answer hmem => m.pointer_answer hmem)
    hrecords
  rw [Content.length_header] at hskipped
  rw [if_neg hanswered, if_neg hanswers, searchAnswers, hskipped, hcode]
  exact hfound

/-- A response that did not succeed is an error, whatever its records are. -/
theorem parseAResponse_failed (hresponse : m.isResponse = true) (hwhole : m.isTruncated = false) (h : ¬ Succeeded m) :
    ∃ error, parseAResponse m.identifier m.wire = some (.error error) := by
  rw [parseAResponse_header hresponse hwhole]
  split_ifs with hopcode hcode hquestions
  · exact ⟨_, rfl⟩
  · exact ⟨_, rfl⟩
  · exact ⟨_, rfl⟩
  · exact ⟨_, rfl⟩
  · refine absurd ⟨not_not.mp hopcode, not_not.mp hcode, fun hnil => hquestions ?_⟩ h
    rw [hnil]
    rfl

end Responses

end SnesModem.Rust.Dns
