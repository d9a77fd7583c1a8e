import Mathlib.Logic.Relation
import SnesModem.Asm.Dns
import SnesModem.Rust.Dns

/-!
# The walk through a DNS response against the reference parser

* `nameOctet_refines`, `questions_advances`, `answers_end`: names, questions and answers that do not wrap are read alike;
* `record_advances`: the walk comes to every record that the reference parser reads;
* `walk_ends`: the walk ends, whatever the records say.
-/

namespace SnesModem.Asm.DnsWalk

open SnesModem.Lib SnesModem.Lib.Cpu65816 SnesModem.Lib.Octets SnesModem.Rust.Dns
open DnsMessage (Cursor Verdict NameTurn walkFuel)

/-- The offset that a cursor stands at. -/
def position : Cursor → UInt16
  | .name _ x _ => x
  | .question x _ => x
  | .answer x _ => x

section Message

variable (m : DnsMessage)

/-- The message as the reference parser sees it. -/
def octets : List UInt8 := read m.frameBuffer m.offset.toNat m.payloadLength.toNat

/-- The message lies within the frame buffer, whose packet has at most 1500 octets behind the four of its header. -/
structure Placed : Prop where
  sum : m.packetEnd.toNat = m.offset.toNat + m.payloadLength.toNat
  bounded : m.packetEnd.toNat ≤ 1504

/-- The cursor at an octet of the message. -/
def cursorAt (o : ℕ) : UInt16 := UInt16.ofNat (m.offset.toNat + o)

variable {m}

lemma cursorAt_add (o : ℕ) (k : UInt16) : cursorAt m o + k = cursorAt m (o + k.toNat) := by
  apply UInt16.toNat_inj.mp
  simp only [cursorAt, UInt16.toNat_add, UInt16.toNat_ofNat']
  omega

namespace Placed

variable (h : Placed m) {o : ℕ}

include h

lemma toNat_cursorAt (ho : o ≤ m.payloadLength.toNat) : (cursorAt m o).toNat = m.offset.toNat + o := by
  have hsum := h.sum
  have hbounded := h.bounded
  simp only [cursorAt, UInt16.toNat_ofNat']
  omega

/-- A demand that does not wrap is met exactly if the octets are there. -/
lemma requireBytes_eq (ho : o ≤ m.payloadLength.toNat) {count : UInt16}
    (hcount : m.offset.toNat + o + count.toNat < 2 ^ 16) :
    m.requireBytes (cursorAt m o) count = decide (o + count.toNat ≤ m.payloadLength.toNat) := by
  have hx := h.toNat_cursorAt ho
  have hsum := h.sum
  have hadd : (cursorAt m o + count).toNat = (cursorAt m o).toNat + count.toNat := toNat_add_of_lt (by omega)
  unfold DnsMessage.requireBytes
  refine decide_eq_decide.mpr ?_
  rw [UInt16.le_iff_toNat_le]
  omega

lemma requireBytes_small (ho : o ≤ m.payloadLength.toNat) {count : UInt16} (hcount : count.toNat ≤ 256) :
    m.requireBytes (cursorAt m o) count = decide (o + count.toNat ≤ m.payloadLength.toNat) := by
  have hsum := h.sum
  have hbounded := h.bounded
  exact h.requireBytes_eq ho (by omega)

lemma octet_eq (ho : o < m.payloadLength.toNat) :
    (octets m)[o]? = some (m.frameBuffer (cursorAt m o).toNat) := by
  have hlength : o < (octets m).length := by rwa [octets, length_read]
  rw [List.getElem?_eq_getElem hlength, h.toNat_cursorAt ho.le]
  exact congrArg some (getElem_read _ _ _)

omit h in
lemma octet_none (ho : m.payloadLength.toNat ≤ o) : (octets m)[o]? = none :=
  List.getElem?_eq_none (by rwa [octets, length_read])

lemma readU16_eq (ho : o + 2 ≤ m.payloadLength.toNat) : readU16 (octets m) o = some (m.word (cursorAt m o)) := by
  have hx := h.toNat_cursorAt (o := o) (by omega)
  have hx' := h.toNat_cursorAt (o := o + 1) (by omega)
  unfold readU16
  rw [h.octet_eq (by omega), h.octet_eq (by omega), hx', ← Nat.add_assoc, ← hx]
  rfl

end Placed

/-! ### Names -/

lemma pointer_eq (first second : UInt8) : word first second &&& 0x3fff = word (first &&& 0x3f) second := by
  have hmask : (0x3fff : UInt16) = word 0x3f 0xff := by decide
  have hall : second &&& 0xff = second :=
    octet_forall (P := fun octet => octet &&& 0xff = octet) (by decide +kernel) second
  rw [hmask, word_and, hall]

lemma toNat_lt_of_plain {octet : UInt8} (h : octet &&& 0xc0 = 0) : octet.toNat < 64 :=
  octet_forall (P := fun octet => octet &&& 0xc0 = 0 → octet.toNat < 64) (by decide +kernel) octet h

/-- **One turn of the name**: both find a fault, both move over the same label, or both find the end. -/
lemma nameOctet_refines (h : Placed m) {o : ℕ} (ho : o ≤ m.payloadLength.toNat) :
    ((∃ e, skipName (octets m) o = .error e) ∧ m.nameOctet (cursorAt m o) = .malformed) ∨
    (∃ o', o < o' ∧ o' ≤ m.payloadLength.toNat ∧ skipName (octets m) o = skipName (octets m) o' ∧
      m.nameOctet (cursorAt m o) = .label (cursorAt m o')) ∨
    (∃ o', o < o' ∧ o' ≤ m.payloadLength.toNat ∧ skipName (octets m) o = .ok o' ∧
      m.nameOctet (cursorAt m o) = .done (cursorAt m o')) := by
  have hlength : (octets m).length = m.payloadLength.toNat := length_read _ _ _
  have hone : m.requireBytes (cursorAt m o) 1 = decide (o + 1 ≤ m.payloadLength.toNat) :=
    h.requireBytes_small ho (by decide)
  have htwo : m.requireBytes (cursorAt m o) 2 = decide (o + 2 ≤ m.payloadLength.toNat) :=
    h.requireBytes_small ho (by decide)
  unfold DnsMessage.nameOctet
  rw [hone, htwo]
  by_cases hin : o + 1 ≤ m.payloadLength.toNat
  swap
  · exact Or.inl ⟨⟨_, skipName_of_none (Placed.octet_none (by omega))⟩, by simp [hin]⟩
  have hoctet := h.octet_eq hin
  have hskip := skipName_of_some hoctet
  set octet := m.frameBuffer (cursorAt m o).toNat with hdef
  rw [decide_eq_true hin, if_neg (by decide)]
  dsimp only
  by_cases hzero : octet = 0
  · rw [if_pos hzero] at hskip ⊢
    exact Or.inr (Or.inr ⟨o + 1, by omega, hin, hskip, by rw [cursorAt_add]; rfl⟩)
  rw [if_neg hzero] at hskip ⊢
  by_cases hplain : octet &&& 0xc0 = 0
  · have hlt := toNat_lt_of_plain hplain
    have hsum : (octet.toUInt16 + 1).toNat = 1 + octet.toNat := by
      have hwide : octet.toUInt16.toNat = octet.toNat := UInt8.toNat_toUInt16 octet
      rw [toNat_add_of_lt (by rw [hwide]; change octet.toNat + 1 < _; omega), hwide]
      exact Nat.add_comm _ _
    have hlabel : m.requireBytes (cursorAt m o) (octet.toUInt16 + 1) =
        decide (o + (octet.toUInt16 + 1).toNat ≤ m.payloadLength.toNat) := h.requireBytes_small ho (by omega)
    have hshort : ¬ (octet &&& 0xc0 ≠ 0 ∨ maxLabelLength < octet.toNat) := by
      rintro (hbits | hlong)
      · exact hbits hplain
      · exact absurd hlong (Nat.not_lt.mpr (Nat.le_of_lt_succ hlt))
    rw [if_neg (by rw [hplain]; decide), if_neg hshort, hlength] at hskip
    rw [if_pos hplain, hlabel, hsum, cursorAt_add, hsum]
    by_cases hfits : o + (1 + octet.toNat) ≤ m.payloadLength.toNat
    · rw [if_neg (by omega)] at hskip
      rw [if_pos (by simpa using hfits)]
      exact Or.inr (Or.inl ⟨_, by omega, hfits, hskip, rfl⟩)
    · rw [if_pos (by omega)] at hskip
      rw [if_neg (by simpa using hfits)]
      exact Or.inl ⟨⟨_, hskip⟩, rfl⟩
  rw [if_neg hplain]
  by_cases hcompressed : octet &&& 0xc0 = 0xc0
  · rw [if_pos hcompressed] at hskip ⊢
    by_cases hfits : o + 2 ≤ m.payloadLength.toNat
    · have hword := pointer_eq octet (m.frameBuffer (cursorAt m (o + 1)).toNat)
      have hx : (cursorAt m (o + 1)).toNat = (cursorAt m o).toNat + 1 := by
        rw [h.toNat_cursorAt hin, h.toNat_cursorAt ho, Nat.add_assoc]
      have hread : m.word (cursorAt m o) &&& 0x3fff =
          word (octet &&& 0x3f) (m.frameBuffer (cursorAt m (o + 1)).toNat) := by
        rw [← hword, hx]
        rfl
      rw [h.octet_eq (o := o + 1) hfits, hlength] at hskip
      dsimp only at hskip
      rw [← hread] at hskip
      rw [decide_eq_true hfits, if_neg (by decide)]
      by_cases hpointer : m.payloadLength ≤ m.word (cursorAt m o) &&& 0x3fff
      · rw [if_pos (UInt16.le_iff_toNat_le.mp hpointer)] at hskip
        rw [if_pos hpointer]
        exact Or.inl ⟨⟨_, hskip⟩, rfl⟩
      · rw [if_neg (mt UInt16.le_iff_toNat_le.mpr hpointer)] at hskip
        rw [if_neg hpointer]
        exact Or.inr (Or.inr ⟨o + 2, by omega, hfits, hskip, by rw [cursorAt_add]; rfl⟩)
    · rw [Placed.octet_none (o := o + 1) (by omega)] at hskip
      rw [decide_eq_false hfits, if_pos (by decide)]
      exact Or.inl ⟨⟨_, hskip⟩, rfl⟩
  · rw [if_neg hcompressed] at hskip ⊢
    rw [if_pos (Or.inl hplain)] at hskip
    exact Or.inl ⟨⟨_, hskip⟩, rfl⟩

/-! ### The walk -/

variable (m) in
/-- The turn at a cursor moves it forward and not past the end, and rejects a record that does not fit. -/
structure Good (c : Cursor) : Prop where
  forward : ∀ c', m.next m.answerCount c = .ok c' → position c < position c' ∧ position c' ≤ m.packetEnd
  record : ∀ x remaining, c = .answer x remaining → m.packetEnd.toNat < x.toNat + 10 + (m.word (x + 8)).toNat →
    m.next m.answerCount c = .error (.failed .truncated)

variable (m) in
/-- Good turns lead from a cursor to another. -/
def Advances : Cursor → Cursor → Prop :=
  Relation.ReflTransGen fun c c' => Good m c ∧ m.next m.answerCount c = .ok c'

variable (m) in
/-- Good turns lead from a cursor to a verdict. -/
def Ends (c : Cursor) (verdict : Verdict) : Prop :=
  ∃ d, Advances m c d ∧ Good m d ∧ m.next m.answerCount d = .error verdict

lemma Advances.ends {c d : Cursor} {verdict : Verdict} (h : Advances m c d) (h' : Ends m d verdict) :
    Ends m c verdict := by
  obtain ⟨e, hadvances, hgood, hend⟩ := h'
  exact ⟨e, h.trans hadvances, hgood, hend⟩

lemma Ends.of_error {c : Cursor} {verdict : Verdict} (hgood : Good m c)
    (h : m.next m.answerCount c = .error verdict) : Ends m c verdict := ⟨c, .refl, hgood, h⟩

lemma Placed.cursorAt_lt (h : Placed m) {o o' : ℕ} (hlt : o < o') (hle : o' ≤ m.payloadLength.toNat) :
    cursorAt m o < cursorAt m o' := by
  rw [UInt16.lt_iff_toNat_lt, h.toNat_cursorAt (by omega), h.toNat_cursorAt hle]
  omega

lemma Placed.cursorAt_le (h : Placed m) {o : ℕ} (hle : o ≤ m.payloadLength.toNat) : cursorAt m o ≤ m.packetEnd := by
  rw [UInt16.le_iff_toNat_le, h.toNat_cursorAt hle, h.sum]
  omega

/-- The cursor behind a name. -/
def behindName (answers : Bool) (x remaining : UInt16) : Cursor :=
  if answers then .answer x remaining else .question x remaining

/-- Names are skipped alike. -/
lemma name_advances (h : Placed m) (answers : Bool) (remaining : UInt16) {o : ℕ} (ho : o ≤ m.payloadLength.toNat) :
    ((∃ e, skipName (octets m) o = .error e) ∧
      Ends m (.name answers (cursorAt m o) remaining) (.failed .malformedName)) ∨
    (∃ o', o < o' ∧ o' ≤ m.payloadLength.toNat ∧ skipName (octets m) o = .ok o' ∧
      Advances m (.name answers (cursorAt m o) remaining) (behindName answers (cursorAt m o') remaining)) := by
  -- On the octets that are left: each label of the name leaves fewer.
  induction hleft : m.payloadLength.toNat - o using Nat.strong_induction_on generalizing o with
  | _ left ih =>
    rcases nameOctet_refines h ho with ⟨herror, hturn⟩ | ⟨o', hlt, hle, hskip, hturn⟩ | ⟨o', hlt, hle, hskip, hturn⟩
    · have hnext : m.next m.answerCount (.name answers (cursorAt m o) remaining) =
          .error (.failed .malformedName) := by
        simp only [DnsMessage.next, hturn]
      exact Or.inl ⟨herror, Ends.of_error ⟨fun c' hc' => absurd (hnext.symm.trans hc') nofun, nofun⟩ hnext⟩
    · have hnext : m.next m.answerCount (.name answers (cursorAt m o) remaining) =
          .ok (.name answers (cursorAt m o') remaining) := by
        simp only [DnsMessage.next, hturn]
      have hgood : Good m (.name answers (cursorAt m o) remaining) := by
        refine ⟨fun c' hc' => ?_, nofun⟩
        obtain rfl := Except.ok.inj (hnext.symm.trans hc')
        exact ⟨h.cursorAt_lt hlt hle, h.cursorAt_le hle⟩
      have hstep : Advances m (.name answers (cursorAt m o) remaining) (.name answers (cursorAt m o') remaining) :=
        .single ⟨hgood, hnext⟩
      rcases ih _ (by omega) hle rfl with ⟨herror, hends⟩ | ⟨o'', hlt', hle', hskip', hadvances⟩
      · exact Or.inl ⟨by rwa [hskip], hstep.ends hends⟩
      · exact Or.inr ⟨o'', by omega, hle', hskip.trans hskip', hstep.trans hadvances⟩
    · have hnext : m.next m.answerCount (.name answers (cursorAt m o) remaining) =
          .ok (behindName answers (cursorAt m o') remaining) := by
        simp only [DnsMessage.next, hturn, behindName]
      have hgood : Good m (.name answers (cursorAt m o) remaining) := by
        refine ⟨fun c' hc' => ?_, nofun⟩
        obtain rfl := Except.ok.inj (hnext.symm.trans hc')
        have hposition : position (behindName answers (cursorAt m o') remaining) = cursorAt m o' := by
          cases answers <;> rfl
        rw [hposition]
        exact ⟨h.cursorAt_lt hlt hle, h.cursorAt_le hle⟩
      exact Or.inr ⟨o', hlt, hle, hskip, .single ⟨hgood, hnext⟩⟩

/-- A question behind its name. -/
lemma question_turn (h : Placed m) {o : ℕ} (ho : o ≤ m.payloadLength.toNat) (remaining : UInt16) :
    m.next m.answerCount (.question (cursorAt m o) remaining) =
      if o + 4 ≤ m.payloadLength.toNat then
        .ok (if remaining - 1 = 0 then .name true (cursorAt m (o + 4)) m.answerCount
          else .name false (cursorAt m (o + 4)) (remaining - 1))
      else .error (.failed .truncated) := by
  have hfour : m.requireBytes (cursorAt m o) 4 = decide (o + 4 ≤ m.payloadLength.toNat) :=
    h.requireBytes_small ho (by decide)
  have hadd : cursorAt m o + 4 = cursorAt m (o + 4) := cursorAt_add o 4
  unfold DnsMessage.next
  dsimp only
  rw [hfour, hadd]
  by_cases hfits : o + 4 ≤ m.payloadLength.toNat
  · rw [if_pos hfits, decide_eq_true hfits, if_neg (by decide)]
    split <;> rfl
  · rw [if_neg hfits, decide_eq_false hfits, if_pos (by decide)]

lemma good_question (h : Placed m) {o : ℕ} (ho : o ≤ m.payloadLength.toNat) (remaining : UInt16) :
    Good m (.question (cursorAt m o) remaining) := by
  refine ⟨fun c' hc' => ?_, nofun⟩
  rw [question_turn h ho] at hc'
  split at hc'
  · rename_i hfits
    have hposition : position c' = cursorAt m (o + 4) := by
      rw [← Except.ok.inj hc']
      split <;> rfl
    rw [hposition]
    exact ⟨h.cursorAt_lt (by omega) hfits, h.cursorAt_le hfits⟩
  · cases hc'

lemma ofNat_succ_sub_one (n : ℕ) : UInt16.ofNat (n + 1) - 1 = UInt16.ofNat n := by
  apply UInt16.toNat_inj.mp
  simp only [UInt16.toNat_sub, UInt16.toNat_ofNat', UInt16.toNat_one]
  omega

lemma ofNat_ne_zero {n : ℕ} (hpos : 0 < n) (hlt : n < 2 ^ 16) : UInt16.ofNat n ≠ 0 := by
  intro heq
  have hzero := congrArg UInt16.toNat heq
  rw [UInt16.toNat_ofNat'] at hzero
  change n % 2 ^ 16 = 0 at hzero
  omega

/-- The questions are skipped alike. -/
lemma questions_advances (h : Placed m) {count : ℕ} (hcount : count + 1 < 2 ^ 16) {o : ℕ}
    (ho : o ≤ m.payloadLength.toNat) :
    ((∃ e, skipQuestions (octets m) (count + 1) o = .error e) ∧
      ∃ e, Ends m (.name false (cursorAt m o) (UInt16.ofNat (count + 1))) (.failed e)) ∨
    (∃ q, q ≤ m.payloadLength.toNat ∧ skipQuestions (octets m) (count + 1) o = .ok q ∧
      Advances m (.name false (cursorAt m o) (UInt16.ofNat (count + 1))) (.name true (cursorAt m q) m.answerCount)) := by
  have hlength : (octets m).length = m.payloadLength.toNat := length_read _ _ _
  induction count generalizing o with
  | zero =>
    rcases name_advances h false (UInt16.ofNat 1) ho with ⟨⟨e, herror⟩, hends⟩ | ⟨o', hlt, hle, hskip, hadvances⟩
    · exact Or.inl ⟨⟨e, by rw [skipQuestions, herror]⟩, _, hends⟩
    · have hturn := question_turn h hle (UInt16.ofNat 1)
      have hgood := good_question h hle (UInt16.ofNat 1)
      rw [skipQuestions, hskip, hlength]
      by_cases hfits : o' + 4 ≤ m.payloadLength.toNat
      · rw [if_pos hfits, if_pos (by decide)] at hturn
        exact Or.inr ⟨o' + 4, hfits, if_neg (by omega), hadvances.trans (.single ⟨hgood, hturn⟩)⟩
      · rw [if_neg hfits] at hturn
        exact Or.inl ⟨⟨_, if_pos (by omega)⟩, _, hadvances.ends (Ends.of_error hgood hturn)⟩
  | succ count ih =>
    rcases name_advances h false (UInt16.ofNat (count + 1 + 1)) ho with
      ⟨⟨e, herror⟩, hends⟩ | ⟨o', hlt, hle, hskip, hadvances⟩
    · exact Or.inl ⟨⟨e, by rw [skipQuestions, herror]⟩, _, hends⟩
    · have hturn := question_turn h hle (UInt16.ofNat (count + 1 + 1))
      have hgood := good_question h hle (UInt16.ofNat (count + 1 + 1))
      rw [skipQuestions, hskip, hlength]
      by_cases hfits : o' + 4 ≤ m.payloadLength.toNat
      · rw [if_pos hfits, ofNat_succ_sub_one, if_neg (ofNat_ne_zero (by omega) (by omega))] at hturn
        have hstep := hadvances.trans (.single ⟨hgood, hturn⟩)
        dsimp only
        rw [if_neg (by omega)]
        rcases ih (by omega) hfits with ⟨herror, e, hends⟩ | ⟨q, hq, hok, hrest⟩
        · exact Or.inl ⟨herror, e, Advances.ends hstep hends⟩
        · exact Or.inr ⟨q, hq, hok, hstep.trans hrest⟩
      · rw [if_neg hfits] at hturn
        exact Or.inl ⟨⟨_, if_pos (by omega)⟩, _, hadvances.ends (Ends.of_error hgood hturn)⟩

/-! ### The answers -/

/-- The data length of the record at an offset. -/
def dataLengthAt (m : DnsMessage) (o : ℕ) : UInt16 := m.word (cursorAt m (o + 8))

/-- The record at an offset is an address of the Internet. -/
def IsAddress (m : DnsMessage) (o : ℕ) : Prop :=
  m.word (cursorAt m o) = 1 ∧ m.word (cursorAt m (o + 2)) = 1 ∧ dataLengthAt m o = 4

instance (o : ℕ) : Decidable (IsAddress m o) := inferInstanceAs (Decidable (_ ∧ _ ∧ _))

/-- The data of the record at an offset does not reach past the address space. -/
def Unwrapped (m : DnsMessage) (o : ℕ) : Prop := m.offset.toNat + o + 10 + (dataLengthAt m o).toNat < 2 ^ 16

/-- An answer behind its name. -/
lemma answer_turn (h : Placed m) {o : ℕ} (ho : o ≤ m.payloadLength.toNat) (remaining : UInt16) :
    m.next m.answerCount (.answer (cursorAt m o) remaining) =
      if o + 10 ≤ m.payloadLength.toNat then
        if !m.requireBytes (cursorAt m (o + 10)) (dataLengthAt m o) then .error (.failed .truncated)
        else if IsAddress m o then .error (.accepted (readAddress m.frameBuffer (m.offset.toNat + (o + 10))))
        else if remaining - 1 = 0 then .error (.failed .noIpv4Answer)
        else .ok (.name true (cursorAt m (o + 10) + dataLengthAt m o) (remaining - 1))
      else .error (.failed .truncated) := by
  have hten : m.requireBytes (cursorAt m o) 10 = decide (o + 10 ≤ m.payloadLength.toNat) :=
    h.requireBytes_small ho (by decide)
  have htwo : cursorAt m o + 2 = cursorAt m (o + 2) := cursorAt_add o 2
  have height : cursorAt m o + 8 = cursorAt m (o + 8) := cursorAt_add o 8
  have hdata : cursorAt m o + 10 = cursorAt m (o + 10) := cursorAt_add o 10
  unfold DnsMessage.next
  dsimp only
  rw [hten, htwo, height, hdata]
  by_cases hfits : o + 10 ≤ m.payloadLength.toNat
  · rw [if_pos hfits, decide_eq_true hfits, if_neg (by decide), h.toNat_cursorAt hfits]
    rfl
  · rw [if_neg hfits, decide_eq_false hfits, if_pos (by decide)]

lemma requireBytes_of_unwrapped (h : Placed m) {o : ℕ} (hfits : o + 10 ≤ m.payloadLength.toNat) (hunwrapped : Unwrapped m o) :
    m.requireBytes (cursorAt m (o + 10)) (dataLengthAt m o) =
      decide (o + 10 + (dataLengthAt m o).toNat ≤ m.payloadLength.toNat) :=
  h.requireBytes_eq hfits (by unfold Unwrapped at hunwrapped; omega)

/-- A record that reaches past the address space is let through. -/
lemma requireBytes_of_wrapped (h : Placed m) {o : ℕ} (hfits : o + 10 ≤ m.payloadLength.toNat)
    (hwrapped : ¬ Unwrapped m o) : m.requireBytes (cursorAt m (o + 10)) (dataLengthAt m o) = true := by
  have hx := h.toNat_cursorAt hfits
  have hsum := h.sum
  have hbounded := h.bounded
  have hlt := (dataLengthAt m o).toNat_lt
  unfold Unwrapped at hwrapped
  unfold DnsMessage.requireBytes
  rw [decide_eq_true_eq, UInt16.le_iff_toNat_le, UInt16.toNat_add]
  omega

lemma good_answer (h : Placed m) {o : ℕ} (ho : o ≤ m.payloadLength.toNat) (remaining : UInt16)
    (hunwrapped : o + 10 ≤ m.payloadLength.toNat → Unwrapped m o) : Good m (.answer (cursorAt m o) remaining) := by
  have hturn := answer_turn h ho remaining
  have hsum := h.sum
  constructor
  · intro c' hc'
    rw [hturn] at hc'
    by_cases hfits : o + 10 ≤ m.payloadLength.toNat
    · rw [if_pos hfits, requireBytes_of_unwrapped h hfits (hunwrapped hfits)] at hc'
      by_cases hdata : o + 10 + (dataLengthAt m o).toNat ≤ m.payloadLength.toNat
      · rw [decide_eq_true hdata, if_neg (by decide), cursorAt_add] at hc'
        split at hc'
        · cases hc'
        split at hc'
        · cases hc'
        · rw [← Except.ok.inj hc']
          exact ⟨h.cursorAt_lt (by omega) hdata, h.cursorAt_le hdata⟩
      · rw [decide_eq_false hdata, if_pos (by decide)] at hc'
        cases hc'
    · rw [if_neg hfits] at hc'
      cases hc'
  · rintro x remaining' hc hlong
    obtain ⟨rfl, rfl⟩ := Cursor.answer.inj hc
    rw [hturn]
    by_cases hfits : o + 10 ≤ m.payloadLength.toNat
    · have height : cursorAt m o + 8 = cursorAt m (o + 8) := cursorAt_add o 8
      rw [height, h.toNat_cursorAt ho] at hlong
      change _ < _ + (dataLengthAt m o).toNat at hlong
      rw [if_pos hfits, requireBytes_of_unwrapped h hfits (hunwrapped hfits), decide_eq_false (by omega)]
      rfl
    · rw [if_neg hfits]

/-- The records that a reader of the answers comes to, up to the one that it takes or that does not fit: the offsets
behind their names. -/
def answerRecords (bytes : List UInt8) : ℕ → ℕ → List ℕ
  | 0, _ => []
  | count + 1, offset =>
    match skipName bytes offset with
    | .error _ => []
    | .ok offset =>
      match readU16 bytes offset, readU16 bytes (offset + 2), readU16 bytes (offset + 8) with
      | some recordType, some recordClass, some dataLength =>
        if offset + 10 + dataLength.toNat ≤ bytes.length ∧
            ¬ (recordType = typeA ∧ recordClass = classIn ∧ dataLength = 4) then
          offset :: answerRecords bytes count (offset + 10 + dataLength.toNat)
        else [offset]
      | _, _, _ => []

section Record

variable (h : Placed m) {o o' count : ℕ} (hskip : skipName (octets m) o = .ok o')

include hskip

lemma findAnswer_short (hshort : m.payloadLength.toNat < o' + 10) (code : UInt8) (total : UInt16) :
    findAnswer (octets m) code total (count + 1) o = some (.error .truncated) := by
  have hlength : (octets m).length = m.payloadLength.toNat := length_read _ _ _
  rw [findAnswer, hskip]
  exact if_pos (by omega)

include h

lemma findAnswer_record (hfits : o' + 10 ≤ m.payloadLength.toNat) (code : UInt8) (total : UInt16) :
    findAnswer (octets m) code total (count + 1) o =
      if m.payloadLength.toNat < o' + 10 + (dataLengthAt m o').toNat then some (.error .truncated)
      else if IsAddress m o' then
        some (.ok ⟨code, total, (readAddress m.frameBuffer (m.offset.toNat + (o' + 10))).octets⟩)
      else findAnswer (octets m) code total count (o' + 10 + (dataLengthAt m o').toNat) := by
  have hlength : (octets m).length = m.payloadLength.toNat := length_read _ _ _
  rw [findAnswer, hskip]
  dsimp only
  rw [if_neg (by omega), h.readU16_eq (by omega), h.readU16_eq (by omega), h.readU16_eq (by omega)]
  simp only [Option.bind_eq_bind, Option.bind_some, hlength]
  have hfound : (m.word (cursorAt m o') = typeA ∧ m.word (cursorAt m (o' + 2)) = classIn ∧
      m.word (cursorAt m (o' + 8)) = 4) ↔ IsAddress m o' := Iff.rfl
  by_cases hdata : o' + 10 + (dataLengthAt m o').toNat ≤ m.payloadLength.toNat
  · have hdata' : ¬ m.payloadLength.toNat - (o' + 10) < (m.word (cursorAt m (o' + 8))).toNat := by
      unfold dataLengthAt at hdata
      omega
    rw [if_neg hdata', if_neg (Nat.not_lt.mpr hdata)]
    by_cases haddress : IsAddress m o'
    · have hfour : (dataLengthAt m o').toNat = 4 := congrArg UInt16.toNat haddress.2.2
      rw [if_pos (hfound.mpr haddress), if_pos haddress, h.octet_eq (by omega), h.octet_eq (by omega), h.octet_eq (by omega),
        h.octet_eq (by omega), h.toNat_cursorAt (by omega), h.toNat_cursorAt (by omega), h.toNat_cursorAt (by omega),
        h.toNat_cursorAt (by omega)]
      rfl
    · rw [if_neg (mt hfound.mp haddress), if_neg haddress]
      rfl
  · have hdata' : m.payloadLength.toNat - (o' + 10) < (m.word (cursorAt m (o' + 8))).toNat := by
      unfold dataLengthAt at hdata
      omega
    rw [if_pos hdata', if_pos (Nat.not_le.mp hdata)]

lemma answerRecords_record (hfits : o' + 10 ≤ m.payloadLength.toNat) :
    answerRecords (octets m) (count + 1) o =
      if o' + 10 + (dataLengthAt m o').toNat ≤ m.payloadLength.toNat ∧ ¬ IsAddress m o' then
        o' :: answerRecords (octets m) count (o' + 10 + (dataLengthAt m o').toNat)
      else [o'] := by
  have hlength : (octets m).length = m.payloadLength.toNat := length_read _ _ _
  rw [answerRecords, hskip]
  dsimp only
  rw [h.readU16_eq (by omega), h.readU16_eq (by omega), h.readU16_eq (by omega), hlength]
  rfl

end Record

/-- What the record behind a name comes to on both sides, unless it wraps. -/
lemma record_end (h : Placed m) (code : UInt8) (total : UInt16) {count : ℕ} (hcount : count + 1 < 2 ^ 16) {o o' : ℕ}
    (ho' : o' ≤ m.payloadLength.toNat) (hskip : skipName (octets m) o = .ok o')
    (hunwrapped : o' + 10 ≤ m.payloadLength.toNat → Unwrapped m o') :
    ((∃ e, findAnswer (octets m) code total (count + 1) o = some (.error e)) ∧
      ∃ e, Ends m (.answer (cursorAt m o') (UInt16.ofNat (count + 1))) (.failed e)) ∨
    (∃ address, findAnswer (octets m) code total (count + 1) o = some (.ok ⟨code, total, address.octets⟩) ∧
      Ends m (.answer (cursorAt m o') (UInt16.ofNat (count + 1))) (.accepted address)) ∨
    (∃ o'', o'' ≤ m.payloadLength.toNat ∧ 0 < count ∧
      findAnswer (octets m) code total (count + 1) o = findAnswer (octets m) code total count o'' ∧
      answerRecords (octets m) (count + 1) o = o' :: answerRecords (octets m) count o'' ∧
      Advances m (.answer (cursorAt m o') (UInt16.ofNat (count + 1)))
        (.name true (cursorAt m o'') (UInt16.ofNat count))) := by
  have hgood := good_answer h ho' (UInt16.ofNat (count + 1)) hunwrapped
  have hturn := answer_turn h ho' (UInt16.ofNat (count + 1))
  by_cases hfits : o' + 10 ≤ m.payloadLength.toNat
  swap
  · rw [if_neg hfits] at hturn
    exact Or.inl ⟨⟨_, findAnswer_short hskip (by omega) code total⟩, _, Ends.of_error hgood hturn⟩
  have hfind : findAnswer (octets m) code total (count + 1) o = _ := findAnswer_record h hskip hfits code total
  have hrecords : answerRecords (octets m) (count + 1) o = _ := answerRecords_record h hskip hfits
  rw [if_pos hfits, requireBytes_of_unwrapped h hfits (hunwrapped hfits), ofNat_succ_sub_one] at hturn
  by_cases hdata : o' + 10 + (dataLengthAt m o').toNat ≤ m.payloadLength.toNat
  swap
  · rw [decide_eq_false hdata, if_pos (by decide)] at hturn
    rw [if_pos (by omega)] at hfind
    exact Or.inl ⟨⟨_, hfind⟩, _, Ends.of_error hgood hturn⟩
  rw [decide_eq_true hdata, if_neg (by decide)] at hturn
  rw [if_neg (by omega)] at hfind
  by_cases haddress : IsAddress m o'
  · rw [if_pos haddress] at hturn hfind
    exact Or.inr (Or.inl ⟨_, hfind, Ends.of_error hgood hturn⟩)
  rw [if_neg haddress] at hturn hfind
  cases count with
  | zero =>
    rw [if_pos (by decide)] at hturn
    exact Or.inl ⟨⟨_, hfind⟩, _, Ends.of_error hgood hturn⟩
  | succ count =>
    rw [if_neg (ofNat_ne_zero (by omega) (by omega)), cursorAt_add] at hturn
    rw [if_pos ⟨hdata, haddress⟩] at hrecords
    exact Or.inr (Or.inr ⟨_, hdata, Nat.succ_pos _, hfind, hrecords, .single ⟨hgood, hturn⟩⟩)

lemma mem_answerRecords_self (h : Placed m) {count o o' : ℕ} (hskip : skipName (octets m) o = .ok o')
    (hfits : o' + 10 ≤ m.payloadLength.toNat) : o' ∈ answerRecords (octets m) (count + 1) o := by
  rw [answerRecords_record h hskip hfits]
  split
  · exact List.mem_cons_self
  · exact List.mem_singleton_self _

/-- **The answers that do not wrap are read alike.** -/
lemma answers_end (h : Placed m) (code : UInt8) (total : UInt16) {count : ℕ} (hpositive : 0 < count)
    (hcount : count < 2 ^ 16) {o : ℕ} (ho : o ≤ m.payloadLength.toNat)
    (hunwrapped : ∀ r ∈ answerRecords (octets m) count o, Unwrapped m r) :
    ((∃ e, findAnswer (octets m) code total count o = some (.error e)) ∧
      ∃ e, Ends m (.name true (cursorAt m o) (UInt16.ofNat count)) (.failed e)) ∨
    (∃ address, findAnswer (octets m) code total count o = some (.ok ⟨code, total, address.octets⟩) ∧
      Ends m (.name true (cursorAt m o) (UInt16.ofNat count)) (.accepted address)) := by
  induction count generalizing o with
  | zero => omega
  | succ count ih =>
    rcases name_advances h true (UInt16.ofNat (count + 1)) ho with
      ⟨⟨e, herror⟩, hends⟩ | ⟨o', hlt, hle, hskip, hadvances⟩
    · exact Or.inl ⟨⟨e, by rw [findAnswer, herror]⟩, _, hends⟩
    rcases record_end h code total hcount hle hskip
      (fun hfits => hunwrapped o' (mem_answerRecords_self h hskip hfits)) with
      ⟨herror, e, hends⟩ | ⟨address, hok, hends⟩ | ⟨o'', hle', hpositive', hfind, hrecords, hstep⟩
    · exact Or.inl ⟨herror, e, hadvances.ends hends⟩
    · exact Or.inr ⟨address, hok, hadvances.ends hends⟩
    rw [hrecords] at hunwrapped
    have hrest := ih hpositive' (by omega) hle' fun r hr => hunwrapped r (List.mem_cons_of_mem _ hr)
    rw [hfind]
    rcases hrest with ⟨herror, e, hends⟩ | ⟨address, hok, hends⟩
    · exact Or.inl ⟨herror, e, hadvances.ends (hstep.ends hends)⟩
    · exact Or.inr ⟨address, hok, hadvances.ends (hstep.ends hends)⟩

/-- **Every record of the message is come to**, as those before it fit. -/
lemma record_advances (h : Placed m) {count : ℕ} (hcount : count < 2 ^ 16) {o r : ℕ} (ho : o ≤ m.payloadLength.toNat)
    (hr : r ∈ answerRecords (octets m) count o) : r + 10 ≤ m.payloadLength.toNat ∧
      ∃ remaining, Advances m (.name true (cursorAt m o) (UInt16.ofNat count)) (.answer (cursorAt m r) remaining) := by
  induction count generalizing o with
  | zero => simp [answerRecords] at hr
  | succ count ih =>
    rcases name_advances h true (UInt16.ofNat (count + 1)) ho with
      ⟨⟨e, herror⟩, -⟩ | ⟨o', hlt, hle, hskip, hadvances⟩
    · simp [answerRecords, herror] at hr
    have hfits : o' + 10 ≤ m.payloadLength.toNat := by
      by_contra hshort
      have hlength : (octets m).length = m.payloadLength.toNat := length_read _ _ _
      have hread : readU16 (octets m) (o' + 8) = none := by
        unfold readU16
        rw [Placed.octet_none (o := o' + 8 + 1) (by omega)]
        cases (octets m)[o' + 8]? <;> rfl
      simp [answerRecords, hskip, hread] at hr
    rw [answerRecords_record h hskip hfits] at hr
    by_cases hrest : o' + 10 + (dataLengthAt m o').toNat ≤ m.payloadLength.toNat ∧ ¬ IsAddress m o'
    · rw [if_pos hrest, List.mem_cons] at hr
      rcases hr with rfl | hr
      · exact ⟨hfits, _, hadvances⟩
      have hunwrapped : Unwrapped m o' := by
        have hsum := h.sum
        have hbounded := h.bounded
        unfold Unwrapped
        omega
      have hturn := answer_turn h hle (UInt16.ofNat (count + 1))
      rw [if_pos hfits, requireBytes_of_unwrapped h hfits hunwrapped, decide_eq_true hrest.1, if_neg (by decide),
        if_neg hrest.2, ofNat_succ_sub_one, cursorAt_add] at hturn
      cases count with
      | zero => simp [answerRecords] at hr
      | succ count =>
        rw [if_neg (ofNat_ne_zero (by omega) (by omega))] at hturn
        have hstep : Advances m (.answer (cursorAt m o') (UInt16.ofNat (count + 1 + 1))) _ :=
          .single ⟨good_answer h hle _ fun _ => hunwrapped, hturn⟩
        obtain ⟨hfits', remaining, hrest'⟩ := ih (by omega) hrest.1 hr
        exact ⟨hfits', remaining, (hadvances.trans hstep).trans hrest'⟩
    · rw [if_neg hrest, List.mem_singleton] at hr
      subst hr
      exact ⟨hfits, _, hadvances⟩

/-! ### The end of a walk -/

lemma Ends.of_reached {c c' : Cursor} {verdict : Verdict}
    (hreached : Relation.ReflTransGen (fun c c' => m.next m.answerCount c = .ok c') c c') (h : Ends m c verdict) :
    Ends m c' verdict := by
  induction hreached using Relation.ReflTransGen.head_induction_on with
  | refl => exact h
  | head hnext _ ih =>
    apply ih
    obtain ⟨d, hadvances, hgood, hend⟩ := h
    rcases Relation.ReflTransGen.cases_head hadvances with rfl | ⟨b, ⟨-, hnext'⟩, hrest⟩
    · exact absurd (hend.symm.trans hnext) nofun
    · obtain rfl := Except.ok.inj (hnext.symm.trans hnext')
      exact ⟨d, hrest, hgood, hend⟩

lemma Ends.good {c : Cursor} {verdict : Verdict} (h : Ends m c verdict) : Good m c := by
  obtain ⟨d, hadvances, hgood, -⟩ := h
  rcases Relation.ReflTransGen.cases_head hadvances with rfl | ⟨b, ⟨hgood', -⟩, -⟩
  · exact hgood
  · exact hgood'

lemma Ends.walk_eq {c : Cursor} {verdict verdict' : Verdict} (h : Ends m c verdict) {fuel : ℕ}
    (hwalk : m.walk m.answerCount fuel c = some verdict') : verdict' = verdict := by
  induction fuel generalizing c with
  | zero => cases hwalk
  | succ fuel ih =>
    unfold DnsMessage.walk at hwalk
    cases hnext : m.next m.answerCount c with
    | error verdict'' =>
      rw [hnext] at hwalk
      obtain ⟨d, hadvances, -, hend⟩ := h
      rcases Relation.ReflTransGen.cases_head hadvances with rfl | ⟨b, ⟨-, hnext'⟩, -⟩
      · obtain rfl := Except.error.inj (hnext.symm.trans hend)
        exact (Option.some.inj hwalk).symm
      · exact absurd (hnext.symm.trans hnext') nofun
    | ok c' =>
      rw [hnext] at hwalk
      exact ih (h.of_reached (.single hnext)) hwalk

/-- The walk blames a name or a record, and no count. -/
lemma next_error_ne {total : UInt16} {c : Cursor} {e : DnsError} (h : m.next total c = .error (.failed e)) :
    e ≠ .noQuestion ∧ e ≠ .noAnswer := by
  unfold DnsMessage.next at h
  cases c with
  | name answers x remaining =>
    dsimp only at h
    split at h
    · obtain rfl := Verdict.failed.inj (Except.error.inj h)
      decide
    · cases h
    · cases h
  | question x remaining =>
    dsimp only at h
    split_ifs at h
    · obtain rfl := Verdict.failed.inj (Except.error.inj h)
      decide
  | answer x remaining =>
    dsimp only at h
    split_ifs at h
    · obtain rfl := Verdict.failed.inj (Except.error.inj h)
      decide
    · obtain rfl := Verdict.failed.inj (Except.error.inj h)
      decide
    · cases h
    · obtain rfl := Verdict.failed.inj (Except.error.inj h)
      decide

lemma Ends.error_ne {c : Cursor} {e : DnsError} (h : Ends m c (.failed e)) : e ≠ .noQuestion ∧ e ≠ .noAnswer := by
  obtain ⟨d, -, -, hend⟩ := h
  exact next_error_ne hend

/-! ### Every walk ends -/

/-- The records that are left, the questions before the answers. -/
def recordsLeft (total : UInt16) : Cursor → ℕ
  | .name false _ remaining => remaining.toNat + total.toNat
  | .question _ remaining => remaining.toNat + total.toNat
  | .name true _ remaining => remaining.toNat
  | .answer _ remaining => remaining.toNat

/-- The count of a cursor. -/
def remainingOf : Cursor → UInt16
  | .name _ _ remaining => remaining
  | .question _ remaining => remaining
  | .answer _ remaining => remaining

/-- A bound for the turns that are left. -/
def rank (m : DnsMessage) (c : Cursor) : ℕ :=
  (m.packetEnd.toNat + 1) * recordsLeft m.answerCount c + (m.packetEnd.toNat - (position c).toNat)

/-- What holds of every cursor of the walk, whatever the records say. -/
structure Within (m : DnsMessage) (c : Cursor) : Prop where
  position : position c ≤ m.packetEnd
  remaining : remainingOf c ≠ 0

lemma rank_of_forward {c c' : Cursor} (hsame : recordsLeft m.answerCount c' = recordsLeft m.answerCount c)
    (hlt : position c < position c') (hle : position c' ≤ m.packetEnd) : rank m c' < rank m c := by
  rw [UInt16.lt_iff_toNat_lt] at hlt
  rw [UInt16.le_iff_toNat_le] at hle
  unfold rank
  rw [hsame]
  omega

lemma rank_of_fewer {c c' : Cursor} (hfewer : recordsLeft m.answerCount c' < recordsLeft m.answerCount c) :
    rank m c' < rank m c := by
  have hmul : (m.packetEnd.toNat + 1) * (recordsLeft m.answerCount c' + 1) ≤
      (m.packetEnd.toNat + 1) * recordsLeft m.answerCount c := Nat.mul_le_mul_left _ hfewer
  rw [Nat.mul_succ] at hmul
  unfold rank
  omega

/-- A demand for a few octets that is met moves forward. -/
lemma forward_of_requireBytes (h : Placed m) {x count : UInt16} (hx : x ≤ m.packetEnd) (hpositive : 0 < count.toNat)
    (hcount : count.toNat ≤ 256) (hmet : m.requireBytes x count = true) :
    x < x + count ∧ x + count ≤ m.packetEnd := by
  have hbounded := h.bounded
  have hadd : (x + count).toNat = x.toNat + count.toNat := by
    rw [UInt16.le_iff_toNat_le] at hx
    exact toNat_add_of_lt (by omega)
  refine ⟨UInt16.lt_iff_toNat_lt.mpr (by omega), ?_⟩
  simpa [DnsMessage.requireBytes] using hmet

lemma nameOctet_forward (h : Placed m) {x : UInt16} (hx : x ≤ m.packetEnd) :
    (∀ x', m.nameOctet x = .label x' → x < x' ∧ x' ≤ m.packetEnd) ∧
      ∀ x', m.nameOctet x = .done x' → x < x' ∧ x' ≤ m.packetEnd := by
  unfold DnsMessage.nameOctet
  by_cases hone : m.requireBytes x 1 = true
  swap
  · rw [if_pos (by simpa using hone)]
    exact ⟨nofun, nofun⟩
  rw [if_neg (by simpa using hone)]
  extract_lets octet length
  by_cases hzero : octet = 0
  · rw [if_pos hzero]
    refine ⟨nofun, fun x' hx' => ?_⟩
    obtain rfl := NameTurn.done.inj hx'
    exact forward_of_requireBytes h hx (by decide) (by decide) hone
  rw [if_neg hzero]
  by_cases hplain : octet &&& 0xc0 = 0
  · rw [if_pos hplain]
    by_cases hfits : m.requireBytes x length = true
    · rw [if_pos hfits]
      refine ⟨fun x' hx' => ?_, nofun⟩
      obtain rfl := NameTurn.label.inj hx'
      have hlt := toNat_lt_of_plain hplain
      have hwide : octet.toUInt16.toNat = octet.toNat := UInt8.toNat_toUInt16 octet
      have hsum : length.toNat = octet.toNat + 1 := by
        have hadd := toNat_add_of_lt (a := octet.toUInt16) (b := 1) (by rw [hwide]; change octet.toNat + 1 < _; omega)
        rw [hwide] at hadd
        exact hadd
      exact forward_of_requireBytes h hx (by omega) (by omega) hfits
    · rw [if_neg hfits]
      exact ⟨nofun, nofun⟩
  rw [if_neg hplain]
  by_cases hcompressed : octet &&& 0xc0 = 0xc0
  swap
  · rw [if_neg hcompressed]
    exact ⟨nofun, nofun⟩
  rw [if_pos hcompressed]
  by_cases htwo : m.requireBytes x 2 = true
  swap
  · rw [if_pos (by simpa using htwo)]
    exact ⟨nofun, nofun⟩
  rw [if_neg (by simpa using htwo)]
  split
  · exact ⟨nofun, nofun⟩
  · refine ⟨nofun, fun x' hx' => ?_⟩
    obtain rfl := NameTurn.done.inj hx'
    exact forward_of_requireBytes h hx (by decide) (by decide) htwo

lemma toNat_sub_one {remaining : UInt16} (h : remaining ≠ 0) : (remaining - 1).toNat + 1 = remaining.toNat := by
  have hpositive := word_pos h
  have hlt := remaining.toNat_lt
  simp only [UInt16.toNat_sub, UInt16.toNat_one]
  omega

/-- A turn moves forward, or has one record less before it. -/
lemma next_rank (h : Placed m) (htotal : m.answerCount ≠ 0) {c c' : Cursor} (hc : Within m c)
    (hnext : m.next m.answerCount c = .ok c') : Within m c' ∧ rank m c' < rank m c := by
  obtain ⟨hposition, hremaining⟩ := hc
  cases c with
  | name answers x remaining =>
    obtain ⟨hlabel, hdone⟩ := nameOctet_forward h hposition
    unfold DnsMessage.next at hnext
    dsimp only at hnext
    split at hnext
    · cases hnext
    · rename_i x' hturn
      obtain rfl := Except.ok.inj hnext
      obtain ⟨hlt, hle⟩ := hlabel x' hturn
      refine ⟨⟨hle, hremaining⟩, rank_of_forward ?_ hlt hle⟩
      cases answers <;> rfl
    · rename_i x' hturn
      obtain rfl := Except.ok.inj hnext
      obtain ⟨hlt, hle⟩ := hdone x' hturn
      cases answers with
      | false => exact ⟨⟨hle, hremaining⟩, rank_of_forward rfl hlt hle⟩
      | true => exact ⟨⟨hle, hremaining⟩, rank_of_forward rfl hlt hle⟩
  | question x remaining =>
    have hfewer : (remaining - 1).toNat + 1 = remaining.toNat := toNat_sub_one hremaining
    unfold DnsMessage.next at hnext
    dsimp only at hnext
    by_cases hfour : m.requireBytes x 4 = true
    · rw [if_neg (by simpa using hfour)] at hnext
      obtain ⟨hlt, hle⟩ := forward_of_requireBytes h hposition (by decide) (by decide) hfour
      split at hnext
      · rename_i hlast
        obtain rfl := Except.ok.inj hnext
        refine ⟨⟨hle, htotal⟩, rank_of_fewer ?_⟩
        change m.answerCount.toNat < remaining.toNat + m.answerCount.toNat
        omega
      · rename_i hmore
        obtain rfl := Except.ok.inj hnext
        refine ⟨⟨hle, hmore⟩, rank_of_fewer ?_⟩
        change (remaining - 1).toNat + m.answerCount.toNat < remaining.toNat + m.answerCount.toNat
        omega
    · rw [if_pos (by simpa using hfour)] at hnext
      cases hnext
  | answer x remaining =>
    have hfewer : (remaining - 1).toNat + 1 = remaining.toNat := toNat_sub_one hremaining
    unfold DnsMessage.next at hnext
    dsimp only at hnext
    split at hnext
    · cases hnext
    split at hnext
    · cases hnext
    rename_i hdata
    split at hnext
    · cases hnext
    split at hnext
    · cases hnext
    · rename_i hmore
      obtain rfl := Except.ok.inj hnext
      refine ⟨⟨?_, hmore⟩, rank_of_fewer ?_⟩
      · simpa [DnsMessage.requireBytes, position] using hdata
      · change (remaining - 1).toNat < remaining.toNat
        omega

/-- **The walk ends**, whatever the records say. -/
lemma walk_ends (h : Placed m) (htotal : m.answerCount ≠ 0) {c : Cursor} (hc : Within m c) {fuel : ℕ}
    (hfuel : rank m c < fuel) : ∃ verdict, m.walk m.answerCount fuel c = some verdict := by
  induction fuel generalizing c with
  | zero => omega
  | succ fuel ih =>
    unfold DnsMessage.walk
    cases hnext : m.next m.answerCount c with
    | error verdict => exact ⟨verdict, rfl⟩
    | ok c' =>
      obtain ⟨hc', hrank⟩ := next_rank h htotal hc hnext
      exact ih hc' (by omega)

end Message

end SnesModem.Asm.DnsWalk
