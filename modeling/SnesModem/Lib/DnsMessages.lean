import SnesModem.Lib.BigEndian
import SnesModem.Lib.DomainNames
import SnesModem.Lib.Octets

/-!
# DNS messages

The grammar of a message: a header with the number of entries of each section, then the sections, questions first.

* `Name`: labels of 1 to 63 octets of any value, then the zero octet or a pointer to where the name goes on;
* `Question`, `Record`: an entry of a section; the data of a record is opaque;
* `Content`: the entries of the four sections, with the string that has them (`Content.wire`);
* `Message`: a content whose pointers stay within its string;
* `readQuestion`: the reader of a question whose name is not compressed.
-/

namespace SnesModem.Lib.DnsMessages

open SnesModem.Lib.Octets SnesModem.Lib.DomainNames

/-- The octets of a word, in network order. -/
def wireWord (value : UInt16) : List UInt8 := [high value, low value]

/-- Behind the labels: the zero octet, or the pointer, whose first octet has its two high bits set. -/
def ending (pointer : Option ℕ) : List UInt8 :=
  pointer.elim [0] fun target => [UInt8.ofNat (0xc0 + target / 256), UInt8.ofNat target]

structure Name where
  labels : List (List UInt8)
  pointer : Option ℕ
  isLabel : ∀ label ∈ labels, label ≠ [] ∧ label.length ≤ maximumLabel
  pointer_lt : ∀ target ∈ pointer, target < 2 ^ 14

def Name.wire (n : Name) : List UInt8 := wireLabels n.labels ++ ending n.pointer

structure Question where
  name : Name
  questionType : UInt16
  questionClass : UInt16

def Question.wire (q : Question) : List UInt8 := q.name.wire ++ (wireWord q.questionType ++ wireWord q.questionClass)

structure Record where
  name : Name
  recordType : UInt16
  recordClass : UInt16
  timeToLive : UInt32
  data : List UInt8
  fits : data.length < 2 ^ 16

/-- What stands between the name and the data of a record. -/
def Record.fields (r : Record) : List UInt8 :=
  wireWord r.recordType ++ wireWord r.recordClass ++ BigEndian.octets 4 r.timeToLive.toNat ++
    wireWord (UInt16.ofNat r.data.length)

def Record.wire (r : Record) : List UInt8 := r.name.wire ++ (r.fields ++ r.data)

/-- An address of four octets. -/
def Record.isAddress (r : Record) : Bool := r.recordType = 1 && r.recordClass = 1 && r.data.length = 4

structure Content where
  identifier : UInt16
  flags : UInt16
  questions : List Question
  answers : List Record
  authorities : List Record
  additionals : List Record
  questions_lt : questions.length < 2 ^ 16
  answers_lt : answers.length < 2 ^ 16
  authorities_lt : authorities.length < 2 ^ 16
  additionals_lt : additionals.length < 2 ^ 16

namespace Content

variable (c : Content)

def header : List UInt8 :=
  wireWord c.identifier ++ wireWord c.flags ++ wireWord (UInt16.ofNat c.questions.length) ++
    wireWord (UInt16.ofNat c.answers.length) ++ wireWord (UInt16.ofNat c.authorities.length) ++
    wireWord (UInt16.ofNat c.additionals.length)

/-- The records of the sections behind the answers. -/
def behind : List UInt8 := c.authorities.flatMap Record.wire ++ c.additionals.flatMap Record.wire

def wire : List UInt8 :=
  c.header ++ (c.questions.flatMap Question.wire ++ (c.answers.flatMap Record.wire ++ c.behind))

def names : List Name :=
  c.questions.map Question.name ++ (c.answers ++ c.authorities ++ c.additionals).map Record.name

/-! ### The flags -/

def isResponse : Bool := c.flags &&& 0x8000 ≠ 0

def isTruncated : Bool := c.flags &&& 0x0200 ≠ 0

def opcode : UInt16 := (c.flags &&& 0x7800) >>> 11

def responseCode : UInt16 := c.flags &&& 0x000f

end Content

structure Message extends Content where
  pointer_lt : ∀ name ∈ toContent.names, ∀ target ∈ name.pointer, target < toContent.wire.length

lemma Message.pointer_question (m : Message) {question : Question} (h : question ∈ m.questions) :
    ∀ target ∈ question.name.pointer, target < m.wire.length := by
  refine m.pointer_lt _ (List.mem_append_left _ ?_)
  exact List.mem_map_of_mem h

lemma Message.pointer_answer (m : Message) {answer : Record} (h : answer ∈ m.answers) :
    ∀ target ∈ answer.name.pointer, target < m.wire.length := by
  refine m.pointer_lt _ (List.mem_append_right _ (List.mem_map_of_mem ?_))
  exact List.mem_append_left _ (List.mem_append_left _ h)

@[simp] lemma length_wireWord (value : UInt16) : (wireWord value).length = 2 := rfl

@[simp] lemma Record.length_fields (r : Record) : r.fields.length = 10 := rfl

@[simp] lemma Content.length_header (c : Content) : c.header.length = 12 := rfl

/-- The labels of a question, its type and its class, and what lies behind it. -/
def readQuestion (octets : List UInt8) : Option (List (List UInt8) × UInt16 × UInt16 × List UInt8) :=
  match readName octets with
  | some (labels, a :: b :: c :: d :: rest) => some (labels, Cpu65816.word a b, Cpu65816.word c d, rest)
  | _ => none

/-- **The reader gives a question back.** -/
theorem readQuestion_wire {labels : List (List UInt8)}
    (h : ∀ label ∈ labels, label ≠ [] ∧ label.length ≤ maximumLabel) (questionType questionClass : UInt16)
    (rest : List UInt8) :
    readQuestion (wireName labels ++ (wireWord questionType ++ wireWord questionClass ++ rest)) =
      some (labels, questionType, questionClass, rest) := by
  unfold readQuestion
  rw [readName_wireName h]
  show some (labels, _, _, rest) = _
  rw [word_high_low, word_high_low]

end SnesModem.Lib.DnsMessages
