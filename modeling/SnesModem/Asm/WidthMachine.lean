import SnesModem.Rust.AsmLintParse
import Mathlib.Logic.Relation

/-!
# Register widths and the stack at run time

A machine for the statements that the width linter models: the widths of A and of X and Y, and the octets on the
stack by what they are. It starts at the entry of a procedure and runs through calls of other ones. A run ends at
a statement that is not modelled.

* `Image`: what the assembler and the linker settle;
* `steps`: the states behind a statement;
* `Supported`, `Seen`: what a statement and a step must be like for the linter to see them; `Reaches`: runs of such
  steps;
* `Agrees`: the widths are the declared ones, and the stack is balanced.
-/

namespace SnesModem.Asm.WidthMachine

open SnesModem.Rust.AsmLint SnesModem.Rust.SourceText

/-- A statement of a procedure. -/
abbrev Place := ℕ × ℕ

/-- An octet on the stack. -/
inductive Cell
  | status (a i : Width)
  | data
  | ret (place : Place) (octet : ℕ)
  deriving DecidableEq, Repr

def Cell.isReturn : Cell → Bool
  | .ret _ _ => true
  | _ => false

/-- Where branches and calls go, the address that returns to a place, and the operands of `rep` and `sep`. -/
structure Image where
  target : Place → Option Place
  address : Place → ℕ
  immediate : Place → ℕ

/-- A call that is active: the stack that it found, and the contract of the procedure that it called. -/
structure Frame where
  returnTo : Place
  size : ℕ
  below : List Cell
  contract : Option Abi
  deriving DecidableEq, Repr

/-- The frames only record the calls: no step reads them. -/
structure Machine where
  place : Place
  a : Width
  i : Width
  stack : List Cell
  frames : List Frame
  deriving DecidableEq, Repr

def statementAt (program : List Procedure) (place : Place) : Option Statement :=
  program[place.1]?.bind (·.statements[place.2]?)

def octets (width : Width) : ℕ := width.bits / 8

def dataCells (n : ℕ) : List Cell := List.replicate n .data

/-- A return address on the stack, its low octet on top. -/
def returnCells (place : Place) (size : ℕ) : List Cell := (List.range size).map (.ret place)

def callSize (statement : Statement) : ℕ := if statement.mnemonic = "jsl" then 3 else 2

def returnSize (statement : Statement) : ℕ := if statement.mnemonic = "rtl" then 3 else 2

/-- The bits M and X of an octet. -/
def widthsOf (value : ℕ) : Width × Width :=
  (if value.testBit 5 then .eight else .sixteen, if value.testBit 4 then .eight else .sixteen)

/-- The widths that `plp` can set from an octet. -/
def pulledWidths (image : Image) : Cell → List (Width × Width)
  | .status a i => [(a, i)]
  | .data => [(.eight, .eight), (.eight, .sixteen), (.sixteen, .eight), (.sixteen, .sixteen)]
  | .ret place octet => [widthsOf (image.address place / 256 ^ octet % 256)]

/-! ### Steps -/

def Machine.next (m : Machine) : Machine := { m with place := (m.place.1, m.place.2 + 1) }

def Machine.goto (m : Machine) (place : Place) : Machine := { m with place }

def Machine.setWidths (m : Machine) (a i : Option Width) : Machine := { m with a := a.getD m.a, i := i.getD m.i }

def Machine.push (m : Machine) (cells : List Cell) : Machine := { m with stack := cells ++ m.stack }

def Machine.pull (m : Machine) (n : ℕ) : Machine := { m with stack := m.stack.drop n }

/-- `rep` clears bits and so widens, `sep` sets them. -/
def Machine.applyMask (m : Machine) (set : Bool) (mask : ℕ) : Machine :=
  let width : Width := if set then .eight else .sixteen
  m.setWidths (if mask.testBit 5 then some width else none) (if mask.testBit 4 then some width else none)

def Machine.call (m : Machine) (size : ℕ) (contract : Option Abi) (target : Place) : Machine :=
  let returnTo := (m.place.1, m.place.2 + 1)
  { m with
    place := target
    stack := returnCells returnTo size ++ m.stack
    frames := ⟨returnTo, size, m.stack, contract⟩ :: m.frames }

/-- A return goes where the octets on top of the stack say, if they are an address that a call left. -/
def Machine.return (m : Machine) (size : ℕ) : List Machine :=
  match m.stack.head? with
  | some (.ret place _) =>
    if m.stack.take size = returnCells place size then
      [{ m with place, stack := m.stack.drop size, frames := m.frames.tail }]
    else []
  | _ => []

def statementsAt (program : List Procedure) (place : Place) : List Statement :=
  (program[place.1]?.map (·.statements)).getD []

/-- The contract of the procedure that a call enters, unless it is a local call. -/
def contract (program : List Procedure) (image : Image) (place : Place) (statement : Statement) : Option Abi :=
  match resolveTarget (statementsAt program place) place.2 statement.operand with
  | some _ => none
  | none => (image.target place).bind fun target => program[target.1]?.bind (·.abi)

/-- An operand that addresses the stack. -/
def addressesStack (statement : Statement) : Bool :=
  ((splitOnce (· == ',') statement.operand).map fun (_, index) => toAsciiLowercase (trim index)) == some ['s']

/-- A statement that leaves the widths and the stack: a label, a directive, an instruction that only computes. -/
def isNeutral (statement : Statement) : Bool :=
  isLabel statement.text || startsWith "." statement.mnemonic.toList ||
    (["interrupt_entry", "setdbr", "setdp", "adc", "and", "asl", "bit", "cmp", "cpx", "cpy", "dec", "dex", "dey", "eor",
      "inc", "inx", "iny", "lda", "ldx", "ldy", "lsr", "nop", "ora", "rol", "ror", "sbc", "sta", "stx", "sty", "stz",
      "tax", "tay", "tcd", "tdc", "tsc", "tsx", "txa", "txy", "tya", "tyx", "trb", "tsb", "clc", "cld", "cli", "clv",
      "sec", "sed", "sei", "xba", "wai", "mvn", "mvp"].contains statement.mnemonic && !addressesStack statement)

/-- The macros of `utility.asm` that change the widths or the stack where the linter does not look.  `inc32` goes to
sixteen bits; `suspendNmi` leaves the shadow of `NMITIMEN` on the stack, and `restoreNmi` takes it off again. -/
def stepsOverMacro (m : Machine) (statement : Statement) : List Machine :=
  match statement.mnemonic with
  | "inc32" => [(m.setWidths (some .sixteen) none).next]
  | "suspendnmi" => [(m.push (dataCells (octets m.a))).next]
  | "restorenmi" => [(m.pull (octets m.a)).next]
  | _ => []

/-- The states behind a statement. -/
def stepsOver (program : List Procedure) (image : Image) (m : Machine) (statement : Statement) : List Machine :=
  match statement.instruction with
  | .width a i => [(m.setWidths a i).next]
  | .assertWidths _ => [m.next]
  | .rep => [(m.applyMask false (image.immediate m.place)).next]
  | .sep => [(m.applyMask true (image.immediate m.place)).next]
  | .pha => [(m.push (dataCells (octets m.a))).next]
  | .phx | .phy => [(m.push (dataCells (octets m.i))).next]
  | .php => [(m.push [.status m.a m.i]).next]
  | .phb => [(m.push (dataCells 1)).next]
  | .phd | .pushWord => [(m.push (dataCells 2)).next]
  | .pla => [(m.pull (octets m.a)).next]
  | .plx | .ply => [(m.pull (octets m.i)).next]
  | .plb => [(m.pull 1).next]
  | .pld => [(m.pull 2).next]
  | .plp | .plpWidths _ =>
    (pulledWidths image (m.stack.headD .data)).map fun (a, i) => ((m.pull 1).setWidths (some a) (some i)).next
  | .call =>
    (image.target m.place).toList.map
      (m.call (callSize statement) (contract program image m.place statement))
  | .ret => m.return (returnSize statement)
  | .jump => (image.target m.place).toList.map m.goto
  | .branch => m.next :: (image.target m.place).toList.map m.goto
  | .rti | .stp | .terminalMacro => []
  | .other => if isNeutral statement then [m.next] else stepsOverMacro m statement

def steps (program : List Procedure) (image : Image) (m : Machine) : List Machine :=
  (statementAt program m.place).elim [] (stepsOver program image m)

/-! ### Declared widths -/

/-- The widths that the assembler takes to be declared behind a statement: the macros of `utility.asm` declare
them where the parser of the linter does not look. -/
def assembledAfter (declared : Option Width × Option Width) (statement : Statement) : Option Width × Option Width :=
  match accumulatorDirective statement.mnemonic, indexDirective statement.mnemonic with
  | some a, _ => (some a, declared.2)
  | none, some i => (declared.1, some i)
  | none, none =>
    match statement.instruction with
    | .width a i => (a.or declared.1, i.or declared.2)
    | .assertWidths expected | .plpWidths expected => (some expected.a, some expected.i)
    | _ => if statement.mnemonic = "inc32" then (some .sixteen, declared.2) else declared

def declaredAt (program : List Procedure) (place : Place) : Option Width × Option Width :=
  ((statementsAt program place).take place.2).foldl assembledAfter (none, none)

/-! ### What a run must meet, and what holds in it -/

/-- The octets that a statement pulls. -/
def pulls (m : Machine) (statement : Statement) : ℕ :=
  match statement.instruction with
  | .pla => octets m.a
  | .plx | .ply => octets m.i
  | .plb | .plp | .plpWidths _ => 1
  | .pld => 2
  | _ => 0

/-- The linter finds the target of a branch, a jump or a call: a label of the procedure, or another procedure with
its contract. -/
def Names (program : List Procedure) (place : Place) (statement : Statement) (target : Place) : Prop :=
  let resolved := resolveTarget (statementsAt program place) place.2 statement.operand
  let here := resolved = some target.2 ∧ target.1 = place.1
  (statement.instruction = .jump ∨ statement.instruction = .branch → here) ∧
  (statement.instruction = .call → here ∨
    resolved = none ∧ target.2 = 0 ∧ ∃ callee ∈ program[target.1]?,
      callee.kind = .ordinary ∧ callee.abi.isSome ∧ declaredCallee (declaredAbis program) statement = callee.abi)

instance (program : List Procedure) (place : Place) (statement : Statement) (target : Place) :
    Decidable (Names program place statement target) := by
  unfold Names
  infer_instance

/-- What the linter relies on at a statement. -/
structure Supported (program : List Procedure) (image : Image) (m : Machine) (statement : Statement) : Prop where
  /-- A pull takes no octet of a return address. -/
  pulls : ∀ cell ∈ m.stack.take (pulls m statement), cell.isReturn = false
  /-- A return is of the kind of its call. -/
  size : statement.instruction = .ret → ∀ frame ∈ m.frames.head?, returnSize statement = frame.size
  names : ∀ target ∈ image.target m.place, Names program m.place statement target
  immediate : statement.instruction = .rep ∨ statement.instruction = .sep →
    parseImmediate statement.operand = some (image.immediate m.place)
  /-- The parser's record at an immediate operand is what the assembler has declared. -/
  asmA : accumulatorImmediate statement → statement.asmA = (declaredAt program m.place).1
  asmI : indexImmediate statement → statement.asmI = (declaredAt program m.place).2

lemma supported_iff (program : List Procedure) (image : Image) (m : Machine) (statement : Statement) :
    Supported program image m statement ↔
      (∀ cell ∈ m.stack.take (pulls m statement), cell.isReturn = false) ∧
      (statement.instruction = .ret → ∀ frame ∈ m.frames.head?, returnSize statement = frame.size) ∧
      (∀ target ∈ image.target m.place, Names program m.place statement target) ∧
      (statement.instruction = .rep ∨ statement.instruction = .sep →
        parseImmediate statement.operand = some (image.immediate m.place)) ∧
      (accumulatorImmediate statement → statement.asmA = (declaredAt program m.place).1) ∧
      (indexImmediate statement → statement.asmI = (declaredAt program m.place).2) :=
  ⟨fun ⟨h₁, h₂, h₃, h₄, h₅, h₆⟩ => ⟨h₁, h₂, h₃, h₄, h₅, h₆⟩, fun ⟨h₁, h₂, h₃, h₄, h₅, h₆⟩ => ⟨h₁, h₂, h₃, h₄, h₅, h₆⟩⟩

instance (program : List Procedure) (image : Image) (m : Machine) (statement : Statement) :
    Decidable (Supported program image m statement) :=
  decidable_of_iff' _ (supported_iff program image m statement)

/-- The state is at a statement, and the linter sees its step. -/
def Proceeds (program : List Procedure) (image : Image) (m : Machine) : Prop :=
  ∃ statement ∈ statementAt program m.place, Supported program image m statement

instance (program : List Procedure) (image : Image) (m : Machine) : Decidable (Proceeds program image m) := by
  unfold Proceeds
  infer_instance

/-- The linter sees what the step over a macro does: `inc32` finds an accumulator of sixteen bits, and the NMI is
neither suspended nor restored. -/
def Seen (program : List Procedure) (m : Machine) : Prop :=
  ∀ statement ∈ statementAt program m.place,
    (statement.mnemonic = "inc32" → m.a = .sixteen) ∧ statement.mnemonic ∉ ["suspendnmi", "restorenmi"]

instance (program : List Procedure) (m : Machine) : Decidable (Seen program m) := by
  unfold Seen
  infer_instance

/-- A run whose steps the linter sees. -/
inductive Reaches (program : List Procedure) (image : Image) (start : Machine) : Machine → Prop
  | start : Proceeds program image start → Reaches program image start start
  | step {m m' : Machine} : Reaches program image start m → Seen program m → m' ∈ steps program image m →
      Proceeds program image m' → Reaches program image start m'

/-- The states after this many steps, of runs with such steps only or of all. -/
def after (program : List Procedure) (image : Image) (keeps : Machine → Machine → Bool) :
    ℕ → Machine → List Machine
  | 0, m => [m]
  | n + 1, m => (after program image keeps n m).flatMap fun m => (steps program image m).filter (keeps m)

/-- The entry of a procedure, with the widths of its contract; an interrupt comes with any. What is on the stack
belongs to no call of the run. -/
structure Enters (program : List Procedure) (m : Machine) : Prop where
  index : m.place.2 = 0
  frames : m.frames = []
  stack : ∀ cell ∈ m.stack, cell.isReturn = false
  widths : ∃ procedure ∈ program[m.place.1]?, procedure.kind = .ordinary → procedure.abi = some ⟨m.a, m.i⟩

/-- **At a statement**: the actual widths are those declared at an immediate operand, a call and a return, and a
return finds the stack as its call left it. -/
structure Agrees (program : List Procedure) (image : Image) (entry : List Cell) (m : Machine) (statement : Statement) :
    Prop where
  accumulator : accumulatorImmediate statement → (declaredAt program m.place).1 = some m.a
  index : indexImmediate statement → (declaredAt program m.place).2 = some m.i
  call : statement.instruction = .call →
    ∀ abi ∈ contract program image m.place statement, m.a = abi.a ∧ m.i = abi.i
  balanced : statement.instruction = .ret → m.stack =
    match m.frames with
    | [] => entry
    | frame :: _ => returnCells frame.returnTo (returnSize statement) ++ frame.below
  returns : statement.instruction = .ret → ∀ abi ∈ (match m.frames with
    | [] => program[m.place.1]?.bind (·.abi)
    | frame :: _ => frame.contract), m.a = abi.a ∧ m.i = abi.i
  interrupt : statement.instruction = .rti → m.frames = [] ∧ m.stack = entry

section After

variable {program : List Procedure} {image : Image} {m m' : Machine} {n : ℕ}

lemma reaches_of_after (h : Proceeds program image m)
    (hm' : m' ∈ after program image (fun m m' => decide (Seen program m ∧ Proceeds program image m')) n m) :
    Reaches program image m m' := by
  induction n generalizing m' with
  | zero =>
    obtain rfl := List.mem_singleton.mp hm'
    exact Reaches.start h
  | succ n ih =>
    obtain ⟨before, hbefore, hfilter⟩ := List.mem_flatMap.mp hm'
    obtain ⟨hstep, hkept⟩ := List.mem_filter.mp hfilter
    obtain ⟨hseen, hproceeds⟩ := of_decide_eq_true hkept
    exact (ih hbefore).step hseen hstep hproceeds

lemma runs_of_after (hm' : m' ∈ after program image (fun _ _ => true) n m) :
    Relation.ReflTransGen (fun m m' => m' ∈ steps program image m) m m' := by
  induction n generalizing m' with
  | zero =>
    obtain rfl := List.mem_singleton.mp hm'
    exact Relation.ReflTransGen.refl
  | succ n ih =>
    obtain ⟨before, hbefore, hfilter⟩ := List.mem_flatMap.mp hm'
    exact (ih hbefore).tail (List.mem_filter.mp hfilter).1

end After

end SnesModem.Asm.WidthMachine
