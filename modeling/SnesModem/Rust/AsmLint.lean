import Mathlib.Algebra.Order.Ring.Nat
import SnesModem.Rust.SourceText

/-!
# The width linter

The control-flow analysis of `asm_lint.rs`: the runtime states that reach each statement of a procedure, and
the diagnostics on them. A vector that is used as a stack is a list with its top at the head. A `BTreeMap` is
the list of its insertions, where the last one for a key counts. The set of diagnostics is the list of what is
put into it.

* `decode`: the mnemonics that the analysis knows;
* `transfer`, `validateStatementWidth`: one statement;
* `mergeState`, `step`, `analyzeProcedure`: the worklist.
-/

namespace SnesModem.Rust.AsmLint

open SnesModem.Rust.SourceText

inductive Profile
  | normal | smoke | fontTest
  deriving DecidableEq, Repr

def Profile.name : Profile → String
  | .normal => "normal"
  | .smoke => "smoke"
  | .fontTest => "font-test"

inductive Width
  | eight | sixteen
  deriving DecidableEq, Repr

def Width.bits : Width → ℕ
  | .eight => 8
  | .sixteen => 16

inductive StackItem
  | A (width : Width)
  | X (width : Width)
  | Y (width : Width)
  | status (a i : Width)
  | bank
  | directPage
  | rawByte
  | rawWord
  deriving DecidableEq, Repr

/-- A local call that is active: where it returns to, and the stack that it found. -/
structure CallFrame where
  returnIndex : ℕ
  stack : List StackItem
  deriving DecidableEq, Repr

structure RuntimeState where
  a : Width
  i : Width
  stack : List StackItem
  calls : List CallFrame
  deriving DecidableEq, Repr

structure Abi where
  a : Width
  i : Width
  deriving DecidableEq, Repr

inductive ProcedureKind
  | ordinary | interrupt
  deriving DecidableEq, Repr

structure Location where
  path : List String
  line : ℕ
  deriving DecidableEq, Repr

/-- A statement, with the widths that the parser takes to be declared before it. -/
structure Statement where
  location : Location
  text : Text
  mnemonic : String
  operand : Text
  asmA : Option Width
  asmI : Option Width
  deriving DecidableEq, Repr

structure Procedure where
  name : Text
  location : Location
  statements : List Statement
  abi : Option Abi
  kind : ProcedureKind
  deriving DecidableEq, Repr

structure Diagnostic where
  path : List String
  line : ℕ
  column : ℕ
  profile : String
  message : String
  deriving DecidableEq, Repr

def Diagnostic.new (location : Location) (profile : Profile) (message : String) : Diagnostic :=
  ⟨location.path, location.line, 1, profile.name, message⟩

/-- `BTreeMap::get`, of a map that was filled in this order. -/
def lookup {α : Type} (map : List (Text × α)) (name : Text) : Option α :=
  (map.reverse.find? (·.1 == name)).map (·.2)

/-! ### What the messages show -/

def Width.debug : Width → String
  | .eight => "Eight"
  | .sixteen => "Sixteen"

def StackItem.debug : StackItem → String
  | .A width => "A(" ++ width.debug ++ ")"
  | .X width => "X(" ++ width.debug ++ ")"
  | .Y width => "Y(" ++ width.debug ++ ")"
  | .status a i => "Status \x7b a: " ++ a.debug ++ ", i: " ++ i.debug ++ " \x7d"
  | .bank => "Bank"
  | .directPage => "DirectPage"
  | .rawByte => "RawByte"
  | .rawWord => "RawWord"

def debugOption : Option StackItem → String
  | none => "None"
  | some item => "Some(" ++ item.debug ++ ")"

def debugStack (stack : List StackItem) : String :=
  "[" ++ ", ".intercalate (stack.reverse.map StackItem.debug) ++ "]"

def uppercase (mnemonic : String) : String := String.ofList (toAsciiUppercase mnemonic.toList)

def renderWidths (a i : Width) : String := s!"A{a.bits}/I{i.bits}"

def renderState (state : RuntimeState) : String :=
  renderWidths state.a state.i ++ " stack=" ++ debugStack state.stack

/-! ### Statements -/

/-- The mnemonics and macros that the analysis treats by themselves. -/
inductive Instruction
  | width (a i : Option Width)
  | assertWidths (expected : Abi)
  | rep | sep
  | pha | phx | phy | php | phb | phd | pushWord
  | pla | plx | ply | plb | pld | plp
  | plpWidths (expected : Abi)
  | call | ret | rti | stp | jump | branch | terminalMacro
  | other
  deriving DecidableEq, Repr

def decode : String → Instruction
  | "m8" => .width (some .eight) none
  | "m16" | "pppipv4entera16" | "pppudpentera16" => .width (some .sixteen) none
  | "i8" => .width none (some .eight)
  | "i16" => .width none (some .sixteen)
  | "mi8" => .width (some .eight) (some .eight)
  | "mi16" => .width (some .sixteen) (some .sixteen)
  | "enternativem8i16" => .width (some .eight) (some .sixteen)
  | "assert_m8_i8" => .assertWidths ⟨.eight, .eight⟩
  | "assert_m8_i16" => .assertWidths ⟨.eight, .sixteen⟩
  | "assert_m16_i8" => .assertWidths ⟨.sixteen, .eight⟩
  | "assert_m16_i16" => .assertWidths ⟨.sixteen, .sixteen⟩
  | "rep" => .rep
  | "sep" => .sep
  | "pha" => .pha
  | "phx" => .phx
  | "phy" => .phy
  | "php" => .php
  | "phb" => .phb
  | "phd" => .phd
  | "pea" | "pei" | "per" => .pushWord
  | "pla" => .pla
  | "plx" => .plx
  | "ply" => .ply
  | "plb" => .plb
  | "pld" => .pld
  | "plp" | "plp_interrupt" => .plp
  | "plp_m8_i8" => .plpWidths ⟨.eight, .eight⟩
  | "plp_m8_i16" => .plpWidths ⟨.eight, .sixteen⟩
  | "plp_m16_i8" => .plpWidths ⟨.sixteen, .eight⟩
  | "plp_m16_i16" => .plpWidths ⟨.sixteen, .sixteen⟩
  | "jsr" | "jsl" => .call
  | "rts" | "rtl" => .ret
  | "rti" => .rti
  | "stp" => .stp
  | "bra" | "brl" | "jmp" | "jml" => .jump
  | "bcc" | "bcs" | "beq" | "bmi" | "bne" | "bpl" | "bvc" | "bvs" => .branch
  | "pppicmpreceiveerror" | "pppipcpreturnerror" | "pppipv4receiveerror" | "ppppapreturnerror"
  | "pppudpreceiveerror" => .terminalMacro
  | _ => .other

def Statement.instruction (statement : Statement) : Instruction := decode statement.mnemonic

def Statement.isImmediate (statement : Statement) : Bool := startsWith "#" (trimStart statement.operand)

def accumulatorImmediate (statement : Statement) : Bool :=
  statement.isImmediate && ["adc", "and", "bit", "cmp", "eor", "lda", "ora", "sbc"].contains statement.mnemonic

def indexImmediate (statement : Statement) : Bool :=
  statement.isImmediate && ["cpx", "cpy", "ldx", "ldy"].contains statement.mnemonic

def isLabel (code : Text) : Bool := endsWith ":" code

/-- `parse_immediate`: an operand `#` with a hexadecimal or a decimal octet. -/
def parseImmediate (operand : Text) : Option ℕ :=
  (stripStart "#" (trim operand)).bind fun value =>
    match stripStart "$" (trim value) with
    | some hex => fromStrRadix 16 256 hex
    | none => fromStrRadix 10 256 (trim value)

def parseUsizeLiteral (value : Text) : Option ℕ :=
  match stripStart "$" value with
  | some hex => fromStrRadix 16 (2 ^ 64) hex
  | none =>
    match stripStart "0x" value with
    | some hex => fromStrRadix 16 (2 ^ 64) hex
    | none => fromStrRadix 10 (2 ^ 64) value

def normalizeTarget (operand : Text) : Text := trim (before ',' operand)

/-- `collect_labels`: every named label with its statement. -/
def collectLabels (statements : List Statement) : List (Text × ℕ) :=
  statements.zipIdx.filterMap fun (statement, index) =>
    ((stripEnd ":" (trim statement.text)).filter (· != [])).map (·, index)

def collectAnonymousLabels (statements : List Statement) : List ℕ :=
  statements.zipIdx.filterMap fun (statement, index) => if trim statement.text = [':'] then some index else none

def resolveTarget (statements : List Statement) (index : ℕ) (operand : Text) : Option ℕ :=
  let target := normalizeTarget operand
  let anonymous := collectAnonymousLabels statements
  let named := lookup (collectLabels statements) target
  match stripStart ":" target with
  | none => named
  | some suffix =>
    if suffix.all (· == '+') then (anonymous.filter (index < ·))[suffix.length - 1]?
    else if suffix.all (· == '-') then (anonymous.filter (· < index)).reverse[suffix.length - 1]?
    else named

/-! ### One statement -/

/-- What an analysis reads besides the statements: `analyze_procedure`'s arguments. -/
structure Context where
  profile : Profile
  procedure : Procedure
  returnAbi : Option Abi
  entry : Abi
  abis : List (Text × Abi)
  allocations : List (Text × ℕ)

def assertState (profile : Profile) (statement : Statement) (state : RuntimeState) (expected : Abi) :
    List Diagnostic :=
  if state.a ≠ expected.a ∨ state.i ≠ expected.i then
    [.new statement.location profile <| "width assert expects " ++ renderWidths expected.a expected.i ++
      " but control flow has " ++ renderWidths state.a state.i]
  else []

def RuntimeState.push (state : RuntimeState) (item : StackItem) : RuntimeState :=
  { state with stack := item :: state.stack }

def RuntimeState.setWidths (state : RuntimeState) (a i : Option Width) : RuntimeState :=
  { state with a := a.getD state.a, i := i.getD state.i }

/-- `apply_status_immediate`: an operand that is no octet changes nothing. -/
def applyStatusImmediate (set : Bool) (operand : Text) (state : RuntimeState) : RuntimeState :=
  match parseImmediate operand with
  | none => state
  | some value =>
    let width : Width := if set then .eight else .sixteen
    state.setWidths (if value.testBit 5 then some width else none) (if value.testBit 4 then some width else none)

/-- `Vec::pop`, with the state that is left. -/
def RuntimeState.pop (state : RuntimeState) : Option StackItem × RuntimeState :=
  (state.stack.head?, { state with stack := state.stack.tail })

def restoreStatus (profile : Profile) (statement : Statement) (state : RuntimeState) (expected : Abi) :
    RuntimeState × List Diagnostic :=
  let (actual, state) := state.pop
  if actual = some (.status expected.a expected.i) then ({ state with a := expected.a, i := expected.i }, [])
  else (state, [.new statement.location profile <| "status restore expects saved " ++
    renderWidths expected.a expected.i ++ " but stack top is " ++ debugOption actual])

def plp (profile : Profile) (statement : Statement) (state : RuntimeState) : RuntimeState × List Diagnostic :=
  let (actual, state) := state.pop
  match actual with
  | some (.status a i) => ({ state with a, i }, [])
  | _ => (state, [.new statement.location profile <|
      "PLP does not match saved status; stack top is " ++ debugOption actual])

def popExpected (profile : Profile) (statement : Statement) (state : RuntimeState) (expected : StackItem) :
    RuntimeState × List Diagnostic :=
  let (actual, state) := state.pop
  if actual ≠ some expected then
    (state, [.new statement.location profile <|
      "stack pop expects " ++ expected.debug ++ " but found " ++ debugOption actual])
  else (state, [])

def popAccumulator (profile : Profile) (statement : Statement) (state : RuntimeState) (width : Width) :
    RuntimeState × List Diagnostic :=
  let (actual, state) := state.pop
  if actual = some (.A width) ∨ (width = .sixteen ∧ actual = some .rawWord) ∨
      (width = .eight ∧ actual = some .rawByte) then (state, [])
  else (state, [.new statement.location profile <| "stack pop expects A(" ++ width.debug ++ ") or a raw " ++
    (if width = .sixteen then "word" else "byte") ++ " but found " ++ debugOption actual])

def popBank (profile : Profile) (statement : Statement) (state : RuntimeState) : RuntimeState × List Diagnostic :=
  let (actual, state) := state.pop
  match actual with
  | some .bank | some .rawByte => (state, [])
  | some .rawWord => (state.push .rawByte, [])
  | _ => (state, [.new statement.location profile <|
      "stack pop expects Bank or a raw byte but found " ++ debugOption actual])

def popDirectPage (profile : Profile) (statement : Statement) (state : RuntimeState) :
    RuntimeState × List Diagnostic :=
  let (actual, state) := state.pop
  match actual with
  | some .directPage | some .rawWord => (state, [])
  | _ => (state, [.new statement.location profile <|
      "stack pop expects DirectPage or a raw word but found " ++ debugOption actual])

/-- `transfer`: the state behind a statement, or none where the flow ends. -/
def transfer (profile : Profile) (statement : Statement) (state : RuntimeState) :
    Option RuntimeState × List Diagnostic :=
  match statement.instruction with
  | .width a i => (some (state.setWidths a i), [])
  | .assertWidths expected => (some state, assertState profile statement state expected)
  | .rep => (some (applyStatusImmediate false statement.operand state), [])
  | .sep => (some (applyStatusImmediate true statement.operand state), [])
  | .pha => (some (state.push (.A state.a)), [])
  | .phx => (some (state.push (.X state.i)), [])
  | .phy => (some (state.push (.Y state.i)), [])
  | .php => (some (state.push (.status state.a state.i)), [])
  | .phb => (some (state.push .bank), [])
  | .phd => (some (state.push .directPage), [])
  | .pushWord => (some (state.push .rawWord), [])
  | .pla => (popAccumulator profile statement state state.a).map some id
  | .plx => (popExpected profile statement state (.X state.i)).map some id
  | .ply => (popExpected profile statement state (.Y state.i)).map some id
  | .plb => (popBank profile statement state).map some id
  | .pld => (popDirectPage profile statement state).map some id
  | .plp => (plp profile statement state).map some id
  | .plpWidths expected => (restoreStatus profile statement state expected).map some id
  | .rti | .stp | .terminalMacro => (none, [])
  | .call | .ret | .jump | .branch | .other => (some state, [])

/-- `normalize_at_entry`. -/
def normalizeAtEntry (mnemonic : String) (state : RuntimeState) : RuntimeState :=
  match decode mnemonic with
  | .width a i => state.setWidths a i
  | _ => state

/-- `allocation_operand`: the symbol that an operand names and the offset from it. -/
def allocationOperand (operand : Text) : Option (Text × ℕ) :=
  let operand := trim (before ',' operand)
  if operand = [] ∨ startsWith "#" operand ∨ startsWith "(" operand ∨ startsWith "[" operand then none
  else
    let operand := trim (((stripStart "f:" operand).or (stripStart "a:" operand)).getD operand)
    let (symbol, offset) :=
      match splitOnce (· == '+') operand with
      | none => (operand, 0)
      | some (symbol, offset) => (trim symbol, (parseUsizeLiteral (trim offset)).getD 0)
    if isSymbol symbol then some (symbol, offset) else none

/-- The octets that a statement reads or writes, if the linter checks them. -/
def memoryWidth (statement : Statement) (state : RuntimeState) : Option ℕ :=
  if ["adc", "and", "asl", "bit", "cmp", "dec", "eor", "inc", "lda", "lsr", "ora", "rol", "ror", "sbc", "sta", "stz",
      "trb", "tsb"].contains statement.mnemonic then some (state.a.bits / 8)
  else if ["cpx", "cpy", "ldx", "ldy", "stx", "sty"].contains statement.mnemonic then some (state.i.bits / 8)
  else if statement.mnemonic = "inc32" then some 4
  else none

def validateMemoryAccess (c : Context) (statement : Statement) (state : RuntimeState) : List Diagnostic :=
  match memoryWidth statement state with
  | none => []
  | some width =>
    match allocationOperand statement.operand with
    | none => []
    | some (symbol, offset) =>
      match lookup c.allocations symbol with
      | none => []
      | some size =>
        -- `saturating_add` of the type `usize`.
        if min (offset + width) (2 ^ 64 - 1) ≤ size then []
        else [.new statement.location c.profile <| uppercase statement.mnemonic ++
          s!" {width}-byte access at {String.ofList symbol}+{offset} exceeds its {size}-byte allocation"]

def validateAccumulator (c : Context) (statement : Statement) (state : RuntimeState) : List Diagnostic :=
  if accumulatorImmediate statement ∧ statement.asmA ≠ some state.a then
    [.new statement.location c.profile <| uppercase statement.mnemonic ++
      s!" immediate is encoded as A{(statement.asmA.map Width.bits).getD 0} but runtime A is {state.a.bits}"]
  else []

def validateIndex (c : Context) (statement : Statement) (state : RuntimeState) : List Diagnostic :=
  if indexImmediate statement ∧ statement.asmI ≠ some state.i then
    [.new statement.location c.profile <| uppercase statement.mnemonic ++
      s!" immediate is encoded as I{(statement.asmI.map Width.bits).getD 0}" ++
      s!" but runtime index width is {state.i.bits}"]
  else []

/-- The widths at entry of the procedure that a call names. -/
def declaredCallee (abis : List (Text × Abi)) (statement : Statement) : Option Abi :=
  let target := normalizeTarget statement.operand
  if startsWith "@" target then none else lookup abis target

def validateCall (c : Context) (statement : Statement) (state : RuntimeState) : List Diagnostic :=
  if statement.instruction = .call then
    match declaredCallee c.abis statement with
    | none => []
    | some callee =>
      if callee.a ≠ state.a ∨ callee.i ≠ state.i then
        [.new statement.location c.profile <| "call to " ++ String.ofList (normalizeTarget statement.operand) ++ " requires " ++
          renderWidths callee.a callee.i ++ " but caller has " ++ renderWidths state.a state.i]
      else []
  else []

def validateStatementWidth (c : Context) (statement : Statement) (state : RuntimeState) : List Diagnostic :=
  validateAccumulator c statement state ++ validateIndex c statement state ++ validateCall c statement state ++
    validateMemoryAccess c statement state

/-- `successors`: the statements that the flow goes on to. -/
def successors (statements : List Statement) (index : ℕ) (statement : Statement) : List ℕ :=
  let next := if index + 1 < statements.length then [index + 1] else []
  let target := (resolveTarget statements index statement.operand).toList
  match statement.instruction with
  | .ret | .rti | .stp => []
  | .jump => target
  | .branch => next ++ target.filter (!next.contains ·)
  | _ => next

/-! ### The worklist -/

/-- The states that reached each statement, those that wait, and the diagnostics. -/
structure Worklist where
  states : ℕ → List RuntimeState
  queue : List (ℕ × RuntimeState)
  diagnostics : List Diagnostic

def Worklist.report (w : Worklist) (diagnostics : List Diagnostic) : Worklist :=
  { w with diagnostics := w.diagnostics ++ diagnostics }

/-- The mnemonic that a state is normalised for: that of the first statement from here that is no label. -/
def normalizer (statements : List Statement) (successor : ℕ) : String :=
  (((statements.drop successor).find? fun statement => !isLabel statement.text).or statements[successor]?).elim ""
    (·.mnemonic)

def mergeState (c : Context) (successor : ℕ) (incoming : RuntimeState) (w : Worklist) : Worklist :=
  match c.procedure.statements[successor]? with
  | none => w
  | some statement =>
    let incoming := normalizeAtEntry (normalizer c.procedure.statements successor) incoming
    if incoming ∈ w.states successor then w
    else
      match (w.states successor).find? (·.calls = incoming.calls) with
      | some existing =>
        w.report [.new statement.location c.profile <|
          "control-flow merge has incompatible width/stack states: incoming " ++ renderState incoming ++
          " versus existing " ++ renderState existing]
      | none =>
        { w with
          states := Function.update w.states successor (w.states successor ++ [incoming])
          queue := w.queue ++ [(successor, incoming)] }

def handleInterruptReturn (c : Context) (statement : Statement) (state : RuntimeState) : List Diagnostic :=
  if c.procedure.kind ≠ .interrupt then
    [.new statement.location c.profile "RTI is only permitted in a modeled interrupt procedure"]
  else
    (if state.calls ≠ [] then [.new statement.location c.profile "RTI reached from an active local subroutine"]
      else []) ++
    (if state.stack ≠ [] then [.new statement.location c.profile <|
      "interrupt return leaves software stack items behind: " ++ debugStack state.stack] else [])

/-- The return from the procedure itself. -/
def procedureReturn (c : Context) (statement : Statement) (state : RuntimeState) : List Diagnostic :=
  match c.returnAbi with
  | none => [.new statement.location c.profile "interrupt procedure must not return with RTS/RTL"]
  | some abi =>
    (if state.stack ≠ [] then [.new statement.location c.profile <|
      "return leaves stack items behind: " ++ debugStack state.stack] else []) ++
    (if state.a ≠ abi.a ∨ state.i ≠ abi.i then [.new statement.location c.profile <|
      "return ABI requires " ++ renderWidths abi.a abi.i ++ " but control flow has " ++
      renderWidths state.a state.i] else [])

/-- A local return must find the stack that its call left. -/
def unbalancedReturn (c : Context) (statement : Statement) (state : RuntimeState) (frame : CallFrame) :
    List Diagnostic :=
  if state.stack ≠ frame.stack then
    [.new statement.location c.profile <| "local return has unbalanced stack: expected " ++
      debugStack frame.stack ++ " but found " ++ debugStack state.stack]
  else []

def handleReturn (c : Context) (statement : Statement) (state : RuntimeState) (w : Worklist) : Worklist :=
  match state.calls with
  | frame :: calls =>
    if state.stack ≠ frame.stack then w.report (unbalancedReturn c statement state frame)
    else mergeState c frame.returnIndex { state with calls } w
  | [] => w.report (procedureReturn c statement state)

/-- What follows a statement other than a return. -/
def follow (c : Context) (index : ℕ) (statement : Statement) (output : RuntimeState) (w : Worklist) : Worklist :=
  let statements := c.procedure.statements
  let target := if statement.instruction = .call then resolveTarget statements index statement.operand else none
  match target with
  | some target =>
    mergeState c target { output with calls := ⟨index + 1, output.stack⟩ :: output.calls } w
  | none => (successors statements index statement).foldl (fun w successor => mergeState c successor output w) w

/-- One turn of the loop of `analyze_procedure`, on a state that was taken from the queue. -/
def visit (c : Context) (index : ℕ) (input : RuntimeState) (w : Worklist) : Worklist :=
  match c.procedure.statements[index]? with
  | none => w
  | some statement =>
    let w := w.report (validateStatementWidth c statement input)
    match statement.instruction with
    | .rti => w.report (handleInterruptReturn c statement input)
    | .ret => handleReturn c statement input w
    | _ =>
      match transfer c.profile statement input with
      | (none, diagnostics) => w.report diagnostics
      | (some output, diagnostics) => follow c index statement output (w.report diagnostics)

def loop (c : Context) : ℕ → Worklist → Option Worklist
  | 0, _ => none
  | fuel + 1, w =>
    match w.queue with
    | [] => some w
    | (index, input) :: queue => loop c fuel (visit c index input { w with queue })

def initial (c : Context) : RuntimeState := ⟨c.entry.a, c.entry.i, [], []⟩

def start (c : Context) : Worklist :=
  ⟨Function.update (fun _ => []) 0 [initial c], [(0, initial c)], []⟩

/-- `analyze_procedure`, with a bound on the turns of its loop: the diagnostics, if the loop ends by then. -/
def analyzeProcedure (c : Context) (fuel : ℕ) : Option (List Diagnostic) :=
  if c.procedure.statements = [] then some [] else (loop c fuel (start c)).map (·.diagnostics)

/-! ### All procedures -/

def declaredAbis (procedures : List Procedure) : List (Text × Abi) :=
  procedures.filterMap fun procedure => procedure.abi.map (procedure.name, ·)

/-- The analyses of one procedure: an interrupt comes with any widths. -/
def contexts (profile : Profile) (allocations : List (Text × ℕ)) (abis : List (Text × Abi))
    (procedure : Procedure) : List Context :=
  match procedure.kind with
  | .ordinary => procedure.abi.toList.map fun abi => ⟨profile, procedure, some abi, abi, abis, allocations⟩
  | .interrupt =>
    [Width.eight, .sixteen].flatMap fun a =>
      [Width.eight, .sixteen].map fun i => ⟨profile, procedure, none, ⟨a, i⟩, abis, allocations⟩

def analyzeProcedures (profile : Profile) (allocations : List (Text × ℕ)) (procedures : List Procedure)
    (fuel : ℕ) : Option (List Diagnostic) :=
  ((procedures.flatMap (contexts profile allocations (declaredAbis procedures))).mapM
    fun c => analyzeProcedure c fuel).map List.flatten

end SnesModem.Rust.AsmLint
