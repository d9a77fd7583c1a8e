import SnesModem.Rust.AsmLint

/-!
# The width linter on sources

* `activeLines`: the lines that a profile assembles;
* `Parser.line`, `parseProcedures`: the procedures of a source, with the widths declared before each statement;
* `lintWorkspace`: every profile of all sources.

A source is the list of its lines.
-/

namespace SnesModem.Rust.AsmLint

open SnesModem.Rust.SourceText

def Profile.all : List Profile := [.normal, .smoke, .fontTest]

def Profile.defines : Profile → List String
  | .normal => []
  | .smoke => ["MODEM_SMOKE_TEST"]
  | .fontTest => ["MODEM_FONT_TEST"]

def stripComment (line : Text) : Text := before ';' line

/-- What is left of a line: its code. -/
def codeOf (line : Text) : Text := trim (stripComment line)

/-- `split_statement`: the mnemonic and the operand. -/
def splitStatement (code : Text) : Text × Text :=
  let code := trim code
  if isLabel code then (code, [])
  else ((splitOnce isWhitespace code).map fun (mnemonic, operand) => (mnemonic, trim operand)).getD (code, [])

def accumulatorDirective : String → Option Width
  | ".a8" => some .eight
  | ".a16" => some .sixteen
  | _ => none

def indexDirective : String → Option Width
  | ".i8" => some .eight
  | ".i16" => some .sixteen
  | _ => none

/-! ### Conditional assembly -/

structure Conditional where
  parentActive : Bool
  condition : Bool
  inElse : Bool

/-- The conditionals that are open, and whether the lines here are assembled. -/
structure Assembly where
  stack : List Conditional
  active : Bool

def Assembly.open (s : Assembly) (condition : Bool) : Assembly :=
  ⟨⟨s.active, condition, false⟩ :: s.stack, s.active && condition⟩

/-- One line of `active_lines`: whether it is assembled itself. -/
def Assembly.line (defines : List String) (s : Assembly) (line : Text) : Assembly × Bool :=
  let code := codeOf line
  match stripStart ".ifdef " code with
  | some symbol => (s.open (defines.contains (String.ofList (trim symbol))), false)
  | none =>
    match stripStart ".ifndef " code with
    | some symbol => (s.open (!defines.contains (String.ofList (trim symbol))), false)
    | none =>
      if code = ".else".toList then
        match s.stack with
        | [] => (s, false)
        | top :: stack => (⟨{ top with inElse := true } :: stack, top.parentActive && !top.condition⟩, false)
      else if code = ".endif".toList then
        match s.stack with
        | [] => (s, false)
        | top :: stack => (⟨stack, top.parentActive⟩, false)
      else (s, s.active)

def activeFrom (defines : List String) : Assembly → List Text → List Bool
  | _, [] => []
  | s, line :: lines => (s.line defines line).2 :: activeFrom defines (s.line defines line).1 lines

def activeLines (source : List Text) (profile : Profile) : List Bool := activeFrom profile.defines ⟨[], true⟩ source

/-! ### Procedures -/

structure Options where
  enforcePolicy : Bool

/-- The variables of `parse_procedures`. -/
structure Parser where
  procedures : List Procedure
  current : Option Procedure
  asmA : Option Width
  asmI : Option Width
  entryA : Option Width
  entryI : Option Width
  seenBody : Bool
  diagnostics : List Diagnostic

def Parser.report (s : Parser) (location : Location) (profile : Profile) (message : String) : Parser :=
  { s with diagnostics := s.diagnostics ++ [.new location profile message] }

/-- `.proc`: every declaration starts anew. -/
def Parser.begin (s : Parser) (location : Location) (name : Text) : Parser :=
  { s with
    current := some ⟨name, location, [], none, .ordinary⟩
    asmA := none, asmI := none, entryA := none, entryI := none, seenBody := false }

/-- `.endproc`: the widths at entry become the contract of an ordinary procedure. -/
def Parser.finish (profile : Profile) (s : Parser) (procedure : Procedure) : Parser :=
  match procedure.kind with
  | .interrupt => { s with current := none, procedures := s.procedures ++ [procedure] }
  | .ordinary =>
    match s.entryA, s.entryI with
    | some a, some i =>
      { s with current := none, procedures := s.procedures ++ [{ procedure with abi := some ⟨a, i⟩ }] }
    | _, _ =>
      { s with current := none, procedures := s.procedures ++ [{ procedure with abi := none }] }.report
        procedure.location profile "procedure must declare .a8/.a16 and .i8/.i16 at entry"

/-- What a statement is to the declarations: the procedure's kind, the directives, and the first of its body. -/
def Parser.declare (profile : Profile) (options : Options) (s : Parser) (location : Location) (code : Text) (lower : String)
    (procedure : Procedure) : Parser × Procedure :=
  if lower = "interrupt_entry" then
    (if s.seenBody || s.entryA.isSome || s.entryI.isSome then
      s.report location profile "interrupt_entry must be the first statement in a procedure" else s,
      { procedure with kind := .interrupt })
  else
    match accumulatorDirective lower with
    | some width =>
      let s := { s with asmA := some width }
      if !s.seenBody && s.entryA.isNone then ({ s with entryA := some width }, procedure)
      else if options.enforcePolicy then
        (s.report location profile ("bare accumulator-width directive is forbidden outside procedure ABI; " ++
          "use a width macro or width assert"), procedure)
      else (s, procedure)
    | none =>
      match indexDirective lower with
      | some width =>
        let s := { s with asmI := some width }
        if !s.seenBody && s.entryI.isNone then ({ s with entryI := some width }, procedure)
        else if options.enforcePolicy then
          (s.report location profile ("bare index-width directive is forbidden outside procedure ABI; " ++
            "use a width macro or width assert"), procedure)
        else (s, procedure)
      | none => (if !startsWith "." lower.toList && !isLabel code then { s with seenBody := true } else s, procedure)

/-- The widths that the parser takes to be declared behind a statement. -/
def declaredAfter (mnemonic : String) (asmA asmI : Option Width) : Option Width × Option Width :=
  match decode mnemonic with
  | .width a i => (a.or asmA, i.or asmI)
  | .assertWidths expected => (some expected.a, some expected.i)
  | _ => (asmA, asmI)

def Parser.statement (profile : Profile) (options : Options) (inUtility : Bool) (s : Parser) (location : Location)
    (code : Text) (procedure : Procedure) : Parser :=
  let (mnemonic, operand) := splitStatement code
  let lower := String.ofList (toAsciiLowercase mnemonic)
  let (s, procedure) := s.declare profile options location code lower procedure
  let s :=
    if options.enforcePolicy && !inUtility && ["rep", "sep", "plp", "xce"].contains lower then
      s.report location profile ("bare " ++ lower ++ " is forbidden; use the width-safe macro")
    else s
  let statement : Statement := ⟨location, code, lower, operand, s.asmA, s.asmI⟩
  let (asmA, asmI) := declaredAfter lower s.asmA s.asmI
  { s with current := some { procedure with statements := procedure.statements ++ [statement] }, asmA, asmI }

def Parser.line (profile : Profile) (options : Options) (path : List String) (s : Parser) (number : ℕ)
    (line : Text) : Parser :=
  let code := codeOf line
  let location : Location := ⟨path, number⟩
  if code = [] then s
  else
    match stripStart ".proc " code with
    | some name =>
      if s.current.isSome then s.report location profile "nested .proc is not supported"
      else s.begin location (trim name)
    | none =>
      match s.current with
      | none => s
      | some procedure =>
        if code = ".endproc".toList then s.finish profile procedure
        else s.statement profile options (["macro", "utility.asm"].isSuffixOf path) location code procedure

def parseProcedures (path : List String) (source : List Text) (profile : Profile) (options : Options) :
    List Procedure × List Diagnostic :=
  let start : Parser := ⟨[], none, none, none, none, none, false, []⟩
  let lines := (source.zip (activeLines source profile)).zipIdx.filter (·.1.2)
  let s := lines.foldl (fun s line => s.line profile options path (line.2 + 1) line.1.1) start
  (s.procedures, s.diagnostics)

/-! ### Workspaces -/

def sourceAllocation (line : Text) : Option (Text × ℕ) :=
  (splitOnce (· == ':') (codeOf line)).bind fun (name, declaration) =>
    if isSymbol (trim name) then
      (stripStart ".res " (trim declaration)).bind fun value =>
        let size := (trimStart value).takeWhile fun c => !isWhitespace c
        (parseUsizeLiteral size).map (trim name, ·)
    else none

def collectAllocations (files : List (List String × List Text)) : List (Text × ℕ) :=
  files.flatMap fun file => file.2.filterMap sourceAllocation

/-- One profile of `lint_workspace`. -/
def lintProfile (files : List (List String × List Text)) (options : Options) (profile : Profile) (fuel : ℕ) :
    Option (List Diagnostic) :=
  let parsed := files.map fun file => parseProcedures file.1 file.2 profile options
  (analyzeProcedures profile (collectAllocations files) (parsed.flatMap (·.1)) fuel).map
    fun diagnostics => parsed.flatMap (·.2) ++ diagnostics

/-- `lint_workspace`, on the sources by path and lines, with a bound on the turns of each analysis. -/
def lintWorkspace (files : List (List String × List Text)) (options : Options) (fuel : ℕ) :
    Option (List Diagnostic) :=
  (Profile.all.mapM fun profile => lintProfile files options profile fuel).map List.flatten

end SnesModem.Rust.AsmLint
