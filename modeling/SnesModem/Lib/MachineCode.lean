import SnesModem.Lib.Octets

/-!
# Straight-line machine code of the 65816

Octets that a 65816 in native mode fetches, decodes and performs, over its 128 KiB of work RAM.  An access to anything
else, and an instruction that is not decoded, ends in `none`.

* `Machine`: the registers, with index registers that are narrow when the status says so;
* `fetch`: the first instruction of the code, under the width of the accumulator;
* `run`: the code up to its end; `run_append`: a code after another one;
* `run_saved`: code that stores octets between a save and a restore of the status and the accumulator.
-/

namespace SnesModem.Lib.MachineCode

open SnesModem.Lib.Cpu65816 SnesModem.Lib.Octets

abbrev wideFlag : UInt8 := 0x20
abbrev narrowFlag : UInt8 := 0x10
abbrev negativeFlag : UInt8 := 0x80
abbrev zeroFlag : UInt8 := 0x02

/-- The registers and the work RAM, by its offset in the banks `7e` and `7f`. -/
@[ext]
structure Machine where
  a : UInt8
  b : UInt8
  x : UInt16
  y : UInt16
  stack : UInt16
  status : UInt8
  memory : Buffer
  narrow : status &&& narrowFlag ≠ 0 → high x = 0 ∧ high y = 0

/-- The work RAM at an address of the bus: two banks, and the mirror of its beginning in the system banks. -/
def ramAt (address : ℕ) : Option ℕ :=
  if 0x7e0000 ≤ address ∧ address < 0x800000 then some (address - 0x7e0000)
  else if address / 0x10000 % 0x80 < 0x40 ∧ address % 0x10000 < 0x2000 then some (address % 0x10000)
  else none

inductive Instruction where
  | php
  | plp
  | pha
  | pla
  | sep (mask : UInt8)
  | lda (value : UInt8)
  | lda16 (upper lower : UInt8)
  | staLong (address : ℕ)
  deriving DecidableEq, Repr

namespace Machine

variable (m : Machine)

/-- The accumulator has 16 bits. -/
def wide : Bool := m.status &&& wideFlag = 0

/-! ### Instructions -/

/-- A narrow index register has a high octet of zero. -/
def index (status : UInt8) (value : UInt16) : UInt16 := if status &&& narrowFlag ≠ 0 then word 0 (low value) else value

def setStatus (status : UInt8) : Machine where
  a := m.a
  b := m.b
  x := index status m.x
  y := index status m.y
  stack := m.stack
  status := status
  memory := m.memory
  narrow h := by simp [index, h]

/-- The flags of a value that is loaded, whose sign is in `top`. -/
def setFlags (top : UInt8) (zero : Bool) : Machine :=
  m.setStatus (m.status &&& (0xff ^^^ (negativeFlag ||| zeroFlag)) ||| top &&& negativeFlag |||
    if zero then zeroFlag else 0)

def store (address : ℕ) (octet : UInt8) : Option Machine :=
  (ramAt address).map fun i => { m with memory := Function.update m.memory i octet }

/-- The stack is in the first bank. -/
def push (octet : UInt8) : Option Machine :=
  (m.store m.stack.toNat octet).map fun m => { m with stack := m.stack - 1 }

def pull : Option (UInt8 × Machine) :=
  (ramAt (m.stack + 1).toNat).map fun i => (m.memory i, { m with stack := m.stack + 1 })

def lda (value : UInt8) : Machine := { m with a := value }.setFlags value (value = 0)

def lda16 (upper lower : UInt8) : Machine :=
  { m with a := lower, b := upper }.setFlags upper (upper = 0 && lower = 0)

end Machine

def Instruction.perform (m : Machine) : Instruction → Option Machine
  | .php => m.push m.status
  | .plp => m.pull.map fun (status, m) => m.setStatus status
  | .pha => if m.wide then (m.push m.b).bind fun m => m.push m.a else m.push m.a
  | .pla =>
    if m.wide then m.pull.bind fun (lower, m) => m.pull.map fun (upper, m) => m.lda16 upper lower
    else m.pull.map fun (value, m) => m.lda value
  | .sep mask => some (m.setStatus (m.status ||| mask))
  | .lda value => some (m.lda value)
  | .lda16 upper lower => some (m.lda16 upper lower)
  | .staLong address =>
    if m.wide then (m.store address m.a).bind fun m => m.store ((address + 1) % 0x1000000) m.b
    else m.store address m.a

/-! ### Fetches -/

/-- The first instruction, and the code behind it. -/
def fetch (wide : Bool) : List UInt8 → Option (Instruction × List UInt8)
  | [] => none
  | opcode :: code =>
    match opcode.toNat, wide, code with
    | 0x08, _, code => some (.php, code)
    | 0x28, _, code => some (.plp, code)
    | 0x48, _, code => some (.pha, code)
    | 0x68, _, code => some (.pla, code)
    | 0xe2, _, mask :: code => some (.sep mask, code)
    | 0xa9, false, value :: code => some (.lda value, code)
    | 0xa9, true, lower :: upper :: code => some (.lda16 upper lower, code)
    | 0x8f, _, lower :: upper :: bank :: code =>
      some (.staLong (0x10000 * bank.toNat + 0x100 * upper.toNat + lower.toNat), code)
    | _, _, _ => none

/-- So many instructions at most, up to the end of the code. -/
def execute : ℕ → List UInt8 → Machine → Option Machine
  | _, [], m => some m
  | 0, _ :: _, _ => none
  | fuel + 1, opcode :: code, m =>
    (fetch m.wide (opcode :: code)).bind fun (instruction, rest) => (instruction.perform m).bind (execute fuel rest)

/-- The code up to its end: no instruction is shorter than an octet. -/
def run (code : List UInt8) (m : Machine) : Option Machine := execute code.length code m

section Execute

variable {code code' rest : List UInt8} {m m' m'' : Machine} {instruction : Instruction}

/-- What is behind an instruction does not matter. -/
lemma fetch_append {wide : Bool} (h : fetch wide code = some (instruction, rest)) (code' : List UInt8) :
    fetch wide (code ++ code') = some (instruction, rest ++ code') := by
  cases code with
  | nil => exact absurd h nofun
  | cons opcode code =>
    unfold fetch at h ⊢
    rw [List.cons_append]
    dsimp only at h ⊢
    split at h <;> simp_all

/-- An instruction takes at least one octet. -/
lemma length_fetch {wide : Bool} (h : fetch wide code = some (instruction, rest)) : rest.length < code.length := by
  cases code with
  | nil => exact absurd h nofun
  | cons opcode code =>
    unfold fetch at h
    dsimp only at h
    split at h
    all_goals first
      | contradiction
      | obtain ⟨-, rfl⟩ := Prod.mk.inj (Option.some_inj.mp h)
        simp only [List.length_cons]
        omega

lemma execute_mono {fuel fuel' : ℕ} (hle : fuel ≤ fuel') (h : execute fuel code m = some m') :
    execute fuel' code m = some m' := by
  induction fuel generalizing fuel' code m with
  | zero =>
    cases code with
    | nil => cases fuel' <;> exact h
    | cons opcode code => exact absurd h nofun
  | succ fuel ih =>
    obtain ⟨fuel', rfl⟩ : ∃ n, fuel' = n + 1 := ⟨fuel' - 1, by omega⟩
    cases code with
    | nil => exact h
    | cons opcode code =>
      unfold execute at h ⊢
      obtain ⟨⟨instruction, rest⟩, hfetch, hrest⟩ := Option.bind_eq_some_iff.mp h
      obtain ⟨middle, hperform, hexecute⟩ := Option.bind_eq_some_iff.mp hrest
      rw [hfetch, Option.bind_some]
      dsimp only
      rw [hperform, Option.bind_some]
      exact ih (by omega) hexecute

/-- The first instruction of a code, and then the rest. -/
theorem run_step (hfetch : fetch m.wide code = some (instruction, rest)) (hperform : instruction.perform m = some m')
    (hrest : run rest m' = some m'') : run code m = some m'' := by
  have hlength := length_fetch hfetch
  unfold run at hrest ⊢
  cases code with
  | nil => exact absurd hfetch nofun
  | cons opcode code =>
    rw [List.length_cons] at hlength ⊢
    unfold execute
    rw [hfetch, Option.bind_some]
    dsimp only
    rw [hperform, Option.bind_some]
    exact execute_mono (by omega) hrest

/-- **A code after another one.** -/
theorem run_append (h : run code m = some m') (h' : run code' m' = some m'') : run (code ++ code') m = some m'' := by
  have hexecute : ∀ fuel code m, execute fuel code m = some m' → run (code ++ code') m = some m'' := by
    intro fuel
    induction fuel with
    | zero =>
      intro code m hcode
      cases code with
      | nil =>
        obtain rfl : m = m' := Option.some_inj.mp hcode
        exact h'
      | cons opcode code => exact absurd hcode nofun
    | succ fuel ih =>
      intro code m hcode
      cases code with
      | nil =>
        obtain rfl : m = m' := Option.some_inj.mp hcode
        exact h'
      | cons opcode code =>
        unfold execute at hcode
        obtain ⟨⟨instruction, rest⟩, hfetch, hrest⟩ := Option.bind_eq_some_iff.mp hcode
        obtain ⟨middle, hperform, hexecute⟩ := Option.bind_eq_some_iff.mp hrest
        exact run_step (fetch_append hfetch code') hperform (ih rest middle hexecute)
  exact hexecute _ _ _ h

end Execute

/-! ### Stores between a save and a restore -/

/-- The octets that are stored, one after the other. -/
def storeAll (writes : List (ℕ × UInt8)) (memory : Buffer) : Buffer :=
  writes.foldl (fun memory write => Function.update memory write.1 write.2) memory

/-- `lda #value; sta address`, for an offset in the work RAM. -/
def storeCode (write : ℕ × UInt8) : List UInt8 :=
  [0xa9, write.2, 0x8f, UInt8.ofNat write.1, UInt8.ofNat (write.1 / 0x100), UInt8.ofNat (0x7e + write.1 / 0x10000)]

/-- `php; sep #$20; pha`, the stores, and `pla; plp`. -/
def savedCode (writes : List (ℕ × UInt8)) : List UInt8 :=
  [0x08, 0xe2, 0x20, 0x48] ++ writes.flatMap storeCode ++ [0x68, 0x28]

/-- The stack pointer has room for two octets in the work RAM, away from an offset. -/
def Machine.Clear (m : Machine) (i : ℕ) : Prop := i ≠ m.stack.toNat ∧ i + 1 ≠ m.stack.toNat

section Saved

variable {m m' m'' : Machine}

lemma storeAll_of_ne {writes : List (ℕ × UInt8)} {i : ℕ} (h : ∀ write ∈ writes, write.1 ≠ i) (memory : Buffer) :
    storeAll writes memory i = memory i := by
  induction writes generalizing memory with
  | nil => rfl
  | cons write writes ih =>
    have hfirst : i ≠ write.1 := (h write List.mem_cons_self).symm
    exact (ih (fun write hmem => h write (List.mem_cons_of_mem _ hmem)) _).trans (Function.update_of_ne hfirst _ _)

lemma storeAll_append (writes writes' : List (ℕ × UInt8)) (memory : Buffer) :
    storeAll (writes ++ writes') memory = storeAll writes' (storeAll writes memory) := List.foldl_append

/-- Octets that go one behind the other are a string. -/
lemma storeAll_mapIdx (octets : List UInt8) (offset : ℕ) (memory : Buffer) :
    storeAll (octets.mapIdx fun i octet => (offset + i, octet)) memory = write memory offset octets := by
  induction octets generalizing offset memory with
  | nil => exact (write_nil _ _).symm
  | cons octet octets ih =>
    have hshift : (octets.mapIdx fun i octet => (offset + (i + 1), octet)) =
        octets.mapIdx fun i octet => (offset + 1 + i, octet) := by
      congr 1
      funext i octet
      rw [Nat.add_assoc, Nat.add_comm 1]
    rw [List.mapIdx_cons, hshift]
    have hrest := ih (offset + 1) (Function.update memory offset octet)
    refine hrest.trans ?_
    funext i
    unfold write
    rw [List.length_cons]
    by_cases hfirst : i = offset
    · subst hfirst
      rw [if_neg (by omega), if_pos (by omega), Nat.sub_self, Function.update_self, List.getD_cons_zero]
    · rw [Function.update_of_ne hfirst]
      refine if_ctx_congr (by omega) (fun hin => ?_) fun _ => rfl
      obtain ⟨k, hk⟩ : ∃ k, i - offset = k + 1 := ⟨i - offset - 1, by omega⟩
      rw [hk, List.getD_cons_succ, show i - (offset + 1) = k by omega]

lemma ramAt_of_lt {address : ℕ} (h : address < 0x2000) : ramAt address = some address := by
  have hbank : address / 0x10000 % 0x80 < 0x40 ∧ address % 0x10000 < 0x2000 := by omega
  have hoffset : address % 0x10000 = address := by omega
  unfold ramAt
  rw [if_neg (by omega), if_pos hbank, hoffset]

/-- Registers that are narrow already are not touched. -/
lemma index_of_narrow {status : UInt8} {value : UInt16} (h : status &&& narrowFlag ≠ 0 → high value = 0) :
    Machine.index status value = value := by
  unfold Machine.index
  split
  · rename_i hflag
    conv_rhs => rw [← word_high_low value, h hflag]
  · rfl

lemma setStatus_index {status : UInt8} (h : status &&& narrowFlag = m.status &&& narrowFlag) :
    (m.setStatus status).x = m.x ∧ (m.setStatus status).y = m.y := by
  have hnarrow := m.narrow
  rw [← h] at hnarrow
  exact ⟨index_of_narrow fun hflag => (hnarrow hflag).1, index_of_narrow fun hflag => (hnarrow hflag).2⟩

lemma or_and (a b flag : UInt8) : (a ||| b) &&& flag = a &&& flag ||| b &&& flag :=
  UInt8.toBitVec_inj.mp BitVec.and_or_distrib_right

/-- The flags of a value are not those of the widths. -/
lemma flags_and {flag : UInt8} (hflag : (0xff ^^^ (negativeFlag ||| zeroFlag)) &&& flag = flag)
    (hnegative : negativeFlag &&& flag = 0) (hzero : zeroFlag &&& flag = 0) (status top : UInt8) (zero : Bool) :
    (status &&& (0xff ^^^ (negativeFlag ||| zeroFlag)) ||| top &&& negativeFlag ||| if zero then zeroFlag else 0) &&& flag =
      status &&& flag := by
  have hlast : (if zero then zeroFlag else 0) &&& flag = 0 := by
    cases zero
    · exact UInt8.zero_and
    · exact hzero
  rw [or_and, or_and, UInt8.and_assoc, UInt8.and_assoc, hflag, hnegative, hlast,
    UInt8.and_zero, UInt8.or_zero, UInt8.or_zero]

/-- What the code between the save and the restore leaves alone. -/
structure Kept (m m' : Machine) : Prop where
  b : m'.b = m.b
  x : m'.x = m.x
  y : m'.y = m.y
  stack : m'.stack = m.stack
  wide : m'.wide = m.wide

lemma Kept.trans (h : Kept m m') (h' : Kept m' m'') : Kept m m'' :=
  ⟨h'.b.trans h.b, h'.x.trans h.x, h'.y.trans h.y, h'.stack.trans h.stack, h'.wide.trans h.wide⟩

lemma lda_kept (m : Machine) (value : UInt8) : Kept m (m.lda value) where
  b := rfl
  x := (setStatus_index (m := { m with a := value }) (flags_and rfl rfl rfl _ _ _)).1
  y := (setStatus_index (m := { m with a := value }) (flags_and rfl rfl rfl _ _ _)).2
  stack := rfl
  wide := congrArg (fun flag => decide (flag = 0)) (flags_and rfl rfl rfl _ _ _)

/-- A store in the work RAM, through an accumulator of 8 bits. -/
lemma run_storeCode {write : ℕ × UInt8} (hwide : m.wide = false) (hram : write.1 < 0x20000) :
    ∃ m', run (storeCode write) m = some m' ∧ Kept m m' ∧ m'.memory = Function.update m.memory write.1 write.2 := by
  have hkept := lda_kept m write.2
  have hwide' : (m.lda write.2).wide = false := hkept.wide.trans hwide
  have haddress : 0x10000 * (UInt8.ofNat (0x7e + write.1 / 0x10000)).toNat + 0x100 * (UInt8.ofNat (write.1 / 0x100)).toNat +
      (UInt8.ofNat write.1).toNat = 0x7e0000 + write.1 := by
    rw [UInt8.toNat_ofNat', UInt8.toNat_ofNat', UInt8.toNat_ofNat']
    omega
  have hstored : (m.lda write.2).store (0x7e0000 + write.1) write.2 =
      some { m.lda write.2 with memory := Function.update m.memory write.1 write.2 } := by
    have hindex : ramAt (0x7e0000 + write.1) = some write.1 := by
      unfold ramAt
      rw [if_pos (by omega), Nat.add_sub_cancel_left]
    unfold Machine.store
    rw [hindex]
    rfl
  refine ⟨{ m.lda write.2 with memory := Function.update m.memory write.1 write.2 }, ?_, ?_, rfl⟩
  · have hfetch : fetch m.wide (storeCode write) = some (.lda write.2, [0x8f, UInt8.ofNat write.1,
        UInt8.ofNat (write.1 / 0x100), UInt8.ofNat (0x7e + write.1 / 0x10000)]) := by
      rw [hwide]
      rfl
    have hfetch' : fetch (m.lda write.2).wide [0x8f, UInt8.ofNat write.1, UInt8.ofNat (write.1 / 0x100),
        UInt8.ofNat (0x7e + write.1 / 0x10000)] = some (.staLong (0x7e0000 + write.1), []) := by
      rw [← haddress]
      rfl
    have hperform : Instruction.perform (m.lda write.2) (.staLong (0x7e0000 + write.1)) =
        some { m.lda write.2 with memory := Function.update m.memory write.1 write.2 } := by
      unfold Instruction.perform
      dsimp only
      rw [hwide', if_neg Bool.false_ne_true]
      exact hstored
    exact run_step hfetch rfl (run_step hfetch' hperform rfl)
  · exact ⟨hkept.b, hkept.x, hkept.y, hkept.stack, hkept.wide⟩

lemma run_stores {writes : List (ℕ × UInt8)} (hwide : m.wide = false) (hram : ∀ write ∈ writes, write.1 < 0x20000) :
    ∃ m', run (writes.flatMap storeCode) m = some m' ∧ Kept m m' ∧ m'.memory = storeAll writes m.memory := by
  induction writes generalizing m with
  | nil => exact ⟨m, rfl, ⟨rfl, rfl, rfl, rfl, rfl⟩, rfl⟩
  | cons write writes ih =>
    obtain ⟨middle, hrun, hkept, hmemory⟩ := run_storeCode hwide (hram write List.mem_cons_self)
    obtain ⟨m', hrest, hkept', hmemory'⟩ :=
      ih (hkept.wide.trans hwide) fun write hmem => hram write (List.mem_cons_of_mem _ hmem)
    refine ⟨m', run_append hrun hrest, hkept.trans hkept', ?_⟩
    rw [hmemory', hmemory]
    rfl

lemma push_eq (hstack : m.stack.toNat < 0x2000) (octet : UInt8) :
    m.push octet = some { m with memory := Function.update m.memory m.stack.toNat octet, stack := m.stack - 1 } := by
  unfold Machine.push Machine.store
  rw [ramAt_of_lt hstack]
  rfl

lemma pull_eq (hstack : (m.stack + 1).toNat < 0x2000) :
    m.pull = some (m.memory (m.stack + 1).toNat, { m with stack := m.stack + 1 }) := by
  unfold Machine.pull
  rw [ramAt_of_lt hstack]
  rfl

/-- The octets that a save leaves under the stack pointer. -/
def Machine.saved (m : Machine) : Buffer :=
  Function.update (Function.update m.memory m.stack.toNat m.status) (m.stack - 1).toNat m.a

/-- The status and the accumulator are saved, and the accumulator gets narrow. -/
lemma run_save (hpositive : 0 < m.stack.toNat) (hstack : m.stack.toNat < 0x2000) :
    ∃ m', run [0x08, 0xe2, 0x20, 0x48] m = some m' ∧ m'.memory = m.saved ∧ m'.stack = m.stack - 1 - 1 ∧ m'.b = m.b ∧
      m'.x = m.x ∧ m'.y = m.y ∧ m'.wide = false := by
  have hone : (1 : UInt16).toNat = 1 := rfl
  have hbelow : (m.stack - 1).toNat < 0x2000 := by
    rw [UInt16.toNat_sub, hone]
    omega
  set pushed : Machine := { m with memory := Function.update m.memory m.stack.toNat m.status, stack := m.stack - 1 } with hpushed
  set narrowed := pushed.setStatus (pushed.status ||| 0x20) with hnarrowed
  have hwide : narrowed.wide = false := by
    have hflag : (m.status ||| 0x20) &&& wideFlag ≠ 0 := by
      have hself : (0x20 : UInt8) &&& wideFlag = wideFlag := rfl
      rw [or_and, hself]
      exact octet_forall (P := fun octet => octet &&& wideFlag ||| wideFlag ≠ 0) (by decide +kernel) m.status
    exact decide_eq_false hflag
  have hindex : (pushed.status ||| 0x20) &&& narrowFlag = pushed.status &&& narrowFlag := by
    have hother : (0x20 : UInt8) &&& narrowFlag = 0 := rfl
    rw [or_and, hother, UInt8.or_zero]
  have hpha : Instruction.perform narrowed .pha =
      some { narrowed with memory := Function.update narrowed.memory narrowed.stack.toNat narrowed.a, stack := narrowed.stack - 1 } := by
    unfold Instruction.perform
    dsimp only
    rw [hwide, if_neg Bool.false_ne_true]
    exact push_eq hbelow _
  refine ⟨{ narrowed with memory := Function.update narrowed.memory narrowed.stack.toNat narrowed.a, stack := narrowed.stack - 1 },
    ?_, rfl, rfl, rfl, ?_, ?_, hwide⟩
  · have hphp : Instruction.perform m .php = some pushed := push_eq hstack m.status
    have hsep : Instruction.perform pushed (.sep 0x20) = some narrowed := rfl
    have hfetchPhp : fetch m.wide [0x08, 0xe2, 0x20, 0x48] = some (.php, [0xe2, 0x20, 0x48]) := rfl
    have hfetchSep : fetch pushed.wide [0xe2, 0x20, 0x48] = some (.sep 0x20, [0x48]) := rfl
    have hfetchPha : fetch narrowed.wide [0x48] = some (.pha, []) := rfl
    exact run_step hfetchPhp hphp (run_step hfetchSep hsep (run_step hfetchPha hpha rfl))
  · exact (setStatus_index hindex).1
  · exact (setStatus_index hindex).2

/-- The accumulator and the status are restored, from octets above the stack pointer. -/
lemma run_restore {a status : UInt8} (hwide : m.wide = false) (hfirst : (m.stack + 1).toNat < 0x2000)
    (hsecond : (m.stack + 1 + 1).toNat < 0x2000) (ha : m.memory (m.stack + 1).toNat = a) (hstatus : m.memory (m.stack + 1 + 1).toNat = status)
    (hnarrow : status &&& narrowFlag ≠ 0 → high m.x = 0 ∧ high m.y = 0) :
    run [0x68, 0x28] m = some ⟨a, m.b, m.x, m.y, m.stack + 1 + 1, status, m.memory, hnarrow⟩ := by
  set pulled := ({ m with stack := m.stack + 1 } : Machine).lda a with hpulled
  have hkept : Kept { m with stack := m.stack + 1 } pulled := lda_kept _ a
  have hpla : Instruction.perform m .pla = some pulled := by
    unfold Instruction.perform
    dsimp only
    rw [hwide, if_neg Bool.false_ne_true, pull_eq hfirst, ha]
    rfl
  have hplp : Instruction.perform pulled .plp = some ⟨a, m.b, m.x, m.y, m.stack + 1 + 1, status, m.memory, hnarrow⟩ := by
    have hpull : pulled.pull = some (status, { pulled with stack := pulled.stack + 1 }) := by
      have hat : pulled.memory (pulled.stack + 1).toNat = status := hstatus
      have hbelow : (pulled.stack + 1).toNat < 0x2000 := hsecond
      rw [pull_eq hbelow, hat]
    unfold Instruction.perform
    rw [hpull]
    refine congrArg some (Machine.ext rfl rfl ?_ ?_ rfl rfl rfl)
    · change Machine.index status pulled.x = m.x
      rw [hkept.x]
      exact index_of_narrow fun hflag => (hnarrow hflag).1
    · change Machine.index status pulled.y = m.y
      rw [hkept.y]
      exact index_of_narrow fun hflag => (hnarrow hflag).2
  have hfetchPla : fetch m.wide [0x68, 0x28] = some (.pla, [0x28]) := rfl
  have hfetchPlp : fetch pulled.wide [0x28] = some (.plp, []) := rfl
  exact run_step hfetchPla hpla (run_step hfetchPlp hplp rfl)

/-- **The code stores the octets and restores the registers**, whatever the widths are, if the stack is in the work RAM
and no octet is stored over what is saved. -/
theorem run_saved {writes : List (ℕ × UInt8)} (hpositive : 0 < m.stack.toNat) (hstack : m.stack.toNat < 0x2000)
    (hram : ∀ write ∈ writes, write.1 < 0x20000) (hclear : ∀ write ∈ writes, m.Clear write.1) :
    run (savedCode writes) m = some { m with memory := storeAll writes m.saved } := by
  have hone : (1 : UInt16).toNat = 1 := rfl
  have hbelow : (m.stack - 1).toNat = m.stack.toNat - 1 := by
    rw [UInt16.toNat_sub, hone]
    omega
  obtain ⟨narrowed, hsave, hmemory, hpointer, hb, hx, hy, hwide⟩ := run_save hpositive hstack
  obtain ⟨stored, hstores, hkept, hmemory'⟩ := run_stores hwide hram
  have hpointer' : stored.stack = m.stack - 1 - 1 := hkept.stack.trans hpointer
  have hfirst : stored.stack + 1 = m.stack - 1 := by
    rw [hpointer', UInt16.sub_add_cancel]
  have hsecond : stored.stack + 1 + 1 = m.stack := by
    rw [hfirst, UInt16.sub_add_cancel]
  -- The stores leave what is saved.
  have ha : stored.memory (stored.stack + 1).toNat = m.a := by
    have hne : ∀ write ∈ writes, write.1 ≠ (m.stack - 1).toNat := by
      intro write hmem heq
      have hother := (hclear write hmem).2
      omega
    rw [hmemory', hmemory, hfirst, storeAll_of_ne hne]
    exact Function.update_self _ _ _
  have hstatus : stored.memory (stored.stack + 1 + 1).toNat = m.status := by
    rw [hmemory', hmemory, hsecond, storeAll_of_ne fun write hmem => (hclear write hmem).1]
    exact (Function.update_of_ne (by omega) _ _).trans (Function.update_self _ _ _)
  have hnarrow : m.status &&& narrowFlag ≠ 0 → high stored.x = 0 ∧ high stored.y = 0 := by
    rw [hkept.x, hkept.y, hx, hy]
    exact m.narrow
  have hrestore := run_restore (hkept.wide.trans hwide) (by rw [hfirst]; omega) (by rw [hsecond]; omega) ha hstatus hnarrow
  have heq : (⟨m.a, stored.b, stored.x, stored.y, stored.stack + 1 + 1, m.status, stored.memory, hnarrow⟩ : Machine) =
      { m with memory := storeAll writes m.saved } :=
    Machine.ext rfl (hkept.b.trans hb) (hkept.x.trans hx) (hkept.y.trans hy) hsecond rfl (hmemory'.trans (by rw [hmemory]))
  rw [heq] at hrestore
  exact run_append (run_append hsave hstores) hrestore

end Saved

end SnesModem.Lib.MachineCode
