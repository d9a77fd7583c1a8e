import SnesModem.Lib.MachineCode
import SnesModem.Rust.DiagnosticSnapshot

/-!
# How the host writes into the console

`qusb2snes.rs`: the host has no way to write into the work RAM, so it sends machine code that does, and lets the console
run it.

* `WramAddress`, `ExecutionPayload`: an address that is in the work RAM, and a payload whose type says which registers
  are saved;
* `buildWramWritePayload`: the code for a list of writes; `build_ok_iff`: when there is one, and what it is;
* `mailboxWrites`, `prepare`: the writes of an invocation of the mailbox;
* `await`, `awaitAll`: what the host makes of its reads of the mailbox.
-/

namespace SnesModem.Rust.Qusb2snes

open SnesModem.Lib.Cpu65816 (word)
open SnesModem.Lib.Octets SnesModem.Lib.MachineCode
open SnesModem.Lib.Md5 (leWord)
open SnesModem.Rust.Protocol (ensure)

/-- So many hexadecimal digits at least. -/
def hex (width n : ℕ) : String :=
  let digits := Nat.toDigits 16 n
  String.ofList (List.replicate (width - digits.length) '0' ++ digits)

/-! ### The payload -/

abbrev fxpakExecutionCapacity : ℕ := 0x100

structure WramAddress where
  address : ℕ
  lower : 0x7e0000 ≤ address
  upper : address ≤ 0x7fffff

namespace WramAddress

def new (address : UInt32) : Except String WramAddress :=
  if h : 0x7e0000 ≤ address.toNat ∧ address.toNat ≤ 0x7fffff then .ok ⟨address.toNat, h.1, h.2⟩
  else .error ("execution payload target 0x" ++ hex 6 address.toNat ++ " is outside SNES WRAM")

/-- The octets, low octet first. -/
def octets (target : WramAddress) : List UInt8 :=
  [UInt8.ofNat target.address, UInt8.ofNat (target.address / 0x100), UInt8.ofNat (target.address / 0x10000)]

end WramAddress

/-- What a payload has done with the registers. -/
inductive PayloadState where
  | entry | a8Saved

structure ExecutionPayload (state : PayloadState) where
  bytes : List UInt8

namespace ExecutionPayload

def new : ExecutionPayload .entry := ⟨[]⟩

def preserveStatusAndAccumulatorAsA8 (payload : ExecutionPayload .entry) : ExecutionPayload .a8Saved :=
  ⟨payload.bytes ++ [0x08] ++ [0xe2, 0x20] ++ [0x48]⟩

def storeWramByte (target : WramAddress) (value : UInt8) (payload : ExecutionPayload .a8Saved) : ExecutionPayload .a8Saved :=
  ⟨payload.bytes ++ [0xa9, value] ++ [0x8f] ++ target.octets⟩

def restoreStatusAndAccumulator (payload : ExecutionPayload .a8Saved) : Except String (List UInt8) :=
  let bytes := payload.bytes ++ [0x68] ++ [0x28]
  if bytes.length ≤ fxpakExecutionCapacity then .ok bytes
  else .error "WRAM execution payload exceeds the FXPAK PRO 256-byte execution area"

end ExecutionPayload

def buildWramWritePayload (writes : List (UInt32 × UInt8)) : Except String (List UInt8) := do
  ensure (!writes.isEmpty) "WRAM execution payload has no writes"
  let payload ← writes.foldlM (fun (payload : ExecutionPayload .a8Saved) (write : UInt32 × UInt8) => do
    let target ← WramAddress.new write.1
    return payload.storeWramByte target write.2) ExecutionPayload.new.preserveStatusAndAccumulatorAsA8
  payload.restoreStatusAndAccumulator

/-! ### The mailbox -/

abbrev mailboxSize : ℕ := 96
abbrev mailboxArgumentSize : ℕ := 32
abbrev mailboxVersion : UInt16 := 10
abbrev statusPassed : UInt8 := 3
abbrev statusFailed : UInt8 := 4

def mailboxMagic : List UInt8 := [78, 68, 77, 67]

def readU16 (data : List UInt8) (offset : ℕ) : Except String UInt16 :=
  if data.length < offset + 2 then .error "mailbox u16 field is outside the input"
  else .ok (word (data.getD (offset + 1) 0) (data.getD offset 0))

def readU32 (data : List UInt8) (offset : ℕ) : Except String UInt32 :=
  if data.length < offset + 4 then .error "mailbox u32 field is outside the input"
  else .ok (leWord ((data.drop offset).take 4))

def validateMailbox (data : List UInt8) : Except String Unit := do
  ensure (mailboxSize ≤ data.length) "mailbox is shorter than its ABI size"
  ensure (data.take 4 = mailboxMagic) "mailbox magic does not match NDMC"
  ensure ((← readU16 data 4) = mailboxVersion) "unsupported mailbox ABI version"
  ensure ((← readU16 data 6).toNat = mailboxSize) "mailbox size does not match the generated ABI"

/-- `to_le_bytes`. -/
def leBytes (value : UInt32) : List UInt8 :=
  [value.toUInt8, (value >>> 8).toUInt8, (value >>> 16).toUInt8, (value >>> 24).toUInt8]

/-- Octets that go to addresses from `base` on. -/
def writesFrom (base : UInt32) (octets : List UInt8) : List (UInt32 × UInt8) :=
  octets.mapIdx fun index octet => (base + UInt32.ofNat index, octet)

/-- The writes of an invocation: the sequence goes last. -/
def mailboxWrites (mailbox : UInt32) (command : UInt8) (arguments : List UInt8) (sequence : UInt32) :
    List (UInt32 × UInt8) :=
  writesFrom (mailbox + 20) arguments ++ [(mailbox + 16, command)] ++ writesFrom (mailbox + 8) (leBytes sequence)

/-- `mailbox_command_with_arguments` up to the execution: the sequence and the payload. -/
def prepare (mailbox : UInt32) (initial : List UInt8) (command : UInt8) (arguments : List UInt8) :
    Except String (UInt32 × List UInt8) := do
  ensure (arguments.length ≤ mailboxArgumentSize) "mailbox arguments are too long"
  validateMailbox initial
  let current ← readU32 initial 12
  let sequence := current + 1
  return (sequence, ← buildWramWritePayload (mailboxWrites mailbox command arguments sequence))

/-- The host reads again, with what may be the answer, or has the result. -/
inductive Awaited where
  | again (candidate : Option (List UInt8))
  | passed (result : UInt16)
  deriving DecidableEq, Repr

/-- A read while the host waits; `late` if the time is up. -/
def await (command : UInt8) (sequence : UInt32) (late : Bool) (candidate : Option (List UInt8)) (data : List UInt8) :
    Except String Awaited := do
  validateMailbox data
  let processed ← readU32 data 12
  let status := data.getD 17 0
  if processed = sequence ∧ (status = statusPassed ∨ status = statusFailed) then
    if candidate ≠ some data then
      ensure (!late) s!"timed out stabilizing mailbox command {command}"
      return .again (some data)
    else
      let result ← readU16 data 18
      ensure (status = statusPassed) ("SFC mailbox command failed with result 0x" ++ hex 4 result.toNat)
      return .passed result
  else if late then
    let host ← readU32 data 8
    let result ← readU16 data 18
    .error (s!"timed out waiting for mailbox command {command}: host_sequence={host}, processed_sequence={processed}, " ++
      s!"observed_command={data.getD 16 0}, status={status}, result=0x" ++ hex 4 result.toNat)
  else return .again none

/-- The reads while the host waits, each with whether the time is up. -/
def awaitAll (command : UInt8) (sequence : UInt32) :
    Option (List UInt8) → List (Bool × List UInt8) → Except String Awaited
  | candidate, [] => .ok (.again candidate)
  | candidate, (late, data) :: reads => do
    match ← await command sequence late candidate data with
    | .again candidate => awaitAll command sequence candidate reads
    | .passed result => return .passed result

/-! ### When there is a payload -/

section Build

variable {writes : List (UInt32 × UInt8)}

/-- The writes by their offset in the work RAM. -/
def offsets (writes : List (UInt32 × UInt8)) : List (ℕ × UInt8) :=
  writes.map fun write => (write.1.toNat - 0x7e0000, write.2)

/-- The address is in the work RAM. -/
def InWram (address : UInt32) : Prop := 0x7e0000 ≤ address.toNat ∧ address.toNat ≤ 0x7fffff

instance : DecidablePred InWram := fun _ => inferInstanceAs (Decidable (_ ∧ _))

lemma new_ok {address : UInt32} (h : InWram address) : WramAddress.new address = .ok ⟨address.toNat, h.1, h.2⟩ := dif_pos h

lemma new_error {address : UInt32} (h : ¬ InWram address) :
    WramAddress.new address =
      .error ("execution payload target 0x" ++ hex 6 address.toNat ++ " is outside SNES WRAM") := dif_neg h

/-- The code of a store, whose target is the offset in the banks `7e` and `7f`. -/
lemma storeWramByte_bytes (target : WramAddress) (value : UInt8) (payload : ExecutionPayload .a8Saved) :
    (payload.storeWramByte target value).bytes = payload.bytes ++ storeCode (target.address - 0x7e0000, value) := by
  obtain ⟨address, hlower, hupper⟩ := target
  have hlow : UInt8.ofNat (address - 0x7e0000) = UInt8.ofNat address := by
    rw [← UInt8.toNat_inj, UInt8.toNat_ofNat', UInt8.toNat_ofNat']
    omega
  have hmiddle : UInt8.ofNat ((address - 0x7e0000) / 0x100) = UInt8.ofNat (address / 0x100) := by
    rw [← UInt8.toNat_inj, UInt8.toNat_ofNat', UInt8.toNat_ofNat']
    omega
  have hbank : 0x7e + (address - 0x7e0000) / 0x10000 = address / 0x10000 := by omega
  unfold ExecutionPayload.storeWramByte WramAddress.octets storeCode
  dsimp only
  rw [hlow, hmiddle, hbank]
  simp

lemma foldlM_store (hram : ∀ write ∈ writes, InWram write.1) (payload : ExecutionPayload .a8Saved) :
    writes.foldlM (fun (payload : ExecutionPayload .a8Saved) (write : UInt32 × UInt8) => do
      let target ← WramAddress.new write.1
      return payload.storeWramByte target write.2) payload =
      .ok ⟨payload.bytes ++ (offsets writes).flatMap storeCode⟩ := by
  induction writes generalizing payload with
  | nil => simp [offsets, pure, Except.pure]
  | cons write writes ih =>
    have hfirst := hram write List.mem_cons_self
    rw [List.foldlM_cons, new_ok hfirst]
    have hrest := ih (fun write hmem => hram write (List.mem_cons_of_mem _ hmem))
      (payload.storeWramByte ⟨write.1.toNat, hfirst.1, hfirst.2⟩ write.2)
    rw [storeWramByte_bytes, List.append_assoc] at hrest
    exact hrest

/-- The first address that is not in the work RAM is an error. -/
lemma foldlM_error (hout : ∃ write ∈ writes, ¬ InWram write.1) (payload : ExecutionPayload .a8Saved) :
    ∃ message, writes.foldlM (fun (payload : ExecutionPayload .a8Saved) (write : UInt32 × UInt8) => do
      let target ← WramAddress.new write.1
      return payload.storeWramByte target write.2) payload = .error message := by
  induction writes generalizing payload with
  | nil => simp at hout
  | cons write writes ih =>
    rw [List.foldlM_cons]
    by_cases hfirst : InWram write.1
    · rw [new_ok hfirst]
      obtain ⟨other, hmem, hother⟩ := hout
      rcases List.mem_cons.mp hmem with rfl | hmem
      · exact absurd hfirst hother
      · exact ih ⟨other, hmem, hother⟩ _
    · rw [new_error hfirst]
      exact ⟨_, rfl⟩

lemma length_savedCode (writes : List (ℕ × UInt8)) : (savedCode writes).length = 6 * writes.length + 6 := by
  have hstores : (writes.flatMap storeCode).length = 6 * writes.length := by
    induction writes with
    | nil => rfl
    | cons write writes ih =>
      have hone : (storeCode write).length = 6 := rfl
      rw [List.flatMap_cons, List.length_append, ih, hone, List.length_cons]
      omega
  unfold savedCode
  rw [List.length_append, List.length_append, hstores]
  simp only [List.length_cons, List.length_nil]
  omega

lemma build_of_wram (hsome : writes ≠ []) (hram : ∀ write ∈ writes, InWram write.1) :
    buildWramWritePayload writes =
      if writes.length ≤ 41 then .ok (savedCode (offsets writes))
      else .error "WRAM execution payload exceeds the FXPAK PRO 256-byte execution area" := by
  have hbytes : [0x08] ++ [0xe2, 0x20] ++ [0x48] ++ (offsets writes).flatMap storeCode ++ [0x68] ++ [0x28] =
      savedCode (offsets writes) := by
    unfold savedCode
    simp
  have hlength : (savedCode (offsets writes)).length = 6 * writes.length + 6 := by
    rw [length_savedCode, offsets, List.length_map]
  have hensure : ensure (!writes.isEmpty) "WRAM execution payload has no writes" = .ok () := by
    cases writes with
    | nil => exact absurd rfl hsome
    | cons write writes => rfl
  unfold buildWramWritePayload
  rw [hensure, foldlM_store hram]
  change ExecutionPayload.restoreStatusAndAccumulator ⟨[0x08] ++ [0xe2, 0x20] ++ [0x48] ++ _⟩ = _
  unfold ExecutionPayload.restoreStatusAndAccumulator
  dsimp only
  rw [hbytes, hlength]
  refine if_congr ?_ rfl rfl
  unfold fxpakExecutionCapacity
  omega

/-- **There is a payload** for at least one write and at most 41, all into the work RAM; it saves the registers, stores
the octets in the order of the writes and restores the registers. -/
theorem build_ok_iff {bytes : List UInt8} :
    buildWramWritePayload writes = .ok bytes ↔
      writes ≠ [] ∧ writes.length ≤ 41 ∧ (∀ write ∈ writes, InWram write.1) ∧ bytes = savedCode (offsets writes) := by
  by_cases hsome : writes = []
  · subst hsome
    exact ⟨nofun, fun h => absurd rfl h.1⟩
  by_cases hram : ∀ write ∈ writes, InWram write.1
  · rw [build_of_wram hsome hram]
    split
    · rename_i hlength
      rw [Except.ok.injEq]
      exact ⟨fun h => ⟨hsome, hlength, hram, h.symm⟩, fun h => h.2.2.2.symm⟩
    · rename_i hlength
      exact ⟨nofun, fun h => absurd h.2.1 hlength⟩
  · refine ⟨fun h => ?_, fun h => absurd h.2.2.1 hram⟩
    have hensure : ensure (!writes.isEmpty) "WRAM execution payload has no writes" = .ok () := by
      cases writes with
      | nil => exact absurd rfl hsome
      | cons write writes => rfl
    have hout : ∃ write ∈ writes, ¬ InWram write.1 := by simpa using hram
    obtain ⟨message, herror⟩ := foldlM_error hout ExecutionPayload.new.preserveStatusAndAccumulatorAsA8
    unfold buildWramWritePayload at h
    rw [hensure, herror] at h
    exact absurd h nofun

end Build

/-! ### What a payload does -/

/-- **A payload does its writes and nothing else.**  Run by a console in native mode, with any widths of the registers
and a stack in the work RAM that no write hits, it leaves every register as it was, the octets of the writes, later ones
over earlier ones, and two octets under the stack pointer. -/
theorem payload_run {writes : List (UInt32 × UInt8)} {bytes : List UInt8} (hbuild : buildWramWritePayload writes = .ok bytes)
    {m : Machine} (hpositive : 0 < m.stack.toNat) (hstack : m.stack.toNat < 0x2000)
    (hclear : ∀ write ∈ offsets writes, m.Clear write.1) :
    bytes.length ≤ fxpakExecutionCapacity ∧ run bytes m = some { m with memory := storeAll (offsets writes) m.saved } := by
  obtain ⟨-, hlength, hram, rfl⟩ := build_ok_iff.mp hbuild
  constructor
  · rw [length_savedCode, offsets, List.length_map]
    unfold fxpakExecutionCapacity
    omega
  · refine run_saved hpositive hstack (fun write hmem => ?_) hclear
    obtain ⟨original, horiginal, rfl⟩ := List.mem_map.mp hmem
    have hupper := (hram original horiginal).2
    dsimp only
    omega

/-- A console with narrow registers. -/
def narrowMachine : Machine where
  a := 0x12
  b := 0x34
  x := 0x56
  y := 0x78
  stack := 0x1ff0
  status := 0x31
  memory := fun _ => 0
  narrow _ := ⟨rfl, rfl⟩

def oneWrite : List (UInt32 × UInt8) := [(0x7e1234, 0x56)]

def onePayload : List UInt8 := [0x08, 0xe2, 0x20, 0x48, 0xa9, 0x56, 0x8f, 0x34, 0x12, 0x7e, 0x68, 0x28]

theorem payload_run_narrow :
    onePayload.length ≤ fxpakExecutionCapacity ∧
      run onePayload narrowMachine =
        some { narrowMachine with memory := storeAll (offsets oneWrite) narrowMachine.saved } := by
  have hbuild : buildWramWritePayload oneWrite = .ok onePayload := rfl
  have hclear : ∀ write ∈ offsets oneWrite, narrowMachine.Clear write.1 := by
    simp [offsets, oneWrite, Machine.Clear, narrowMachine]
  exact payload_run hbuild (by decide) (by decide) hclear

end SnesModem.Rust.Qusb2snes
