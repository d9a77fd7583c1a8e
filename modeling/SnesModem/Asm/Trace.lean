import SnesModem.Asm.Diagnostics
import SnesModem.Lib.LogRing
import SnesModem.Lib.OctetWords
import SnesModem.Rust.TraceEvents

/-!
# The trace

`trace.asm` with the octets that it stores into the ring, and the other code as far as the trace is concerned: it
stores what it likes into the diagnostic block, the variables of the trace excepted.

* `modemRecordTrace`: one event, and `block_modemRecordTrace`: its effect on the block is that of the driver's;
* `perform`, `recorded`: what an operation does, and the events that it records;
* `slots_perform`: the ring is a log of the recorded events.
-/

namespace SnesModem.Asm.Trace

open SnesModem.Lib.Cpu65816 SnesModem.Lib.Octets SnesModem.Lib.OctetWords SnesModem.Asm.Diagnostic SnesModem.Rust.TraceEvents
open SnesModem.Lib.Md5 (leWord leOctets leNat toNat_leWord)

/-- The diagnostic block and the ring `modemTrace`. -/
structure Memory where
  block : Buffer
  ring : Buffer

/-- `MODEM_TRACE_*`. -/
def kindCode : TraceKind → UInt8
  | .poll16 => 1
  | .transfer9 => 2
  | .rxAccepted => 3
  | .rxDiscarded => 4
  | .tx => 5
  | .state => 6
  | .error => 7

/-! ### The instructions that store -/

def store16 (buffer : Buffer) (offset : ℕ) (value : UInt16) : Buffer :=
  Function.update (Function.update buffer offset (low value)) (offset + 1) (high value)

def word16 (buffer : Buffer) (offset : ℕ) : UInt16 := word (buffer (offset + 1)) (buffer offset)

def modemIncrement32 (buffer : Buffer) (offset : ℕ) : Buffer :=
  let buffer := store16 buffer offset (word16 buffer offset + 1)
  if word16 buffer offset = 0 then store16 buffer (offset + 2) (word16 buffer (offset + 2) + 1) else buffer

/-- Zero into the octets of a word, one by one. -/
def clear32 (buffer : Buffer) (offset : ℕ) : Buffer := write buffer offset [0, 0, 0, 0]

/-! ### `trace.asm` -/

/-- The octets of the sequence above the lowest. -/
def aboveFirstLap (block : Buffer) : UInt8 :=
  block (traceNextSequence + 1) ||| block (traceNextSequence + 2) ||| block (traceNextSequence + 3)

/-- The block behind the test for an event that is overwritten. -/
def markOverwriting (block : Buffer) : Buffer :=
  if aboveFirstLap block = 0 then block
  else modemIncrement32 (Function.update block flags (block flags ||| flagTraceOverwrite)) traceOverwrittenCount

/-- `and #$00ff` and four times `asl`. -/
def slotOffset (block : Buffer) : UInt16 := (word16 block traceNextSequence &&& 0x00ff) <<< 4

/-- The octets of an event, in the order of the record. -/
def eventOctets (kind : UInt8) (frameCounter : UInt32) (block : Buffer) : List UInt8 :=
  read block traceNextSequence 4 ++ leOctets 4 frameCounter.toNat ++
    [kind, block driverState, block lastDiscardReason, block flags] ++ read block lastDataReport 2 ++
    read block lastStatusReport 2

/-- `A` is the kind of the event. -/
def modemRecordTrace (kind : UInt8) (frameCounter : UInt32) (m : Memory) : Memory :=
  if m.block traceFrozen ≠ 0 then m
  else
    let block := markOverwriting m.block
    let ring := write m.ring (slotOffset block).toNat (eventOctets kind frameCounter block)
    let block := modemIncrement32 block traceNextSequence
    let block := if kind = kindCode .error then Function.update block traceFrozen 1 else block
    { block, ring }

def modemClearTrace (m : Memory) : Memory :=
  let block := clear32 (clear32 m.block traceNextSequence) traceOverwrittenCount
  { m with block := Function.update block flags (block flags &&& (0xff ^^^ flagTraceOverwrite)) }

def modemFreezeTrace (m : Memory) : Memory := { m with block := Function.update m.block traceFrozen 1 }

def modemResumeTrace (m : Memory) : Memory := { m with block := Function.update m.block traceFrozen 0 }

/-- `modemInitializeDiagnostics`, as far as the block goes: runs of stores, each from its first octet on. -/
def modemInitializeDiagnostics (m : Memory) : Memory :=
  let block := write m.block magic [78, 68, 77, 50]
  let block := store16 (store16 block version 2) size 128
  let block := write block driverState [DriverState.off.code, 0, 0, 0, 0, 0]
  let block := write block receiveReadIndex [0, 0, 0, 0, 0, 0]
  let block := clear32 (write block lastDataReport [0, 0, 0, 0]) traceNextSequence
  let block := write block atStatus [0, 0, 0, 0]
  { m with block := clear32 block atStartFrame }

/-! ### Runs -/

/-- The variables that only the trace stores into. -/
def traceVariable (i : ℕ) : Bool :=
  i = traceFrozen || (traceNextSequence ≤ i && i < traceNextSequence + 4) ||
    (traceOverwrittenCount ≤ i && i < traceOverwrittenCount + 4)

inductive Operation where
  | record (kind : UInt8) (frameCounter : UInt32)
  | freeze
  | resume
  /-- The rest of the program, with what the block holds after it. -/
  | other (values : Buffer)

def perform (m : Memory) : Operation → Memory
  | .record kind frameCounter => modemRecordTrace kind frameCounter m
  | .freeze => modemFreezeTrace m
  | .resume => modemResumeTrace m
  | .other values => { m with block := fun i => if traceVariable i then m.block i else values i }

/-- The event of a record. -/
def eventOf (kind : UInt8) (frameCounter : UInt32) (block : Buffer) : TraceEvent where
  sequence := dwordAt block traceNextSequence
  frame := frameCounter
  kind := kind
  state := block driverState
  reason := block lastDiscardReason
  flags := if aboveFirstLap block = 0 then block flags else block flags ||| flagTraceOverwrite
  dataReport := word16 block lastDataReport
  statusReport := word16 block lastStatusReport

/-- The events that an operation records: one, of a record while the trace is not frozen. -/
def recorded (m : Memory) : Operation → List TraceEvent
  | .record kind frameCounter => if m.block traceFrozen ≠ 0 then [] else [eventOf kind frameCounter m.block]
  | _ => []

def performAll (m : Memory) (operations : List Operation) : Memory := operations.foldl perform m

/-- The events of a run, in order. -/
def recordedAll : Memory → List Operation → List TraceEvent
  | _, [] => []
  | m, operation :: operations => recorded m operation ++ recordedAll (perform m operation) operations

/-! ### Words -/

section Words

variable (buffer : Buffer) (offset : ℕ)

lemma word16_store16 (value : UInt16) : word16 (store16 buffer offset value) offset = value := by
  unfold word16 store16
  rw [Function.update_self, Function.update_of_ne (by omega), Function.update_self, word_high_low]

lemma store16_of_ne (value : UInt16) {i : ℕ} (hlow : i ≠ offset) (hhigh : i ≠ offset + 1) :
    store16 buffer offset value i = buffer i := by
  unfold store16
  rw [Function.update_of_ne hhigh, Function.update_of_ne hlow]

lemma word16_congr {buffer buffer' : Buffer} (hlow : buffer offset = buffer' offset)
    (hhigh : buffer (offset + 1) = buffer' (offset + 1)) : word16 buffer offset = word16 buffer' offset := by
  unfold word16
  rw [hlow, hhigh]

lemma toNat_dwordAt : (dwordAt buffer offset).toNat =
    (word16 buffer offset).toNat + 65536 * (word16 buffer (offset + 2)).toNat := by
  unfold dwordAt word16
  rw [toNat_leWord, toNat_word, toNat_word, Nat.add_assoc offset 2 1]
  unfold leNat
  omega

/-- `modemIncrement32` counts. -/
lemma dwordAt_modemIncrement32 : dwordAt (modemIncrement32 buffer offset) offset = dwordAt buffer offset + 1 := by
  have hlow := (word16 buffer offset).toNat_lt
  have hhigh := (word16 buffer (offset + 2)).toNat_lt
  have hone : (1 : UInt16).toNat = 1 := rfl
  have hone' : (1 : UInt32).toNat = 1 := rfl
  have hzero : (0 : UInt16).toNat = 0 := rfl
  have hadd := UInt16.toNat_add (word16 buffer offset) 1
  have hadd' := UInt16.toNat_add (word16 buffer (offset + 2)) 1
  have hkept (stored : Buffer) (value : UInt16) : word16 (store16 stored (offset + 2) value) offset = word16 stored offset :=
    word16_congr _ (store16_of_ne _ _ _ (by omega) (by omega)) (store16_of_ne _ _ _ (by omega) (by omega))
  have hstored : word16 (store16 buffer offset (word16 buffer offset + 1)) (offset + 2) = word16 buffer (offset + 2) :=
    word16_congr _ (store16_of_ne _ _ _ (by omega) (by omega)) (store16_of_ne _ _ _ (by omega) (by omega))
  rw [← UInt32.toNat_inj, UInt32.toNat_add, toNat_dwordAt, toNat_dwordAt, hone']
  unfold modemIncrement32
  dsimp only
  rw [word16_store16]
  split
  · rename_i hcarry
    rw [word16_store16, hstored, hkept, word16_store16]
    rw [← UInt16.toNat_inj] at hcarry
    omega
  · rename_i hcarry
    rw [word16_store16, hstored]
    rw [← UInt16.toNat_inj] at hcarry
    omega

lemma modemIncrement32_of_disjoint {i : ℕ} (hi : i < offset ∨ offset + 4 ≤ i) :
    modemIncrement32 buffer offset i = buffer i := by
  unfold modemIncrement32
  split
  · rw [store16_of_ne _ _ _ (by omega) (by omega), store16_of_ne _ _ _ (by omega) (by omega)]
  · rw [store16_of_ne _ _ _ (by omega) (by omega)]

end Words

/-! ### The block -/

section Block

/-- The effect of a record on the block is that of the driver's. -/
theorem block_modemRecordTrace (kind : TraceKind) (frameCounter : UInt32) (d : Driver) (ring : Buffer) :
    (modemRecordTrace (kindCode kind) frameCounter ⟨d.block, ring⟩).block = (Driver.modemRecordTrace kind d).block := by
  have hstore16 (d : Driver) (offset : ℕ) (value : UInt16) :
      (d.store16 offset value).block = store16 d.block offset value := rfl
  have hincrement (d : Driver) (offset : ℕ) : (d.increment32 offset).block = modemIncrement32 d.block offset := by
    unfold Driver.increment32 modemIncrement32
    dsimp only
    have hword : (d.store16 offset (d.word16 offset + 1)).word16 offset =
      word16 (store16 d.block offset (word16 d.block offset + 1)) offset := rfl
    rw [hword]
    split <;> rfl
  have hkind : kindCode kind = kindCode .error ↔ kind = .error := by
    cases kind <;> decide
  unfold modemRecordTrace Driver.modemRecordTrace
  dsimp only
  by_cases hfrozen : d.block traceFrozen ≠ 0
  · rw [if_pos hfrozen, if_pos hfrozen]
  · rw [if_neg hfrozen, if_neg hfrozen]
    have hmark : (if aboveFirstLap d.block = 0 then d
        else (d.store flags (d.block flags ||| flagTraceOverwrite)).increment32 traceOverwrittenCount).block =
        markOverwriting d.block := by
      unfold markOverwriting
      split
      · rfl
      · rw [hincrement]
        rfl
    by_cases herror : kind = .error
    · rw [if_pos (hkind.mpr herror), if_pos herror, ← hmark, ← hincrement]
      rfl
    · rw [if_neg (mt hkind.mp herror), if_neg herror, ← hmark, ← hincrement]
      rfl

variable (block : Buffer)

lemma aboveFirstLap_eq_zero : aboveFirstLap block = 0 ↔ (dwordAt block traceNextSequence).toNat < 256 := by
  have hzero (octet : UInt8) : octet = 0 ↔ octet.toNat = 0 := by rw [← UInt8.toNat_inj]; rfl
  have hlow := (block traceNextSequence).toNat_lt
  unfold aboveFirstLap dwordAt
  rw [UInt8.or_eq_zero_iff, UInt8.or_eq_zero_iff, hzero, hzero, hzero, toNat_leWord]
  unfold leNat
  omega

lemma markOverwriting_of_disjoint {i : ℕ} (hflags : i ≠ flags)
    (hi : i < traceOverwrittenCount ∨ traceOverwrittenCount + 4 ≤ i) : markOverwriting block i = block i := by
  unfold markOverwriting
  split
  · rfl
  · rw [modemIncrement32_of_disjoint _ _ hi, Function.update_of_ne hflags]

lemma toNat_slotOffset : (slotOffset block).toNat = 16 * ((dwordAt block traceNextSequence).toNat % 256) := by
  have hmask : (0x00ff : UInt16).toNat = 2 ^ 8 - 1 := rfl
  have hcount : (4 : UInt16).toNat % 16 = 4 := rfl
  have hlow := (word16 block traceNextSequence).toNat_lt
  unfold slotOffset
  rw [UInt16.toNat_shiftLeft, UInt16.toNat_and, hmask, Nat.and_two_pow_sub_one_eq_mod, hcount, Nat.shiftLeft_eq,
    toNat_dwordAt]
  omega

end Block

/-! ### The slots -/

section Slots

/-- The event in a slot of the ring. -/
def slotAt (ring : Buffer) (k : ℕ) : TraceEvent where
  sequence := dwordAt ring (16 * k)
  frame := dwordAt ring (16 * k + 4)
  kind := ring (16 * k + 8)
  state := ring (16 * k + 9)
  reason := ring (16 * k + 10)
  flags := ring (16 * k + 11)
  dataReport := word16 ring (16 * k + 12)
  statusReport := word16 ring (16 * k + 14)

variable (ring block : Buffer) (kind : UInt8) (frameCounter : UInt32)

/-- The host decodes a slot to its event. -/
lemma decode_read (k : ℕ) : TraceEvent.decode (read ring (16 * k) 16) = some (slotAt ring k) := by
  rw [TraceEvent.decode, if_neg (by simp)]
  rfl

lemma leWord_leOctets (value : UInt32) : leWord (leOctets 4 value.toNat) = value := by
  have hlt := value.toNat_lt
  have hoctets : leOctets 4 value.toNat = [UInt8.ofNat (value.toNat / 256 ^ 0), UInt8.ofNat (value.toNat / 256 ^ 1),
    UInt8.ofNat (value.toNat / 256 ^ 2), UInt8.ofNat (value.toNat / 256 ^ 3)] := rfl
  rw [hoctets, ← UInt32.toNat_inj, toNat_leWord]
  unfold leNat
  rw [UInt8.toNat_ofNat', UInt8.toNat_ofNat', UInt8.toNat_ofNat', UInt8.toNat_ofNat']
  omega

@[simp] lemma length_eventOctets : (eventOctets kind frameCounter block).length = 16 := by
  simp [eventOctets]

/-- What is stored of an event is the event. -/
lemma decode_eventOctets :
    TraceEvent.decode (eventOctets kind frameCounter (markOverwriting block)) =
      some (eventOf kind frameCounter block) := by
  have hkept {i : ℕ} (hflags : i ≠ flags) (hi : i < traceOverwrittenCount ∨ traceOverwrittenCount + 4 ≤ i) :=
    markOverwriting_of_disjoint block hflags hi
  have hflagsOffset : flags = 0x0d := rfl
  have hsequenceOffset : traceNextSequence = 0x1c := rfl
  have hcountOffset : traceOverwrittenCount = 0x40 := rfl
  have hsequence : dwordAt (markOverwriting block) traceNextSequence = dwordAt block traceNextSequence :=
    dwordAt_congr fun x hx => hkept (by omega) (Or.inl (by omega))
  have hflags : markOverwriting block flags =
      if aboveFirstLap block = 0 then block flags else block flags ||| flagTraceOverwrite := by
    unfold markOverwriting
    split
    · rfl
    · rw [modemIncrement32_of_disjoint _ _ (Or.inl (by decide)), Function.update_self]
  have hdecode : TraceEvent.decode (eventOctets kind frameCounter (markOverwriting block)) = some
      { sequence := dwordAt (markOverwriting block) traceNextSequence
        frame := leWord (leOctets 4 frameCounter.toNat)
        kind := kind
        state := markOverwriting block driverState
        reason := markOverwriting block lastDiscardReason
        flags := markOverwriting block flags
        dataReport := word16 (markOverwriting block) lastDataReport
        statusReport := word16 (markOverwriting block) lastStatusReport } := by
    rw [TraceEvent.decode, if_neg (by simp)]
    rfl
  rw [hdecode, hsequence, leWord_leOctets, hflags, hkept (by decide) (by decide), hkept (by decide) (by decide),
    word16_congr _ (hkept (by decide) (by decide)) (hkept (by decide) (by decide)),
    word16_congr _ (hkept (by decide) (by decide)) (hkept (by decide) (by decide))]
  rfl

/-- A record goes to one slot. -/
lemma slotAt_write {octets : List UInt8} {event : TraceEvent} (hlength : octets.length = 16)
    (hdecode : TraceEvent.decode octets = some event) (k : ℕ) :
    slotAt (write ring (16 * k) octets) = Function.update (slotAt ring) k event := by
  funext k'
  apply Option.some_injective
  rw [← decode_read]
  by_cases hslot : k' = k
  · subst hslot
    have hread := read_write ring (16 * k') octets
    rw [hlength] at hread
    rw [hread, hdecode, Function.update_self]
  · rw [read_write_of_disjoint _ _ _ (by omega), decode_read, Function.update_of_ne hslot]

end Slots

/-! ### One record -/

section Record

variable {m : Memory} (hfrozen : m.block traceFrozen = 0) (kind : UInt8) (frameCounter : UInt32)

/-- The frozen flag is none of the words of the trace. -/
lemma dwordAt_update_frozen (block : Buffer) (octet : UInt8) {offset : ℕ} (hoffset : traceFrozen < offset) :
    dwordAt (Function.update block traceFrozen octet) offset = dwordAt block offset :=
  dwordAt_congr fun _ _ => Function.update_of_ne (by omega) _ _

lemma dwordAt_markOverwriting (block : Buffer) :
    dwordAt (markOverwriting block) traceNextSequence = dwordAt block traceNextSequence ∧
      dwordAt (markOverwriting block) traceOverwrittenCount = dwordAt block traceOverwrittenCount +
        if (dwordAt block traceNextSequence).toNat < 256 then 0 else 1 := by
  have hflags : flags = 0x0d := rfl
  have hsequence : traceNextSequence = 0x1c := rfl
  have hcount : traceOverwrittenCount = 0x40 := rfl
  constructor
  · exact dwordAt_congr fun x hx => markOverwriting_of_disjoint block (by omega) (Or.inl (by omega))
  · have hkept (octet : UInt8) : dwordAt (Function.update block flags octet) traceOverwrittenCount =
        dwordAt block traceOverwrittenCount := dwordAt_congr fun x hx => Function.update_of_ne (by omega) _ _
    unfold markOverwriting
    by_cases hlap : aboveFirstLap block = 0
    · rw [if_pos hlap, if_pos ((aboveFirstLap_eq_zero block).mp hlap), UInt32.add_zero]
    · rw [if_neg hlap, if_neg (mt (aboveFirstLap_eq_zero block).mpr hlap), dwordAt_modemIncrement32, hkept]

include hfrozen

/-- **What a record does** while the trace is not frozen. -/
theorem modemRecordTrace_spec :
    dwordAt (modemRecordTrace kind frameCounter m).block traceNextSequence = dwordAt m.block traceNextSequence + 1 ∧
      dwordAt (modemRecordTrace kind frameCounter m).block traceOverwrittenCount =
        dwordAt m.block traceOverwrittenCount + (if (dwordAt m.block traceNextSequence).toNat < 256 then 0 else 1) ∧
      slotAt (modemRecordTrace kind frameCounter m).ring =
        Function.update (slotAt m.ring) ((dwordAt m.block traceNextSequence).toNat % 256)
          (eventOf kind frameCounter m.block) := by
  have hsequence : traceNextSequence = 0x1c := rfl
  have hcount : traceOverwrittenCount = 0x40 := rfl
  obtain ⟨hnext, hoverwritten⟩ := dwordAt_markOverwriting m.block
  have hfreeze (block : Buffer) {offset : ℕ} (hoffset : traceFrozen < offset) :
      dwordAt (if kind = kindCode .error then Function.update block traceFrozen 1 else block) offset =
        dwordAt block offset := by
    split
    · exact dwordAt_update_frozen block 1 hoffset
    · rfl
  rw [modemRecordTrace, if_neg (not_not.mpr hfrozen)]
  dsimp only
  refine ⟨?_, ?_, ?_⟩
  · rw [hfreeze _ (by decide), dwordAt_modemIncrement32, hnext]
  · rw [hfreeze _ (by decide), ← hoverwritten]
    exact dwordAt_congr fun x hx => modemIncrement32_of_disjoint _ _ (Or.inr (by omega))
  · rw [toNat_slotOffset, hnext]
    exact slotAt_write _ (length_eventOctets _ _ _) (decode_eventOctets _ _ _) _

end Record

end SnesModem.Asm.Trace
