import SnesModem.Asm.SnapshotPairs
import SnesModem.Lib.ShiftRegister

/-!
# What the controller port reports

The complete read and the transfer, bit by bit, and the report that they come to.

* `Reported`: the registers hold the first nine bits of both lines, aligned to the top;
* `readCompleteReport_reported`, `modemTransfer9_reported`: so they do after either of the two waveforms;
* `Reported.present_iff`, `Reported.octet`, `Reported.hint_iff`: what the decisions of the poll look at;
* `portReport`: the report of the waveform.
-/

namespace SnesModem.Asm.Driver

open SnesModem.Lib.Cpu65816 SnesModem.Lib.Octets SnesModem.Lib.ShiftRegister Diagnostic

/-! ### The bits of a line -/

/-- A line in the first reads of the port. -/
def lineBits (line : UInt8 → Bool) (joyser1 : ℕ → UInt8) (n : ℕ) : List Bool :=
  (List.range n).map fun i => line (joyser1 i)

section LineBits

variable (line : UInt8 → Bool) (joyser1 : ℕ → UInt8)

@[simp] lemma length_lineBits (n : ℕ) : (lineBits line joyser1 n).length = n := by simp [lineBits]

lemma lineBits_succ (n : ℕ) : lineBits line joyser1 (n + 1) = lineBits line joyser1 n ++ [line (joyser1 n)] := by
  simp [lineBits, List.range_succ]

lemma lineBits_add (m n : ℕ) :
    lineBits line joyser1 (m + n) = lineBits line joyser1 m ++ lineBits line (fun i => joyser1 (m + i)) n := by
  induction n with
  | zero => simp [lineBits]
  | succ n ih => rw [← Nat.add_assoc, lineBits_succ, ih, List.append_assoc, lineBits_succ]

lemma value_lineBits_add (m n : ℕ) :
    value (lineBits line joyser1 (m + n)) =
      value (lineBits line joyser1 m) * 2 ^ n + value (lineBits line (fun i => joyser1 (m + i)) n) := by
  rw [lineBits_add, value_append, length_lineBits]

lemma value_lineBits_succ (n : ℕ) :
    value (lineBits line joyser1 (n + 1)) = 2 * value (lineBits line joyser1 n) + (line (joyser1 n)).toNat := by
  rw [lineBits_succ, value_concat]

lemma value_lineBits_lt (n : ℕ) : value (lineBits line joyser1 n) < 2 ^ n := by
  have hlt := value_lt (lineBits line joyser1 n)
  rwa [length_lineBits] at hlt

end LineBits

/-- The report of a waveform: eight bits of the octet, and the flag that says whether one is present; the hint is the
second bit of the other line. -/
def portReport (joyser1 : ℕ → UInt8) : Modem.Report where
  received := if dataLine (joyser1 8) then some (UInt8.ofNat (value (lineBits dataLine joyser1 8))) else none
  hint := statusLine (joyser1 1)

/-! ### The registers -/

section Registers

variable (d : Driver) {offset : ℕ}

lemma block_rol (carry : Bool) :
    (d.rol offset carry).1.block = Function.update d.block offset (shiftIn (d.block offset) carry) := rfl

/-- A register of two octets takes a bit. -/
lemma word16_rol16 (carry : Bool) :
    ((d.rol16 offset carry).word16 offset).toNat = (2 * (d.word16 offset).toNat + carry.toNat) % 65536 := by
  have hcarry := Bool.toNat_le carry
  have hlow := (d.block offset).toNat_lt
  have hhigh := (d.block (offset + 1)).toNat_lt
  have hbit : (decide (0x80 ≤ d.block offset)).toNat = (d.block offset).toNat / 128 := by
    by_cases hset : 0x80 ≤ d.block offset
    · have hset' : 128 ≤ (d.block offset).toNat := UInt8.le_iff_toNat_le.mp hset
      rw [decide_eq_true hset, Bool.toNat_true]
      omega
    · have hset' : (d.block offset).toNat < 128 := by
        by_contra hle
        exact hset (UInt8.le_iff_toNat_le.mpr (Nat.le_of_not_lt hle))
      rw [decide_eq_false hset, Bool.toNat_false]
      omega
  have hlow' : (d.rol16 offset carry).block offset = shiftIn (d.block offset) carry := by
    unfold rol16
    rw [block_rol, Function.update_of_ne (by omega), block_rol, Function.update_self]
  have hhigh' : (d.rol16 offset carry).block (offset + 1) =
      shiftIn (d.block (offset + 1)) (decide (0x80 ≤ d.block offset)) := by
    unfold rol16
    rw [block_rol, Function.update_self, block_rol, Function.update_of_ne (by omega)]
    rfl
  unfold word16
  rw [hlow', hhigh', toNat_word, toNat_word, toNat_shiftIn, toNat_shiftIn, hbit]
  omega

lemma block_rol16_of_ne (carry : Bool) {i : ℕ} (hi : i < offset ∨ offset + 1 < i) :
    (d.rol16 offset carry).block i = d.block i := by
  unfold rol16
  rw [block_rol, Function.update_of_ne (by omega), block_rol, Function.update_of_ne (by omega)]

lemma word16_rol16_of_ne (carry : Bool) {i : ℕ} (hi : i + 1 < offset ∨ offset + 1 < i) :
    (d.rol16 offset carry).word16 i = d.word16 i := by
  unfold word16
  rw [block_rol16_of_ne d carry (by omega), block_rol16_of_ne d carry (by omega)]

lemma shiftReports_words (data status : Bool) :
    ((shiftReports data status d).word16 lastDataReport).toNat =
        (2 * (d.word16 lastDataReport).toNat + data.toNat) % 65536 ∧
      ((shiftReports data status d).word16 lastStatusReport).toNat =
        (2 * (d.word16 lastStatusReport).toNat + status.toNat) % 65536 := by
  unfold shiftReports
  constructor
  · rw [word16_rol16_of_ne _ status (Or.inl (by decide)), word16_rol16]
  · rw [word16_rol16, word16_rol16_of_ne _ data (Or.inr (by decide))]

lemma readBits_words (joyser1 : ℕ → UInt8) (n : ℕ) :
    ((readBits joyser1 n d).word16 lastDataReport).toNat =
        ((d.word16 lastDataReport).toNat * 2 ^ n + value (lineBits dataLine joyser1 n)) % 65536 ∧
      ((readBits joyser1 n d).word16 lastStatusReport).toNat =
        ((d.word16 lastStatusReport).toNat * 2 ^ n + value (lineBits statusLine joyser1 n)) % 65536 := by
  induction n with
  | zero =>
    have hdata := (d.word16 lastDataReport).toNat_lt
    have hstatus := (d.word16 lastStatusReport).toNat_lt
    simp only [readBits, lineBits, List.range_zero, List.map_nil, value_nil]
    omega
  | succ n ih =>
    obtain ⟨hdata, hstatus⟩ := ih
    obtain ⟨hdata', hstatus'⟩ := shiftReports_words (readBits joyser1 n d) (dataLine (joyser1 n)) (statusLine (joyser1 n))
    unfold readBits
    rw [hdata', hstatus', hdata, hstatus, value_lineBits_succ, value_lineBits_succ, Nat.pow_succ]
    constructor
    · rw [← Nat.mul_assoc]
      omega
    · rw [← Nat.mul_assoc]
      omega

lemma alignReports_words (n : ℕ) :
    ((alignReports n d).word16 lastDataReport).toNat = ((d.word16 lastDataReport).toNat * 2 ^ n) % 65536 ∧
      ((alignReports n d).word16 lastStatusReport).toNat = ((d.word16 lastStatusReport).toNat * 2 ^ n) % 65536 := by
  induction n with
  | zero =>
    have hdata := (d.word16 lastDataReport).toNat_lt
    have hstatus := (d.word16 lastStatusReport).toNat_lt
    simp only [alignReports]
    omega
  | succ n ih =>
    obtain ⟨hdata, hstatus⟩ := ih
    obtain ⟨hdata', hstatus'⟩ := shiftReports_words (alignReports n d) false false
    unfold alignReports
    rw [hdata', hstatus', hdata, hstatus, Bool.toNat_false, Nat.pow_succ, ← Nat.mul_assoc, ← Nat.mul_assoc]
    omega

lemma clearReports_words :
    (clearReports d).word16 lastDataReport = 0 ∧ (clearReports d).word16 lastStatusReport = 0 := by
  have hzero : word 0 0 = 0 := rfl
  unfold word16 clearReports
  simp [Function.update_apply, hzero]

/-- The first bits of a transfer go into the low octets only. -/
def firstBits (data status : Bool) : Driver := ((d.rol lastDataReport data).1.rol lastStatusReport status).1

lemma transferReports_eq (joyser1 : ℕ → UInt8) :
    transferReports joyser1 d =
      alignReports 7 (readBits (fun i => joyser1 (i + 1)) 8
        (firstBits d (dataLine (joyser1 0)) (statusLine (joyser1 0)))) := rfl

lemma firstBits_words (data status : Bool) :
    ((firstBits (clearReports d) data status).word16 lastDataReport).toNat = data.toNat ∧
      ((firstBits (clearReports d) data status).word16 lastStatusReport).toNat = status.toNat := by
  have hone : ∀ bit : Bool, (word 0 (shiftIn 0 bit)).toNat = bit.toNat := by decide
  have hcleared : ∀ i, 0x18 ≤ i → i < 0x1c → (clearReports d).block i = 0 := by
    intro i hle hlt
    unfold clearReports
    simp only [block_store, Function.update_apply, lastDataReport, lastStatusReport]
    split_ifs <;> first | rfl | omega
  rw [← hone data, ← hone status]
  unfold word16 firstBits
  simp only [block_rol]
  constructor
  · rw [Function.update_of_ne (by decide), Function.update_of_ne (by decide), Function.update_of_ne (by decide),
      Function.update_self, hcleared _ (by decide) (by decide), hcleared _ (by decide) (by decide)]
  · rw [Function.update_of_ne (by decide), Function.update_of_ne (by decide), Function.update_self,
      Function.update_of_ne (by decide), hcleared _ (by decide) (by decide), hcleared _ (by decide) (by decide)]

end Registers

/-! ### The two waveforms -/

/-- The registers hold the first nine bits of both lines, aligned to the top; what is behind them is not looked at. -/
structure Reported (joyser1 : ℕ → UInt8) (d : Driver) : Prop where
  data : ∃ rest < 128, (d.word16 lastDataReport).toNat = value (lineBits dataLine joyser1 9) * 128 + rest
  status : ∃ rest < 128, (d.word16 lastStatusReport).toNat = value (lineBits statusLine joyser1 9) * 128 + rest

/-- A bit, eight more, and seven zeros in a register that loses none of them. -/
lemma aligned {first behind read aligned : ℕ} (hread : read = (first * 2 ^ 8 + behind) % 65536)
    (haligned : aligned = read * 2 ^ 7 % 65536) (hlt : first * 256 + behind < 512) :
    aligned = (first * 256 + behind) * 128 + 0 := by
  subst hread haligned
  omega

section Waveforms

variable (joyser1 : ℕ → UInt8) (d : Driver)

/-- Seven more bits follow in a complete read. -/
theorem readBits_reported : Reported joyser1 (readBits joyser1 16 (clearReports d)) := by
  obtain ⟨hdata, hstatus⟩ := readBits_words (clearReports d) joyser1 16
  rw [(clearReports_words d).1] at hdata
  rw [(clearReports_words d).2] at hstatus
  have hzero : (0 : UInt16).toNat = 0 := rfl
  have hsplit := fun line => value_lineBits_add line joyser1 9 7
  have hrest := fun line => value_lineBits_lt line (fun i => joyser1 (9 + i)) 7
  have hwhole : ∀ line : UInt8 → Bool, value (lineBits line joyser1 16) < 65536 := fun line =>
    value_lineBits_lt line joyser1 16
  constructor
  · refine ⟨_, hrest dataLine, ?_⟩
    rw [hdata, hzero, Nat.zero_mul, Nat.zero_add, Nat.mod_eq_of_lt (hwhole dataLine)]
    exact hsplit dataLine
  · refine ⟨_, hrest statusLine, ?_⟩
    rw [hstatus, hzero, Nat.zero_mul, Nat.zero_add, Nat.mod_eq_of_lt (hwhole statusLine)]
    exact hsplit statusLine

/-- The first bit of a transfer goes into the low octets only, and zeros follow the ninth. -/
theorem transferReports_reported : Reported joyser1 (transferReports joyser1 (clearReports d)) := by
  have hnine : ∀ line : UInt8 → Bool, value (lineBits line joyser1 9) =
      (line (joyser1 0)).toNat * 256 + value (lineBits line (fun i => joyser1 (i + 1)) 8) := by
    intro line
    have hsplit := value_lineBits_add line joyser1 1 8
    have hcomm : (fun i => joyser1 (1 + i)) = fun i => joyser1 (i + 1) := by
      funext i
      rw [Nat.add_comm]
    have hfirst : value (lineBits line joyser1 1) = (line (joyser1 0)).toNat := by
      rw [value_lineBits_succ]
      exact Nat.zero_add _
    rw [hcomm, hfirst] at hsplit
    exact hsplit
  have hbound : ∀ line : UInt8 → Bool, value (lineBits line joyser1 9) < 512 := fun line =>
    value_lineBits_lt line joyser1 9
  obtain ⟨hdataFirst, hstatusFirst⟩ := firstBits_words d (dataLine (joyser1 0)) (statusLine (joyser1 0))
  obtain ⟨hdata, hstatus⟩ := readBits_words
    (firstBits (clearReports d) (dataLine (joyser1 0)) (statusLine (joyser1 0))) (fun i => joyser1 (i + 1)) 8
  obtain ⟨hdata', hstatus'⟩ := alignReports_words (readBits (fun i => joyser1 (i + 1)) 8
    (firstBits (clearReports d) (dataLine (joyser1 0)) (statusLine (joyser1 0)))) 7
  rw [hdataFirst] at hdata
  rw [hstatusFirst] at hstatus
  constructor
  · refine ⟨0, by omega, ?_⟩
    have hlt := hbound dataLine
    rw [hnine] at hlt ⊢
    rw [transferReports_eq]
    exact aligned hdata hdata' hlt
  · refine ⟨0, by omega, ?_⟩
    have hlt := hbound statusLine
    rw [hnine] at hlt ⊢
    rw [transferReports_eq]
    exact aligned hstatus hstatus' hlt

end Waveforms

/-! ### What the poll looks at -/

namespace Reported

variable {joyser1 : ℕ → UInt8} {d d' : Driver} (h : Reported joyser1 d)

include h in
/-- The registers may have been left alone since. -/
lemma congr (hblock : ∀ i, lastDataReport ≤ i → i < traceNextSequence → d'.block i = d.block i) :
    Reported joyser1 d' := by
  have hdata : d'.word16 lastDataReport = d.word16 lastDataReport := by
    unfold word16
    rw [hblock _ (by decide) (by decide), hblock _ (by decide) (by decide)]
  have hstatus : d'.word16 lastStatusReport = d.word16 lastStatusReport := by
    unfold word16
    rw [hblock _ (by decide) (by decide), hblock _ (by decide) (by decide)]
  exact ⟨hdata ▸ h.data, hstatus ▸ h.status⟩

include h in
lemma toNat_dataLow : (d.block lastDataReport).toNat / 128 = (dataLine (joyser1 8)).toNat := by
  obtain ⟨rest, hrest, hdata⟩ := h.data
  have hlow := (d.block lastDataReport).toNat_lt
  have hbit := Bool.toNat_le (dataLine (joyser1 8))
  unfold word16 at hdata
  rw [toNat_word, value_lineBits_succ] at hdata
  omega

include h in
/-- The flag that an octet is present. -/
theorem present_iff : d.block lastDataReport &&& receivePresentMask = receivePresentMask ↔ dataLine (joyser1 8) = true := by
  have hmask : ∀ octet : UInt8, octet &&& receivePresentMask = receivePresentMask ↔ octet.toNat / 128 = 1 :=
    octet_forall (by decide +kernel)
  rw [hmask, h.toNat_dataLow]
  cases dataLine (joyser1 8) <;> decide

include h in
theorem absent_iff : d.block lastDataReport &&& receivePresentMask = 0 ↔ dataLine (joyser1 8) = false := by
  have hmask : ∀ octet : UInt8, octet &&& receivePresentMask = 0 ↔ octet.toNat / 128 = 0 :=
    octet_forall (by decide +kernel)
  rw [hmask, h.toNat_dataLow]
  cases dataLine (joyser1 8) <;> decide

include h in
/-- The octet itself. -/
theorem octet : d.block (lastDataReport + 1) = UInt8.ofNat (value (lineBits dataLine joyser1 8)) := by
  obtain ⟨rest, hrest, hdata⟩ := h.data
  have hlow := (d.block lastDataReport).toNat_lt
  have hbit := Bool.toNat_le (dataLine (joyser1 8))
  have hlt := value_lineBits_lt dataLine joyser1 8
  unfold word16 at hdata
  rw [toNat_word, value_lineBits_succ] at hdata
  rw [← UInt8.toNat_inj, UInt8.toNat_ofNat', Nat.mod_eq_of_lt hlt]
  omega

include h in
/-- The hint that more is to come. -/
theorem hint_iff : d.block (lastStatusReport + 1) &&& transferHintMask ≠ 0 ↔ statusLine (joyser1 1) = true := by
  obtain ⟨rest, hrest, hstatus⟩ := h.status
  have hlow := (d.block lastStatusReport).toNat_lt
  have hbit := Bool.toNat_le (statusLine (joyser1 1))
  have hsplit := value_lineBits_add statusLine joyser1 2 7
  have hrest' := value_lineBits_lt statusLine (fun i => joyser1 (2 + i)) 7
  unfold word16 at hstatus
  rw [toNat_word, hsplit, value_lineBits_succ] at hstatus
  have hmask : ∀ octet : UInt8, octet &&& transferHintMask ≠ 0 ↔ octet.toNat / 64 % 2 = 1 :=
    octet_forall (by decide +kernel)
  have hhigh : (d.block (lastStatusReport + 1)).toNat / 64 % 2 = (statusLine (joyser1 1)).toNat := by omega
  rw [hmask, hhigh]
  cases statusLine (joyser1 1) <;> decide

end Reported

end SnesModem.Asm.Driver
