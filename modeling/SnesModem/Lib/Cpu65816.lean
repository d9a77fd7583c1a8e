import Mathlib.Data.UInt
import Mathlib.Logic.Function.Basic

/-!
# A 65816 with an 8-bit accumulator and 16-bit index registers

The registers that such code sees, the high accumulator byte `b` that it does not, the bytes of a data bank
and the addresses written so far, newest first.

* `tax` moves all sixteen bits of the accumulator, `lda` replaces its low byte only;
* `Writes region s s'`: between the two states only addresses of the region were written;
* `copyDown`: the loop that copies bytes until the index register `x`, counting down, is zero.
-/

namespace SnesModem.Lib.Cpu65816

structure Cpu where
  a : UInt8
  /-- The high byte of the accumulator, out of sight of 8-bit instructions. -/
  b : UInt8
  x : UInt16
  y : UInt16
  carry : Bool
  memory : ℕ → UInt8
  written : List ℕ

/-- The word of a high and a low byte. -/
def word (high low : UInt8) : UInt16 := high.toUInt16 <<< 8 ||| low.toUInt16

lemma toNat_word (high low : UInt8) : (word high low).toNat = 256 * high.toNat + low.toNat := by
  have hhigh := high.toNat_lt
  have hlow := low.toNat_lt
  have hmod : high.toNat * 2 ^ 8 % 2 ^ 16 = high.toNat * 2 ^ 8 := Nat.mod_eq_of_lt (by omega)
  unfold word
  rw [UInt16.toNat_or, UInt16.toNat_shiftLeft, UInt8.toNat_toUInt16, UInt8.toNat_toUInt16]
  show high.toNat <<< 8 % 2 ^ 16 ||| low.toNat = _
  rw [Nat.shiftLeft_eq, hmod, Nat.mul_comm, ← Nat.two_pow_add_eq_or_of_lt (by omega)]

lemma word_eq_zero {high low : UInt8} : word high low = 0 ↔ high = 0 ∧ low = 0 := by
  rw [← UInt16.toNat_inj, ← UInt8.toNat_inj, ← UInt8.toNat_inj, toNat_word]
  change _ = 0 ↔ _ = 0 ∧ _ = 0
  omega

lemma word_and (a b c d : UInt8) : word a b &&& word c d = word (a &&& c) (b &&& d) := by
  apply UInt16.eq_of_toBitVec_eq
  refine BitVec.eq_of_getLsbD_eq fun i hi => ?_
  have hshift : UInt16.toBitVec 8 % 16 = 8 := rfl
  simp only [word, UInt16.toBitVec_and, UInt16.toBitVec_or, UInt16.toBitVec_shiftLeft, UInt8.toBitVec_toUInt16,
    UInt8.toBitVec_and, BitVec.getLsbD_and, BitVec.getLsbD_or, hshift]
  by_cases h : i < 8
  · simp [h]
  · have hlow : ∀ octet : UInt8, octet.toBitVec.getLsbD i = false := fun octet =>
      BitVec.getLsbD_of_ge octet.toBitVec i (by omega)
    simp [h, hlow, hi]

namespace Cpu

variable (s : Cpu)

/-! ### Instructions -/

/-- The word at an address, low byte first. -/
def word16 (address : ℕ) : UInt16 := word (s.memory (address + 1)) (s.memory address)

def lda (value : UInt8) : Cpu := { s with a := value }

/-- `lda` with a 16-bit accumulator. -/
def lda16 (address : ℕ) : Cpu := { s with a := s.memory address, b := s.memory (address + 1) }

def store (address : ℕ) (value : UInt8) : Cpu :=
  { s with memory := Function.update s.memory address value, written := address :: s.written }

def sta (address : ℕ) : Cpu := s.store address s.a

/-- `sta` with a 16-bit accumulator. -/
def sta16 (address : ℕ) : Cpu := (s.store address s.a).store (address + 1) s.b

def stz (address : ℕ) : Cpu := s.store address 0

/-- `inc` of a byte in memory. -/
def inc (address : ℕ) : Cpu := s.store address (s.memory address + 1)

def dec (address : ℕ) : Cpu := s.store address (s.memory address - 1)

/-- `inc` of a word in memory, with a 16-bit accumulator. -/
def inc16 (address : ℕ) : Cpu :=
  (s.store address (s.word16 address + 1).toUInt8).store (address + 1) ((s.word16 address + 1) >>> 8).toUInt8

def tax : Cpu := { s with x := word s.b s.a }

def clc : Cpu := { s with carry := false }

def sec : Cpu := { s with carry := true }

/-- The loop that stores a zero to `size` bytes from `base` on, with `x` counting up. -/
def wipe (base size : ℕ) : Cpu := (List.range size).foldl (fun s x => s.stz (base + x)) s

/-- One turn of the copy loop. -/
def copyByte (source destination : ℕ) : Cpu :=
  { (s.lda (s.memory (source + s.y.toNat))).sta (destination + s.y.toNat) with y := s.y + 1, x := s.x - 1 }

/-- `lda source, y; sta destination, y; iny; dex; bne`, for `fuel` turns at most. -/
def copyDown (source destination : ℕ) : ℕ → Cpu → Option Cpu
  | 0, _ => none
  | fuel + 1, s =>
    let s := s.copyByte source destination
    if s.x = 0 then some s else copyDown source destination fuel s

end Cpu

/-! ### What code writes -/

/-- Only addresses of the region are written between two states. -/
structure Writes (region : ℕ → Prop) (s s' : Cpu) : Prop where
  logged : ∃ new, s'.written = new ++ s.written ∧ ∀ address ∈ new, region address
  frame : ∀ address, ¬ region address → s'.memory address = s.memory address

section Writes

variable {region region' : ℕ → Prop} {s s' s'' : Cpu}

lemma Writes.of_eq (hmemory : s'.memory = s.memory) (hwritten : s'.written = s.written) : Writes region s s' where
  logged := ⟨[], by simp [hwritten], by simp⟩
  frame _ _ := by rw [hmemory]

lemma Writes.refl (s : Cpu) : Writes region s s := .of_eq rfl rfl

lemma Writes.trans (h : Writes region s s') (h' : Writes region s' s'') : Writes region s s'' where
  logged := by
    obtain ⟨new, hnew, hregion⟩ := h.logged
    obtain ⟨new', hnew', hregion'⟩ := h'.logged
    refine ⟨new' ++ new, by rw [hnew', hnew, List.append_assoc], fun address hmem => ?_⟩
    rcases List.mem_append.mp hmem with hmem | hmem
    · exact hregion' address hmem
    · exact hregion address hmem
  frame address hout := (h'.frame address hout).trans (h.frame address hout)

lemma Writes.mono (h : Writes region s s') (hle : ∀ address, region address → region' address) :
    Writes region' s s' where
  logged := by
    obtain ⟨new, hnew, hregion⟩ := h.logged
    exact ⟨new, hnew, fun address hmem => hle address (hregion address hmem)⟩
  frame address hout := h.frame address fun hin => hout (hle address hin)

lemma Writes.store {address : ℕ} (value : UInt8) (h : region address) : Writes region s (s.store address value) where
  logged := ⟨[address], rfl, by simpa using h⟩
  frame other hout := by
    have hne : other ≠ address := fun heq => hout (by rwa [heq])
    exact Function.update_of_ne hne _ _

lemma Writes.store_word {address : ℕ} (low high : UInt8) (h : region address) (h' : region (address + 1)) :
    Writes region s ((s.store address low).store (address + 1) high) :=
  (Writes.store low h).trans (Writes.store high h')

lemma Writes.wipe {base size : ℕ} (h : ∀ x < size, region (base + x)) : Writes region s (s.wipe base size) := by
  unfold Cpu.wipe
  induction size with
  | zero => exact .refl s
  | succ size ih =>
    rw [List.range_succ, List.foldl_append]
    exact (ih fun x hx => h x (by omega)).trans (Writes.store 0 (h size (by omega)))

end Writes

/-- The address is written between two states. -/
def Wrote (address : ℕ) (s s' : Cpu) : Prop := ∃ new, s'.written = new ++ s.written ∧ address ∈ new

section Wrote

variable {region : ℕ → Prop} {s s' s'' : Cpu} {address : ℕ}

lemma Wrote.after (h : Wrote address s' s'') (hbefore : Writes region s s') : Wrote address s s'' := by
  obtain ⟨new, hnew, hmem⟩ := h
  obtain ⟨new', hnew', -⟩ := hbefore.logged
  exact ⟨new ++ new', by rw [hnew, hnew', List.append_assoc], List.mem_append_left _ hmem⟩

lemma Wrote.before (h : Wrote address s s') (hafter : Writes region s' s'') : Wrote address s s'' := by
  obtain ⟨new, hnew, hmem⟩ := h
  obtain ⟨new', hnew', -⟩ := hafter.logged
  exact ⟨new' ++ new, by rw [hnew', hnew, List.append_assoc], List.mem_append_right _ hmem⟩

lemma Wrote.inside (h : Wrote address s s') (hwrites : Writes region s s') : region address := by
  obtain ⟨new, hnew, hmem⟩ := h
  obtain ⟨new', hnew', hregion⟩ := hwrites.logged
  obtain rfl : new' = new := List.append_cancel_right (hnew'.symm.trans hnew)
  exact hregion address hmem

end Wrote

/-! ### The copy loop -/

/-- More turns than the loop takes do not change its end. -/
lemma copyDown_mono {source destination fuel fuel' : ℕ} {s s' : Cpu}
    (h : Cpu.copyDown source destination fuel s = some s') (hle : fuel ≤ fuel') :
    Cpu.copyDown source destination fuel' s = some s' := by
  induction fuel generalizing fuel' s with
  | zero => cases h
  | succ fuel ih =>
    obtain ⟨fuel', rfl⟩ : ∃ k, fuel' = k + 1 := ⟨fuel' - 1, by omega⟩
    simp only [Cpu.copyDown] at h ⊢
    split_ifs at h ⊢
    · exact h
    · exact ih h (by omega)

/-- **The copy loop**: with `n` in `x` (a count of `2 ^ 16` is written as zero) it stops after `n` turns,
has written the `n` bytes from the destination on and no others, and leaves there what was at the source. -/
theorem copyDown_spec (source destination : ℕ) (hle : destination ≤ source) (n fuel : ℕ) (s : Cpu) (hn : 1 ≤ n)
    (hfuel : n ≤ fuel) (hx : s.x.toNat = n % 2 ^ 16) (hn16 : n ≤ 2 ^ 16) (hy : s.y.toNat + n ≤ 2 ^ 16) :
    ∃ s', Cpu.copyDown source destination fuel s = some s' ∧
      (∃ new, s'.written = new ++ s.written ∧
        ∀ address, address ∈ new ↔ destination + s.y.toNat ≤ address ∧ address < destination + s.y.toNat + n) ∧
      ∀ address, s'.memory address =
        if destination + s.y.toNat ≤ address ∧ address < destination + s.y.toNat + n then
          s.memory (source + (address - destination)) else s.memory address := by
  induction n generalizing fuel s with
  | zero => omega
  | succ n ih =>
    obtain ⟨fuel, rfl⟩ : ∃ k, fuel = k + 1 := ⟨fuel - 1, by omega⟩
    set t := s.copyByte source destination with ht
    have htx : t.x = s.x - 1 := rfl
    have htmemory (address : ℕ) : t.memory address = if address = destination + s.y.toNat then
        s.memory (source + s.y.toNat) else s.memory address := by
      show Function.update _ _ _ address = _
      by_cases heq : address = destination + s.y.toNat
      · subst heq
        simp [Cpu.lda]
      · simp [heq, Cpu.lda]
    have htwritten : t.written = (destination + s.y.toNat) :: s.written := rfl
    have hzero : t.x = 0 ↔ n = 0 := by
      rw [htx]
      constructor
      · intro h
        have : s.x = 1 := by grind
        rw [this] at hx
        have : (1 : UInt16).toNat = 1 := rfl
        omega
      · rintro rfl
        have : s.x = 1 := UInt16.toNat_inj.mp hx
        rw [this]
        rfl
    simp only [Cpu.copyDown, ← ht]
    by_cases hlast : n = 0
    · subst hlast
      rw [if_pos (hzero.mpr rfl)]
      refine ⟨t, rfl, ⟨[destination + s.y.toNat], htwritten, fun address => ?_⟩, fun address => ?_⟩
      · simp only [List.mem_singleton]
        omega
      · rw [htmemory]
        by_cases heq : address = destination + s.y.toNat
        · subst heq
          rw [if_pos rfl, if_pos (by omega)]
          congr 1
          omega
        · rw [if_neg heq, if_neg (by omega)]
    · rw [if_neg (mt hzero.mp hlast)]
      have hty : t.y.toNat = s.y.toNat + 1 := by
        show (s.y + 1).toNat = _
        rw [UInt16.toNat_add]
        show (s.y.toNat + 1) % 2 ^ 16 = _
        omega
      have htn : t.x.toNat = n % 2 ^ 16 := by
        have hlt := s.x.toNat_lt
        rw [htx, UInt16.toNat_sub]
        show (2 ^ 16 - 1 + s.x.toNat) % 2 ^ 16 = _
        omega
      obtain ⟨s', hrun, ⟨new, hnew, hmem⟩, hmemory⟩ := ih fuel t (by omega) (by omega) htn (by omega) (by omega)
      refine ⟨s', hrun, ⟨new ++ [destination + s.y.toNat], ?_, fun address => ?_⟩, fun address => ?_⟩
      · rw [hnew, htwritten, List.append_assoc]
        rfl
      · rw [List.mem_append, hmem, List.mem_singleton]
        omega
      · -- A byte is read before the loop comes to write its address.
        rw [hmemory, hty]
        by_cases hfirst : address = destination + s.y.toNat
        · subst hfirst
          rw [if_neg (by omega), htmemory, if_pos rfl, if_pos (by omega)]
          congr 1
          omega
        · rw [htmemory, htmemory]
          split_ifs <;> first | rfl | omega

end SnesModem.Lib.Cpu65816
