import SnesModem.Asm.ChapSteps
import SnesModem.Asm.Md5Digest
import SnesModem.Lib.OctetWords

/-!
# `ppp/md5.asm` in octets

The memory of the digest and the eight-bit instructions on it.

* `round_eq`: a round in octets is the round in words;
* `block_eq`: a block is added to the state;
* `digests_agree`: the digest of every message that fits the buffer, and of every Challenge that is answered.
-/

namespace SnesModem.Asm.Md5Octets

open SnesModem.Lib SnesModem.Lib.Octets SnesModem.Lib.OctetWords
open SnesModem.Lib.Cpu65816 (word)
open SnesModem.Lib.Md5 (leWord)

structure Memory where
  message : Buffer
  state : Buffer
  working : Buffer
  temporary : Buffer
  messageLength : UInt16
  round : UInt8
  wordIndex : UInt8
  blockOffset : UInt8
  /-- The high octet of the accumulator, which eight-bit instructions leave. -/
  b : UInt8

/-- The octets of `pppMd5RoundConstants`, as `.dword` lays them out. -/
def roundConstantOctets : List UInt8 := pppMd5RoundConstants.flatMap wordOctets

/-- The octets of `pppMd5InitialState`. -/
def initialOctets : List UInt8 :=
  [0x01, 0x23, 0x45, 0x67, 0x89, 0xab, 0xcd, 0xef, 0xfe, 0xdc, 0xba, 0x98, 0x76, 0x54, 0x32, 0x10]

/-! ### Loops -/

/-- A loop that stores an octet to each place, with the index counting down to zero. -/
def fillDown (value : ℕ → UInt8) : ℕ → Buffer → Buffer
  | 0, buffer => buffer
  | x + 1, buffer => fillDown value x (Function.update buffer x (value x))

/-- `@zeroTo56` and `@zeroTo120`: the place of each zero is counted up to the limit. -/
def zeroTo (limit x : UInt16) (message : Buffer) : Buffer :=
  if x = limit then message else zeroTo limit (x + 1) (Function.update message x.toNat 0)
termination_by (limit - x).toNat
decreasing_by
  have hx := x.toNat_lt
  have hlimit := limit.toNat_lt
  rename_i hne
  have hne' := mt UInt16.toNat_inj.mp hne
  rw [UInt16.toNat_sub, UInt16.toNat_sub, UInt16.toNat_add]
  show (2 ^ 16 - (x.toNat + 1) % 2 ^ 16 + limit.toNat) % 2 ^ 16 < _
  omega

/-- `@rotate`: the counter is decremented before it is tested. -/
def rotate (count : UInt8) (temporary : Buffer) : Buffer :=
  if count - 1 = 0 then rotateOctets temporary else rotate (count - 1) (rotateOctets temporary)
termination_by (count - 1).toNat
decreasing_by
  have hcount := (count - 1).toNat_lt
  rename_i hne
  have hne' := mt UInt8.toNat_inj.mp hne
  change (count - 1).toNat ≠ 0 at hne'
  rw [UInt8.toNat_sub]
  show (2 ^ 8 - 1 + (count - 1).toNat) % 2 ^ 8 < _
  omega

/-- One turn of `@shuffle`. -/
def shuffleTurn (temporary : Buffer) (working : Buffer) (x : ℕ) : Buffer :=
  let working := Function.update working x (working (12 + x))
  let working := Function.update working (12 + x) (working (8 + x))
  let working := Function.update working (8 + x) (working (4 + x))
  Function.update working (4 + x) (temporary x)

/-- `@shuffle`: A=D; D=C; C=B; B=temp. -/
def shuffle (temporary working : Buffer) : Buffer := [3, 2, 1, 0].foldl (shuffleTurn temporary) working

/-! ### Rounds -/

/-- `@fOne` to `@fFour`: an octet of the function of the round. -/
def roundOctet (round : UInt8) (working : Buffer) (x : ℕ) : UInt8 :=
  if round < 16 then (working (4 + x) &&& working (8 + x)) ||| ((working (4 + x) ^^^ 0xff) &&& working (12 + x))
  else if round < 32 then (working (12 + x) &&& working (4 + x)) ||| ((working (12 + x) ^^^ 0xff) &&& working (8 + x))
  else if round < 48 then working (4 + x) ^^^ working (8 + x) ^^^ working (12 + x)
  else ((working (12 + x) ^^^ 0xff) ||| working (4 + x)) ^^^ working (8 + x)

/-- The word of the block that a round takes; a carry that is not cleared is added. -/
def wordIndexOf (round : UInt8) : UInt8 :=
  if round < 16 then round
  else if round < 32 then
    let (sum, carry) := adc (round <<< 2) round false
    (adc sum 1 carry).1 &&& 0x0f
  else if round < 48 then
    let (sum, carry) := adc (round <<< 1) round false
    (adc sum 5 carry).1 &&& 0x0f
  else (round <<< 3 - round) &&& 0x0f

/-- `@round`, up to the increment of `pppMd5Round`. -/
def roundBody (m : Memory) : Memory :=
  let m : Memory := { m with temporary := fillDown (roundOctet m.round m.working) 4 m.temporary, wordIndex := wordIndexOf m.round }
  let m : Memory := { m with temporary := addOctets m.working 0 m.temporary }
  -- `tax` moves the high octet of the accumulator too.
  let x := word m.b (m.round <<< 2)
  let m : Memory := { m with temporary := addOctets (fun i => roundConstantOctets.getD (x.toNat + i) 0) 0 m.temporary }
  let x := word m.b (m.wordIndex <<< 2 + m.blockOffset)
  let m : Memory := { m with temporary := addOctets (fun i => m.message (x.toNat + i)) 0 m.temporary }
  let x := word m.b m.round
  let m : Memory := { m with wordIndex := UInt8.ofNat (pppMd5ShiftAmounts.getD x.toNat 0) }
  let m : Memory := { m with temporary := rotate m.wordIndex m.temporary, wordIndex := 0 }
  let m : Memory := { m with temporary := addOctets (fun i => m.working (4 + i)) 0 m.temporary }
  { m with working := shuffle m.temporary m.working }

def round (m : Memory) : Memory := { roundBody m with round := m.round + 1 }

/-- `@round`, until `pppMd5Round` is 64. -/
def rounds (m : Memory) : Memory := if (round m).round = 64 then round m else rounds (round m)
termination_by (63 - m.round).toNat
decreasing_by
  have hround := m.round.toNat_lt
  have hnext : (round m).round.toNat = (m.round.toNat + 1) % 2 ^ 8 := UInt8.toNat_add _ _
  rename_i hne
  have hne' := mt UInt8.toNat_inj.mp hne
  change (round m).round.toNat ≠ 64 at hne'
  rw [UInt8.toNat_sub, UInt8.toNat_sub, hnext]
  show (2 ^ 8 - (m.round.toNat + 1) % 2 ^ 8 + 63) % 2 ^ 8 < (2 ^ 8 - m.round.toNat + 63) % 2 ^ 8
  omega

/-- `@stateWord`: a word of the working state is added to that of the state. -/
def addStateWord (working : Buffer) (state : Buffer) (i : ℕ) : Buffer :=
  addOctets (fun x => working (4 * i + x)) (4 * i) state

/-- `@block`: the rounds change a copy of the state, which is then added to it. -/
def block (m : Memory) : Memory :=
  let m := { m with working := fillDown m.state 16 m.working, round := 0 }
  let m := rounds m
  { m with state := (List.range 4).foldl (addStateWord m.working) m.state }

/-- The padding of the message: its mark, its zeros and its length. -/
def padMessage (length : UInt16) (message : Buffer) : Buffer :=
  let message := Function.update message length.toNat 0x80
  let limit : UInt16 := if high length = 0 ∧ low length < 56 then 56 else 120
  let message := zeroTo limit (length + 1) message
  write message limit.toNat [low length <<< 3, low length >>> 5, 0, 0, 0, 0, 0, 0]

/-- `pppMd5Compute`. -/
def pppMd5Compute (m : Memory) : Memory :=
  let m := { m with
    message := padMessage m.messageLength m.message
    state := fillDown (fun x => initialOctets.getD x 0) 16 m.state
    blockOffset := 0 }
  let m := block m
  if low m.messageLength < 56 then m else block { m with blockOffset := 64 }

/-- What both callers do: they store the length from the sixteen-bit accumulator, and its high octet is left there. -/
def call (length : UInt16) (m : Memory) : Memory := pppMd5Compute { m with messageLength := length, b := high length }

/-- `@message` of `pppChapBuildPending`: the message is put together, and its digest computed. -/
def respond (identifier : UInt8) (secret challenge : List UInt8) (m : Memory) : Memory :=
  let message := write (write (write m.message 0 [identifier]) 1 secret) (1 + secret.length) challenge
  call (UInt16.ofNat (1 + secret.length + challenge.length)) { m with message := message }

/-! ### What the loops do -/

section Loops

lemma fillDown_apply (value : ℕ → UInt8) (n : ℕ) (buffer : Buffer) (i : ℕ) :
    fillDown value n buffer i = if i < n then value i else buffer i := by
  induction n generalizing buffer with
  | zero => rfl
  | succ n ih =>
    rw [fillDown, ih]
    obtain hlt | rfl | hgt := Nat.lt_trichotomy i n
    · rw [if_pos hlt, if_pos (by omega)]
    · rw [if_neg (by omega), if_pos (by omega), Function.update_self]
    · rw [if_neg (by omega), if_neg (by omega), Function.update_of_ne (by omega)]

lemma update_eq_write (buffer : Buffer) (offset : ℕ) (octet : UInt8) :
    Function.update buffer offset octet = write buffer offset [octet] := by
  funext i
  unfold write
  by_cases hi : i = offset
  · subst hi
    rw [Function.update_self, if_pos (by simp), Nat.sub_self]
    rfl
  · rw [Function.update_of_ne hi, if_neg (by rw [List.length_singleton]; omega)]

lemma zeroTo_eq {limit x : UInt16} (h : x.toNat ≤ limit.toNat) (message : Buffer) :
    zeroTo limit x message = write message x.toNat (List.replicate (limit.toNat - x.toNat) 0) := by
  induction hn : limit.toNat - x.toNat generalizing x message with
  | zero =>
    have heq : x = limit := UInt16.toNat_inj.mp (by omega)
    rw [zeroTo, if_pos heq, List.replicate_zero, write_nil]
  | succ n ih =>
    have hlimit := limit.toNat_lt
    have hnext : (x + 1).toNat = x.toNat + 1 := by
      rw [UInt16.toNat_add]
      show (x.toNat + 1) % 2 ^ 16 = _
      omega
    have hne : x ≠ limit := by
      rintro rfl
      omega
    have hwrite := write_write message x.toNat [0] (List.replicate n 0)
    rw [zeroTo, if_neg hne, ih (by omega) _ (by omega), update_eq_write, hnext, List.replicate_succ]
    exact hwrite

lemma rotate_eq {count : UInt8} {n : ℕ} (h : count.toNat = n + 1) (temporary : Buffer) :
    rotate count temporary = rotateOctets^[n + 1] temporary := by
  have hless : (count - 1).toNat = n := by
    have hcount := count.toNat_lt
    rw [UInt8.toNat_sub]
    show (2 ^ 8 - 1 + count.toNat) % 2 ^ 8 = n
    omega
  induction n generalizing count temporary with
  | zero =>
    rw [rotate, if_pos (UInt8.toNat_inj.mp hless)]
    rfl
  | succ n ih =>
    have hne : count - 1 ≠ 0 := by
      rintro heq
      rw [heq] at hless
      exact absurd hless (by simp)
    have hnext : (count - 1 - 1).toNat = n := by
      rw [UInt8.toNat_sub, hless]
      have hlt := count.toNat_lt
      show (2 ^ 8 - 1 + (n + 1)) % 2 ^ 8 = n
      omega
    rw [rotate, if_neg hne, ih hless _ hnext, Function.iterate_succ_apply (n := n + 1)]

/-- The four words of the working state, or of the state. -/
def registers (buffer : Buffer) : Md5State :=
  ⟨dwordAt buffer 0, dwordAt buffer 4, dwordAt buffer 8, dwordAt buffer 12⟩

lemma shuffle_registers (temporary working : Buffer) :
    registers (shuffle temporary working) =
      ⟨dwordAt working 12, dwordAt temporary 0, dwordAt working 4, dwordAt working 8⟩ := by
  unfold registers shuffle shuffleTurn dwordAt
  simp

end Loops

/-! ### A round -/

section Rounds

/-- The octets that a round stores are those of its function. -/
lemma roundOctet_eq {round : UInt8} {r : ℕ} (hround : round.toNat = r) (working : Buffer) :
    leWord [roundOctet round working 0, roundOctet round working 1, roundOctet round working 2,
      roundOctet round working 3] = (roundFunction r (registers working)).1 := by
  have hlt (limit : UInt8) : round < limit ↔ r < limit.toNat := by rw [UInt8.lt_iff_toNat_lt, hround]
  unfold roundFunction roundOctet
  simp only [hlt]
  by_cases h16 : r < 16
  · simp only [show r < (16 : UInt8).toNat from h16, h16, if_true]
    rw [leWord_or, leWord_and, leWord_and, leWord_not]
    rfl
  by_cases h32 : r < 32
  · simp only [show ¬ r < (16 : UInt8).toNat from h16, show r < (32 : UInt8).toNat from h32, h16, h32, if_true, if_false]
    rw [leWord_or, leWord_and, leWord_and, leWord_not]
    rfl
  by_cases h48 : r < 48
  · simp only [show ¬ r < (16 : UInt8).toNat from h16, show ¬ r < (32 : UInt8).toNat from h32,
      show r < (48 : UInt8).toNat from h48, h16, h32, h48, if_true, if_false]
    rw [leWord_xor, leWord_xor]
    rfl
  · simp only [show ¬ r < (16 : UInt8).toNat from h16, show ¬ r < (32 : UInt8).toNat from h32,
      show ¬ r < (48 : UInt8).toNat from h48, h16, h32, h48, if_false]
    rw [leWord_xor, leWord_or, leWord_not, UInt32.xor_comm, UInt32.or_comm]
    rfl

/-- Eight bits are enough for the index of the word. -/
lemma wordIndexOf_eq {round : UInt8} {r : ℕ} (hround : round.toNat = r) (hr : r < 64) (s : Md5State) :
    (wordIndexOf round).toNat = (roundFunction r s).2 ∧ (roundFunction r s).2 < 16 := by
  have hall : ∀ r < 64, (wordIndexOf (UInt8.ofNat r)).toNat = (roundFunction r ⟨0, 0, 0, 0⟩).2 ∧
      (roundFunction r ⟨0, 0, 0, 0⟩).2 < 16 := by decide +kernel
  have hsame : (roundFunction r s).2 = (roundFunction r ⟨0, 0, 0, 0⟩).2 := by
    unfold roundFunction
    split_ifs <;> rfl
  have hoctet : round = UInt8.ofNat r := by
    rw [← UInt8.toNat_inj, hround, UInt8.toNat_ofNat_of_lt' (show r < 256 by omega)]
  rw [hsame, hoctet]
  exact hall r hr

/-- The tables in octets are those in words. -/
lemma tables_eq {r : ℕ} (hr : r < 64) :
    leWord [roundConstantOctets.getD (4 * r) 0, roundConstantOctets.getD (4 * r + 1) 0,
      roundConstantOctets.getD (4 * r + 2) 0, roundConstantOctets.getD (4 * r + 3) 0] =
        pppMd5RoundConstants.getD r 0 ∧
    0 < pppMd5ShiftAmounts.getD r 0 ∧ pppMd5ShiftAmounts.getD r 0 < 32 := by
  revert r
  decide +kernel

/-- With a high octet of zero, an index is what the low octet says. -/
lemma word_zero (octet : UInt8) : (word 0 octet).toNat = octet.toNat := by
  rw [Lib.Cpu65816.toNat_word]
  show 256 * 0 + _ = _
  omega

/-- What the rounds of a block leave alone. -/
structure Kept (m m' : Memory) : Prop where
  message : m'.message = m.message
  state : m'.state = m.state
  messageLength : m'.messageLength = m.messageLength
  blockOffset : m'.blockOffset = m.blockOffset
  b : m'.b = m.b

lemma Kept.trans {m m' m'' : Memory} (h : Kept m m') (h' : Kept m' m'') : Kept m m'' :=
  ⟨h'.message.trans h.message, h'.state.trans h.state, h'.messageLength.trans h.messageLength,
    h'.blockOffset.trans h.blockOffset, h'.b.trans h.b⟩

/-- The words of a round, one after the other. -/
lemma round_working (m : Memory) : (round m).working =
    shuffle (addOctets (fun i => m.working (4 + i)) 0
      (rotate (UInt8.ofNat (pppMd5ShiftAmounts.getD (word m.b m.round).toNat 0))
        (addOctets (fun i => m.message ((word m.b (wordIndexOf m.round <<< 2 + m.blockOffset)).toNat + i)) 0
          (addOctets (fun i => roundConstantOctets.getD ((word m.b (m.round <<< 2)).toNat + i) 0) 0
            (addOctets m.working 0 (fillDown (roundOctet m.round m.working) 4 m.temporary)))))) m.working := by
  unfold round roundBody
  dsimp only

lemma round_kept (m : Memory) : Kept m (round m) := ⟨rfl, rfl, rfl, rfl, rfl⟩

variable {message : List UInt8} {m : Memory} {block : ℕ}

/-- The memory holds a padded message, and a block of it is worked on. -/
structure Working (message : List UInt8) (block : ℕ) (m : Memory) : Prop where
  held : read m.message 0 message.length = message
  inside : block + 64 ≤ message.length
  offset : m.blockOffset.toNat = block
  short : block < 128
  b : m.b = 0

lemma Working.kept {m' : Memory} (h : Working message block m) (hkept : Kept m m') : Working message block m' :=
  ⟨hkept.message ▸ h.held, h.inside, hkept.blockOffset ▸ h.offset, h.short, hkept.b ▸ h.b⟩

/-- A word of the message. -/
lemma Working.word (h : Working message block m) {offset : ℕ} (hoffset : offset + 4 ≤ message.length) :
    dwordAt m.message offset = messageWord message offset := by
  have hoctet (i : ℕ) (hi : i < message.length) : m.message i = message.getD i 0 := by
    have hlength : i < (Octets.read m.message 0 message.length).length := by rwa [length_read]
    have hget := getElem_read m.message 0 hlength
    rw [Nat.zero_add] at hget
    rw [← hget, List.getD_eq_getElem _ _ hi]
    congr 1
    exact h.held
  rw [messageWord_eq_leWord, ← hoctet _ (by omega), ← hoctet _ (by omega), ← hoctet _ (by omega), ← hoctet _ (by omega)]
  rfl

/-- **A round in octets** is the round in words. -/
theorem round_eq (h : Working message block m) {r : ℕ} (hround : m.round.toNat = r) (hr : r < 64) :
    registers (round m).working = md5Round message block (registers m.working) r := by
  obtain ⟨hindex, hlow⟩ := wordIndexOf_eq hround hr (registers m.working)
  obtain ⟨hconstant, hpos, hshort⟩ := tables_eq hr
  have hb := h.b
  have hblock := h.offset
  have hshortBlock := h.short
  have hinside := h.inside
  set g := (roundFunction r (registers m.working)).2 with hg
  -- The temporary word, after each step of the round.
  have hfilled : dwordAt (fillDown (roundOctet m.round m.working) 4 m.temporary) 0 =
      (roundFunction r (registers m.working)).1 := by
    rw [← roundOctet_eq hround]
    unfold dwordAt
    simp only [fillDown_apply, Nat.zero_add]
    rfl
  set t₁ := fillDown (roundOctet m.round m.working) 4 m.temporary
  have hadded : dwordAt (addOctets m.working 0 t₁) 0 = dwordAt t₁ 0 + (registers m.working).a := dwordAt_addOctets _ _ _
  set t₂ := addOctets m.working 0 t₁
  have hquad : (word m.b (m.round <<< 2)).toNat = 4 * r := by
    rw [hb, word_zero, UInt8.toNat_shiftLeft, hround]
    show r <<< 2 % 2 ^ 8 = _
    rw [Nat.shiftLeft_eq]
    omega
  have hconstants : dwordAt (addOctets (fun i => roundConstantOctets.getD ((word m.b (m.round <<< 2)).toNat + i) 0) 0 t₂) 0 =
      dwordAt t₂ 0 + pppMd5RoundConstants.getD r 0 := by
    rw [dwordAt_addOctets, hquad, Nat.add_zero, hconstant]
  set t₃ := addOctets (fun i => roundConstantOctets.getD ((word m.b (m.round <<< 2)).toNat + i) 0) 0 t₂
  have hplace : (word m.b (wordIndexOf m.round <<< 2 + m.blockOffset)).toNat = block + 4 * g := by
    rw [hb, word_zero, UInt8.toNat_add, UInt8.toNat_shiftLeft, hindex, hblock]
    show (g <<< 2 % 2 ^ 8 + block) % 2 ^ 8 = _
    rw [Nat.shiftLeft_eq]
    omega
  have hmessage : dwordAt (addOctets (fun i => m.message ((word m.b (wordIndexOf m.round <<< 2 + m.blockOffset)).toNat + i))
      0 t₃) 0 = dwordAt t₃ 0 + messageWord message (block + 4 * g) := by
    rw [dwordAt_addOctets, hplace, ← h.word (by omega)]
    rfl
  set t₄ := addOctets (fun i => m.message ((word m.b (wordIndexOf m.round <<< 2 + m.blockOffset)).toNat + i)) 0 t₃
  have hindexed : (word m.b m.round).toNat = r := by rw [hb, word_zero, hround]
  have hcount : (UInt8.ofNat (pppMd5ShiftAmounts.getD (word m.b m.round).toNat 0)).toNat =
      pppMd5ShiftAmounts.getD r 0 - 1 + 1 := by
    rw [hindexed, UInt8.toNat_ofNat_of_lt' (show _ < 256 by omega)]
    omega
  have hrotated : dwordAt (rotate (UInt8.ofNat (pppMd5ShiftAmounts.getD (word m.b m.round).toNat 0)) t₄) 0 =
      rotateLeft (dwordAt t₄ 0) (pppMd5ShiftAmounts.getD r 0) := by
    rw [rotate_eq hcount, dwordAt_iterate_rotateOctets _ (by omega) (by omega),
      show pppMd5ShiftAmounts.getD r 0 - 1 + 1 = pppMd5ShiftAmounts.getD r 0 by omega]
    rfl
  set t₅ := rotate (UInt8.ofNat (pppMd5ShiftAmounts.getD (word m.b m.round).toNat 0)) t₄
  have hlast : dwordAt (addOctets (fun i => m.working (4 + i)) 0 t₅) 0 = dwordAt t₅ 0 + (registers m.working).b :=
    dwordAt_addOctets _ _ _
  rw [round_working, shuffle_registers, hlast, hrotated, hmessage, hconstants, hadded, hfilled,
    UInt32.add_comm (rotateLeft _ _)]
  unfold md5Round
  dsimp only
  rfl

end Rounds

/-! ### A block -/

section Blocks

variable {message : List UInt8} {m : Memory} {blockOffset : ℕ}

lemma round_count (h : m.round.toNat < 64) : (round m).round.toNat = m.round.toNat + 1 := by
  show (m.round + 1).toNat = _
  rw [UInt8.toNat_add]
  show (m.round.toNat + 1) % 2 ^ 8 = _
  omega

lemma rounds_iterate {n : ℕ} (h : m.round.toNat + (n + 1) = 64) : rounds m = round^[n + 1] m := by
  induction n generalizing m with
  | zero =>
    have hend : (round m).round = 64 := by
      rw [← UInt8.toNat_inj, round_count (by omega)]
      exact h
    rw [rounds, if_pos hend]
    rfl
  | succ n ih =>
    have hnext := round_count (m := m) (by omega)
    have hne : (round m).round ≠ 64 := by
      rintro heq
      rw [heq] at hnext
      change 64 = _ at hnext
      omega
    rw [rounds, if_neg hne, ih (by omega), ← Function.iterate_succ_apply]

/-- So many rounds. -/
lemma iterate_round_eq (h : Working message blockOffset m) (hround : m.round = 0) {n : ℕ} (hn : n ≤ 64) :
    registers (round^[n] m).working = (List.range n).foldl (md5Round message blockOffset) (registers m.working) ∧
    Kept m (round^[n] m) ∧ (round^[n] m).round.toNat = n := by
  induction n with
  | zero => exact ⟨rfl, ⟨rfl, rfl, rfl, rfl, rfl⟩, by rw [Function.iterate_zero_apply, hround]; rfl⟩
  | succ n ih =>
    obtain ⟨hregisters, hkept, hcount⟩ := ih (by omega)
    rw [Function.iterate_succ_apply', List.range_succ, List.foldl_append, ← hregisters]
    refine ⟨round_eq (h.kept hkept) hcount (by omega), hkept.trans (round_kept _), ?_⟩
    rw [round_count (by omega), hcount]

lemma dwordAt_addStateWord (working state : Buffer) {i j : ℕ} :
    dwordAt (addStateWord working state i) (4 * j) =
      if j = i then dwordAt state (4 * j) + dwordAt working (4 * j) else dwordAt state (4 * j) := by
  unfold addStateWord
  obtain hlt | rfl | hgt := Nat.lt_trichotomy j i
  · rw [if_neg (by omega)]
    exact dwordAt_congr fun x hx => addOctets_of_lt _ _ _ (by omega)
  · rw [if_pos rfl, dwordAt_addOctets]
    rfl
  · rw [if_neg (by omega)]
    exact dwordAt_congr fun x hx => addOctets_of_le _ _ _ (by omega)

/-- `@stateWord`: the sums of the words. -/
lemma addState_registers (working state : Buffer) :
    registers ((List.range 4).foldl (addStateWord working) state) =
      ⟨dwordAt state 0 + dwordAt working 0, dwordAt state 4 + dwordAt working 4, dwordAt state 8 + dwordAt working 8,
        dwordAt state 12 + dwordAt working 12⟩ := by
  have hword (j : ℕ) (hj : j < 4) : dwordAt ((List.range 4).foldl (addStateWord working) state) (4 * j) =
      dwordAt state (4 * j) + dwordAt working (4 * j) := by
    simp only [show List.range 4 = [0, 1, 2, 3] from rfl, List.foldl, dwordAt_addStateWord]
    obtain rfl | rfl | rfl | rfl : j = 0 ∨ j = 1 ∨ j = 2 ∨ j = 3 := by omega
    · rfl
    · rfl
    · rfl
    · rfl
  have h₀ := hword 0 (by omega)
  have h₁ := hword 1 (by omega)
  have h₂ := hword 2 (by omega)
  have h₃ := hword 3 (by omega)
  unfold registers
  congr 1

/-- **A block in octets** is the block in words. -/
theorem block_eq (h : Working message blockOffset m) :
    registers (block m).state = md5Block message (registers m.state) blockOffset ∧
    (block m).message = m.message ∧ (block m).messageLength = m.messageLength ∧ (block m).b = m.b := by
  have hworking : Working message blockOffset { m with working := fillDown m.state 16 m.working, round := 0 } :=
    ⟨h.held, h.inside, h.offset, h.short, h.b⟩
  obtain ⟨hregisters, hkept, hcount⟩ := iterate_round_eq hworking rfl (le_refl 64)
  have hcopied : registers (fillDown m.state 16 m.working) = registers m.state := by
    unfold registers dwordAt
    simp only [fillDown_apply]
    rfl
  have hrounds := rounds_iterate (m := { m with working := fillDown m.state 16 m.working, round := 0 }) (n := 63) rfl
  have hstate := hkept.state
  dsimp only at hregisters hstate
  rw [hcopied, ← hrounds] at hregisters
  rw [← hrounds] at hkept hstate
  refine ⟨?_, hkept.message, hkept.messageLength, hkept.b⟩
  unfold block md5Block
  dsimp only
  rw [← hregisters, addState_registers, hstate]
  rfl

end Blocks

/-! ### Messages -/

section Messages

variable {message : List UInt8} {m : Memory}

/-- A word is read octet by octet. -/
lemma wordOctets_dwordAt (buffer : Buffer) (offset : ℕ) : wordOctets (dwordAt buffer offset) = read buffer offset 4 := by
  have h₀ := (buffer offset).toNat_lt
  have h₁ := (buffer (offset + 1)).toNat_lt
  have h₂ := (buffer (offset + 2)).toNat_lt
  have h₃ := (buffer (offset + 3)).toNat_lt
  have hvalue : (dwordAt buffer offset).toNat = Lib.Md5.leNat (buffer offset) (buffer (offset + 1))
      (buffer (offset + 2)) (buffer (offset + 3)) := Lib.Md5.toNat_leWord _ _ _ _
  have hoctet (n : ℕ) : (UInt32.ofNat n).toNat = n % 2 ^ 32 := UInt32.toNat_ofNat'
  have hshift (n : ℕ) (hn : n < 32) : (dwordAt buffer offset >>> UInt32.ofNat n).toUInt8.toNat =
      (dwordAt buffer offset).toNat / 2 ^ n % 256 := by
    rw [UInt32.toNat_toUInt8, UInt32.toNat_shiftRight, hoctet, Nat.mod_eq_of_lt (show n < 2 ^ 32 by omega),
      Nat.mod_eq_of_lt hn, Nat.shiftRight_eq_div_pow]
  have hzero : (dwordAt buffer offset).toUInt8 = buffer offset := by
    rw [← UInt8.toNat_inj, UInt32.toNat_toUInt8, hvalue]
    unfold Lib.Md5.leNat
    omega
  have hone : (dwordAt buffer offset >>> 8).toUInt8 = buffer (offset + 1) := by
    rw [← UInt8.toNat_inj]
    refine (hshift 8 (by omega)).trans ?_
    rw [hvalue]
    unfold Lib.Md5.leNat
    omega
  have htwo : (dwordAt buffer offset >>> 16).toUInt8 = buffer (offset + 2) := by
    rw [← UInt8.toNat_inj]
    refine (hshift 16 (by omega)).trans ?_
    rw [hvalue]
    unfold Lib.Md5.leNat
    omega
  have hthree : (dwordAt buffer offset >>> 24).toUInt8 = buffer (offset + 3) := by
    rw [← UInt8.toNat_inj]
    refine (hshift 24 (by omega)).trans ?_
    rw [hvalue]
    unfold Lib.Md5.leNat
    omega
  unfold wordOctets
  rw [hzero, hone, htwo, hthree]
  rfl

lemma registers_octets (buffer : Buffer) :
    wordOctets (registers buffer).a ++ wordOctets (registers buffer).b ++ wordOctets (registers buffer).c ++
      wordOctets (registers buffer).d = read buffer 0 16 := by
  unfold registers
  dsimp only
  rw [wordOctets_dwordAt, wordOctets_dwordAt, wordOctets_dwordAt, wordOctets_dwordAt]
  rfl

/-- The padding in memory is that of the message. -/
lemma read_padMessage {length : UInt16} (hlength : length.toNat = message.length) (hshort : message.length < 120)
    {buffer : Buffer} (hread : read buffer 0 message.length = message) :
    read (padMessage length buffer) 0 (paddedMessage message).length = paddedMessage message := by
  have hhigh : high length = 0 := high_eq_zero.mpr (by omega)
  have hlow : low length = UInt8.ofNat message.length := by
    unfold low
    rw [hlength]
  have hcount : (UInt8.ofNat message.length).toNat = message.length :=
    UInt8.toNat_ofNat_of_lt' (show message.length < 256 by omega)
  have hcondition : (high length = 0 ∧ low length < 56) ↔ message.length < 56 := by
    rw [hlow, UInt8.lt_iff_toNat_lt, hcount]
    exact ⟨fun h => h.2, fun h => ⟨hhigh, h⟩⟩
  have hlimit : (if high length = 0 ∧ low length < 56 then 56 else 120 : UInt16).toNat =
      if message.length < 56 then 56 else 120 := by
    simp only [hcondition]
    split_ifs <;> rfl
  have hnext : (length + 1).toNat = message.length + 1 := by
    rw [UInt16.toNat_add, hlength]
    show (message.length + 1) % 2 ^ 16 = _
    omega
  have hbits : (low length <<< 3 : UInt8) = UInt8.ofNat message.length * 8 := by
    rw [hlow, ← UInt8.toNat_inj, UInt8.toNat_shiftLeft, UInt8.toNat_mul, hcount]
    show message.length <<< 3 % 2 ^ 8 = message.length * 8 % 2 ^ 8
    rw [Nat.shiftLeft_eq]
  have hrest : (low length >>> 5 : UInt8) = UInt8.ofNat message.length / 32 := by
    rw [hlow, ← UInt8.toNat_inj, UInt8.toNat_shiftRight, UInt8.toNat_div, hcount]
    show message.length >>> 5 = message.length / 32
    rw [Nat.shiftRight_eq_div_pow]
  set filled := if message.length < 56 then 56 else 120 with hfilled
  have hfits : message.length + 1 ≤ filled := by
    rw [hfilled]
    split_ifs <;> omega
  have hmemory : padMessage length buffer = write buffer message.length ([0x80] ++
      List.replicate (filled - (message.length + 1)) 0 ++
        [UInt8.ofNat message.length * 8, UInt8.ofNat message.length / 32, 0, 0, 0, 0, 0, 0]) := by
    unfold padMessage
    dsimp only
    rw [zeroTo_eq (by rw [hlimit, hnext]; exact hfits), hlimit, hnext, hbits, hrest, hlength, update_eq_write,
      ← write_write, ← write_write]
    congr 1
    rw [List.length_append, List.length_singleton, List.length_replicate]
    omega
  have hpadded : paddedMessage message = message ++ ([0x80] ++ List.replicate (filled - (message.length + 1)) 0 ++
      [UInt8.ofNat message.length * 8, UInt8.ofNat message.length / 32, 0, 0, 0, 0, 0, 0]) := by
    unfold paddedMessage
    rw [List.append_assoc]
    rfl
  rw [hmemory, hpadded, List.length_append, read_append, read_write_of_disjoint _ _ _ (Or.inl (by omega)), hread,
    Nat.zero_add, read_write]

lemma initial_registers (buffer : Buffer) :
    registers (fillDown (fun x => initialOctets.getD x 0) 16 buffer) = pppMd5InitialState := by
  have ha : leWord [0x01, 0x23, 0x45, 0x67] = 0x67452301 := by decide
  have hb : leWord [0x89, 0xab, 0xcd, 0xef] = 0xefcdab89 := by decide
  have hc : leWord [0xfe, 0xdc, 0xba, 0x98] = 0x98badcfe := by decide
  have hd : leWord [0x76, 0x54, 0x32, 0x10] = 0x10325476 := by decide
  unfold registers dwordAt
  simp only [fillDown_apply]
  show Md5State.mk (leWord [0x01, 0x23, 0x45, 0x67]) (leWord [0x89, 0xab, 0xcd, 0xef])
    (leWord [0xfe, 0xdc, 0xba, 0x98]) (leWord [0x76, 0x54, 0x32, 0x10]) = _
  rw [ha, hb, hc, hd]
  rfl

/-- **The digest in octets** is the digest in words. -/
theorem call_eq (hshort : message.length < 120) (hread : read m.message 0 message.length = message) :
    read (call (UInt16.ofNat message.length) m).state 0 16 = Asm.pppMd5Compute message := by
  have hlength : (UInt16.ofNat message.length).toNat = message.length :=
    UInt16.toNat_ofNat_of_lt' (show message.length < 65536 by omega)
  set length := UInt16.ofNat message.length
  have hhigh : high length = 0 := high_eq_zero.mpr (by omega)
  have hcondition : low length < 56 ↔ message.length < 56 := by
    rw [UInt8.lt_iff_toNat_lt, toNat_low, hlength]
    show message.length % 256 < 56 ↔ _
    omega
  have hheld := read_padMessage hlength hshort hread
  have hsize : (paddedMessage message).length = if message.length < 56 then 64 else 128 := by
    unfold paddedMessage
    simp only [List.length_append, List.length_cons, List.length_replicate, List.length_nil]
    split_ifs <;> omega
  set first : Memory := { m with
    messageLength := length
    b := high length
    message := padMessage length m.message
    state := fillDown (fun x => initialOctets.getD x 0) 16 m.state
    blockOffset := 0 } with hfirst
  have hworking : Working (paddedMessage message) 0 first :=
    ⟨hheld, by rw [hsize]; split_ifs <;> omega, rfl, by omega, hhigh⟩
  obtain ⟨hstate, hmessage, hkept, hb⟩ := block_eq hworking
  have hinitial : registers first.state = pppMd5InitialState := initial_registers m.state
  rw [hinitial] at hstate
  have hcall : call length m = if low length < 56 then block first else block { block first with blockOffset := 64 } := by
    unfold call pppMd5Compute
    dsimp only
    rw [hkept]
  unfold Asm.pppMd5Compute
  dsimp only
  by_cases hone : message.length < 56
  · rw [hcall, if_pos (hcondition.mpr hone), if_pos hone, ← registers_octets, hstate]
    rfl
  · have hsecond : Working (paddedMessage message) 64 { block first with blockOffset := 64 } :=
      ⟨hmessage ▸ hheld, by rw [hsize, if_neg hone], rfl, by omega, hb.trans hhigh⟩
    have hlast := (block_eq hsecond).1
    dsimp only at hlast
    rw [hstate] at hlast
    rw [hcall, if_neg (mt hcondition.mp hone), if_neg hone, ← registers_octets, hlast]
    rfl

/-- The digest of a Response is that of its model in words. -/
lemma respond_eq (identifier : UInt8) (secret : Password) {challenge : List UInt8}
    (h : challenge.length ≤ maximumChallengeLength) :
    read (respond identifier secret.octets challenge m).state 0 16 = responseValue identifier secret challenge := by
  have hsecret : secret.octets.length ≤ 24 := secret.length_le
  have hchallenge : challenge.length ≤ 64 := h
  have hlength : (identifier :: secret.octets ++ challenge).length = 1 + secret.octets.length + challenge.length := by
    rw [List.length_append, List.length_cons]
    omega
  have hmessage : write (write (write m.message 0 [identifier]) 1 secret.octets) (1 + secret.octets.length) challenge =
      write m.message 0 (identifier :: secret.octets ++ challenge) := by
    have hfirst := write_write m.message 0 [identifier] secret.octets
    have hsecond := write_write m.message 0 ([identifier] ++ secret.octets) challenge
    rw [List.length_append, Nat.zero_add, ← hfirst] at hsecond
    exact hsecond
  have hread := read_write m.message 0 (identifier :: secret.octets ++ challenge)
  rw [← hmessage] at hread
  have hcall := call_eq (m := { m with
    message := write (write (write m.message 0 [identifier]) 1 secret.octets) (1 + secret.octets.length) challenge })
    (show _ < 120 by omega) hread
  rw [hlength] at hcall
  exact hcall

/-- **The digests agree** with RFC 1321, for every message that the buffer has room for, and with the reference, for
every Challenge that a secret answers. -/
theorem digests_agree :
    (∀ (message : List UInt8) (m : Memory), message.length < 120 → read m.message 0 message.length = message →
      read (call (UInt16.ofNat message.length) m).state 0 16 = Lib.Md5.digest message) ∧
    ∀ (identifier : UInt8) (secret : Password) (challenge : List UInt8) (m : Memory),
      challenge.length ≤ maximumChallengeLength →
      Rust.Chap.responseDigest identifier secret.octets challenge =
        some (read (respond identifier secret.octets challenge m).state 0 16) := by
  constructor
  · intro message m hshort hread
    rw [call_eq hshort hread, pppMd5Compute_eq hshort]
  · intro identifier secret challenge m hchallenge
    have hsecret : secret.octets.length ≤ 24 := secret.length_le
    have hle : challenge.length ≤ 64 := hchallenge
    have hpieces := Rust.Chap.foldl_update_finalize [[identifier], secret.octets, challenge]
    have hflatten : [[identifier], secret.octets, challenge].flatten = identifier :: secret.octets ++ challenge := by
      simp
    have hshort : (identifier :: secret.octets ++ challenge).length < 120 := by
      rw [List.length_append, List.length_cons]
      omega
    rw [respond_eq identifier secret hchallenge]
    unfold responseValue
    rw [pppMd5Compute_eq hshort, ← hflatten]
    exact hpieces

/-- Digests of an empty memory. -/
def emptyMemory : Memory :=
  ⟨fun _ => 0, fun _ => 0, fun _ => 0, fun _ => 0, 0, 0, 0, 0, 0⟩

/-- The digest of 56 octets, which take two blocks, and the Response to a Challenge of three octets. -/
theorem digests_agree_two_blocks :
    read (call 56 emptyMemory).state 0 16 = Lib.Md5.digest (List.replicate 56 0) ∧
      Rust.Chap.responseDigest 7 [0x73, 0x65, 0x63, 0x72, 0x65, 0x74] [1, 2, 3] =
        some (read (respond 7 [0x73, 0x65, 0x63, 0x72, 0x65, 0x74] [1, 2, 3] emptyMemory).state 0 16) :=
  ⟨digests_agree.1 (List.replicate 56 0) emptyMemory (by decide) rfl,
    digests_agree.2 7 ⟨[0x73, 0x65, 0x63, 0x72, 0x65, 0x74], by decide, by decide⟩ [1, 2, 3] emptyMemory (by decide)⟩

end Messages

end SnesModem.Asm.Md5Octets
