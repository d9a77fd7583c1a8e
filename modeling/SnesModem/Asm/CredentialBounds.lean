import SnesModem.Asm.PapCredentials

/-!
# The bounds of the credential upload

The copy loop of the credential commands takes its count from all sixteen bits of the accumulator, the high
byte of which the dispatcher has last loaded from the host's sequence number.

* `dispatch_cases`: what the dispatcher leaves in the registers and in memory;
* `Contained`: an upload stays inside the credential variables, copies what was validated, and ends;
* `uploadContained_iff`: the uploads that do.
-/

namespace SnesModem.Asm.CredentialBounds

open SnesModem.Lib.Cpu65816 SnesModem.Asm.PapCredentials

/-! ### The dispatcher -/

/-- The variables that the dispatcher writes before it calls a command. -/
def Dispatcher (address : ℕ) : Prop :=
  modemMailboxStatus ≤ address ∧ address < modemMailboxArguments ∨
    modemMailboxStage ≤ address ∧ address < modemMailboxObservedProcessed + 4

instance : DecidablePred Dispatcher := fun _ => by unfold Dispatcher; infer_instance

/-- The high byte of the accumulator after the comparison of the sequence numbers: of the low words if they
differ, else of the high words. -/
def residue (s : Cpu) : UInt8 :=
  if s.word16 modemMailboxHostSequence ≠ s.word16 modemMailboxProcessedSequence then
    s.memory (modemMailboxHostSequence + 1)
  else s.memory (modemMailboxHostSequence + 3)

/-- The host has posted a command. -/
def NewCommand (s : Cpu) : Prop :=
  s.word16 modemMailboxHostSequence ≠ s.word16 modemMailboxProcessedSequence ∨
    s.word16 (modemMailboxHostSequence + 2) ≠ s.word16 (modemMailboxProcessedSequence + 2)

section Dispatch

variable {s t : Cpu}

lemma word16_sta16 (s : Cpu) (address : ℕ) : (s.sta16 address).word16 address = word s.b s.a := by
  simp [Cpu.word16, Cpu.sta16, Cpu.store]

lemma word16_sta16_of_ne (s : Cpu) {address other : ℕ} (h : other + 1 < address ∨ address + 1 < other) :
    (s.sta16 address).word16 other = s.word16 other := by
  unfold Cpu.word16 Cpu.sta16 Cpu.store
  simp only
  rw [Function.update_of_ne (by omega), Function.update_of_ne (by omega), Function.update_of_ne (by omega),
    Function.update_of_ne (by omega)]

lemma word16_of_writes {region : ℕ → Prop} (h : Writes region s t) {address : ℕ} (hlow : ¬ region address)
    (hhigh : ¬ region (address + 1)) : t.word16 address = s.word16 address := by
  unfold Cpu.word16
  rw [h.frame _ hlow, h.frame _ hhigh]

/-- One load and one store of a word, between the variables of the dispatcher. -/
lemma writes_observe (s : Cpu) (source : ℕ) {destination : ℕ} (hlow : Dispatcher destination)
    (hhigh : Dispatcher (destination + 1)) : Writes Dispatcher s ((s.lda16 source).sta16 destination) :=
  (Writes.of_eq rfl rfl : Writes Dispatcher s (s.lda16 source)).trans (Writes.store_word _ _ hlow hhigh)

lemma newCommand_writes (s : Cpu) : Writes Dispatcher s (newCommand s) := by
  have hstage : Dispatcher modemMailboxStage := by decide
  have hstatus : Dispatcher modemMailboxStatus := by decide
  have hresult : Dispatcher modemMailboxResult := by decide
  have hresult' : Dispatcher (modemMailboxResult + 1) := by decide
  set s₁ := (s.lda 0x30).sta modemMailboxStage with hs₁
  set s₂ := (s₁.lda modemMailboxStatusRunning).sta modemMailboxStatus with hs₂
  have w₁ : Writes Dispatcher s s₁ :=
    (Writes.of_eq rfl rfl : Writes Dispatcher s (s.lda 0x30)).trans (Writes.store _ hstage)
  have w₂ : Writes Dispatcher s₁ s₂ :=
    (Writes.of_eq rfl rfl : Writes Dispatcher s₁ (s₁.lda modemMailboxStatusRunning)).trans (Writes.store _ hstatus)
  have w₃ : Writes Dispatcher s₂ ((s₂.stz modemMailboxResult).stz (modemMailboxResult + 1)) :=
    (Writes.store _ hresult).trans (Writes.store _ hresult')
  exact ((w₁.trans w₂).trans w₃).trans (Writes.of_eq rfl rfl)

/-- **The dispatcher** calls a command when the host has posted one, with its number in the accumulator and
the residue above it, and has written only its own variables. -/
theorem dispatch_cases (s : Cpu) :
    (¬ NewCommand s ∧ dispatch s = none) ∨
      NewCommand s ∧ ∃ t, dispatch s = some t ∧ Writes Dispatcher s t ∧ t.a = s.memory modemMailboxCommand ∧
        t.b = residue s := by
  have hstage : Dispatcher modemMailboxStage := by decide
  -- The states after the first three and after all five pairs of instructions.
  set s₁ := (s.lda 0x20).sta modemMailboxStage with hs₁
  set s₂ := (s₁.lda16 modemMailboxProcessedSequence).sta16 modemMailboxObservedProcessed with hs₂
  set s₃ := (s₂.lda16 modemMailboxHostSequence).sta16 modemMailboxObservedHost with hs₃
  set s₄ := (s₃.lda16 (modemMailboxProcessedSequence + 2)).sta16 (modemMailboxObservedProcessed + 2) with hs₄
  set s₅ := (s₄.lda16 (modemMailboxHostSequence + 2)).sta16 (modemMailboxObservedHost + 2) with hs₅
  have w₁ : Writes Dispatcher s s₁ :=
    (Writes.of_eq rfl rfl : Writes Dispatcher s (s.lda 0x20)).trans (Writes.store _ hstage)
  have w₂ : Writes Dispatcher s s₂ := w₁.trans (writes_observe _ _ (by decide) (by decide))
  have w₃ : Writes Dispatcher s s₃ := w₂.trans (writes_observe _ _ (by decide) (by decide))
  have w₄ : Writes Dispatcher s s₄ := w₃.trans (writes_observe _ _ (by decide) (by decide))
  have w₅ : Writes Dispatcher s s₅ := w₄.trans (writes_observe _ _ (by decide) (by decide))
  have hlow : word s₃.b s₃.a = s.word16 modemMailboxHostSequence :=
    word16_of_writes w₂ (by decide) (by decide)
  have hlow' : s₃.word16 modemMailboxObservedProcessed = s.word16 modemMailboxProcessedSequence := by
    have hkept : s₃.word16 modemMailboxObservedProcessed = s₂.word16 modemMailboxObservedProcessed :=
      word16_sta16_of_ne _ (by decide)
    rw [hkept, hs₂, word16_sta16]
    exact word16_of_writes w₁ (by decide) (by decide)
  have hhigh : word s₅.b s₅.a = s.word16 (modemMailboxHostSequence + 2) :=
    word16_of_writes w₄ (by decide) (by decide)
  have hhigh' : s₅.word16 (modemMailboxObservedProcessed + 2) =
      s.word16 (modemMailboxProcessedSequence + 2) := by
    have hkept : s₅.word16 (modemMailboxObservedProcessed + 2) =
        s₄.word16 (modemMailboxObservedProcessed + 2) := word16_sta16_of_ne _ (by decide)
    rw [hkept, hs₄, word16_sta16]
    exact word16_of_writes w₃ (by decide) (by decide)
  have hcommand {t : Cpu} (w : Writes Dispatcher s t) : (newCommand t).a = s.memory modemMailboxCommand := by
    have hkept : (newCommand t).a = (newCommand t).memory modemMailboxCommand := rfl
    rw [hkept, (w.trans (newCommand_writes t)).frame _ (by decide)]
  unfold dispatch checkNewCommand NewCommand residue
  simp only [← hs₁, ← hs₂, ← hs₃, ← hs₄, ← hs₅, hlow, hlow', hhigh, hhigh']
  by_cases h : s.word16 modemMailboxHostSequence = s.word16 modemMailboxProcessedSequence
  · by_cases h' : s.word16 (modemMailboxHostSequence + 2) = s.word16 (modemMailboxProcessedSequence + 2)
    · exact Or.inl ⟨by simp [h, h'], by simp [h, h']⟩
    · refine Or.inr ⟨Or.inr h', newCommand s₅, by simp [h, h'], w₅.trans (newCommand_writes _), hcommand w₅, ?_⟩
      rw [if_neg (by simpa using h)]
      exact w₄.frame (modemMailboxHostSequence + 3) (by decide)
  · refine Or.inr ⟨Or.inl h, newCommand s₃, by simp [h], w₃.trans (newCommand_writes _), hcommand w₃, ?_⟩
    rw [if_pos h]
    exact w₂.frame (modemMailboxHostSequence + 1) (by decide)

end Dispatch

/-! ### Uploads -/

/-- The credentials, their lengths and flags, the mailbox arguments, and the snapshot counter with the depth
of its nesting. -/
def Credentials (address : ℕ) : Prop :=
  pppPapPeerId ≤ address ∧ address < pppPapPassword + maximumPasswordLength ∨
    pppPapCredentialFlags ≤ address ∧ address ≤ pppPapPasswordLength ∨
    modemMailboxArguments ≤ address ∧ address < modemMailboxArguments + modemMailboxArgumentSize ∨
    pppSnapshotSequence ≤ address ∧ address < pppSnapshotSequence + 4 ∨ address = pppSnapshotDepth

/-- The upload passes its checks. -/
def Accepted (validLength : UInt8 → Bool) (s : Cpu) : Prop :=
  s.memory pppPapCredentialFlags &&& flagTransient ≠ 0 ∧ validLength (s.memory modemMailboxArguments) = true

/-- **An upload is contained**: it ends, it writes only the credential variables, and if it passes its checks
then it copies the validated number of octets and changes no other octet of the credentials. -/
def Contained (validLength : UInt8 → Bool) (destination : ℕ) (upload : ℕ → Cpu → Option Cpu) (s : Cpu) : Prop :=
  ∃ fuel s', upload fuel s = some s' ∧ Writes Credentials s s' ∧
    (Accepted validLength s → ∀ address, pppPapPeerId ≤ address →
      address < pppPapPassword + maximumPasswordLength → s'.memory address =
        if destination ≤ address ∧ address < destination + (s.memory modemMailboxArguments).toNat then
          s.memory (modemMailboxArguments + 1 + (address - destination)) else s.memory address)

/-! ### The parts of an upload -/

/-- The snapshot counter. -/
def Snapshot (address : ℕ) : Prop :=
  pppSnapshotSequence ≤ address ∧ address < pppSnapshotSequence + 4 ∨ address = pppSnapshotDepth

instance : DecidablePred Credentials := fun _ => by unfold Credentials; infer_instance

instance : DecidablePred Snapshot := fun _ => by unfold Snapshot; infer_instance

section Parts

variable (s : Cpu)

lemma snapshot_le {address : ℕ} (h : Snapshot address) : Credentials address := by
  unfold Snapshot at h
  unfold Credentials
  omega

lemma pppIncrement32_writes : Writes Snapshot s (pppIncrement32 s pppSnapshotSequence) := by
  have hlow : Writes Snapshot s (s.inc16 pppSnapshotSequence) := .store_word _ _ (by decide) (by decide)
  unfold pppIncrement32
  dsimp only
  split_ifs
  · exact hlow.trans (.store_word _ _ (by decide) (by decide))
  · exact hlow

lemma pppSnapshotBegin_writes : Writes Snapshot s (pppSnapshotBegin s) := by
  have hload : Writes Snapshot s (s.lda (s.memory pppSnapshotDepth)) := .of_eq rfl rfl
  have hdepth (t : Cpu) : Writes Snapshot t ((t.inc pppSnapshotDepth).lda s.a) :=
    (Writes.store _ (by decide) : Writes Snapshot t (t.inc pppSnapshotDepth)).trans (.of_eq rfl rfl)
  unfold pppSnapshotBegin
  dsimp only
  split_ifs
  · exact (hload.trans (pppIncrement32_writes _)).trans (hdepth _)
  · exact hload.trans (hdepth _)

lemma a_pppSnapshotBegin : (pppSnapshotBegin s).a = s.a := rfl

lemma b_pppIncrement32 (address : ℕ) : (pppIncrement32 s address).b = s.b := by
  unfold pppIncrement32
  dsimp only
  split_ifs <;> rfl

/-- The snapshot is taken without touching the hidden byte. -/
lemma b_pppSnapshotBegin : (pppSnapshotBegin s).b = s.b := by
  unfold pppSnapshotBegin
  dsimp only
  split_ifs
  · exact b_pppIncrement32 _ _
  · rfl

lemma pppSnapshotEnd_writes : Writes Snapshot s (pppSnapshotEnd s) := by
  have hdepth : Writes Snapshot s (s.dec pppSnapshotDepth) := .store _ (by decide)
  unfold pppSnapshotEnd
  dsimp only
  split_ifs
  · exact (hdepth.trans (pppIncrement32_writes _)).trans (.of_eq rfl rfl)
  · exact hdepth.trans (.of_eq rfl rfl)

/-- What an upload writes after the copy: the flags, the snapshot counter and the mailbox arguments. -/
def Trailer (address : ℕ) : Prop :=
  address = pppPapCredentialFlags ∨ Snapshot address ∨
    modemMailboxArguments ≤ address ∧ address < modemMailboxArguments + modemMailboxArgumentSize

lemma wipeMailbox_writes : Writes Trailer s (wipeMailbox s) := by
  have hload : Writes Trailer s (s.lda 0) := .of_eq rfl rfl
  refine hload.trans (.wipe fun x hx => ?_)
  unfold Trailer
  omega

lemma trailer_writes (flags : UInt8) :
    Writes Trailer s (wipeMailbox (pppSnapshotEnd ((s.lda flags).sta pppPapCredentialFlags))).clc := by
  have hload : Writes Trailer s (s.lda flags) := .of_eq rfl rfl
  have hflags : Writes Trailer (s.lda flags) ((s.lda flags).sta pppPapCredentialFlags) := .store _ (Or.inl rfl)
  have hsnapshot (t : Cpu) : Writes Trailer t (pppSnapshotEnd t) :=
    (pppSnapshotEnd_writes t).mono fun _ h => Or.inr (Or.inl h)
  exact (((hload.trans hflags).trans (hsnapshot _)).trans (wipeMailbox_writes _)).trans (.of_eq rfl rfl)

lemma trailer_le {address : ℕ} (h : Trailer address) : Credentials address := by
  unfold Trailer at h
  rcases h with rfl | h | h
  · decide
  · exact snapshot_le h
  · exact Or.inr (Or.inr (Or.inl h))

lemma pppPapCredentialsClear_writes : Writes Credentials s (pppPapCredentialsClear s) := by
  have hbegin : Writes Credentials s ((pppSnapshotBegin s).lda 0) :=
    ((pppSnapshotBegin_writes s).mono fun _ => snapshot_le).trans (.of_eq rfl rfl)
  have hwipe (t : Cpu) : Writes Credentials t
      ((t.wipe pppPapPeerId maximumPeerIdLength).wipe pppPapPassword maximumPasswordLength) := by
    refine (Writes.wipe fun x hx => Or.inl ?_).trans (.wipe fun x hx => Or.inl ?_)
    · simp only [pppPapPeerId, pppPapPassword, maximumPeerIdLength, maximumPasswordLength] at hx ⊢
      omega
    · simp only [pppPapPeerId, pppPapPassword, maximumPasswordLength] at hx ⊢
      omega
  have hlengths (t : Cpu) : Writes Credentials t ((t.stz pppPapPeerIdLength).stz pppPapPasswordLength) :=
    (Writes.store 0 (by decide)).trans (.store 0 (by decide))
  have htrailer (t : Cpu) := (trailer_writes t flagTransient).mono fun _ => trailer_le
  exact ((hbegin.trans (hwipe _)).trans (hlengths _)).trans (htrailer _)

lemma failed_writes (error : UInt8) : Writes Credentials s (failed s error) := by
  have hload : Writes Credentials s (s.lda error) := .of_eq rfl rfl
  exact (hload.trans (pppPapCredentialsClear_writes _)).trans (.of_eq rfl rfl)

end Parts

/-! ### When an upload is contained -/

section Upload

variable {validLength : UInt8 → Bool} {length destination : ℕ} {flag : UInt8} {s : Cpu}

/-- A command that fails its checks is contained: it only clears. -/
lemma contained_of_not_accepted (h : ¬ Accepted validLength s) :
    Contained validLength destination (credentialSet validLength length destination flag) s := by
  have hload (value : UInt8) : Writes Credentials s (s.lda value) := .of_eq rfl rfl
  unfold Contained credentialSet
  dsimp only
  by_cases hflags : s.memory pppPapCredentialFlags &&& flagTransient = 0
  · exact ⟨0, _, if_pos hflags, (hload _).trans (failed_writes _ _), fun haccepted => absurd haccepted h⟩
  · have hinvalid : validLength (s.memory modemMailboxArguments) = false := by
      by_contra hvalid
      exact h ⟨hflags, by simpa using hvalid⟩
    have hcheck : (!validLength ((s.lda (s.memory pppPapCredentialFlags &&& flagTransient)).lda
        (s.memory modemMailboxArguments)).a) = true := by simpa [Cpu.lda] using hinvalid
    have hloads : Writes Credentials s ((s.lda (s.memory pppPapCredentialFlags &&& flagTransient)).lda
        (s.memory modemMailboxArguments)) := .of_eq rfl rfl
    exact ⟨0, _, (if_neg hflags).trans (if_pos hcheck), hloads.trans (failed_writes _ _),
      fun haccepted => absurd haccepted h⟩

/-- The state at the start of the copy loop. -/
def copyStart (length : ℕ) (s : Cpu) : Cpu :=
  { ((pppSnapshotBegin (s.lda (s.memory modemMailboxArguments))).sta length).tax with y := 0 }

lemma copyStart_writes (length : ℕ) (s : Cpu) :
    Writes (fun address => Snapshot address ∨ address = length) s (copyStart length s) := by
  have hload : Writes (fun address => Snapshot address ∨ address = length) s
      (s.lda (s.memory modemMailboxArguments)) := .of_eq rfl rfl
  have hbegin (t : Cpu) : Writes (fun address => Snapshot address ∨ address = length) t (pppSnapshotBegin t) :=
    (pppSnapshotBegin_writes t).mono fun _ => Or.inl
  exact ((hload.trans (hbegin _)).trans (.store _ (Or.inr rfl))).trans (.of_eq rfl rfl)

lemma x_copyStart (length : ℕ) (s : Cpu) :
    (copyStart length s).x.toNat = 256 * s.b.toNat + (s.memory modemMailboxArguments).toNat := by
  show (word (pppSnapshotBegin _).b (pppSnapshotBegin _).a).toNat = _
  rw [toNat_word, b_pppSnapshotBegin, a_pppSnapshotBegin]
  rfl

/-- A command that passes its checks is the copy loop and what follows it. -/
lemma credentialSet_accepted (h : Accepted validLength s) (fuel : ℕ) :
    credentialSet validLength length destination flag fuel s =
      ((copyStart length s).copyDown (modemMailboxArguments + 1) destination fuel).map fun t =>
        (wipeMailbox (pppSnapshotEnd ((t.lda (t.memory pppPapCredentialFlags ||| flag)).sta
          pppPapCredentialFlags))).clc := by
  have hvalid : ¬ (!validLength (s.memory modemMailboxArguments)) = true := by simp [h.2]
  exact (if_neg h.1).trans (if_neg hvalid)

/-- The copy loop of an accepted upload ends, with the octets of the hidden byte's count. -/
lemma copyDown_copyStart (length destination : ℕ) (s : Cpu) (hdestination : destination ≤ modemMailboxArguments + 1)
    (hpositive : 1 ≤ (s.memory modemMailboxArguments).toNat) :
    ∃ t, (copyStart length s).copyDown (modemMailboxArguments + 1) destination (2 ^ 16) = some t ∧
      (∃ new, t.written = new ++ (copyStart length s).written ∧ ∀ address, address ∈ new ↔
        destination ≤ address ∧
          address < destination + (256 * s.b.toNat + (s.memory modemMailboxArguments).toNat)) ∧
      ∀ address, t.memory address = if destination ≤ address ∧
          address < destination + (256 * s.b.toNat + (s.memory modemMailboxArguments).toNat) then
        (copyStart length s).memory (modemMailboxArguments + 1 + (address - destination))
        else (copyStart length s).memory address := by
  have hx := x_copyStart length s
  have hlt := (copyStart length s).x.toNat_lt
  have hy : (copyStart length s).y.toNat = 0 := rfl
  obtain ⟨t, hrun, hwritten, hmemory⟩ := copyDown_spec (modemMailboxArguments + 1) destination hdestination
    (256 * s.b.toNat + (s.memory modemMailboxArguments).toNat) (2 ^ 16) (copyStart length s) (by omega) (by omega)
    (by omega) (by omega) (by omega)
  rw [hy, Nat.add_zero] at hwritten hmemory
  exact ⟨t, hrun, hwritten, hmemory⟩

/-- The part of the credential variables that an upload copies to. -/
structure Target (validLength : UInt8 → Bool) (length destination : ℕ) : Prop where
  length_mem : pppPapCredentialFlags < length ∧ length ≤ pppPapPasswordLength
  destination_le : pppPapPeerId ≤ destination ∧ destination ≤ pppChapDigest
  near : pppChapDigest < destination + 256
  valid : ∀ n, validLength n = true → 1 ≤ n.toNat ∧
    destination + n.toNat ≤ pppPapPassword + maximumPasswordLength

/-- An accepted upload with a clear hidden byte is contained. -/
lemma contained_of_b_eq_zero (htarget : Target validLength length destination) (h : Accepted validLength s)
    (hb : s.b = 0) : Contained validLength destination (credentialSet validLength length destination flag) s := by
  obtain ⟨⟨hlength, hlength'⟩, ⟨hdestination, hdestination'⟩, -, hvalid⟩ := htarget
  obtain ⟨hpositive, hsize⟩ := hvalid _ h.2
  have hstart := copyStart_writes length s
  obtain ⟨t, hrun, ⟨new, hnew, hmem⟩, hmemory⟩ := copyDown_copyStart length destination s (by
      have : pppChapDigest ≤ modemMailboxArguments + 1 := by decide
      omega) hpositive
  have hzero : s.b.toNat = 0 := by rw [hb]; rfl
  simp only [hzero, Nat.mul_zero, Nat.zero_add] at hmem hmemory
  have htrailer := trailer_writes t (t.memory pppPapCredentialFlags ||| flag)
  simp only [pppPapCredentialFlags, pppPapPasswordLength, pppPapPeerId, pppPapPassword, maximumPasswordLength]
    at hlength hlength' hdestination hsize
  -- The credentials lie apart from everything that is written before and after the copy.
  have hbefore (address : ℕ) (hout : ¬ (Snapshot address ∨ address = length)) :
      (copyStart length s).memory address = s.memory address := hstart.frame address hout
  have hcopy : Writes Credentials (copyStart length s) t := by
    refine ⟨⟨new, hnew, fun address hin => Or.inl ?_⟩, fun address hout => ?_⟩
    · obtain ⟨hge, hlt⟩ := (hmem address).mp hin
      simp only [pppPapPeerId, pppPapPassword, maximumPasswordLength]
      omega
    · rw [hmemory, if_neg]
      rintro ⟨hge, hlt⟩
      refine hout (Or.inl ?_)
      simp only [pppPapPeerId, pppPapPassword, maximumPasswordLength]
      omega
  refine ⟨2 ^ 16, _, by rw [credentialSet_accepted h, hrun, Option.map_some], ?_, fun _ address hge hlt => ?_⟩
  · refine ((hstart.mono fun address hin => ?_).trans hcopy).trans (htrailer.mono fun _ => trailer_le)
    rcases hin with hin | rfl
    · exact snapshot_le hin
    · refine Or.inr (Or.inl ?_)
      simp only [pppPapCredentialFlags, pppPapPasswordLength]
      omega
  · simp only [pppPapPeerId, pppPapPassword, maximumPasswordLength] at hge hlt
    rw [htrailer.frame address (by
      simp only [Trailer, Snapshot, pppPapCredentialFlags, pppSnapshotSequence, pppSnapshotDepth,
        modemMailboxArguments, modemMailboxArgumentSize]
      omega), hmemory]
    split_ifs with hin
    · refine hbefore _ ?_
      simp only [Snapshot, modemMailboxArguments, pppSnapshotSequence, pppSnapshotDepth]
      omega
    · refine hbefore _ ?_
      simp only [Snapshot, pppSnapshotSequence, pppSnapshotDepth]
      omega

/-- An accepted upload with a hidden byte writes over the digest, behind the credentials. -/
lemma not_contained_of_b_ne_zero (htarget : Target validLength length destination)
    (h : Accepted validLength s) (hb : s.b ≠ 0) :
    ¬ Contained validLength destination (credentialSet validLength length destination flag) s := by
  obtain ⟨-, ⟨-, hdestination⟩, hnear, hvalid⟩ := htarget
  obtain ⟨hpositive, -⟩ := hvalid _ h.2
  have hnonzero : s.b.toNat ≠ 0 := fun heq => hb (UInt8.toNat_inj.mp heq)
  obtain ⟨t, hrun, ⟨new, hnew, hmem⟩, -⟩ := copyDown_copyStart length destination s (by
      have : pppChapDigest ≤ modemMailboxArguments + 1 := by decide
      omega) hpositive
  rintro ⟨fuel, s', hupload, hwrites, -⟩
  rw [credentialSet_accepted h] at hupload
  obtain ⟨t', hrun', rfl⟩ := Option.map_eq_some_iff.mp hupload
  obtain rfl : t = t' := by
    have hlong := copyDown_mono hrun (Nat.le_max_left (2 ^ 16) fuel)
    have hlong' := copyDown_mono hrun' (Nat.le_max_right (2 ^ 16) fuel)
    exact Option.some_inj.mp (hlong.symm.trans hlong')
  have hwrote : Wrote pppChapDigest (copyStart length s) t := ⟨new, hnew, (hmem _).mpr ⟨hdestination, by omega⟩⟩
  have hinside := ((hwrote.after (copyStart_writes length s)).before (trailer_writes _ _)).inside hwrites
  exact absurd hinside (by decide)

/-- **One upload** is contained unless it is accepted with something in the hidden byte. -/
lemma target_contained (htarget : Target validLength length destination) :
    Contained validLength destination (credentialSet validLength length destination flag) s ↔
      ¬ (Accepted validLength s ∧ s.b ≠ 0) := by
  by_cases h : Accepted validLength s
  · by_cases hb : s.b = 0
    · exact iff_of_true (contained_of_b_eq_zero htarget h hb) fun hover => hover.2 hb
    · exact iff_of_false (not_contained_of_b_ne_zero htarget h hb) fun hnot => hnot ⟨h, hb⟩
  · exact iff_of_true (contained_of_not_accepted h) fun hover => h hover.1

end Upload

/-! ### The two commands -/

lemma target_peerId : Target validPeerIdLength pppPapPeerIdLength pppPapPeerId where
  length_mem := by decide
  destination_le := by decide
  near := by decide
  valid n h := by
    have hlength : n.toNat = maximumPeerIdLength := by simpa [validPeerIdLength] using h
    rw [hlength]
    decide

lemma target_password : Target validPasswordLength pppPapPasswordLength pppPapPassword where
  length_mem := by decide
  destination_le := by decide
  near := by decide
  valid n h := by
    obtain ⟨hmin, hmax⟩ : 6 ≤ n.toNat ∧ n.toNat < 25 := of_decide_eq_true h
    simp only [pppPapPassword, maximumPasswordLength]
    omega

/-- The upload commands that the mailbox dispatches in this state stay inside their variables. -/
def UploadContained (s : Cpu) : Prop :=
  ∀ t, dispatch s = some t →
    (t.a = modemMailboxCommandPapPeerIdSet →
      Contained validPeerIdLength pppPapPeerId pppPapCredentialSetPeerId t) ∧
    (t.a = modemMailboxCommandPapPasswordSet →
      Contained validPasswordLength pppPapPassword pppPapCredentialSetPassword t)

/-- A new upload passes its checks while the dispatcher has left an octet above the accumulator. -/
def Overruns (s : Cpu) : Prop :=
  NewCommand s ∧ residue s ≠ 0 ∧
    (s.memory modemMailboxCommand = modemMailboxCommandPapPeerIdSet ∧ Accepted validPeerIdLength s ∨
      s.memory modemMailboxCommand = modemMailboxCommandPapPasswordSet ∧ Accepted validPasswordLength s)

lemma accepted_of_writes {validLength : UInt8 → Bool} {s t : Cpu} (h : Writes Dispatcher s t) :
    Accepted validLength t ↔ Accepted validLength s := by
  unfold Accepted
  rw [h.frame pppPapCredentialFlags (by decide), h.frame modemMailboxArguments (by decide)]

/-- A command that the dispatcher calls is contained unless it finds the residue and passes its checks. -/
lemma target_contained_of_dispatch (flag command : UInt8) {validLength : UInt8 → Bool} {length destination : ℕ}
    {s t : Cpu} (htarget : Target validLength length destination) (hwrites : Writes Dispatcher s t)
    (ha : t.a = s.memory modemMailboxCommand) (hb : t.b = residue s) :
    (t.a = command → Contained validLength destination (credentialSet validLength length destination flag) t) ↔
      ¬ (residue s ≠ 0 ∧ s.memory modemMailboxCommand = command ∧ Accepted validLength s) := by
  rw [target_contained htarget, accepted_of_writes hwrites, ha, hb]
  tauto

/-- **The uploads that stay inside the credential variables** are those that find the high byte of the last
compared word of the host's sequence number zero, and those that fail their checks. -/
theorem uploadContained_iff (s : Cpu) : UploadContained s ↔ ¬ Overruns s := by
  rcases dispatch_cases s with ⟨hnew, hnone⟩ | ⟨hnew, t, hsome, hwrites, ha, hb⟩
  · refine iff_of_true (fun t ht => ?_) fun hover => hnew hover.1
    rw [hnone] at ht
    cases ht
  · have hpeer := target_contained_of_dispatch flagPeerId modemMailboxCommandPapPeerIdSet target_peerId hwrites ha hb
    have hpassword := target_contained_of_dispatch flagPassword modemMailboxCommandPapPasswordSet target_password hwrites ha hb
    have hupload : UploadContained s ↔
        (t.a = modemMailboxCommandPapPeerIdSet →
          Contained validPeerIdLength pppPapPeerId pppPapCredentialSetPeerId t) ∧
        (t.a = modemMailboxCommandPapPasswordSet →
          Contained validPasswordLength pppPapPassword pppPapCredentialSetPassword t) := by
      constructor
      · intro h
        exact h t hsome
      · intro h t' ht'
        obtain rfl : t = t' := Option.some_inj.mp (hsome.symm.trans ht')
        exact h
    refine hupload.trans ((and_congr hpeer hpassword).trans ?_)
    constructor
    · rintro ⟨hpeer, hpassword⟩ ⟨-, hresidue, hcommand | hcommand⟩
      · exact hpeer ⟨hresidue, hcommand⟩
      · exact hpassword ⟨hresidue, hcommand⟩
    · intro hover
      exact ⟨fun ⟨hresidue, hcommand⟩ => hover ⟨hnew, hresidue, Or.inl hcommand⟩,
        fun ⟨hresidue, hcommand⟩ => hover ⟨hnew, hresidue, Or.inr hcommand⟩⟩

/-- The host's 256th command, an upload of a peer identifier after a clear. -/
def carriedSequence : Cpu where
  a := 0
  b := 0
  x := 0
  y := 0
  carry := false
  memory address :=
    if address = modemMailboxHostSequence + 1 then 0x01
    else if address = modemMailboxProcessedSequence then 0xff
    else if address = modemMailboxCommand then modemMailboxCommandPapPeerIdSet
    else if address = modemMailboxArguments then 8
    else if address = pppPapCredentialFlags then flagTransient
    else 0
  written := []

/-- The 256th command of the host copies 264 octets. -/
theorem not_uploadContained_carriedSequence : ¬ UploadContained carriedSequence := by
  intro h
  rcases dispatch_cases carriedSequence with ⟨hnew, -⟩ | ⟨-, t, hsome, hwrites, ha, hb⟩
  · exact hnew (Or.inl (by decide))
  · have hover : residue carriedSequence ≠ 0 := by decide
    have haccepted : Accepted validPeerIdLength carriedSequence := ⟨by decide, by decide⟩
    exact (target_contained_of_dispatch flagPeerId _ target_peerId hwrites ha hb).mp (h t hsome).1 ⟨hover, rfl, haccepted⟩

end SnesModem.Asm.CredentialBounds
