import SnesModem.Lib.Cpu65816

/-!
# The upload of PAP credentials, register by register

The dispatcher of the mailbox and the two credential commands on the 65816, with the high byte of the
accumulator that the dispatcher leaves behind.

* An address is an offset from the start of bank `$7e`; the variables lie where the linker puts them, the
  segments of `ppp/state.asm` before those of `ram/global.asm`.
* Pushes are not modelled as writes, and `pha`/`pla` around a call is a saved register.
-/

namespace SnesModem.Asm.PapCredentials

open SnesModem.Lib.Cpu65816

/-! ### Variables and constants -/

abbrev pppSnapshotSequence : ℕ := 0x008
abbrev pppPapCredentialFlags : ℕ := 0x1ea
abbrev pppPapPeerIdLength : ℕ := 0x1eb
abbrev pppPapPasswordLength : ℕ := 0x1ec
abbrev pppPapPeerId : ℕ := 0x27d
abbrev pppPapPassword : ℕ := 0x285
abbrev pppChapDigest : ℕ := 0x2dd
abbrev pppSnapshotDepth : ℕ := 0x796
abbrev modemMailboxHostSequence : ℕ := 0xa2b
abbrev modemMailboxProcessedSequence : ℕ := 0xa2f
abbrev modemMailboxCommand : ℕ := 0xa33
abbrev modemMailboxStatus : ℕ := 0xa34
abbrev modemMailboxResult : ℕ := 0xa35
abbrev modemMailboxArguments : ℕ := 0xa37
abbrev modemMailboxStage : ℕ := 0x1b90
abbrev modemMailboxObservedHost : ℕ := 0x1b91
abbrev modemMailboxObservedProcessed : ℕ := 0x1b95

abbrev modemMailboxArgumentSize : ℕ := 32
abbrev modemMailboxStatusRunning : UInt8 := 2
abbrev modemMailboxCommandPapPeerIdSet : UInt8 := 0x13
abbrev modemMailboxCommandPapPasswordSet : UInt8 := 0x14

abbrev maximumPeerIdLength : ℕ := 8
abbrev minimumPasswordLength : ℕ := 6
abbrev maximumPasswordLength : ℕ := 24

abbrev flagPeerId : UInt8 := 1
abbrev flagPassword : UInt8 := 2
abbrev flagTransient : UInt8 := 4

abbrev errorInvalidLength : UInt8 := 1
abbrev errorNotCleared : UInt8 := 2

/-! ### The diagnostic snapshot -/

/-- The macro `pppIncrement32`. -/
def pppIncrement32 (s : Cpu) (address : ℕ) : Cpu :=
  let s := s.inc16 address
  if s.word16 address = 0 then s.inc16 (address + 2) else s

def pppSnapshotBegin (s : Cpu) : Cpu :=
  let saved := s.a
  let s := s.lda (s.memory pppSnapshotDepth)
  let s := if s.a = 0 then pppIncrement32 s pppSnapshotSequence else s
  (s.inc pppSnapshotDepth).lda saved

def pppSnapshotEnd (s : Cpu) : Cpu :=
  let saved := s.a
  let s := s.dec pppSnapshotDepth
  let s := if s.memory pppSnapshotDepth = 0 then pppIncrement32 s pppSnapshotSequence else s
  s.lda saved

/-! ### The credential commands -/

/-- `@wipeMailbox`. -/
def wipeMailbox (s : Cpu) : Cpu := (s.lda 0).wipe modemMailboxArguments modemMailboxArgumentSize

def pppPapCredentialsClear (s : Cpu) : Cpu :=
  let s := (pppSnapshotBegin s).lda 0
  let s := (s.wipe pppPapPeerId maximumPeerIdLength).wipe pppPapPassword maximumPasswordLength
  let s := (s.stz pppPapPeerIdLength).stz pppPapPasswordLength
  let s := (s.lda flagTransient).sta pppPapCredentialFlags
  (wipeMailbox (pppSnapshotEnd s)).clc

/-- `@failed`: the error code is returned in the accumulator, with the carry set. -/
def failed (s : Cpu) (error : UInt8) : Cpu := ((pppPapCredentialsClear (s.lda error)).lda error).sec

/-- `pppPapCredentialSetPeerId` and `pppPapCredentialSetPassword`: a check of the argument's length, and the
variables and the flag of the credential. The result is `none` if the copy loop takes more than `fuel`
turns. -/
def credentialSet (validLength : UInt8 → Bool) (length destination : ℕ) (flag : UInt8) (fuel : ℕ) (s : Cpu) :
    Option Cpu :=
  let s := s.lda (s.memory pppPapCredentialFlags &&& flagTransient)
  if s.a = 0 then some (failed s errorNotCleared)
  else
    let s := s.lda (s.memory modemMailboxArguments)
    if !validLength s.a then some (failed s errorInvalidLength)
    else
      let s := (pppSnapshotBegin s).sta length
      let s := { s.tax with y := 0 }
      (s.copyDown (modemMailboxArguments + 1) destination fuel).map fun s =>
        let s := (s.lda (s.memory pppPapCredentialFlags ||| flag)).sta pppPapCredentialFlags
        (wipeMailbox (pppSnapshotEnd s)).clc

/-- `cmp #PPP_PAP_MAXIMUM_PEER_ID_LENGTH`. -/
def validPeerIdLength (length : UInt8) : Bool := length.toNat = maximumPeerIdLength

/-- `cmp #PPP_PAP_MINIMUM_PASSWORD_LENGTH`, then with the maximum plus one. -/
def validPasswordLength (length : UInt8) : Bool :=
  minimumPasswordLength ≤ length.toNat ∧ length.toNat < maximumPasswordLength + 1

def pppPapCredentialSetPeerId : ℕ → Cpu → Option Cpu :=
  credentialSet validPeerIdLength pppPapPeerIdLength pppPapPeerId flagPeerId

def pppPapCredentialSetPassword : ℕ → Cpu → Option Cpu :=
  credentialSet validPasswordLength pppPapPasswordLength pppPapPassword flagPassword

/-! ### The dispatcher -/

/-- `@checkNewCommand` of `modemMailboxPoll`, with a 16-bit accumulator: the comparison of the sequence
numbers. `none` if they are equal. -/
def checkNewCommand (s : Cpu) : Option Cpu :=
  let s := (s.lda 0x20).sta modemMailboxStage
  let s := (s.lda16 modemMailboxProcessedSequence).sta16 modemMailboxObservedProcessed
  let s := (s.lda16 modemMailboxHostSequence).sta16 modemMailboxObservedHost
  if word s.b s.a ≠ s.word16 modemMailboxObservedProcessed then some s
  else
    let s := (s.lda16 (modemMailboxProcessedSequence + 2)).sta16 (modemMailboxObservedProcessed + 2)
    let s := (s.lda16 (modemMailboxHostSequence + 2)).sta16 (modemMailboxObservedHost + 2)
    if word s.b s.a ≠ s.word16 (modemMailboxObservedProcessed + 2) then some s else none

/-- `@newCommand` up to the comparisons with the command, which leave the registers as they are. -/
def newCommand (s : Cpu) : Cpu :=
  let s := (s.lda 0x30).sta modemMailboxStage
  let s := (s.lda modemMailboxStatusRunning).sta modemMailboxStatus
  let s := (s.stz modemMailboxResult).stz (modemMailboxResult + 1)
  s.lda (s.memory modemMailboxCommand)

/-- The state in which a command is dispatched. -/
def dispatch (s : Cpu) : Option Cpu := (checkNewCommand s).map newCommand

end SnesModem.Asm.PapCredentials
