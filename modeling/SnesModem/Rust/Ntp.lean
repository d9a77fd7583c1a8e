import SnesModem.Lib.BigEndian
import Mathlib.Data.List.GetD

/-!
# `ndm24-ppp/src/ntp.rs`

The response of a server.
-/

namespace SnesModem.Rust.Ntp

open SnesModem.Lib

abbrev packetLength : ℕ := 48
abbrev serverPort : UInt16 := 123
abbrev unixEpochOffsetSeconds : UInt32 := 2208988800

abbrev modeServer : UInt8 := 4
abbrev leapUnsynchronized : UInt8 := 3

structure Timestamp where
  seconds : UInt32
  fraction : UInt32
  deriving DecidableEq, Repr

/-- `checked_sub`. -/
def Timestamp.unixSeconds (timestamp : Timestamp) : Option UInt32 :=
  if unixEpochOffsetSeconds ≤ timestamp.seconds then some (timestamp.seconds - unixEpochOffsetSeconds) else none

inductive ResponseError where
  | truncated (available : ℕ)
  | unsupportedVersion (version : UInt8)
  | unexpectedMode (mode : UInt8)
  | kissOfDeath (referenceId : List UInt8)
  | invalidStratum (stratum : UInt8)
  | unsynchronized
  | originateTimestampMismatch (expected received : Timestamp)
  deriving DecidableEq, Repr

structure ServerResponse where
  leapIndicator : UInt8
  version : UInt8
  stratum : UInt8
  poll : Int8
  precision : Int8
  rootDelay : UInt32
  rootDispersion : UInt32
  referenceId : List UInt8
  referenceTimestamp : Timestamp
  originateTimestamp : Timestamp
  receiveTimestamp : Timestamp
  transmitTimestamp : Timestamp
  deriving DecidableEq

def readArray (bytes : List UInt8) (offset : ℕ) : List UInt8 :=
  [bytes.getD offset 0, bytes.getD (offset + 1) 0, bytes.getD (offset + 2) 0, bytes.getD (offset + 3) 0]

def readU32 (bytes : List UInt8) (offset : ℕ) : UInt32 := UInt32.ofNat (BigEndian.value (readArray bytes offset))

def readTimestamp (bytes : List UInt8) (offset : ℕ) : Timestamp := ⟨readU32 bytes offset, readU32 bytes (offset + 4)⟩

/-- The fields of a response. -/
def responseOf (bytes : List UInt8) : ServerResponse where
  leapIndicator := bytes.getD 0 0 >>> 6
  version := bytes.getD 0 0 >>> 3 &&& 7
  stratum := bytes.getD 1 0
  poll := (bytes.getD 2 0).toInt8
  precision := (bytes.getD 3 0).toInt8
  rootDelay := readU32 bytes 4
  rootDispersion := readU32 bytes 8
  referenceId := readArray bytes 12
  referenceTimestamp := readTimestamp bytes 16
  originateTimestamp := readTimestamp bytes 24
  receiveTimestamp := readTimestamp bytes 32
  transmitTimestamp := readTimestamp bytes 40

def ServerResponse.parse (bytes : List UInt8) (expectedOriginate : Timestamp) : Except ResponseError ServerResponse :=
  if bytes.length < packetLength then .error (.truncated bytes.length)
  else
    let first := bytes.getD 0 0
    let leapIndicator := first >>> 6
    let version := first >>> 3 &&& 7
    let mode := first &&& 7
    let stratum := bytes.getD 1 0
    let referenceId := readArray bytes 12
    let originateTimestamp := readTimestamp bytes 24
    if ¬ (3 ≤ version ∧ version ≤ 4) then .error (.unsupportedVersion version)
    else if mode ≠ modeServer then .error (.unexpectedMode mode)
    else if stratum = 0 then .error (.kissOfDeath referenceId)
    else if 15 < stratum then .error (.invalidStratum stratum)
    else if leapIndicator = leapUnsynchronized then .error .unsynchronized
    else if originateTimestamp ≠ expectedOriginate then
      .error (.originateTimestampMismatch expectedOriginate originateTimestamp)
    else .ok (responseOf bytes)

/-! ### What is parsed -/

/-- **What a response has to be.** -/
structure Valid (bytes : List UInt8) (expectedOriginate : Timestamp) : Prop where
  length : packetLength ≤ bytes.length
  version : (3 : UInt8) ≤ bytes.getD 0 0 >>> 3 &&& 7 ∧ bytes.getD 0 0 >>> 3 &&& 7 ≤ (4 : UInt8)
  mode : bytes.getD 0 0 &&& 7 = modeServer
  stratum : bytes.getD 1 0 ≠ 0 ∧ bytes.getD 1 0 ≤ 15
  leapIndicator : bytes.getD 0 0 >>> 6 ≠ leapUnsynchronized
  originate : readTimestamp bytes 24 = expectedOriginate

/-- **The parser accepts the valid responses**, with their fields. -/
theorem parse_eq_ok_iff {bytes : List UInt8} {expectedOriginate : Timestamp} {response : ServerResponse} :
    ServerResponse.parse bytes expectedOriginate = .ok response ↔
      Valid bytes expectedOriginate ∧ response = responseOf bytes := by
  unfold ServerResponse.parse
  dsimp only
  constructor
  · intro hparse
    split_ifs at hparse with hlength hversion hmode hdeath hstratum hleap horiginate
    cases hparse
    exact ⟨⟨Nat.not_lt.mp hlength, hversion, not_not.mp hmode, ⟨hdeath, UInt8.not_lt.mp hstratum⟩, hleap,
      not_not.mp horiginate⟩, rfl⟩
  · rintro ⟨hvalid, rfl⟩
    rw [if_neg (Nat.not_lt.mpr hvalid.length), if_neg (not_not_intro hvalid.version),
      if_neg (not_not_intro hvalid.mode), if_neg hvalid.stratum.1, if_neg (UInt8.not_lt.mpr hvalid.stratum.2),
      if_neg hvalid.leapIndicator, if_neg (not_not_intro hvalid.originate)]

lemma unixSeconds_isSome {timestamp : Timestamp} :
    timestamp.unixSeconds.isSome = true ↔ unixEpochOffsetSeconds ≤ timestamp.seconds := by
  unfold Timestamp.unixSeconds
  split_ifs with h
  · exact iff_of_true rfl h
  · exact iff_of_false Bool.false_ne_true h

end SnesModem.Rust.Ntp
