import SnesModem.Asm.LcpParse

/-!
# `ppp/lcpOptions.asm`

The evaluation of the peer's Configure-Request and the selective responses to it.

The option maps are indexed by the sixteen bits of `tax`: the option type below, and above it the high octet
of the accumulator, which 16-bit arithmetic on a cursor has last left there.
-/

namespace SnesModem.Asm

open SnesModem.Lib.Cpu65816 SnesModem.Lib.Octets

inductive Disposition where
  | ack | nak | reject
  deriving DecidableEq, Repr

/-- The octet of a magic number with the given weight, which is its offset in memory. -/
def magicOctet (magic : UInt32) (weight : ℕ) : UInt8 := UInt8.ofNat (magic.toNat / 256 ^ weight)

/-- The magic number as a packet spells it. -/
def spelledMagic (magic : UInt32) : List UInt8 :=
  [magicOctet magic 3, magicOctet magic 2, magicOctet magic 1, magicOctet magic 0]

/-- Four octets of a packet as a magic number. -/
def readMagic (buffer : Buffer) (offset : ℕ) : UInt32 :=
  UInt32.ofNat (((buffer offset).toNat * 256 + (buffer (offset + 1)).toNat) * 65536 +
    ((buffer (offset + 2)).toNat * 256 + (buffer (offset + 3)).toNat))

abbrev magicRetryIncrement : UInt32 := 0x9e3779b9

/-- The next proposal, which is not zero; `pppLcpAdvanceLocalMagic` and `@writeMagicNak` compute it. -/
def nextMagic (magic : UInt32) : UInt32 :=
  if magic + magicRetryIncrement = 0 then magicRetryIncrement else magic + magicRetryIncrement

def pppLcpAdvanceLocalMagic (l : Lcp) : Lcp := { l with localMagic := nextMagic l.localMagic }

/-! ### The loops over the options -/

/-- The option that follows the one at `y`: `@advanceY`. -/
def advanceY (buffer : Buffer) (y : UInt16) : UInt16 := y + optionLength buffer y

/-- The offsets at which the loops over the options of a packet stop, the packet's end apart. -/
def optionOffsets (buffer : Buffer) (packetEnd : UInt16) : ℕ → UInt16 → List UInt16
  | 0, _ => []
  | turns + 1, y =>
    if y = packetEnd then [] else y :: optionOffsets buffer packetEnd turns (advanceY buffer y)

def options (buffer : Buffer) (packetEnd : UInt16) : List UInt16 :=
  optionOffsets buffer packetEnd maximumTurns firstOption

/-- The index that `tax` makes of an option type and the hidden octet. -/
def optionIndex (b type : UInt8) : ℕ := (word b type).toNat

/-- `pppLcpOptionDuplicate`, from `pppLcpOptionSeen` on. -/
abbrev duplicateMap : ℕ := 0x100

/-- `@clearMaps`. -/
def clearMaps (ram : Buffer) : Buffer := fun i => if i < 0x200 then 0 else ram i

/-- The first pass over one option: the maps, and the hidden octet that the advance leaves. -/
def recordType (buffer : Buffer) (maps : Buffer × UInt8) (y : UInt16) : Buffer × UInt8 :=
  let x := optionIndex maps.2 (buffer y.toNat)
  let ram :=
    if maps.1 x = 0 then Function.update maps.1 x 1
    else Function.update maps.1 (duplicateMap + x) 1
  (ram, high (advanceY buffer y))

/-- `pppLcpPeerMagicMatchesLocal`. -/
def pppLcpPeerMagicMatchesLocal (buffer : Buffer) (l : Lcp) (y : UInt16) : Bool :=
  read buffer (y.toNat + 2) 4 = spelledMagic l.localMagic

/-- The disposition of an option whose type is not marked as a duplicate. -/
def classifyByType (buffer : Buffer) (l : Lcp) (y : UInt16) : Disposition :=
  let octet (i : ℕ) := buffer (y.toNat + i)
  match (octet 0).toNat with
  | 1 => if octet 1 = 4 ∧ octet 2 ||| octet 3 ≠ 0 then .ack else .nak
  | 2 => if octet 1 = 6 then .ack else .nak
  | 3 =>
    if octet 1 = 5 then if octet 2 = 0xc2 ∧ octet 3 = 0x23 ∧ octet 4 = 5 then .ack else .nak
    else if octet 1 = 4 ∧ octet 2 = 0xc0 ∧ octet 3 = 0x23 then .ack
    else .nak
  | 5 =>
    if octet 1 ≠ 6 then .reject
    else if octet 2 ||| octet 3 ||| octet 4 ||| octet 5 = 0 then .nak
    else if l.magicRequest ∧ pppLcpPeerMagicMatchesLocal buffer l y then .nak
    else .ack
  | _ => .reject

def pppLcpClassifyPeerOption (buffer : Buffer) (l : Lcp) (b : UInt8) (y : UInt16) : Disposition :=
  if l.optionRam (duplicateMap + optionIndex b (buffer y.toNat)) ≠ 0 then .reject else classifyByType buffer l y

/-- The second pass: whether an option is rejected, whether one is answered with a Nak, and the hidden
octet. -/
def classifyOption (buffer : Buffer) (l : Lcp) (found : Bool × Bool × UInt8) (y : UInt16) : Bool × Bool × UInt8 :=
  let disposition := pppLcpClassifyPeerOption buffer l found.2.2 y
  (found.1 || disposition = .reject, found.2.1 || disposition = .nak, high (advanceY buffer y))

/-- `@commitLoop` at one option. -/
def commitOption (buffer : Buffer) (l : Lcp) (y : UInt16) : Lcp :=
  let octet (i : ℕ) := buffer (y.toNat + i)
  match (octet 0).toNat with
  | 1 => { l with peerMru := word (octet 2) (octet 3), peerFlags := { l.peerFlags with mru := true } }
  | 2 => { l with peerAccm := readMagic buffer (y.toNat + 2), peerFlags := { l.peerFlags with accm := true } }
  | 3 =>
    if octet 2 = 0xc2 then { l with peerFlags := { l.peerFlags with chapMd5 := true } }
    else { l with peerFlags := { l.peerFlags with pap := true } }
  | 5 =>
    { l with peerMagic := readMagic buffer (y.toNat + 2), peerFlags := { l.peerFlags with magicNumber := true } }
  | _ => l

/-- `@commitAcceptedConfiguration`. -/
def commitAcceptedConfiguration (buffer : Buffer) (l : Lcp) : Lcp :=
  (options buffer l.packetEnd).foldl (commitOption buffer) { l with
    peerFlags := ⟨false, false, false, false, false⟩
    peerMru := defaultMru
    peerAccm := 0xffffffff
    peerMagic := 0 }

/-- `pppLcpEvaluatePeerRequest`.  The parser has last compared its cursor with the packet's end, so that the
hidden octet is that of the end, at the start of the first pass as at the start of the second. -/
def pppLcpEvaluatePeerRequest (buffer : Buffer) (l : Lcp) : LcpAction × Lcp :=
  let offsets := options buffer l.packetEnd
  let maps := offsets.foldl (recordType buffer) (clearMaps l.optionRam, high l.packetEnd)
  let l := { l with optionRam := maps.1 }
  let found := offsets.foldl (classifyOption buffer l) (false, false, high l.packetEnd)
  if found.1 then (.configureReject, l)
  else if found.2.1 then (.configureNak, l)
  else (.configureAck, commitAcceptedConfiguration buffer l)

/-! ### Selective responses -/

/-- The option that a Nak suggests in place of the one of the given type. -/
def nakOption (l : Lcp) (type : UInt8) : List UInt8 :=
  match type.toNat with
  | 1 => [1, 4, 0x05, 0xdc]
  | 2 => [2, 6, 0xff, 0xff, 0xff, 0xff]
  | 5 => [5, 6] ++ spelledMagic (nextMagic l.localMagic)
  | _ => [3, 5, 0xc2, 0x23, 5]

/-- What the loop of `pppLcpBuildPeerResponse` carries: the hidden octet, the output cursor and the transmit
buffer. -/
structure Build where
  b : UInt8
  cursor : UInt16
  buffer : Buffer

/-- Octets stored at the cursor. -/
def Build.put (build : Build) (octets : List UInt8) (b : UInt8) : Build where
  b := b
  cursor := build.cursor + UInt16.ofNat octets.length
  buffer := write build.buffer build.cursor.toNat octets

def buildOption (buffer : Buffer) (l : Lcp) (build : Build) (y : UInt16) : Build :=
  let disposition := pppLcpClassifyPeerOption buffer l build.b y
  let b := high (advanceY buffer y)
  if l.pendingAction = .configureReject then
    -- The copy of an option ends with a 16-bit zero in the accumulator.
    if disposition = .reject then build.put (read buffer y.toNat (optionLength buffer y).toNat) 0
    else { build with b := b }
  else if disposition = .nak then build.put (nakOption l (buffer y.toNat)) b
  else { build with b := b }

/-- `pppLcpBuildPeerResponse`: the transmit buffer and the length of the frame. -/
def pppLcpBuildPeerResponse (buffer : Buffer) (l : Lcp) (output : Buffer) : Buffer × UInt16 :=
  let code : UInt8 := if l.pendingAction = .configureNak then 3 else 4
  let build := (options buffer l.packetEnd).foldl (buildOption buffer l)
    ⟨0, firstOption, write output 4 [code, buffer 5]⟩
  let length := build.cursor - frameOffset
  (write build.buffer 6 [high length, low length], build.cursor)

end SnesModem.Asm
