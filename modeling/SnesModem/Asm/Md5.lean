import Mathlib.Data.List.Range

/-!
# `ppp/md5.asm`

MD5 over a message of one or two blocks.  The source adds, rotates and combines its words octet by octet; here
they are words.
-/

namespace SnesModem.Asm

/-- `pppMd5State` and `pppMd5Working`. -/
structure Md5State where
  a : UInt32
  b : UInt32
  c : UInt32
  d : UInt32

def pppMd5InitialState : Md5State := ⟨0x67452301, 0xefcdab89, 0x98badcfe, 0x10325476⟩

def pppMd5ShiftAmounts : List ℕ :=
  [7, 12, 17, 22, 7, 12, 17, 22, 7, 12, 17, 22, 7, 12, 17, 22,
    5, 9, 14, 20, 5, 9, 14, 20, 5, 9, 14, 20, 5, 9, 14, 20,
    4, 11, 16, 23, 4, 11, 16, 23, 4, 11, 16, 23, 4, 11, 16, 23,
    6, 10, 15, 21, 6, 10, 15, 21, 6, 10, 15, 21, 6, 10, 15, 21]

def pppMd5RoundConstants : List UInt32 :=
  [0xd76aa478, 0xe8c7b756, 0x242070db, 0xc1bdceee, 0xf57c0faf, 0x4787c62a, 0xa8304613, 0xfd469501,
    0x698098d8, 0x8b44f7af, 0xffff5bb1, 0x895cd7be, 0x6b901122, 0xfd987193, 0xa679438e, 0x49b40821,
    0xf61e2562, 0xc040b340, 0x265e5a51, 0xe9b6c7aa, 0xd62f105d, 0x02441453, 0xd8a1e681, 0xe7d3fbc8,
    0x21e1cde6, 0xc33707d6, 0xf4d50d87, 0x455a14ed, 0xa9e3e905, 0xfcefa3f8, 0x676f02d9, 0x8d2a4c8a,
    0xfffa3942, 0x8771f681, 0x6d9d6122, 0xfde5380c, 0xa4beea44, 0x4bdecfa9, 0xf6bb4b60, 0xbebfbc70,
    0x289b7ec6, 0xeaa127fa, 0xd4ef3085, 0x04881d05, 0xd9d4d039, 0xe6db99e5, 0x1fa27cf8, 0xc4ac5665,
    0xf4292244, 0x432aff97, 0xab9423a7, 0xfc93a039, 0x655b59c3, 0x8f0ccc92, 0xffeff47d, 0x85845dd1,
    0x6fa87e4f, 0xfe2ce6e0, 0xa3014314, 0x4e0811a1, 0xf7537e82, 0xbd3af235, 0x2ad7d2bb, 0xeb86d391]

/-- `@roundOne` to `@roundFour`: the function of the round, and the word of the block it takes. -/
def roundFunction (round : ℕ) (s : Md5State) : UInt32 × ℕ :=
  if round < 16 then ((s.b &&& s.c) ||| (~~~s.b &&& s.d), round)
  else if round < 32 then ((s.d &&& s.b) ||| (~~~s.d &&& s.c), (5 * round + 1) % 16)
  else if round < 48 then (s.b ^^^ s.c ^^^ s.d, (3 * round + 5) % 16)
  else (s.c ^^^ (s.b ||| ~~~s.d), 7 * round % 16)

/-- A word of the message, least significant octet first. -/
def messageWord (message : List UInt8) (offset : ℕ) : UInt32 :=
  let octet (i : ℕ) := (message.getD (offset + i) 0).toUInt32
  octet 0 + octet 1 * 0x100 + octet 2 * 0x10000 + octet 3 * 0x1000000

/-- `@rotate`. -/
def rotateLeft (word : UInt32) (count : ℕ) : UInt32 :=
  (word <<< UInt32.ofNat count) ||| (word >>> UInt32.ofNat (32 - count))

def md5Round (message : List UInt8) (block : ℕ) (s : Md5State) (round : ℕ) : Md5State :=
  let (value, index) := roundFunction round s
  let temporary := value + s.a + pppMd5RoundConstants.getD round 0 + messageWord message (block + 4 * index)
  ⟨s.d, s.b + rotateLeft temporary (pppMd5ShiftAmounts.getD round 0), s.b, s.c⟩

/-- `@block`. -/
def md5Block (message : List UInt8) (s : Md5State) (block : ℕ) : Md5State :=
  let working := (List.range 64).foldl (md5Round message block) s
  ⟨s.a + working.a, s.b + working.b, s.c + working.c, s.d + working.d⟩

/-- The message with its padding and its length in bits. -/
def paddedMessage (message : List UInt8) : List UInt8 :=
  let length := UInt8.ofNat message.length
  let filled := if message.length < 56 then 56 else 120
  message ++ 0x80 :: List.replicate (filled - (message.length + 1)) 0 ++
    [length * 8, length / 32, 0, 0, 0, 0, 0, 0]

/-- The octets of a word, the least significant one first. -/
def wordOctets (word : UInt32) : List UInt8 :=
  [word.toUInt8, (word >>> 8).toUInt8, (word >>> 16).toUInt8, (word >>> 24).toUInt8]

/-- `pppMd5Compute`, for a message of less than 120 octets. -/
def pppMd5Compute (message : List UInt8) : List UInt8 :=
  let blocks := if message.length < 56 then [0] else [0, 64]
  let s := blocks.foldl (md5Block (paddedMessage message)) pppMd5InitialState
  wordOctets s.a ++ wordOctets s.b ++ wordOctets s.c ++ wordOctets s.d

lemma length_pppMd5Compute (message : List UInt8) : (pppMd5Compute message).length = 16 := by
  simp [pppMd5Compute, wordOctets]

end SnesModem.Asm
