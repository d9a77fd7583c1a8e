import Mathlib.Data.List.Basic

/-!
# Text of a source line

The functions of `str` that the width linter reads its lines with, on the characters of a text.
-/

namespace SnesModem.Rust.SourceText

abbrev Text := List Char

/-- `char::is_whitespace`. -/
def isWhitespace (c : Char) : Bool :=
  (9 ≤ c.toNat && c.toNat ≤ 13) || (0x2000 ≤ c.toNat && c.toNat ≤ 0x200a) ||
    [0x20, 0x85, 0xa0, 0x1680, 0x2028, 0x2029, 0x202f, 0x205f, 0x3000].contains c.toNat

def trimStart (s : Text) : Text := s.dropWhile isWhitespace

def trimEnd (s : Text) : Text := (s.reverse.dropWhile isWhitespace).reverse

def trim (s : Text) : Text := trimEnd (trimStart s)

/-- `str::split_once`: the text before the first character that meets the test, and the text behind it. -/
def splitOnce (isSplit : Char → Bool) (s : Text) : Option (Text × Text) :=
  if s.any isSplit then some (s.takeWhile fun c => !isSplit c, (s.dropWhile fun c => !isSplit c).drop 1) else none

/-- The text before the first such character, or all of it. -/
def before (c : Char) (s : Text) : Text := s.takeWhile (· != c)

def startsWith (start : String) (s : Text) : Bool := start.toList.isPrefixOf s

def endsWith (tail : String) (s : Text) : Bool := tail.toList.isSuffixOf s

def stripStart (start : String) (s : Text) : Option Text :=
  if startsWith start s then some (s.drop start.toList.length) else none

def stripEnd (tail : String) (s : Text) : Option Text :=
  if endsWith tail s then some (s.take (s.length - tail.toList.length)) else none

def toAsciiLowercase (s : Text) : Text := s.map Char.toLower

def toAsciiUppercase (s : Text) : Text := s.map Char.toUpper

/-- `char::to_digit`. -/
def toDigit (radix : ℕ) (c : Char) : Option ℕ :=
  let value :=
    if '0' ≤ c ∧ c ≤ '9' then c.toNat - '0'.toNat
    else if 'a' ≤ c ∧ c ≤ 'z' then c.toNat - 'a'.toNat + 10
    else if 'A' ≤ c ∧ c ≤ 'Z' then c.toNat - 'A'.toNat + 10
    else radix
  if value < radix then some value else none

/-- `from_str_radix` of an unsigned type below the limit: a sign `+` may stand first. -/
def fromStrRadix (radix limit : ℕ) (s : Text) : Option ℕ :=
  let digits := if startsWith "+" s then s.drop 1 else s
  if digits = [] then none
  else
    (digits.foldlM (fun value c => (toDigit radix c).map (radix * value + ·)) 0).bind fun value =>
      if value < limit then some value else none

/-- A name that `ca65` takes without quotes: ASCII letters, digits and underscores. -/
def isSymbol (s : Text) : Bool := !s.isEmpty && s.all fun c => c == '_' || c.isAlphanum

end SnesModem.Rust.SourceText
