import Sitework.Number.Hex
import Sitework.Text.Utf8

/-!
# Percent encoding

A character that may not stand for itself is written byte by byte, each as a percent sign and two
hexadecimal digits. Which characters those are depends on the part of a URL.
-/

namespace Sitework.Percent

/-- Control characters and characters beyond ASCII, which stand for themselves nowhere. -/
def isAlwaysEncoded (c : Char) : Bool :=
  c.toNat < 0x20 || 0x7F ≤ c.toNat

/-- What is encoded in a fragment. -/
def inFragment (c : Char) : Bool :=
  isAlwaysEncoded c || c == ' ' || c == '"' || c == '<' || c == '>' || c == '\x60'

/-- What is encoded in a segment of a path. -/
def inPath (c : Char) : Bool :=
  inFragment c || c == '#' || c == '?' || c == '\x7b' || c == '\x7d'

/-- What is encoded in a user name or password. -/
def inUserInfo (c : Char) : Bool :=
  inPath c || ['/', ':', ';', '=', '@', '[', '\\', ']', '^', '|'].contains c

/-- What is encoded in a query. -/
def inQuery (c : Char) : Bool :=
  isAlwaysEncoded c || c == ' ' || c == '"' || c == '#' || c == '<' || c == '>'

/-- What is encoded in a query of a special scheme. -/
def inSpecialQuery (c : Char) : Bool :=
  inQuery c || c == '\''

/-- The encoded form of a byte. -/
def encodeByte (b : UInt8) : List Char :=
  ['%', (Hex.digit (b.toNat / 16)).toUpper, (Hex.digit b.toNat).toUpper]

/-- The characters with those in a set encoded. -/
def encode (set : Char → Bool) (cs : List Char) : List Char :=
  cs.flatMap fun c => if set c then (String.utf8EncodeChar c).flatMap encodeByte else [c]

/-- The byte of two hexadecimal digits. -/
def byte? (high low : UInt8) : Option UInt8 := do
  let high ← Hex.value? (Char.ofNat high.toNat)
  let low ← Hex.value? (Char.ofNat low.toNat)
  return UInt8.ofNat (16 * high + low)

/-- The bytes with every encoded byte decoded. -/
def decode : List UInt8 → List UInt8
  | 0x25 :: high :: low :: rest =>
    match byte? high low with
    | some b => b :: decode rest
    | none => 0x25 :: decode (high :: low :: rest)
  | b :: rest => b :: decode rest
  | [] => []

end Sitework.Percent
