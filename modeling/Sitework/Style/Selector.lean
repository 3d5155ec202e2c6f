/-!
# Selectors by name

A name is written as an identifier: what cannot stand in one as it is, is escaped by a backslash,
as the character itself or, for control characters and leading digits, by its code point.
-/

namespace Sitework.Selector

/-- Control characters of ASCII, other than the null character. -/
def isControl (c : Char) : Bool :=
  (1 ≤ c.toNat && c.toNat ≤ 0x1F) || c.toNat == 0x7F

/-- Characters that may stand in an identifier as they are. -/
def isPlain (c : Char) : Bool :=
  c.isAlphanum || c == '-' || c == '_' || 0x80 ≤ c.toNat

/-- A character given by its code point, with the space that ends it. -/
def byCodePoint (c : Char) : List Char :=
  '\\' :: Nat.toDigits 16 c.toNat ++ [' ']

/-- The written form of a character; `leading` says that a digit would start the identifier. -/
def escapeChar (leading : Bool) (c : Char) : List Char :=
  if c = '\x00' then ['\uFFFD']
  else if isControl c || (leading && c.isDigit) then byCodePoint c
  else if isPlain c then [c]
  else ['\\', c]

/-- The written form of a name. -/
def escapeChars : List Char → List Char
  | [] => []
  | ['-'] => ['\\', '-']
  | '-' :: c :: cs => '-' :: escapeChar true c ++ cs.flatMap (escapeChar false)
  | c :: cs => escapeChar true c ++ cs.flatMap (escapeChar false)

/-- The identifier of a name. -/
def escape (name : String) : String :=
  String.ofList (escapeChars name.toList)

end Sitework.Selector
