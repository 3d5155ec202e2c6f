import Sitework.Number.Hex

/-!
# JSON strings

The characters between the quotes of a JSON string. Writing escapes the quote, the backslash and
the control characters and nothing else; reading accepts every escape of the format, with
characters beyond the basic plane as a pair of surrogates, and refuses bare control characters. A
string with a surrogate that stands alone is well-formed, but it is no text.
-/

namespace Sitework.Json.Text

/-- The value of four hexadecimal digits. -/
def hexUnit? (a b c d : Char) : Option Nat :=
  Hex.ofDigits? [a, b, c, d]

/-- The written form of one character. -/
def escape (c : Char) : List Char :=
  if c = '"' then ['\\', '"']
  else if c = '\\' then ['\\', '\\']
  else if c = '\x08' then ['\\', 'b']
  else if c = '\x0c' then ['\\', 'f']
  else if c = '\n' then ['\\', 'n']
  else if c = '\r' then ['\\', 'r']
  else if c = '\t' then ['\\', 't']
  else if c.toNat < 32 then ['\\', 'u', '0', '0', Hex.digit (c.toNat / 16), Hex.digit c.toNat]
  else [c]

/-- The written form of a text, with its quotes. -/
def encode (cs : List Char) : List Char :=
  '"' :: cs.flatMap escape ++ ['"']

/-- The character that a one-letter escape stands for. -/
def simpleEscape? : Char → Option Char
  | '"' => some '"'
  | '\\' => some '\\'
  | '/' => some '/'
  | 'b' => some '\x08'
  | 'f' => some '\x0c'
  | 'n' => some '\n'
  | 'r' => some '\r'
  | 't' => some '\t'
  | _ => none

/-- Whether a unit opens a surrogate pair. -/
def isHighSurrogate (unit : Nat) : Bool :=
  0xD800 ≤ unit && unit < 0xDC00

/-- Whether a unit closes a surrogate pair. -/
def isLowSurrogate (unit : Nat) : Bool :=
  0xDC00 ≤ unit && unit < 0xE000

/-- The code point of a surrogate pair. -/
def pair (high low : Nat) : Nat :=
  0x10000 + (high - 0xD800) * 0x400 + (low - 0xDC00)

/-- Reads up to the closing quote. Returns one number for each character or escape, and what
follows the quote. -/
def units? : List Char → Option (List Nat × List Char)
  | [] => none
  | '"' :: rest => some ([], rest)
  | '\\' :: 'u' :: a :: b :: c :: d :: rest =>
    match hexUnit? a b c d, units? rest with
    | some unit, some (units, after) => some (unit :: units, after)
    | _, _ => none
  | '\\' :: c :: rest =>
    match simpleEscape? c, units? rest with
    | some e, some (units, after) => some (e.toNat :: units, after)
    | _, _ => none
  | c :: rest =>
    if c = '\\' ∨ c.toNat < 32 then none
    else
      match units? rest with
      | some (units, after) => some (c.toNat :: units, after)
      | none => none

/-- Joins surrogate pairs; a surrogate that stands alone is no character. -/
def ofUnits? : List Nat → Option (List Char)
  | [] => some []
  | high :: rest =>
    if isLowSurrogate high then none
    else if isHighSurrogate high then
      match rest with
      | low :: rest =>
        if isLowSurrogate low then (ofUnits? rest).map (Char.ofNat (pair high low) :: ·) else none
      | [] => none
    else (ofUnits? rest).map (Char.ofNat high :: ·)

/-- What follows a string is shorter than the text it was read from. -/
theorem length_lt_of_units? {cs after : List Char} {units : List Nat}
    (h : units? cs = some (units, after)) : after.length < cs.length := by
  fun_induction units? cs generalizing units after with
  | case1 | case4 | case6 | case7 | case9 => simp at h
  | case2 => simp_all
  | case3 _ _ _ _ _ _ _ _ hrest _ ih | case5 _ _ _ _ _ _ hrest _ ih
  | case8 _ _ _ _ _ _ _ _ hrest ih =>
    obtain ⟨-, rfl⟩ := by simpa using h
    have := ih hrest
    simp only [List.length_cons]
    omega

end Sitework.Json.Text
