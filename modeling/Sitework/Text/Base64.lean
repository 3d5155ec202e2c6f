import Sitework.Text.Utf8

/-!
# Bytes as text

Three bytes are written as four symbols of six bits each; one or two bytes at the end are filled
up with zero bits and padded to four symbols. Reading accepts only what writing produces: it
checks the symbols, the padding and that the bits filled up are zero.
-/

namespace Sitework.Base64

/-- Why symbols cannot be read. -/
inductive Fault where
  /-- A byte at an offset is no symbol, or is padding where there must be none. -/
  | symbol (byte : UInt8) (offset : Nat)
  /-- The last symbol at an offset has bits beyond the last byte. -/
  | lastSymbol (byte : UInt8) (offset : Nat)
  /-- A single symbol is left over after whole groups. -/
  | length (symbols : Nat)
  /-- Padding is missing. -/
  | padding
deriving DecidableEq, Repr

/-- The text of the fault. -/
def Fault.message : Fault → String
  | .symbol byte offset =>
    "Invalid symbol " ++ toString byte.toNat ++ ", offset " ++ toString offset ++ "."
  | .lastSymbol byte offset =>
    "Invalid last symbol " ++ toString byte.toNat ++ ", offset " ++ toString offset ++ "."
  | .length symbols => "Invalid input length: " ++ toString symbols
  | .padding => "Invalid padding"

/-- The symbol of a value below 64. -/
def symbol (n : Nat) : UInt8 :=
  UInt8.ofNat <|
    if n < 26 then 0x41 + n
    else if n < 52 then 0x61 + (n - 26)
    else if n < 62 then 0x30 + (n - 52)
    else if n = 62 then 0x2B
    else 0x2F

/-- The value of a symbol. -/
def value? (byte : UInt8) : Option Nat :=
  let b := byte.toNat
  if 0x41 ≤ b ∧ b ≤ 0x5A then some (b - 0x41)
  else if 0x61 ≤ b ∧ b ≤ 0x7A then some (b - 0x61 + 26)
  else if 0x30 ≤ b ∧ b ≤ 0x39 then some (b - 0x30 + 52)
  else if b = 0x2B then some 62
  else if b = 0x2F then some 63
  else none

/-- A symbol has the value that it was written for. -/
theorem value?_symbol {n : Nat} (h : n < 64) : value? (symbol n) = some n := by
  have symbols : ∀ k < 64, value? (symbol k) = some k := by decide
  exact symbols n h

/-- The padding. -/
def pad : UInt8 := 0x3D

/-- The symbols of some bytes. -/
def encode : List UInt8 → List UInt8
  | [] => []
  | [x] => [symbol (x.toNat / 4), symbol (x.toNat % 4 * 16), pad, pad]
  | [x, y] =>
    [symbol (x.toNat / 4), symbol (x.toNat % 4 * 16 + y.toNat / 16), symbol (y.toNat % 16 * 4), pad]
  | x :: y :: z :: rest =>
    symbol (x.toNat / 4) :: symbol (x.toNat % 4 * 16 + y.toNat / 16) ::
      symbol (y.toNat % 16 * 4 + z.toNat / 64) :: symbol (z.toNat % 64) :: encode rest

/-- The value of the symbol at an offset. -/
def valueAt (offset : Nat) (byte : UInt8) : Except Fault Nat :=
  match value? byte with
  | some n => .ok n
  | none => .error (.symbol byte offset)

/-- The values of symbols that begin at an offset. -/
def valuesFrom (offset : Nat) : List UInt8 → Except Fault (List Nat)
  | [] => .ok []
  | byte :: bytes => do return (← valueAt offset byte) :: (← valuesFrom (offset + 1) bytes)

/-- The bytes of the values in the last group, whose last symbol ends at an offset. -/
def lastBytes (offset : Nat) (last : UInt8) : List Nat → Except Fault (List UInt8)
  | [a, b] =>
    if b % 16 = 0 then .ok [UInt8.ofNat (a * 4 + b / 16)]
    else .error (.lastSymbol last (offset + 1))
  | [a, b, c] =>
    if c % 4 = 0 then .ok [UInt8.ofNat (a * 4 + b / 16), UInt8.ofNat (b % 16 * 16 + c / 4)]
    else .error (.lastSymbol last (offset + 2))
  | [a, b, c, d] =>
    .ok [UInt8.ofNat (a * 4 + b / 16), UInt8.ofNat (b % 16 * 16 + c / 4),
      UInt8.ofNat (c % 4 * 64 + d)]
  | values => .error (.length (offset + values.length))

/-- The bytes of the last group, at an offset: at most four symbols, padding included. -/
def decodeLast (offset : Nat) (group : List UInt8) : Except Fault (List UInt8) := do
  let symbols := group.takeWhile (· != pad)
  let padding := group.dropWhile (· != pad)
  let values ← valuesFrom offset symbols
  if padding ≠ [] ∧ (symbols.length < 2 ∨ padding.any (· != pad)) then
    throw (.symbol pad (offset + symbols.length))
  if symbols.length < 2 then throw (.length (offset + symbols.length))
  if group.length ≠ 4 then throw .padding
  lastBytes offset (symbols.getLast?.getD pad) values

/-- The bytes of groups that begin at an offset. -/
def decodeFrom (offset : Nat) : List UInt8 → Except Fault (List UInt8)
  | [] => .ok []
  | a :: b :: c :: d :: e :: rest => do
    let a ← valueAt offset a
    let b ← valueAt (offset + 1) b
    let c ← valueAt (offset + 2) c
    let d ← valueAt (offset + 3) d
    return UInt8.ofNat (a * 4 + b / 16) :: UInt8.ofNat (b % 16 * 16 + c / 4) ::
      UInt8.ofNat (c % 4 * 64 + d) :: (← decodeFrom (offset + 4) (e :: rest))
  | group => decodeLast offset group

/-- The bytes of some symbols. A byte that is left over after whole groups and is neither a symbol
nor padding is found before anything else. -/
def decode (symbols : List UInt8) : Except Fault (List UInt8) :=
  match symbols.getLast? with
  | some last =>
    if symbols.length % 4 = 1 ∧ last ≠ pad ∧ value? last = none then
      .error (.symbol last (symbols.length - 1))
    else decodeFrom 0 symbols
  | none => .ok []

/-- The text of some bytes. -/
def toText (bytes : List UInt8) : String :=
  String.ofList ((encode bytes).map fun b => Char.ofNat b.toNat)

/-- The bytes of a text. -/
def ofText (text : String) : Except Fault (List UInt8) :=
  decode (Utf8.encode text.toList)

end Sitework.Base64
