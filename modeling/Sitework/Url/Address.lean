import Sitework.Number.Hex
import Sitework.Number.Integer
import Sitework.Text.Split

/-!
# Network addresses

An address of version 4 has up to four numbers between dots, each decimal, octal or hexadecimal;
the last one fills the rest of the 32 bits. An address of version 6 has eight pieces of up to four
hexadecimal digits, of which a row of zeros may be left out and the last two may be given as an
address of version 4 in four decimal numbers.
-/

namespace Sitework.Address

/-- The number of some digits, given the base and which characters are digits. -/
def number? (base : Nat) (isDigit : Char → Bool) (cs : List Char) : Option Nat :=
  if cs.all isDigit then some (cs.foldl (fun n c => base * n + (Hex.value? c).getD 0) 0) else none

/-- A number in an address of version 4: hexadecimal after `0x`, octal after another zero. -/
def part? : List Char → Option Nat
  | [] => none
  | '0' :: 'x' :: digits => number? 16 Hex.isDigit digits
  | '0' :: 'X' :: digits => number? 16 Hex.isDigit digits
  | '0' :: c :: digits => number? 8 (fun c => '0' ≤ c && c ≤ '7') (c :: digits)
  | digits => number? 10 Char.isDigit digits

/-- The parts between dots, without an empty part at the end. -/
def parts (cs : List Char) : List (List Char) :=
  let pieces := Text.splitBy (· == '.') cs
  if 1 < pieces.length && pieces.getLast? == some [] then pieces.dropLast else pieces

/-- Whether a host name ends in a number, so that it must be an address. -/
def endsInNumber (cs : List Char) : Bool :=
  match (parts cs).getLast? with
  | some last => (last != [] && last.all Char.isDigit) || (part? last).isSome
  | none => false

/-- The 32 bits of an address of version 4. -/
def version4? (cs : List Char) : Option Nat := do
  let numbers ← (parts cs).mapM part?
  let last ← numbers.getLast?
  let leading := numbers.dropLast
  if 3 < leading.length || leading.any (255 < ·) || 256 ^ (4 - leading.length) ≤ last then none
  else
    let high := leading.foldl (fun n part => 256 * n + part) 0
    some (high * 256 ^ (4 - leading.length) + last)

/-- The text of an address of version 4. -/
def text4 (bits : Nat) : List Char :=
  Text.join ['.'] ([24, 16, 8, 0].map fun shift => Nat.toDigits 10 (bits / 2 ^ shift % 256))

/-- A piece of an address of version 6. -/
def piece? (cs : List Char) : Option Nat :=
  if cs.length ≤ 4 then Hex.ofDigits? cs else none

/-- A decimal number below 256 without leading zeros. -/
def plainByte? (cs : List Char) : Option Nat :=
  if 1 < cs.length && cs.head? == some '0' then none
  else (Integer.ofDigits? cs).filter (· < 256)

/-- The two pieces of an address of version 4 at the end of one of version 6. -/
def embedded? (cs : List Char) : Option (List Nat) := do
  match ← (Text.splitBy (· == '.') cs).mapM plainByte? with
  | [a, b, c, d] => some [256 * a + b, 256 * c + d]
  | _ => none

/-- Pieces between colons. The last one may be an address of version 4. -/
def pieces? (embed : Bool) (cs : List Char) : Option (List Nat) :=
  if cs = [] then some []
  else
    let texts := Text.splitBy (· == ':') cs
    match texts.getLast? with
    | some last =>
      if embed && last.contains '.' then do
        return (← texts.dropLast.mapM piece?) ++ (← embedded? last)
      else texts.mapM piece?
    | none => none

/-- What comes before and after the first two colons in a row. -/
def breakOnGap? : List Char → Option (List Char × List Char)
  | ':' :: ':' :: cs => some ([], cs)
  | c :: cs => (breakOnGap? cs).map fun (a, b) => (c :: a, b)
  | [] => none

/-- The eight pieces of an address of version 6. Two colons stand for at least one zero. -/
def version6? (cs : List Char) : Option (List Nat) := do
  match breakOnGap? cs with
  | some (before, after) =>
    let left ← pieces? false before
    let right ← pieces? true after
    if left.length + right.length ≤ 7 then
      some (left ++ List.replicate (8 - left.length - right.length) 0 ++ right)
    else none
  | none =>
    let pieces ← pieces? true cs
    if pieces.length = 8 then some pieces else none

/-- The length of the row of zeros at the start. -/
def zeroRun (pieces : List Nat) : Nat :=
  (pieces.takeWhile (· == 0)).length

/-- The start and the length of the first longest row of zeros. -/
def longestZeros : List Nat → Nat × Nat
  | [] => (0, 0)
  | piece :: pieces =>
    let (start, length) := longestZeros pieces
    let here := zeroRun (piece :: pieces)
    if length ≤ here then (0, here) else (start + 1, length)

/-- Pieces with colons between them. -/
def pieceTexts (pieces : List Nat) : List Char :=
  Text.join [':'] (pieces.map (Nat.toDigits 16))

/-- The text of an address of version 6, without its longest row of two or more zeros. -/
def text6 (pieces : List Nat) : List Char :=
  let (start, length) := longestZeros pieces
  if length < 2 then pieceTexts pieces
  else pieceTexts (pieces.take start) ++ [':', ':'] ++ pieceTexts (pieces.drop (start + length))

end Sitework.Address
