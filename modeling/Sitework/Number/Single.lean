import Sitework.Number.Numeral
import Sitework.Number.Rounding
import Sitework.Text.Split

/-!
# Floating-point numbers of 32 bits

Color channels are computed with 32 bits. A numeral is rounded once, to the nearest number; the
remainder of a division is exact.
-/

namespace Sitework.Single

/-- The number of a mantissa and an exponent in units of `2 ^ -149`; infinite if it is too large.
Bits of a mantissa beyond the 23 stored ones carry into the exponent field. -/
def ofUnits (negative : Bool) (mantissa exponent : Nat) : Float32 :=
  let bits := if 253 < exponent then 255 * 2 ^ 23 else exponent * 2 ^ 23 + mantissa
  .ofBits (UInt32.ofNat (if negative then 2 ^ 31 + bits else bits))

/-- The number nearest to `num / den`. -/
def ofRatio (negative : Bool) (num den : Nat) : Float32 :=
  let (mantissa, exponent) := Rounding.toPrecision 24 (num * 2 ^ 149) den
  ofUnits negative mantissa exponent

/-- The number nearest to a decimal. -/
def ofDecimal (negative : Bool) (d : Decimal) : Float32 :=
  let places := (Decimal.digits d.coefficient).length + d.exponent
  if d.coefficient = 0 ∨ places < -60 then ofUnits negative 0 0
  else if 60 < places then ofUnits negative 0 254
  else if 0 ≤ d.exponent then ofRatio negative (d.coefficient * 10 ^ d.exponent.toNat) 1
  else ofRatio negative d.coefficient (10 ^ d.exponent.natAbs)

/-- The number that is not a number. -/
def nan : Float32 := .ofBits 0x7FC00000

/-- Reads a numeral, or the name of an infinity or of the NaN in any case. -/
def read? (cs : List Char) : Option Float32 :=
  let (negative, name) := match cs with
    | '-' :: rest => (true, rest)
    | '+' :: rest => (false, rest)
    | _ => (false, cs)
  let name := String.ofList (Text.lower name)
  if name = "inf" ∨ name = "infinity" then some (ofUnits negative 0 254)
  else if name = "nan" then some nan
  else (Decimal.read? cs).map fun (negative, d) => ofDecimal negative d

/-- The magnitude of a finite number in units of `2 ^ -149`. -/
def units (x : Float32) : Nat :=
  let field := x.toBits.toNat / 2 ^ 23 % 2 ^ 8
  let fraction := x.toBits.toNat % 2 ^ 23
  if field = 0 then fraction else (2 ^ 23 + fraction) * 2 ^ (field - 1)

/-- The remainder of a division by a whole number, with the sign of `x`. -/
def remainder (x : Float32) (n : Nat) : Float32 :=
  if x.isFinite then
    ofRatio (2 ^ 31 ≤ x.toBits.toNat) (units x % (n * 2 ^ 149)) (2 ^ 149)
  else nan

/-- The number, kept between zero and one. -/
def clamp (x : Float32) : Float32 :=
  if x < 0 then 0 else if 1 < x then 1 else x

end Sitework.Single
