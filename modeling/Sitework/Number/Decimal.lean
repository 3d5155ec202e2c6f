import Sitework.Number.Binary64

/-!
# Decimal numerals

A decimal is a coefficient and a power of ten. Every magnitude has an exact decimal expansion;
`shortest` cuts it to the fewest digits that still round to the magnitude, and takes the nearer of
two such decimals.
-/

namespace Sitework

/-- The value `coefficient * 10 ^ exponent`. -/
structure Decimal where
  /-- The digits, read as an integer. -/
  coefficient : Nat
  /-- The power of ten. -/
  exponent : Int
deriving DecidableEq, Repr, Inhabited

namespace Decimal

/-- The decimal digits of a natural number, most significant first. -/
def digits (n : Nat) : List Char :=
  Nat.toDigits 10 n

/-- The natural number that a run of decimal digits denotes. -/
def ofDigits (ds : List Char) : Nat :=
  Nat.ofDigitChars 10 ds 0

/-- The magnitude nearest to a decimal. -/
def toMagnitude (d : Decimal) : Magnitude :=
  if 0 ≤ d.exponent then .ofRatio (d.coefficient * 10 ^ d.exponent.toNat) 1
  else .ofRatio d.coefficient (10 ^ (-d.exponent).toNat)

/-- The exact decimal expansion of a magnitude: a fraction of units becomes one of tenths by a
power of five. -/
def ofMagnitude (x : Magnitude) : Decimal :=
  let shared := Nat.gcd x.units (2 ^ 1074)
  let places : Nat := Nat.log2 (2 ^ 1074 / shared)
  ⟨x.units / shared * 5 ^ places, -(places : Int)⟩

/-- The same value with no zeros at the end of the coefficient. -/
def trim (d : Decimal) : Decimal :=
  if _ : d.coefficient ≠ 0 ∧ d.coefficient % 10 = 0 then
    trim ⟨d.coefficient / 10, d.exponent + 1⟩
  else d
termination_by d.coefficient
decreasing_by omega

/-- Which of two equally near decimals is taken. -/
inductive Tie where
  /-- The one with the even last digit. -/
  | toEven
  /-- The one of larger magnitude. -/
  | up
deriving DecidableEq, Repr

/-- The decimal of `count` digits that rounds to the magnitude `x` with exact expansion `exact`,
the nearer one if both neighbours on that grid do. -/
def cut? (tie : Tie) (x : Magnitude) (exact : Decimal) (count : Nat) : Option Decimal :=
  let dropped := (digits exact.coefficient).length - count
  let step := 10 ^ dropped
  let low : Decimal := ⟨exact.coefficient / step, exact.exponent + dropped⟩
  let high : Decimal := ⟨exact.coefficient / step + 1, exact.exponent + dropped⟩
  let twice := 2 * (exact.coefficient % step)
  let lowFirst := twice < step || twice == step && tie == .toEven && low.coefficient % 2 == 0
  let (first, second) := if lowFirst then (low, high) else (high, low)
  if first.toMagnitude = x then some first
  else if second.toMagnitude = x then some second
  else none

/-- The decimal with the fewest digits that rounds to the magnitude; the exact expansion when no
shorter one does. -/
def shortest (tie : Tie) (x : Magnitude) : Decimal :=
  let exact := ofMagnitude x
  let counts := (List.range (digits exact.coefficient).length).map (· + 1)
  ((counts.findSome? (cut? tie x exact)).getD exact).trim

end Decimal

/-- The number nearest to a decimal numeral, given by its whole and fraction digits. -/
def Binary64.ofDigits (negative : Bool) (whole fraction : List Char) : Binary64 :=
  .ofMagnitude negative
    (Decimal.toMagnitude ⟨Decimal.ofDigits (whole ++ fraction), -(fraction.length : Int)⟩)

end Sitework
