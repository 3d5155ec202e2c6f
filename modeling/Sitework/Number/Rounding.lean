import Sitework.Number.Integer

/-!
# Rounding a quotient to a binary precision

A positive quotient of natural numbers is rounded to a mantissa of a given number of bits and a
power of two. The nearest integer is taken, and a tie goes to the even neighbour.
-/

namespace Sitework.Rounding

/-- The integer nearest to `num / den`; a tie goes to the even neighbour. -/
def nearest (num den : Nat) : Nat :=
  let quotient := num / den
  let twice := 2 * (num % den)
  if twice < den then quotient
  else if den < twice then quotient + 1
  else if quotient % 2 = 0 then quotient
  else quotient + 1

/-- A mantissa below `2 ^ bits` and an exponent of two for the value nearest to `num / den`.
The exponent is the least that makes room for the integer part, so small values keep exponent
zero. A mantissa that rounds up to `2 ^ bits` is halved. -/
def toPrecision (bits num den : Nat) : Nat × Nat :=
  let exponent := (num / den).log2 + 1 - bits
  let mantissa := nearest num (den * 2 ^ exponent)
  if mantissa < 2 ^ bits then (mantissa, exponent) else (2 ^ (bits - 1), exponent + 1)

/-- A multiple of the denominator rounds to its exact quotient. -/
theorem nearest_mul_right (n : Nat) {den : Nat} (h : 0 < den) : nearest (n * den) den = n := by
  simp [nearest, Nat.mul_div_cancel n h, h]

end Sitework.Rounding
