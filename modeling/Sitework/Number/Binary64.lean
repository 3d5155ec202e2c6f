import Sitework.Number.Rounding

/-!
# Binary floating-point numbers of 64 bits

A finite number is a sign and a magnitude, counted in units of `2 ^ -1074`; a number whose
magnitude is too large is infinite. A NaN has neither sign nor payload here, because nothing reads
them; no text gives one, but whoever sets a style may put one there. `==` compares values: the two
zeros are equal, and a NaN equals nothing, not even itself. `=` tells the zeros apart.
-/

namespace Sitework

/-- A magnitude `mantissa * 2 ^ exponent` in units of `2 ^ -1074`. -/
structure Magnitude where
  /-- The significant bits. -/
  mantissa : Nat
  /-- The power of two above the unit. -/
  exponent : Nat
deriving DecidableEq, Repr, Inhabited

namespace Magnitude

/-- The number of units. -/
def units (x : Magnitude) : Nat :=
  x.mantissa * 2 ^ x.exponent

/-- The magnitude nearest to `num / den`, with a tie to the even mantissa. -/
def ofRatio (num den : Nat) : Magnitude :=
  let rounded := Rounding.toPrecision 53 (num * 2 ^ 1074) den
  ⟨rounded.1, rounded.2⟩

/-- Whether the magnitude is that of a finite number in its one normal form: at most 53 bits, and
fewer than that only at the smallest exponent. -/
def Fits (x : Magnitude) : Prop :=
  x.mantissa < 2 ^ 53 ∧ x.exponent ≤ 2045 ∧ (x.exponent = 0 ∨ 2 ^ 52 ≤ x.mantissa)

instance (x : Magnitude) : Decidable x.Fits :=
  inferInstanceAs (Decidable (_ ∧ _))

/-- The rounded product of two magnitudes. -/
def times (x y : Magnitude) : Magnitude :=
  ofRatio (x.units * y.units) (2 ^ 2148)

/-- The rounded quotient of two magnitudes. -/
def dividedBy (x y : Magnitude) : Magnitude :=
  ofRatio x.units y.units

end Magnitude

/-- A binary floating-point number of 64 bits. -/
inductive Binary64 where
  /-- A finite number in normal form. -/
  | finite (negative : Bool) (magnitude : Magnitude) (fits : magnitude.Fits)
  /-- One of the two infinities. -/
  | infinite (negative : Bool)
  /-- The value that is not a number. -/
  | nan
deriving DecidableEq, Repr

namespace Binary64

/-- The number of the given sign and magnitude, infinite when the magnitude does not fit. -/
def ofMagnitude (negative : Bool) (x : Magnitude) : Binary64 :=
  if h : x.Fits then .finite negative x h else .infinite negative

/-- The number nearest to `num / den`, negated when `negative` is set. -/
def ofRatio (negative : Bool) (num den : Nat) : Binary64 :=
  ofMagnitude negative (.ofRatio num den)

/-- The number nearest to an integer. -/
def ofInt (n : Int) : Binary64 :=
  ofRatio (n < 0) n.natAbs 1

instance : OfNat Binary64 0 := ⟨.ofInt 0⟩
instance : OfNat Binary64 1 := ⟨.ofInt 1⟩
instance : Inhabited Binary64 := ⟨0⟩

/-- Equality of values: the two zeros are the same value, and a NaN is the same as no value. -/
def sameValue : Binary64 → Binary64 → Bool
  | .finite s x _, .finite t y _ => x == y && (s == t || x.mantissa == 0)
  | .infinite s, .infinite t => s == t
  | _, _ => false

instance : BEq Binary64 := ⟨sameValue⟩

/-- The count that a number stands for: a non-negative whole number, with every one above
`limit` counted as `limit`. -/
def toCount? (limit : Nat) : Binary64 → Option Nat
  | .finite negative x _ =>
    if negative && x.mantissa != 0 then none
    else if x.units % 2 ^ 1074 = 0 then some (min (x.units / 2 ^ 1074) limit)
    else none
  | .infinite _ | .nan => none

/-- A value equals itself exactly if it is a number. -/
theorem sameValue_self_iff {x : Binary64} : sameValue x x = true ↔ x ≠ .nan := by
  cases x <;> simp [sameValue]

end Binary64

end Sitework
