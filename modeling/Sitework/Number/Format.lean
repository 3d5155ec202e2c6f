import Sitework.Number.Decimal

/-!
# Writing numbers

A number is written with the fewest digits that read back. A format decides what is left open:
which way a tie between two shortest decimals goes, whether a whole number keeps a fraction, and
where an exponent takes the place of zeros.
-/

namespace Sitework

/-- The decisions of a written form of numbers. -/
structure NumberFormat where
  /-- Which of two equally near shortest decimals is written. -/
  tie : Decimal.Tie
  /-- Whether a whole number is written with the fraction `.0`. -/
  keepsFraction : Bool
  /-- Whether a number is written without an exponent, given how many digits stand before the
  point (zero or less for a number below one). -/
  positional : Int → Bool
  /-- The text of the positive infinity and of the negative one. -/
  infinity : String × String
  /-- The text of a NaN. -/
  nan : String

namespace NumberFormat

/-- Digits with a point after the first `point` of them, filled up with zeros. -/
def placed (format : NumberFormat) (digits : List Char) (point : Int) : List Char :=
  if point ≤ 0 then
    '0' :: '.' :: List.replicate (-point).toNat '0' ++ digits
  else if digits.length ≤ point then
    digits ++ List.replicate (point - digits.length).toNat '0' ++
      (if format.keepsFraction then ['.', '0'] else [])
  else
    digits.take point.toNat ++ '.' :: digits.drop point.toNat

/-- One digit before the point, and the power of ten with its sign. -/
def scientific (digits : List Char) (point : Int) : List Char :=
  let power := point - 1
  let mantissa := match digits with
    | first :: second :: rest => first :: '.' :: second :: rest
    | short => short
  mantissa ++ 'e' :: (if power < 0 then '-' else '+') :: Decimal.digits power.natAbs

/-- The text of a magnitude. -/
def magnitude (format : NumberFormat) (x : Magnitude) : List Char :=
  let shortest := Decimal.shortest format.tie x
  let digits := Decimal.digits shortest.coefficient
  let point := digits.length + shortest.exponent
  if format.positional point then format.placed digits point else scientific digits point

/-- The text of a number. -/
def write (format : NumberFormat) : Binary64 → String
  | .finite negative x _ =>
    String.ofList (if negative then '-' :: format.magnitude x else format.magnitude x)
  | .infinite negative => if negative then format.infinity.2 else format.infinity.1
  | .nan => format.nan

end NumberFormat

end Sitework
