import Sitework.Number.Decimal

/-!
# Decimal numerals with a power of ten

A numeral is an optional sign, digits with an optional point among or beside them, and an optional
power of ten. At least one digit is needed.
-/

namespace Sitework.Decimal

/-- The power of ten after its letter: an optional sign and at least one digit. -/
def power? (cs : List Char) : Option Int :=
  let (negative, digits) := match cs with
    | '-' :: rest => (true, rest)
    | '+' :: rest => (false, rest)
    | _ => (false, cs)
  if digits = [] ∨ ¬ digits.all Char.isDigit then none
  else some (if negative then -(ofDigits digits : Int) else ofDigits digits)

/-- The value of a numeral without a sign. -/
def unsigned? (cs : List Char) : Option Decimal :=
  let whole := cs.takeWhile Char.isDigit
  let rest := cs.dropWhile Char.isDigit
  let (fraction, rest) := match rest with
    | '.' :: after => (after.takeWhile Char.isDigit, after.dropWhile Char.isDigit)
    | _ => ([], rest)
  let value (power : Int) : Decimal := ⟨ofDigits (whole ++ fraction), power - fraction.length⟩
  if whole = [] ∧ fraction = [] then none
  else
    match rest with
    | [] => some (value 0)
    | c :: after => if c = 'e' ∨ c = 'E' then (power? after).map value else none

/-- The sign and the value of a numeral. -/
def read? : List Char → Option (Bool × Decimal)
  | '-' :: rest => (unsigned? rest).map (true, ·)
  | '+' :: rest => (unsigned? rest).map (false, ·)
  | cs => (unsigned? cs).map (false, ·)

end Sitework.Decimal

namespace Sitework

/-- The number nearest to a numeral. -/
def Binary64.read? (cs : List Char) : Option Binary64 :=
  (Decimal.read? cs).map fun (negative, d) => .ofMagnitude negative d.toMagnitude

end Sitework
