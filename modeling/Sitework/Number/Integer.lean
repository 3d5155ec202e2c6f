/-!
# Reading integers

An integer is an optional sign and at least one decimal digit; leading zeros are allowed. A count
takes no minus sign, not even before zero.
-/

-- A power of a number is that of the core library, whatever other powers are in scope.
attribute [instance (1100), default_instance (10100)] instPowNat

namespace Sitework.Integer

/-- The natural number written by one or more decimal digits. -/
def ofDigits? (cs : List Char) : Option Nat :=
  if cs ≠ [] ∧ cs.all Char.isDigit then some (Nat.ofDigitChars 10 cs 0) else none

/-- A count of at most `limit`, with an optional plus sign. -/
def count? (limit : Nat) (cs : List Char) : Option Nat :=
  let digits := match cs with
    | '+' :: rest => rest
    | _ => cs
  (ofDigits? digits).filter (· ≤ limit)

/-- An integer between `low` and `high`, with an optional sign. -/
def between? (low high : Int) (cs : List Char) : Option Int :=
  let value := match cs with
    | '+' :: rest => (ofDigits? rest).map Int.ofNat
    | '-' :: rest => (ofDigits? rest).map (-Int.ofNat ·)
    | _ => (ofDigits? cs).map Int.ofNat
  value.filter fun n => low ≤ n && n ≤ high

end Sitework.Integer
