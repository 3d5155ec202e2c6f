/-!
# Hexadecimal digits

The value of a digit of either case, and the digit of a value in lower case.
-/

namespace Sitework.Hex

/-- The lower-case digit of the last sixteenth of a number. -/
def digit (n : Nat) : Char :=
  Nat.digitChar (n % 16)

/-- The value of a digit of either case. -/
def value? (c : Char) : Option Nat :=
  if '0' ≤ c ∧ c ≤ '9' then some (c.toNat - 48)
  else if 'a' ≤ c ∧ c ≤ 'f' then some (c.toNat - 87)
  else if 'A' ≤ c ∧ c ≤ 'F' then some (c.toNat - 55)
  else none

/-- Whether a character is a digit. -/
def isDigit (c : Char) : Bool :=
  (value? c).isSome

/-- The number written by some digits; none is no digits. -/
def ofDigits? (cs : List Char) : Option Nat :=
  if cs = [] then none
  else cs.foldlM (fun n c => (value? c).map (16 * n + ·)) 0

/-- A digit has the value it was written for. -/
theorem value?_digit (n : Nat) : value? (digit n) = some (n % 16) := by
  have digits : ∀ k < 16, value? (Nat.digitChar k) = some k := by decide
  exact digits _ (Nat.mod_lt n (by decide))

end Sitework.Hex
