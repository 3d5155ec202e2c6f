import Sitework.Json.Value
import Sitework.Number.Format

/-!
# JSON numbers

A number literal has a whole part without leading zeros, and an optional fraction and exponent.
A literal with neither, that fits 64 bits, is an integer. Any other is a floating-point number:
as many leading digits as fit 64 bits make a significand, which is scaled once by a rounded power
of ten. Numbers beyond the range of finite numbers are refused.
-/

namespace Sitework.Json

/-- Numbers in JSON text keep a fraction, take an exponent below `1e-5` and from `1e16` on, and
are `null` when they are not finite. -/
def numberFormat : NumberFormat where
  tie := .toEven
  keepsFraction := true
  positional := fun point => -5 < point && point ≤ 16
  infinity := ("null", "null")
  nan := "null"

namespace Numeral

/-- The parts of a number literal. -/
structure Literal where
  /-- Whether a minus sign comes first. -/
  negative : Bool
  /-- The digits before the point. -/
  whole : List Char
  /-- The digits after the point, at least one if there is a point. -/
  fraction : List Char
  /-- The power of ten, if there is an exponent. -/
  exponent : Option Int
deriving DecidableEq, Repr

/-- Splits off the fraction, which has at least one digit. -/
def fraction? : List Char → Option (List Char × List Char)
  | '.' :: rest =>
    if rest.takeWhile Char.isDigit = [] then none
    else some (rest.takeWhile Char.isDigit, rest.dropWhile Char.isDigit)
  | cs => some ([], cs)

/-- Splits off the digits of an exponent, at least one. -/
def power? (negative : Bool) (cs : List Char) : Option (Option Int × List Char) :=
  let digits := cs.takeWhile Char.isDigit
  let power : Int := Decimal.ofDigits digits
  if digits = [] then none
  else some (some (if negative then -power else power), cs.dropWhile Char.isDigit)

/-- Splits off the exponent. -/
def exponent? : List Char → Option (Option Int × List Char)
  | 'e' :: '-' :: rest | 'E' :: '-' :: rest => power? true rest
  | 'e' :: '+' :: rest | 'E' :: '+' :: rest => power? false rest
  | 'e' :: rest | 'E' :: rest => power? false rest
  | cs => some (none, cs)

/-- Splits off a number literal without its sign. -/
def unsigned? (negative : Bool) (cs : List Char) : Option (Literal × List Char) :=
  let whole := cs.takeWhile Char.isDigit
  if whole = [] ∨ whole.head? = some '0' ∧ whole ≠ ['0'] then none
  else
    match fraction? (cs.dropWhile Char.isDigit) with
    | none => none
    | some (fraction, rest) =>
      (exponent? rest).map fun (exponent, rest) => (⟨negative, whole, fraction, exponent⟩, rest)

/-- Splits off a number literal. -/
def literal? : List Char → Option (Literal × List Char)
  | '-' :: rest => unsigned? true rest
  | cs => unsigned? false cs

theorem length_dropWhile_le {α : Type} (p : α → Bool) (cs : List α) :
    (cs.dropWhile p).length ≤ cs.length :=
  (List.dropWhile_sublist p).length_le

/-- A fraction leaves no more than there was. -/
theorem length_le_of_fraction? {cs digits rest : List Char}
    (h : fraction? cs = some (digits, rest)) : rest.length ≤ cs.length := by
  unfold fraction? at h
  split at h
  · split at h
    · simp at h
    · obtain ⟨-, rfl⟩ := by simpa using h
      exact Nat.le_succ_of_le (length_dropWhile_le _ _)
  · simp_all

/-- Nor does a power. -/
theorem length_le_of_power? {negative : Bool} {cs rest : List Char} {power : Option Int}
    (h : power? negative cs = some (power, rest)) : rest.length ≤ cs.length := by
  simp only [power?] at h
  by_cases hdigits : cs.takeWhile Char.isDigit = []
  · simp [hdigits] at h
  · rw [if_neg hdigits] at h
    obtain ⟨-, rfl⟩ := by simpa only [Option.some.injEq, Prod.mk.injEq] using h
    exact length_dropWhile_le _ _

/-- Nor does an exponent. -/
theorem length_le_of_exponent? {cs rest : List Char} {power : Option Int}
    (h : exponent? cs = some (power, rest)) : rest.length ≤ cs.length := by
  unfold exponent? at h
  split at h
  case h_7 => simp_all
  all_goals
    have hpower := length_le_of_power? h
    simp only [List.length_cons]
    omega

/-- A number without its sign leaves less. -/
theorem length_lt_of_unsigned? {negative : Bool} {cs rest : List Char} {literal : Literal}
    (h : unsigned? negative cs = some (literal, rest)) : rest.length < cs.length := by
  simp only [unsigned?] at h
  split at h
  · simp at h
  · next hwhole =>
    split at h
    · simp at h
    · next fraction after hfraction =>
      obtain ⟨⟨power, last⟩, hpower, h⟩ := Option.map_eq_some_iff.1 h
      obtain ⟨-, rfl⟩ := by simpa using h
      have hsplit : (cs.takeWhile Char.isDigit).length + (cs.dropWhile Char.isDigit).length =
          cs.length := by rw [← List.length_append, List.takeWhile_append_dropWhile]
      have hne : 0 < (cs.takeWhile Char.isDigit).length :=
        List.length_pos_iff.2 fun hnil => hwhole (.inl hnil)
      have := length_le_of_fraction? hfraction
      have := length_le_of_exponent? hpower
      omega

/-- What follows a number literal is shorter than the text it was read from. -/
theorem length_lt_of_literal? {cs rest : List Char} {literal : Literal}
    (h : literal? cs = some (literal, rest)) : rest.length < cs.length := by
  unfold literal? at h
  split at h
  · have := length_lt_of_unsigned? h
    simp only [List.length_cons]
    omega
  · exact length_lt_of_unsigned? h

/-- Appends digits to a significand while it fits 64 bits. Returns it with the count of the
digits left over. -/
def gather (significand : Nat) : List Char → Nat × Nat
  | [] => (significand, 0)
  | c :: cs =>
    let longer := 10 * significand + (c.toNat - '0'.toNat)
    if longer < 2 ^ 64 then gather longer cs else (significand, cs.length + 1)

/-- The rounded power of ten. -/
def tenTo (n : Nat) : Magnitude :=
  .ofRatio (10 ^ n) 1

/-- Scales a magnitude by a power of ten, in steps of at most `10 ^ 308`. -/
def scale? (x : Magnitude) (power : Int) : Option Magnitude :=
  if power.natAbs ≤ 308 then
    if 0 ≤ power then some (x.times (tenTo power.toNat))
    else some (x.dividedBy (tenTo power.natAbs))
  else if x.mantissa = 0 then some x
  else if 0 ≤ power then none
  else scale? (x.dividedBy (tenTo 308)) (power + 308)
termination_by power.natAbs
decreasing_by omega

/-- The magnitude of a literal that is no integer. -/
def Literal.magnitude? (literal : Literal) : Option Magnitude :=
  let (significand, extra) := gather 0 literal.whole
  let (significand, unread) := gather significand literal.fraction
  let power := (literal.exponent.getD 0) + extra - (literal.fraction.length - unread : Nat)
  (scale? (.ofRatio significand 1) power).filter (·.Fits)

/-- The value of a literal; none if it is too large. -/
def Literal.value? (literal : Literal) : Option Json :=
  let magnitude := Decimal.ofDigits literal.whole
  let signed : Int := if literal.negative then -magnitude else magnitude
  if literal.fraction = [] ∧ literal.exponent = none ∧ signed < 2 ^ 64 ∧ -(2 ^ 63) ≤ signed ∧
      ¬ (literal.negative ∧ magnitude = 0) then
    some (.integer signed)
  else
    literal.magnitude?.map fun x => .number (.ofMagnitude literal.negative x)

end Numeral

end Sitework.Json
