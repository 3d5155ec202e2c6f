import Mathlib.Data.List.TakeWhile
import Sitework.Json.Numeral
import Sitework.Proofs.Number.RoundTrip
import Sitework.Proofs.Text.Split

/-!
# Number literals in a text

A literal that a text consists of is split off the same way when something follows that can be no
part of a number. An integer is written as such a literal, and its value is the integer.
-/

namespace Sitework.Json.Numeral

variable {cs rest after : List Char}

/-- Nothing at the start of a row can be a part of a number before it. -/
def Ends (rest : List Char) : Prop :=
  ∀ c ∈ rest.head?, c.isDigit = false ∧ c ≠ '.' ∧ c ≠ 'e' ∧ c ≠ 'E'

theorem ends_nil : Ends [] := nofun

/-- A numeral ends before any character that could not continue it. -/
theorem ends_cons {c : Char} (h : c.isDigit = false ∧ c ≠ '.' ∧ c ≠ 'e' ∧ c ≠ 'E')
    (rest : List Char) : Ends (c :: rest) := by
  intro d hd
  obtain rfl := Option.some.inj hd
  exact h

theorem literal?_of_ne {c : Char} (h : c ≠ '-') (cs : List Char) :
    literal? (c :: cs) = unsigned? false (c :: cs) := by
  simp [literal?, h]

namespace Ends

/-- What ends a numeral adds no digit to it. -/
theorem takeWhile_append (h : Ends rest) (cs : List Char) :
    (cs ++ rest).takeWhile Char.isDigit = cs.takeWhile Char.isDigit := by
  cases rest with
  | nil => rw [List.append_nil]
  | cons c rest => exact Text.takeWhile_append_cons (h c rfl).1 cs rest

/-- What ends a numeral stays behind its digits. -/
theorem dropWhile_append (h : Ends rest) (cs : List Char) :
    (cs ++ rest).dropWhile Char.isDigit = cs.dropWhile Char.isDigit ++ rest := by
  cases rest with
  | nil => rw [List.append_nil, List.append_nil]
  | cons c rest => exact Text.dropWhile_append_cons (h c rfl).1 cs rest

private theorem fraction?_of_ne {c : Char} (h : c ≠ '.') (cs : List Char) :
    fraction? (c :: cs) = some ([], c :: cs) := by
  simp [fraction?, h]

/-- A fraction is the same before what is no part of it. -/
theorem fraction?_append (hrest : Ends rest) {digits : List Char}
    (h : fraction? cs = some (digits, after)) :
    fraction? (cs ++ rest) = some (digits, after ++ rest) := by
  cases cs with
  | nil =>
    obtain ⟨rfl, rfl⟩ := Prod.mk.inj (Option.some.inj h)
    cases rest with
    | nil => rfl
    | cons c rest => exact fraction?_of_ne (hrest c rfl).2.1 rest
  | cons c cs =>
    by_cases hc : c = '.'
    · subst hc
      simp only [List.cons_append, fraction?, hrest.takeWhile_append,
        hrest.dropWhile_append] at h ⊢
      split at h
      · cases h
      · next hdigits =>
        obtain ⟨rfl, rfl⟩ := Prod.mk.inj (Option.some.inj h)
        rw [if_neg hdigits]
    · rw [fraction?_of_ne hc] at h
      obtain ⟨rfl, rfl⟩ := Prod.mk.inj (Option.some.inj h)
      exact fraction?_of_ne hc (cs ++ rest)

/-- A power is read the same whatever ends it, which stays behind. -/
theorem power?_append (hrest : Ends rest) {negative : Bool} {power : Option Int}
    (h : power? negative cs = some (power, after)) :
    power? negative (cs ++ rest) = some (power, after ++ rest) := by
  simp only [power?, hrest.takeWhile_append, hrest.dropWhile_append] at h ⊢
  split at h
  · cases h
  · next hdigits =>
    obtain ⟨rfl, rfl⟩ := Prod.mk.inj (Option.some.inj h)
    rw [if_neg hdigits]

/-- After its letter an exponent has a sign or not. -/
private theorem exponent?_cons_cons {c : Char} (hc : c = 'e' ∨ c = 'E') (d : Char)
    (cs : List Char) : exponent? (c :: d :: cs) =
      if d = '-' then power? true cs else if d = '+' then power? false cs
      else power? false (d :: cs) := by
  by_cases hminus : d = '-'
  · subst hminus
    rcases hc with rfl | rfl <;> rfl
  · by_cases hplus : d = '+'
    · subst hplus
      rcases hc with rfl | rfl <;> rfl
    · rw [if_neg hminus, if_neg hplus]
      rcases hc with rfl | rfl <;> simp [exponent?, hminus, hplus]

private theorem exponent?_of_ne {c : Char} (h : ¬(c = 'e' ∨ c = 'E')) (cs : List Char) :
    exponent? (c :: cs) = some (none, c :: cs) := by
  rw [not_or] at h
  simp [exponent?, h]

/-- So is an exponent. -/
theorem exponent?_append (hrest : Ends rest) {power : Option Int}
    (h : exponent? cs = some (power, after)) :
    exponent? (cs ++ rest) = some (power, after ++ rest) := by
  cases cs with
  | nil =>
    obtain ⟨rfl, rfl⟩ := Prod.mk.inj (Option.some.inj h)
    cases rest with
    | nil => rfl
    | cons c rest =>
      exact exponent?_of_ne (not_or.2 (hrest c rfl).2.2) rest
  | cons c cs =>
    by_cases hc : c = 'e' ∨ c = 'E'
    · cases cs with
      | nil => rcases hc with rfl | rfl <;> cases h
      | cons d cs =>
        rw [exponent?_cons_cons hc] at h
        rw [List.cons_append, List.cons_append, exponent?_cons_cons hc]
        split at h
        · next hminus => rw [if_pos hminus, hrest.power?_append h]
        · next hminus =>
          rw [if_neg hminus]
          split at h
          · next hplus => rw [if_pos hplus, hrest.power?_append h]
          · next hplus => rw [if_neg hplus, ← List.cons_append, hrest.power?_append h]
    · rw [exponent?_of_ne hc] at h
      obtain ⟨rfl, rfl⟩ := Prod.mk.inj (Option.some.inj h)
      exact exponent?_of_ne hc (cs ++ rest)

/-- So is a number without its sign. -/
theorem unsigned?_append (hrest : Ends rest) {negative : Bool} {literal : Literal}
    (h : unsigned? negative cs = some (literal, after)) :
    unsigned? negative (cs ++ rest) = some (literal, after ++ rest) := by
  simp only [unsigned?, hrest.takeWhile_append, hrest.dropWhile_append] at h ⊢
  split at h
  · cases h
  · next hwhole =>
    rw [if_neg hwhole]
    cases hfraction : fraction? (cs.dropWhile Char.isDigit) with
    | none => simp [hfraction] at h
    | some found =>
      rw [hfraction] at h
      obtain ⟨⟨power, last⟩, hpower, heq⟩ := Option.map_eq_some_iff.1 h
      obtain ⟨rfl, rfl⟩ := Prod.mk.inj heq
      rw [hrest.fraction?_append hfraction]
      simp [hrest.exponent?_append hpower]

/-- A literal is the same before what is no part of it. -/
theorem literal?_append (hrest : Ends rest) {literal : Literal}
    (h : literal? cs = some (literal, after)) :
    literal? (cs ++ rest) = some (literal, after ++ rest) := by
  cases cs with
  | nil => cases h
  | cons c cs =>
    by_cases hc : c = '-'
    · subst hc
      exact hrest.unsigned?_append h
    · rw [literal?_of_ne hc] at h
      exact (literal?_of_ne hc (cs ++ rest)).trans (hrest.unsigned?_append h)

end Ends

/-- The digits of a number other than zero do not start with a zero. -/
theorem head?_digits_ne_zero {n : Nat} (h : n ≠ 0) : (Decimal.digits n).head? ≠ some '0' := by
  induction n using Nat.strong_induction_on with
  | _ n ih =>
    by_cases hn : n < 10
    · have hsmall : ∀ k < 10, k ≠ 0 → [k.digitChar].head? ≠ some '0' := by decide
      rw [Decimal.digits, Nat.toDigits_of_lt_base hn]
      exact hsmall n hn h
    · rw [Decimal.digits, Nat.toDigits_of_base_le (by decide) (Nat.le_of_not_lt hn),
        List.head?_append, Option.or_of_isSome (List.isSome_head? |>.2 Nat.toDigits_ne_nil)]
      exact ih (n / 10) (by omega) (by omega)

/-- The digits of a natural number are a literal. -/
theorem unsigned?_digits (negative : Bool) (n : Nat) :
    unsigned? negative (Decimal.digits n) =
      some (⟨negative, Decimal.digits n, [], none⟩, []) := by
  have hall : ∀ c ∈ Decimal.digits n, c.isDigit = true := fun c => Decimal.isDigit_of_mem_digits
  have htake : (Decimal.digits n).takeWhile Char.isDigit = Decimal.digits n :=
    List.takeWhile_eq_self_iff.2 hall
  have hdrop : (Decimal.digits n).dropWhile Char.isDigit = [] := List.dropWhile_eq_nil_iff.2 hall
  have hwhole : ¬(Decimal.digits n = [] ∨
      (Decimal.digits n).head? = some '0' ∧ Decimal.digits n ≠ ['0']) := by
    rintro (hnil | ⟨hzero, hne⟩)
    · exact Decimal.digits_ne_nil n hnil
    · by_cases hn : n = 0
      · subst hn
        exact hne rfl
      · exact head?_digits_ne_zero hn hzero
  simp only [unsigned?, htake, hdrop, if_neg hwhole]
  rfl

/-- An integer is written as a literal. -/
theorem literal?_toString (n : Int) :
    literal? (toString n).toList =
      some (⟨decide (n < 0), Decimal.digits n.natAbs, [], none⟩, []) := by
  rw [Int.toString_eq_repr, Int.repr_eq_if]
  by_cases hn : 0 ≤ n
  · have hsign : decide (n < 0) = false := decide_eq_false (Int.not_lt.2 hn)
    have habs : n.toNat = n.natAbs := by omega
    rw [if_pos hn, Nat.toList_repr, hsign, habs]
    obtain ⟨c, cs, hcons⟩ := List.exists_cons_of_ne_nil (Decimal.digits_ne_nil n.natAbs)
    have hc : c ≠ '-' := by
      rintro rfl
      have hdigit : '-'.isDigit = true :=
        Decimal.isDigit_of_mem_digits (n := n.natAbs) (hcons ▸ List.mem_cons_self)
      exact absurd hdigit (by decide)
    have hunsigned := unsigned?_digits false n.natAbs
    change literal? (Decimal.digits n.natAbs) = _
    rw [hcons] at hunsigned ⊢
    exact (literal?_of_ne hc cs).trans hunsigned
  · have hsign : decide (n < 0) = true := decide_eq_true (Int.not_le.1 hn)
    have habs : (-n).toNat = n.natAbs := by omega
    rw [if_neg hn, String.toList_append, Nat.toList_repr, hsign, habs]
    exact unsigned?_digits true n.natAbs

/-- The value of a written integer of 64 bits. -/
theorem value?_integer {n : Int} (hlow : -(2 ^ 63) ≤ n) (hhigh : n < 2 ^ 64) :
    Literal.value? ⟨decide (n < 0), Decimal.digits n.natAbs, [], none⟩ = some (.integer n) := by
  have hvalue : (if decide (n < 0) = true then -(n.natAbs : Int) else n.natAbs) = n := by
    by_cases hn : n < 0
    · rw [if_pos (decide_eq_true hn)]
      omega
    · rw [if_neg (by simpa using hn)]
      omega
  have hzero : ¬(decide (n < 0) = true ∧ n.natAbs = 0) := by
    rw [decide_eq_true_eq]
    omega
  simp only [Literal.value?, Decimal.ofDigits_digits, hvalue]
  exact if_pos ⟨trivial, trivial, hhigh, hlow, hzero⟩

section Suffix

variable {literal : Literal}

/-- A fraction leaves the end of what it is read from. -/
theorem suffix_of_fraction? {digits : List Char} (h : fraction? cs = some (digits, after)) :
    after <:+ cs := by
  unfold fraction? at h
  split at h
  · split at h
    · cases h
    · obtain ⟨-, rfl⟩ := Prod.mk.inj (Option.some.inj h)
      exact (List.dropWhile_suffix _).trans (List.suffix_cons _ _)
  · obtain ⟨-, rfl⟩ := Prod.mk.inj (Option.some.inj h)
    exact List.suffix_refl _

/-- So does a power. -/
theorem suffix_of_power? {negative : Bool} {power : Option Int}
    (h : power? negative cs = some (power, after)) : after <:+ cs := by
  simp only [power?] at h
  split at h
  · cases h
  · obtain ⟨-, rfl⟩ := Prod.mk.inj (Option.some.inj h)
    exact List.dropWhile_suffix _

/-- So does an exponent. -/
theorem suffix_of_exponent? {power : Option Int} (h : exponent? cs = some (power, after)) :
    after <:+ cs := by
  unfold exponent? at h
  split at h
  case h_7 =>
    obtain ⟨-, rfl⟩ := Prod.mk.inj (Option.some.inj h)
    exact List.suffix_refl _
  case h_5 | h_6 => exact (suffix_of_power? h).trans (List.suffix_cons _ _)
  all_goals
    exact ((suffix_of_power? h).trans (List.suffix_cons _ _)).trans (List.suffix_cons _ _)

/-- So does a number without its sign. -/
theorem suffix_of_unsigned? {negative : Bool} (h : unsigned? negative cs = some (literal, after)) :
    after <:+ cs := by
  simp only [unsigned?] at h
  split at h
  · cases h
  · split at h
    · cases h
    · next fraction rest hfraction =>
      obtain ⟨⟨power, last⟩, hpower, heq⟩ := Option.map_eq_some_iff.1 h
      obtain ⟨-, rfl⟩ := Prod.mk.inj heq
      exact ((suffix_of_exponent? hpower).trans (suffix_of_fraction? hfraction)).trans
        (List.dropWhile_suffix _)

/-- What follows a literal is the end of the text it was read from. -/
theorem suffix_of_literal? (h : literal? cs = some (literal, after)) : after <:+ cs := by
  unfold literal? at h
  split at h
  · exact (suffix_of_unsigned? h).trans (List.suffix_cons _ _)
  · exact suffix_of_unsigned? h

end Suffix

end Sitework.Json.Numeral
