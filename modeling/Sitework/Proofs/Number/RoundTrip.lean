import Mathlib.Data.List.TakeWhile
import Mathlib.Data.Nat.Prime.Basic
import Sitework.Style.Token
import Sitework.Style.Length

/-!
# Written numbers read back

Rounding depends on the value of a fraction only, so a decimal may be filled up with zeros or cut
of them. The exact expansion of a magnitude rounds to it, and `shortest` only returns decimals
that do. The positional text of a finite number therefore denotes that number again, its sign
included.
-/

namespace Sitework

namespace Rounding

/-- Rounding to an integer depends on the value of the fraction only. -/
theorem nearest_mul_mul (num den : Nat) {k : Nat} (hk : 0 < k) :
    nearest (num * k) (den * k) = nearest num den := by
  have hlt (a b : Nat) : a * k < b * k ↔ a < b := Nat.mul_lt_mul_right hk
  simp only [nearest, Nat.mul_div_mul_right _ _ hk, Nat.mul_mod_mul_right, ← Nat.mul_assoc, hlt]

/-- Rounding to a precision depends on the value of the fraction only. -/
theorem toPrecision_mul_mul (bits num den : Nat) {k : Nat} (hk : 0 < k) :
    toPrecision bits (num * k) (den * k) = toPrecision bits num den := by
  have hden (e : Nat) : den * k * 2 ^ e = den * 2 ^ e * k := by
    rw [Nat.mul_assoc, Nat.mul_comm k, ← Nat.mul_assoc]
  simp only [toPrecision, Nat.mul_div_mul_right _ _ hk, hden, nearest_mul_mul _ _ hk]

/-- A common factor of a fraction with whole value cancels. -/
theorem toPrecision_mul_self (bits num : Nat) {k : Nat} (hk : 0 < k) :
    toPrecision bits (num * k) k = toPrecision bits num 1 := by
  have h := toPrecision_mul_mul bits num 1 hk
  rwa [Nat.one_mul] at h

end Rounding

namespace Magnitude

/-- A magnitude depends on the value of the fraction only. -/
theorem ofRatio_mul_mul (num den : Nat) {k : Nat} (hk : 0 < k) :
    ofRatio (num * k) (den * k) = ofRatio num den := by
  have h : num * k * 2 ^ 1074 = num * 2 ^ 1074 * k := by
    rw [Nat.mul_assoc, Nat.mul_comm k, ← Nat.mul_assoc]
  simp only [ofRatio, h, Rounding.toPrecision_mul_mul _ _ _ hk]

/-- The exponent that the integer part of a magnitude in normal form asks for is its own. -/
private theorem exponent_units {x : Magnitude} (hx : x.Fits) :
    x.units.log2 + 1 - 53 = x.exponent := by
  obtain ⟨hlt, -, hnormal⟩ := hx
  by_cases hzero : x.mantissa = 0
  · have he : x.exponent = 0 := by omega
    simp [units, hzero, he]
  · have hunits : x.units ≠ 0 := Nat.mul_ne_zero hzero (Nat.two_pow_pos _).ne'
    rcases hnormal with he | hle
    · have hlog : x.units.log2 < 53 := by
        rw [Nat.log2_lt hunits, units, he]
        simpa using hlt
      omega
    · have hlog : x.units.log2 = 52 + x.exponent := by
        rw [Nat.log2_eq_iff hunits, units, show 52 + x.exponent + 1 = 53 + x.exponent by omega,
          Nat.pow_add, Nat.pow_add]
        exact ⟨Nat.mul_le_mul_right _ hle, Nat.mul_lt_mul_of_pos_right hlt (Nat.two_pow_pos _)⟩
      omega

/-- A magnitude in normal form is the one nearest to its own number of units. -/
theorem ofRatio_units {x : Magnitude} (hx : x.Fits) : ofRatio x.units (2 ^ 1074) = x := by
  have hmantissa : Rounding.nearest x.units (1 * 2 ^ x.exponent) = x.mantissa := by
    rw [Nat.one_mul, units]
    exact Rounding.nearest_mul_right _ (Nat.two_pow_pos _)
  rw [ofRatio, Rounding.toPrecision_mul_self _ _ (Nat.two_pow_pos 1074)]
  simp only [Rounding.toPrecision, Nat.div_one, exponent_units hx, hmantissa, if_pos hx.1]

end Magnitude

namespace Decimal

/-- The magnitude of a decimal is the one closest to its ratio of integers. -/
theorem toMagnitude_eq (d : Decimal) :
    d.toMagnitude =
      .ofRatio (d.coefficient * 10 ^ d.exponent.toNat) (10 ^ (-d.exponent).toNat) := by
  unfold toMagnitude
  split
  · next h => rw [show (-d.exponent).toNat = 0 by omega, Nat.pow_zero]
  · next h => rw [show d.exponent.toNat = 0 by omega, Nat.pow_zero, Nat.mul_one]

/-- Zeros at the end of the coefficient do not change the value. -/
theorem toMagnitude_zeros (c : Nat) (e : Int) (k : Nat) :
    toMagnitude ⟨c * 10 ^ k, e - k⟩ = toMagnitude ⟨c, e⟩ := by
  obtain ⟨j, hnum, hden⟩ : ∃ j : Nat,
      k + (e - k).toNat = e.toNat + j ∧ (-(e - k)).toNat = (-e).toNat + j :=
    ⟨(-(e - k)).toNat - (-e).toNat, by omega, by omega⟩
  rw [toMagnitude_eq, toMagnitude_eq]
  simp only [Nat.mul_assoc, ← Nat.pow_add, hnum, hden]
  simp only [Nat.pow_add, ← Nat.mul_assoc]
  exact Magnitude.ofRatio_mul_mul _ _ (Nat.pow_pos (by decide))

/-- Zeros at the end of a coefficient do not change it. -/
theorem toMagnitude_trim (d : Decimal) : d.trim.toMagnitude = d.toMagnitude := by
  fun_induction trim d with
  | case1 d h ih =>
    rw [ih, ← toMagnitude_zeros _ _ 1]
    congr
    · have := h.2
      omega
    · simp
  | case2 => rfl

/-- A binary fraction in lowest terms is a decimal fraction, by a power of five. -/
private theorem ofRatio_decimal (u n : Nat) :
    Magnitude.ofRatio (u / Nat.gcd u (2 ^ n) * 5 ^ Nat.log2 (2 ^ n / Nat.gcd u (2 ^ n)))
      (10 ^ Nat.log2 (2 ^ n / Nat.gcd u (2 ^ n))) = .ofRatio u (2 ^ n) := by
  obtain ⟨whole, hwhole⟩ := Nat.gcd_dvd_left u (2 ^ n)
  obtain ⟨part, hpart⟩ := Nat.gcd_dvd_right u (2 ^ n)
  have hpos : 0 < Nat.gcd u (2 ^ n) := Nat.gcd_pos_of_pos_right _ (Nat.two_pow_pos _)
  obtain ⟨places, -, rfl⟩ : ∃ places ≤ n, part = 2 ^ places :=
    (Nat.dvd_prime_pow Nat.prime_two).1 ⟨_, hpart.trans (Nat.mul_comm ..)⟩
  rw [Nat.div_eq_of_eq_mul_right hpos hpart, Nat.div_eq_of_eq_mul_right hpos hwhole,
    Nat.log2_two_pow]
  calc Magnitude.ofRatio (whole * 5 ^ places) (10 ^ places)
      = .ofRatio (whole * 5 ^ places) (2 ^ places * 5 ^ places) := by rw [← Nat.mul_pow]
    _ = .ofRatio whole (2 ^ places) := Magnitude.ofRatio_mul_mul _ _ (Nat.pow_pos (by decide))
    _ = .ofRatio (whole * Nat.gcd u (2 ^ n)) (2 ^ places * Nat.gcd u (2 ^ n)) :=
      (Magnitude.ofRatio_mul_mul _ _ hpos).symm
    _ = .ofRatio u (2 ^ n) := by
      rw [Nat.mul_comm whole, ← hwhole, Nat.mul_comm (2 ^ places), ← hpart]

/-- The exact expansion of a magnitude rounds to it. -/
theorem toMagnitude_ofMagnitude {x : Magnitude} (hx : x.Fits) :
    (ofMagnitude x).toMagnitude = x := by
  rw [ofMagnitude, toMagnitude_eq]
  simp only [Int.neg_neg, Int.toNat_natCast, Int.toNat_neg_natCast, Nat.pow_zero, Nat.mul_one]
  exact (ofRatio_decimal x.units 1074).trans (Magnitude.ofRatio_units hx)

/-- A decimal that a cut returns has been tested. -/
theorem toMagnitude_of_cut? {tie : Tie} {x : Magnitude} {exact d : Decimal} {count : Nat}
    (h : cut? tie x exact count = some d) : d.toMagnitude = x := by
  have htested (first second : Decimal)
      (h : (if first.toMagnitude = x then some first
        else if second.toMagnitude = x then some second else none) = some d) :
      d.toMagnitude = x := by
    split at h
    · next hfirst => exact Option.some.inj h ▸ hfirst
    · split at h
      · next hsecond => exact Option.some.inj h ▸ hsecond
      · simp at h
  exact htested _ _ h

/-- The decimal with the fewest digits rounds to its magnitude. -/
theorem toMagnitude_shortest (tie : Tie) {x : Magnitude} (hx : x.Fits) :
    (shortest tie x).toMagnitude = x := by
  rw [shortest, toMagnitude_trim]
  cases hcut : List.findSome? (cut? tie x (ofMagnitude x))
      ((List.range (digits (ofMagnitude x).coefficient).length).map (· + 1)) with
  | none => exact toMagnitude_ofMagnitude hx
  | some d =>
    obtain ⟨count, -, hcount⟩ := List.exists_of_findSome?_eq_some hcut
    exact toMagnitude_of_cut? hcount

theorem digits_ne_nil (n : Nat) : digits n ≠ [] := Nat.toDigits_ne_nil

/-- The digits of a number are digits. -/
theorem isDigit_of_mem_digits {n : Nat} {c : Char} (h : c ∈ digits n) : c.isDigit = true :=
  Nat.isDigit_of_mem_toDigits (by decide) (by decide) h

@[simp] theorem ofDigits_digits (n : Nat) : ofDigits (digits n) = n :=
  Nat.ofDigitChars_ten_toDigits

/-- Zeros before the digits do not count. -/
theorem ofDigits_zeros_append (k : Nat) (ds : List Char) :
    ofDigits (List.replicate k '0' ++ ds) = ofDigits ds := by
  simp [ofDigits, Nat.ofDigitChars_append, Nat.ofDigitChars_replicate_zero]

/-- Zeros after the digits multiply by powers of ten. -/
theorem ofDigits_append_zeros (k : Nat) (ds : List Char) :
    ofDigits (ds ++ List.replicate k '0') = ofDigits ds * 10 ^ k := by
  simp [ofDigits, Nat.ofDigitChars_append, Nat.ofDigitChars_replicate_zero, Nat.mul_comm]

end Decimal

/-- The written form of a number without an exponent, taken apart. -/
structure Numeral where
  /-- Whether a minus sign comes first. -/
  negative : Bool
  /-- The digits before the point. -/
  whole : List Char
  /-- The digits after the point; none is no point either. -/
  fraction : List Char
  whole_ne_nil : whole ≠ []
  isDigit : ∀ c ∈ whole ++ fraction, c.isDigit = true

namespace Numeral

/-- The digits and the point. -/
def unsigned (n : Numeral) : List Char :=
  n.whole ++ if n.fraction = [] then [] else '.' :: n.fraction

/-- The characters of a numeral. -/
def text (n : Numeral) : List Char :=
  if n.negative then '-' :: n.unsigned else n.unsigned

/-- The number that a numeral denotes. -/
def value (n : Numeral) : Binary64 :=
  .ofDigits n.negative n.whole n.fraction

/-- The numeral of a natural number. -/
def ofNat (n : Nat) : Numeral where
  negative := false
  whole := Decimal.digits n
  fraction := []
  whole_ne_nil := Decimal.digits_ne_nil n
  isDigit := by
    intro c hc
    exact Decimal.isDigit_of_mem_digits (by simpa using hc)

@[simp] theorem text_ofNat (n : Nat) : (ofNat n).text = Decimal.digits n := by
  simp [text, unsigned, ofNat]

/-- The numeral of a natural number denotes it. -/
theorem value_ofNat (n : Nat) : (ofNat n).value = .ofInt n := by
  have hmagnitude : Decimal.toMagnitude ⟨Decimal.ofDigits (Decimal.digits n ++ []), -0⟩ =
      .ofRatio n 1 := by
    rw [List.append_nil, Decimal.ofDigits_digits, Decimal.toMagnitude_eq]
    simp
  have hsign : decide ((n : Int) < 0) = false := by simp
  calc (ofNat n).value
      = .ofMagnitude false
          (Decimal.toMagnitude ⟨Decimal.ofDigits (Decimal.digits n ++ []), -0⟩) := rfl
    _ = .ofMagnitude false (.ofRatio n 1) := by rw [hmagnitude]
    _ = .ofInt n := by rw [Binary64.ofInt, hsign, Binary64.ofRatio, Int.natAbs_natCast]

/-- Before the point stand digits. -/
theorem isDigit_whole {n : Numeral} {c : Char} (h : c ∈ n.whole) : c.isDigit = true :=
  n.isDigit c (List.mem_append_left _ h)

/-- After the point stand digits. -/
theorem isDigit_fraction {n : Numeral} {c : Char} (h : c ∈ n.fraction) : c.isDigit = true :=
  n.isDigit c (List.mem_append_right _ h)

/-- The characters of a numeral are digits, the minus sign and the point. -/
theorem mem_text {n : Numeral} {c : Char} (h : c ∈ n.text) :
    c.isDigit = true ∨ c = '-' ∨ c = '.' := by
  have hunsigned (hc : c ∈ n.unsigned) : c.isDigit = true ∨ c = '.' := by
    rw [unsigned, List.mem_append] at hc
    rcases hc with hc | hc
    · exact .inl (isDigit_whole hc)
    · split at hc
      · cases hc
      · rcases List.mem_cons.1 hc with rfl | hc
        · exact .inr rfl
        · exact .inl (isDigit_fraction hc)
  rw [text] at h
  split at h
  · rcases List.mem_cons.1 h with rfl | hc
    · exact .inr (.inl rfl)
    · exact (hunsigned hc).imp_right .inr
  · exact (hunsigned h).imp_right .inr

/-- A digit comes first in a numeral without its sign. -/
theorem head_unsigned (n : Numeral) : ∃ c cs, n.unsigned = c :: cs ∧ c.isDigit = true := by
  obtain ⟨c, cs, hc⟩ := List.exists_cons_of_ne_nil n.whole_ne_nil
  refine ⟨c, cs ++ if n.fraction = [] then [] else '.' :: n.fraction, ?_, ?_⟩
  · rw [unsigned, hc, List.cons_append]
  · exact isDigit_whole (hc ▸ List.mem_cons_self ..)

/-- A numeral that is written as digits with a point where their exponent says, and that has the
value of the digits with that exponent. -/
structure IsPlaced (n : Numeral) (negative : Bool) (ds : List Char) (e : Int) : Prop where
  negative_eq : n.negative = negative
  unsigned_eq : n.unsigned = cssNumber.placed ds (ds.length + e)
  value_eq :
    Decimal.toMagnitude ⟨Decimal.ofDigits (n.whole ++ n.fraction), -(n.fraction.length : Int)⟩ =
      Decimal.toMagnitude ⟨Decimal.ofDigits ds, e⟩

section Placed

variable (negative : Bool) {ds : List Char} (hne : ds ≠ []) (hds : ∀ c ∈ ds, c.isDigit = true)
  {e : Int}

private theorem isDigit_zeros (k : Nat) : ∀ c ∈ List.replicate k '0', c.isDigit = true :=
  fun _ hc => (List.mem_replicate.1 hc).2 ▸ rfl

include hne hds

/-- All digits are behind the point, after zeros. -/
private theorem exists_isPlaced_behind (hsmall : ds.length + e ≤ 0) :
    ∃ n : Numeral, n.IsPlaced negative ds e := by
  obtain ⟨k, hk⟩ : ∃ k : Nat, (k : Int) = -(ds.length + e) := ⟨(-(ds.length + e)).toNat, by omega⟩
  refine ⟨⟨negative, ['0'], List.replicate k '0' ++ ds, by simp, ?_⟩, rfl, ?_, ?_⟩
  · rw [List.forall_mem_append, List.forall_mem_singleton, List.forall_mem_append]
    exact ⟨rfl, isDigit_zeros k, hds⟩
  · simp [unsigned, NumberFormat.placed, hsmall, hne, ← hk]
  · have he : -((List.replicate k '0' ++ ds).length : Int) = e := by
      simp only [List.length_append, List.length_replicate]
      omega
    have hzeros : ['0'] ++ (List.replicate k '0' ++ ds) = List.replicate (k + 1) '0' ++ ds := rfl
    rw [he, hzeros, Decimal.ofDigits_zeros_append]

/-- All digits are before the point, and zeros may follow them. -/
private theorem exists_isPlaced_before (hsmall : ¬ds.length + e ≤ 0) (he : 0 ≤ e) :
    ∃ n : Numeral, n.IsPlaced negative ds e := by
  obtain ⟨k, rfl⟩ : ∃ k : Nat, e = k := ⟨e.toNat, by omega⟩
  refine ⟨⟨negative, ds ++ List.replicate k '0', [], by simp [hne], ?_⟩, rfl, ?_, ?_⟩
  · rw [List.append_nil, List.forall_mem_append]
    exact ⟨hds, isDigit_zeros k⟩
  · have hk : ((ds.length : Int) + k - ds.length).toNat = k := by omega
    rw [NumberFormat.placed, if_neg hsmall, if_pos (by omega), hk]
    simp [unsigned, cssNumber]
  · have h := Decimal.toMagnitude_zeros (Decimal.ofDigits ds) k k
    rw [← Decimal.ofDigits_append_zeros, Int.sub_self] at h
    simpa using h

/-- The point is among the digits. -/
private theorem exists_isPlaced_among (hsmall : ¬ds.length + e ≤ 0) (he : ¬0 ≤ e) :
    ∃ n : Numeral, n.IsPlaced negative ds e := by
  obtain ⟨k, hk⟩ : ∃ k : Nat, (k : Int) = ds.length + e := ⟨(ds.length + e).toNat, by omega⟩
  have hlt : k < ds.length := by omega
  have hpos : 0 < k := by omega
  refine ⟨⟨negative, ds.take k, ds.drop k, ?_, ?_⟩, rfl, ?_, ?_⟩
  · simp [hne, hpos.ne']
  · rwa [List.take_append_drop]
  · rw [NumberFormat.placed, if_neg hsmall, if_neg (by omega), ← hk]
    simp [unsigned, hlt]
  · have hlength : -((ds.drop k).length : Int) = e := by
      rw [List.length_drop]
      omega
    simp only [List.take_append_drop, hlength]

/-- Digits with a point at any place are a numeral of the value of the digits. -/
private theorem exists_isPlaced (e : Int) : ∃ n : Numeral, n.IsPlaced negative ds e := by
  by_cases hsmall : ds.length + e ≤ 0
  · exact exists_isPlaced_behind negative hne hds hsmall
  · by_cases he : 0 ≤ e
    · exact exists_isPlaced_before negative hne hds hsmall he
    · exact exists_isPlaced_among negative hne hds hsmall he

end Placed

end Numeral

namespace Decimal

/-- The digits of a numeral without its sign are read. -/
theorem unsigned?_unsigned (n : Numeral) : unsigned? n.unsigned =
    some ⟨ofDigits (n.whole ++ n.fraction), -(n.fraction.length : Int)⟩ := by
  have hwhole : ∀ c ∈ n.whole, c.isDigit = true := fun c hc => Numeral.isDigit_whole hc
  have hfraction : ∀ c ∈ n.fraction, c.isDigit = true := fun c hc => Numeral.isDigit_fraction hc
  have htail : (if n.fraction = [] then [] else '.' :: n.fraction).takeWhile Char.isDigit = [] := by
    split
    · rfl
    · exact List.takeWhile_cons_of_neg (by decide)
  have hrest : (if n.fraction = [] then [] else '.' :: n.fraction).dropWhile Char.isDigit =
      if n.fraction = [] then [] else '.' :: n.fraction := by
    split
    · rfl
    · exact List.dropWhile_cons_of_neg (by decide)
  have hend : n.fraction.takeWhile Char.isDigit = n.fraction :=
    List.takeWhile_eq_self_iff.2 hfraction
  have hnone : n.fraction.dropWhile Char.isDigit = [] := List.dropWhile_eq_nil_iff.2 hfraction
  simp only [unsigned?, Numeral.unsigned, List.takeWhile_append_of_pos hwhole,
    List.dropWhile_append_of_pos hwhole, htail, hrest, List.append_nil]
  by_cases hnil : n.fraction = []
  · simp [hnil, n.whole_ne_nil]
  · simp [hnil, n.whole_ne_nil, hend, hnone]

/-- The text of a numeral is read as its sign and its digits. -/
theorem read?_text (n : Numeral) : read? n.text =
    some (n.negative, ⟨ofDigits (n.whole ++ n.fraction), -(n.fraction.length : Int)⟩) := by
  have hunsigned := unsigned?_unsigned n
  cases hsign : n.negative with
  | true =>
    rw [Numeral.text, hsign, if_pos rfl, read?, hunsigned]
    rfl
  | false =>
    obtain ⟨c, cs, hcs, hdigit⟩ := n.head_unsigned
    rw [Numeral.text, hsign, if_neg Bool.false_ne_true, read?, hunsigned]
    · rfl
    · rintro rest heq
      obtain rfl := (List.cons.inj (hcs.symm.trans heq)).1
      exact absurd hdigit (by decide)
    · rintro rest heq
      obtain rfl := (List.cons.inj (hcs.symm.trans heq)).1
      exact absurd hdigit (by decide)

end Decimal

namespace Binary64

/-- A finite number: neither an infinity nor a NaN. -/
def IsFinite (x : Binary64) : Prop :=
  (∀ negative, x ≠ .infinite negative) ∧ x ≠ .nan

/-- What is made of a magnitude is finite. -/
theorem isFinite_finite (negative : Bool) (m : Magnitude) (fits : m.Fits) :
    (Binary64.finite negative m fits).IsFinite :=
  ⟨nofun, nofun⟩

/-- What is no finite number is an infinity or a NaN. -/
theorem eq_of_not_isFinite {x : Binary64} (hx : ¬ x.IsFinite) :
    x = .infinite true ∨ x = .infinite false ∨ x = .nan := by
  match x with
  | .finite negative m fits => exact absurd (isFinite_finite negative m fits) hx
  | .infinite true => exact .inl rfl
  | .infinite false => exact .inr (.inl rfl)
  | .nan => exact .inr (.inr rfl)

/-- A numeral is read as the number that it denotes. -/
theorem read?_text (n : Numeral) : read? n.text = some n.value := by
  rw [read?, Decimal.read?_text]
  rfl

/-- A finite number is written as a numeral that denotes it, its sign included. -/
theorem exists_numeral {x : Binary64} (hx : x.IsFinite) :
    ∃ n : Numeral, (cssNumber.write x).toList = n.text ∧ n.value = x := by
  obtain ⟨negative, m, hfits⟩ | negative | _ := x
  · obtain ⟨c, e, hd⟩ : ∃ c e, Decimal.shortest cssNumber.tie m = ⟨c, e⟩ := ⟨_, _, rfl⟩
    have htext : cssNumber.magnitude m =
        cssNumber.placed (Decimal.digits c) ((Decimal.digits c).length + e) := by
      simp only [NumberFormat.magnitude, hd]
      rfl
    obtain ⟨n, rfl, hunsigned, hvalue⟩ := Numeral.exists_isPlaced negative
      (Decimal.digits_ne_nil c) (fun _ => Decimal.isDigit_of_mem_digits) e
    refine ⟨n, ?_, ?_⟩
    · simp only [NumberFormat.write, String.toList_ofList, Numeral.text, hunsigned, htext]
    · rw [Decimal.ofDigits_digits, ← hd, Decimal.toMagnitude_shortest _ hfits] at hvalue
      simp only [Numeral.value, ofDigits, hvalue, ofMagnitude, dif_pos hfits]
  · exact absurd rfl (hx.1 negative)
  · exact absurd rfl hx.2

/-- A multiple of a large power of two by at most 53 bits has a normal form. -/
private theorem exists_units {n : Nat} (hn : n < 2 ^ 53) {places : Nat} (hlow : 52 ≤ places)
    (hhigh : places ≤ 2045) : ∃ x : Magnitude, x.Fits ∧ x.units = n * 2 ^ places := by
  obtain rfl | hpos := Nat.eq_zero_or_pos n
  · exact ⟨⟨0, 0⟩, by decide, by simp [Magnitude.units]⟩
  · have hlog : n.log2 < 53 := (Nat.log2_lt hpos.ne').2 hn
    obtain ⟨k, hk⟩ : ∃ k, n.log2 + k = 52 := ⟨52 - n.log2, by omega⟩
    refine ⟨⟨n * 2 ^ k, places - k⟩, ⟨?_, ?_, .inr ?_⟩, ?_⟩
    · calc n * 2 ^ k < 2 ^ (n.log2 + 1) * 2 ^ k :=
            Nat.mul_lt_mul_of_pos_right Nat.lt_log2_self (Nat.two_pow_pos _)
        _ = 2 ^ 53 := by rw [← Nat.pow_add, show n.log2 + 1 + k = 53 by omega]
    · exact (Nat.sub_le ..).trans hhigh
    · calc 2 ^ 52 = 2 ^ n.log2 * 2 ^ k := by rw [← Nat.pow_add, hk]
        _ ≤ n * 2 ^ k := Nat.mul_le_mul_right _ (Nat.log2_self_le hpos.ne')
    · rw [Magnitude.units, Nat.mul_assoc, ← Nat.pow_add, show k + (places - k) = places by omega]

/-- A natural number of at most 53 bits is a number of its own. -/
private theorem exists_ofInt {n : Nat} (hn : n < 2 ^ 53) :
    ∃ (x : Magnitude) (hx : x.Fits), ofInt n = .finite false x hx ∧ x.units = n * 2 ^ 1074 := by
  obtain ⟨x, hfits, hunits⟩ := exists_units hn (show 52 ≤ 1074 by decide) (by decide)
  have hratio : Magnitude.ofRatio n 1 = x := by
    have h := Magnitude.ofRatio_mul_mul n 1 (Nat.two_pow_pos 1074)
    rw [← h, ← hunits, Nat.one_mul, Magnitude.ofRatio_units hfits]
  have hsign : decide ((n : Int) < 0) = false := by simp
  refine ⟨x, hfits, ?_, hunits⟩
  rw [ofInt, hsign, ofRatio, Int.natAbs_natCast, hratio, ofMagnitude, dif_pos hfits]

/-- A small integer is finite. -/
theorem isFinite_ofInt {n : Nat} (hn : n < 2 ^ 53) : (ofInt n).IsFinite := by
  obtain ⟨x, hfits, hnumber, -⟩ := exists_ofInt hn
  rw [hnumber]
  exact isFinite_finite _ _ _

theorem isFinite_zero : (0 : Binary64).IsFinite :=
  isFinite_ofInt (n := 0) (by decide)

theorem isFinite_one : (1 : Binary64).IsFinite :=
  isFinite_ofInt (n := 1) (by decide)

/-- Zero with a minus sign. -/
def isNegativeZero : Binary64 → Bool
  | .finite negative x _ => negative && x.mantissa == 0
  | .infinite _ | .nan => false

/-- A finite number that is equal to no other one. -/
structure IsExact (x : Binary64) : Prop where
  finite : x.IsFinite
  signed : x.isNegativeZero = false

/-- Apart from the two zeros, numbers of the same value are equal. -/
theorem eq_of_sameValue {x y : Binary64} (h : sameValue x y = true)
    (hx : x.isNegativeZero = false) (hy : y.isNegativeZero = false) : x = y := by
  cases x with
  | nan => simp [sameValue] at h
  | infinite s =>
    cases y with
    | finite | nan => simp [sameValue] at h
    | infinite t => simpa [sameValue] using h
  | finite s m hm =>
    cases y with
    | infinite | nan => simp [sameValue] at h
    | finite t n hn =>
      simp only [sameValue, Bool.and_eq_true, Bool.or_eq_true, beq_iff_eq] at h
      obtain ⟨rfl, hsign⟩ := h
      have hsame : s = t := by
        rcases hsign with hsign | hzero
        · exact hsign
        · simp only [isNegativeZero, hzero, beq_self_eq_true, Bool.and_true] at hx hy
          rw [hx, hy]
      rw [hsame]

/-- A small integer is exact. -/
theorem isExact_ofInt {n : Nat} (hn : n < 2 ^ 53) : (ofInt n).IsExact where
  finite := isFinite_ofInt hn
  signed := by
    obtain ⟨x, hfits, hnumber, -⟩ := exists_ofInt hn
    rw [hnumber, isNegativeZero, Bool.false_and]

/-- A natural number of at most 53 bits is counted exactly. -/
theorem toCount?_ofInt {n limit : Nat} (hn : n < 2 ^ 53) :
    toCount? limit (.ofInt n) = some (min n limit) := by
  obtain ⟨x, hfits, hnumber, hunits⟩ := exists_ofInt hn
  rw [hnumber]
  simp only [toCount?, Bool.false_and, Bool.false_eq_true, if_false, hunits, Nat.mul_mod_left,
    if_true, Nat.mul_div_cancel _ (Nat.two_pow_pos 1074)]

end Binary64

end Sitework
