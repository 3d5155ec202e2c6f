import Mathlib.Computability.Language
import Sitework.Proofs.Style.Notation
import Sitework.Proofs.Style.Tokens

/-!
# The patterns of tokens

Each kind of token has a pattern, a regular language over ranges of characters. The first and the
last character of a token tell its kind, so no text belongs to two patterns.
-/

namespace Sitework

namespace TokenKind

open scoped Computability

section Languages

/-- The texts of one character that meets a condition. -/
def one (p : Char → Prop) : Language Char :=
  {w | ∃ c, p c ∧ w = [c]}

/-- At least one text of a language. -/
def repeated (l : Language Char) : Language Char :=
  l * l∗

/-- A text of a language, or nothing. -/
def optional (l : Language Char) : Language Char :=
  1 + l

/-- Some texts of a language, no fewer and no more than the bounds say. -/
def between (least most : Nat) (l : Language Char) : Language Char :=
  {w | ∃ n, least ≤ n ∧ n ≤ most ∧ w ∈ l ^ n}

/-- Whether a character lies in one of some ranges. -/
def Among (ranges : List (Char × Char)) (c : Char) : Prop :=
  ∃ range ∈ ranges, range.1 ≤ c ∧ c ≤ range.2

/-- The ranges of letters. -/
def letters : List (Char × Char) := [('a', 'z'), ('A', 'Z')]

/-- The range of decimal digits. -/
def digits : List (Char × Char) := [('0', '9')]

/-- The ranges of hexadecimal digits. -/
def hexDigits : List (Char × Char) := [('0', '9'), ('a', 'f'), ('A', 'F')]

/-- Names. -/
def namePattern : Language Char :=
  one (Among (letters ++ [('_', '_')])) *
    (one (Among (letters ++ digits ++ [('_', '_'), ('-', '-')])))∗

/-- Numbers, with an optional sign and an optional fraction. -/
def numberPattern : Language Char :=
  optional (one (· = '-')) * repeated (one (Among digits)) *
    optional (one (· = '.') * repeated (one (Among digits)))

/-- Units. -/
def unitPattern : Language Char :=
  repeated (one (Among letters)) + one (· = '%')

/-- Texts between two quotes. -/
def quotedPattern (quote : Char) : Language Char :=
  one (· = quote) * (one (· ≠ quote))∗ * one (· = quote)

/-- The pattern of a kind. -/
def pattern : TokenKind → Language Char
  | .function => namePattern * one (· = '(')
  | .hexColor => one (· = '#') * between 3 8 (one (Among hexDigits))
  | .dimension => numberPattern * unitPattern
  | .doubleQuoted => quotedPattern '"'
  | .singleQuoted => quotedPattern '\''
  | .number => numberPattern
  | .ident => namePattern
  | .comma => one (· = ',')
  | .close => one (· = ')')
  | .slash => one (· = '/')

variable {p : Char → Prop} {l : Language Char} {w : List Char} {c : Char}

theorem mem_one : w ∈ one p ↔ ∃ c, p c ∧ w = [c] :=
  Iff.rfl

/-- A text of one character is in the language exactly if the character meets the condition. -/
theorem singleton_mem_one : [c] ∈ one p ↔ p c := by
  rw [mem_one]
  constructor
  · rintro ⟨d, hd, heq⟩
    exact (List.cons.inj heq).1 ▸ hd
  · exact fun h => ⟨c, h, rfl⟩

/-- A text of the product starts with a character that meets the condition. -/
theorem mem_one_mul : w ∈ one p * l ↔ ∃ c rest, p c ∧ rest ∈ l ∧ w = c :: rest := by
  rw [Language.mem_mul]
  constructor
  · rintro ⟨_, ⟨c, hc, rfl⟩, rest, hrest, rfl⟩
    exact ⟨c, rest, hc, hrest, rfl⟩
  · rintro ⟨c, rest, hc, hrest, rfl⟩
    exact ⟨[c], singleton_mem_one.2 hc, rest, hrest, rfl⟩

/-- An optional text is empty or in the language. -/
theorem mem_optional : w ∈ optional l ↔ w = [] ∨ w ∈ l := by
  rw [optional, Language.mem_add, Language.mem_one]

/-- Texts of single characters make up the text of these characters. -/
theorem mem_pow_one {n : Nat} : w ∈ one p ^ n ↔ w.length = n ∧ ∀ c ∈ w, p c := by
  induction n generalizing w with
  | zero =>
    rw [pow_zero, Language.mem_one, List.length_eq_zero_iff]
    exact ⟨fun h => ⟨h, h ▸ List.forall_mem_nil _⟩, And.left⟩
  | succ n ih =>
    rw [pow_succ', mem_one_mul]
    constructor
    · rintro ⟨c, rest, hc, hrest, rfl⟩
      obtain ⟨hlength, hall⟩ := ih.1 hrest
      exact ⟨congrArg (· + 1) hlength, List.forall_mem_cons.2 ⟨hc, hall⟩⟩
    · rintro ⟨hlength, hall⟩
      cases w with
      | nil => cases hlength
      | cons c rest =>
        rw [List.forall_mem_cons] at hall
        exact ⟨c, rest, hall.1, ih.2 ⟨Nat.succ.inj hlength, hall.2⟩, rfl⟩

/-- Any number of single characters that meet a condition make up a text all of whose characters do.
-/
theorem mem_star_one : w ∈ (one p)∗ ↔ ∀ c ∈ w, p c := by
  rw [Language.kstar_eq_iSup_pow, Language.mem_iSup]
  constructor
  · rintro ⟨n, hn⟩
    exact (mem_pow_one.1 hn).2
  · exact fun h => ⟨w.length, mem_pow_one.2 ⟨rfl, h⟩⟩

/-- At least one of them make up such a text that is not empty. -/
theorem mem_repeated_one : w ∈ repeated (one p) ↔ w ≠ [] ∧ ∀ c ∈ w, p c := by
  rw [repeated, mem_one_mul]
  constructor
  · rintro ⟨c, rest, hc, hrest, rfl⟩
    exact ⟨List.cons_ne_nil c rest, List.forall_mem_cons.2 ⟨hc, mem_star_one.1 hrest⟩⟩
  · rintro ⟨hne, hall⟩
    obtain ⟨c, rest, rfl⟩ := List.exists_cons_of_ne_nil hne
    rw [List.forall_mem_cons] at hall
    exact ⟨c, rest, hall.1, mem_star_one.2 hall.2, rfl⟩

end Languages

section Members

variable {c quote : Char} {w : List Char}

private theorem le_iff {a b : Char} : a ≤ b ↔ a.toNat ≤ b.toNat :=
  UInt32.le_iff_toNat_le

/-- Ranges are joined by listing them after each other. -/
theorem among_append {xs ys : List (Char × Char)} :
    Among (xs ++ ys) c ↔ Among xs c ∨ Among ys c := by
  simp [Among, or_and_right, exists_or]

theorem among_self {d : Char} : Among [(d, d)] c ↔ c = d := by
  have hsame : d ≤ c ∧ c ≤ d ↔ c = d :=
    ⟨fun h => Char.le_antisymm h.2 h.1, fun h => h ▸ ⟨Char.le_refl c, Char.le_refl c⟩⟩
  simpa [Among] using hsame

/-- The letters are the alphabetic characters of ASCII. -/
theorem among_letters : Among letters c ↔ c.isAlpha = true := by
  simp [Among, letters, le_iff, Text.isAlpha_iff, Text.isUpper_iff, Text.isLower_iff, or_comm]

/-- The digits are the decimal digits of ASCII. -/
theorem among_digits : Among digits c ↔ c.isDigit = true := by
  simp [Among, digits, le_iff, Text.isDigit_iff]

/-- The hexadecimal digits are those that stand for a value. -/
theorem among_hexDigits : Among hexDigits c ↔ Hex.isDigit c = true := by
  simp [Among, hexDigits, le_iff, Hex.isDigit_iff]

/-- The first character of the pattern of names is one that starts a name. -/
theorem among_startsName : Among (letters ++ [('_', '_')]) c ↔ startsName c = true := by
  rw [among_append, among_letters, among_self, startsName, Bool.or_eq_true, beq_iff_eq]

/-- The later ones are those that continue a name. -/
theorem among_continuesName :
    Among (letters ++ digits ++ [('_', '_'), ('-', '-')]) c ↔ continuesName c = true := by
  have hmarks : Among [('_', '_'), ('-', '-')] c ↔ c = '_' ∨ c = '-' := by
    rw [← List.singleton_append, among_append, among_self, among_self]
  rw [among_append, among_append, among_letters, among_digits, hmarks, continuesName,
    Bool.or_eq_true, Bool.or_eq_true, Text.isAlphanum_iff, beq_iff_eq, beq_iff_eq, ← or_assoc]

/-- The texts of the pattern of names are the names. -/
theorem mem_namePattern : w ∈ namePattern ↔ isName w = true := by
  rw [namePattern, mem_one_mul]
  constructor
  · rintro ⟨c, rest, hc, hrest, rfl⟩
    rw [isName, Bool.and_eq_true, List.all_eq_true]
    exact ⟨among_startsName.1 hc, fun d hd => among_continuesName.1 (mem_star_one.1 hrest d hd)⟩
  · intro h
    cases w with
    | nil => cases h
    | cons c rest =>
      rw [isName, Bool.and_eq_true, List.all_eq_true] at h
      exact ⟨c, rest, among_startsName.2 h.1,
        mem_star_one.2 fun d hd => among_continuesName.2 (h.2 d hd), rfl⟩

/-- An optional sign is a dash or nothing. -/
private theorem mem_sign :
    w ∈ optional (one (· = '-')) ↔ ∃ negative : Bool, w = if negative then ['-'] else [] := by
  simp [mem_optional, mem_one]

/-- An optional fraction is a point with digits after it, or nothing. -/
private theorem mem_fraction : w ∈ optional (one (· = '.') * repeated (one (Among digits))) ↔
    ∃ ds, (∀ d ∈ ds, d.isDigit = true) ∧ w = if ds = [] then [] else '.' :: ds := by
  rw [mem_optional, mem_one_mul]
  constructor
  · rintro (rfl | ⟨_, ds, rfl, hds, rfl⟩)
    · exact ⟨[], List.forall_mem_nil _, rfl⟩
    · obtain ⟨hne, hall⟩ := mem_repeated_one.1 hds
      exact ⟨ds, fun d hd => among_digits.1 (hall d hd), (if_neg hne).symm⟩
  · rintro ⟨ds, hall, rfl⟩
    by_cases hnil : ds = []
    · exact .inl (if_pos hnil)
    · refine .inr ⟨'.', ds, rfl, mem_repeated_one.2 ⟨hnil, fun d hd => ?_⟩, if_neg hnil⟩
      exact among_digits.2 (hall d hd)

/-- The texts of numbers are those of numerals. -/
theorem mem_numberPattern : w ∈ numberPattern ↔ ∃ n : Numeral, w = n.text := by
  have htext (n : Numeral) : n.text = (if n.negative then ['-'] else []) ++ n.whole ++
      if n.fraction = [] then [] else '.' :: n.fraction := by
    cases hsign : n.negative <;> simp [Numeral.text, Numeral.unsigned, hsign]
  rw [numberPattern]
  constructor
  · intro h
    obtain ⟨_, hsigned, fraction, hfraction, rfl⟩ := Language.mem_mul.1 h
    obtain ⟨sign, hsign, whole, hwhole, rfl⟩ := Language.mem_mul.1 hsigned
    obtain ⟨negative, rfl⟩ := mem_sign.1 hsign
    obtain ⟨hne, hdigits⟩ := mem_repeated_one.1 hwhole
    obtain ⟨ds, hds, rfl⟩ := mem_fraction.1 hfraction
    have hall : ∀ c ∈ whole ++ ds, c.isDigit = true := List.forall_mem_append.2
      ⟨fun c hc => among_digits.1 (hdigits c hc), hds⟩
    exact ⟨⟨negative, whole, ds, hne, hall⟩, (htext ⟨negative, whole, ds, hne, hall⟩).symm⟩
  · rintro ⟨n, rfl⟩
    rw [htext]
    refine Language.append_mem_mul (Language.append_mem_mul ?_ ?_) ?_
    · exact mem_sign.2 ⟨n.negative, rfl⟩
    · exact mem_repeated_one.2 ⟨n.whole_ne_nil, fun c hc => among_digits.2 (n.isDigit_whole hc)⟩
    · exact mem_fraction.2 ⟨n.fraction, fun c hc => n.isDigit_fraction hc, rfl⟩

/-- A unit is a run of letters or the percent sign. -/
theorem mem_unitPattern :
    w ∈ unitPattern ↔ (w ≠ [] ∧ ∀ c ∈ w, c.isAlpha = true) ∨ w = ['%'] := by
  rw [unitPattern, Language.mem_add, mem_repeated_one, mem_one]
  simp only [among_letters, exists_eq_left]

/-- A unit is not empty and has no digits. -/
theorem chars_of_mem_unitPattern (h : w ∈ unitPattern) :
    w ≠ [] ∧ ∀ c ∈ w, (c.isAlpha || c == '%') = true := by
  rcases mem_unitPattern.1 h with ⟨hne, hall⟩ | rfl
  · refine ⟨hne, fun c hc => ?_⟩
    rw [hall c hc, Bool.true_or]
  · exact ⟨List.cons_ne_nil _ _, by simp⟩

/-- A quoted text has its quote at both ends and nowhere else. -/
theorem mem_quotedPattern :
    w ∈ quotedPattern quote ↔ ∃ content, quote ∉ content ∧ w = quote :: content ++ [quote] := by
  rw [quotedPattern, mul_assoc, mem_one_mul]
  constructor
  · rintro ⟨_, rest, rfl, hrest, rfl⟩
    obtain ⟨content, hcontent, _, ⟨_, rfl, rfl⟩, rfl⟩ := Language.mem_mul.1 hrest
    exact ⟨content, fun h => mem_star_one.1 hcontent _ h rfl, rfl⟩
  · rintro ⟨content, hcontent, rfl⟩
    refine ⟨quote, content ++ [quote], rfl, ?_, rfl⟩
    refine Language.append_mem_mul (mem_star_one.2 fun c hc => ?_) (singleton_mem_one.2 rfl)
    exact ne_of_mem_of_not_mem hc hcontent

/-- A function is a name with a parenthesis after it. -/
theorem mem_function : w ∈ pattern .function ↔ ∃ name, isName name = true ∧ w = name ++ ['('] := by
  rw [pattern, Language.mem_mul]
  constructor
  · rintro ⟨name, hname, _, ⟨_, rfl, rfl⟩, rfl⟩
    exact ⟨name, mem_namePattern.1 hname, rfl⟩
  · rintro ⟨name, hname, rfl⟩
    exact ⟨name, mem_namePattern.2 hname, _, singleton_mem_one.2 rfl, rfl⟩

/-- A color is a hash with three to eight hexadecimal digits after it. -/
theorem mem_hexColor : w ∈ pattern .hexColor ↔
    ∃ ds, 3 ≤ ds.length ∧ ds.length ≤ 8 ∧ (∀ d ∈ ds, Hex.isDigit d = true) ∧ w = '#' :: ds := by
  rw [pattern, mem_one_mul]
  constructor
  · rintro ⟨_, ds, rfl, ⟨n, hleast, hmost, hn⟩, rfl⟩
    obtain ⟨rfl, hall⟩ := mem_pow_one.1 hn
    exact ⟨ds, hleast, hmost, fun d hd => among_hexDigits.1 (hall d hd), rfl⟩
  · rintro ⟨ds, hleast, hmost, hall, rfl⟩
    exact ⟨'#', ds, rfl, ⟨ds.length, hleast, hmost,
      mem_pow_one.2 ⟨rfl, fun d hd => among_hexDigits.2 (hall d hd)⟩⟩, rfl⟩

/-- A dimension is the text of a numeral with a unit after it. -/
theorem mem_dimension : w ∈ pattern .dimension ↔
    ∃ n : Numeral, ∃ unit ∈ unitPattern, w = n.text ++ unit := by
  rw [pattern, Language.mem_mul]
  constructor
  · rintro ⟨number, hnumber, unit, hunit, rfl⟩
    obtain ⟨n, rfl⟩ := mem_numberPattern.1 hnumber
    exact ⟨n, unit, hunit, rfl⟩
  · rintro ⟨n, unit, hunit, rfl⟩
    exact ⟨n.text, mem_numberPattern.2 ⟨n, rfl⟩, unit, hunit, rfl⟩

end Members

section Kinds

variable {w : List Char} {k : TokenKind}

/-- The only kind that a token with these two characters at its ends can be of. -/
def kindOf? (first last : Char) : Option TokenKind :=
  if startsName first then if last = '(' then some .function else some .ident
  else if first.isDigit || first == '-' then
    if last.isAlpha || last == '%' then some .dimension else some .number
  else all.find? fun k => k.sign? = some first

/-- A sign tells the kind whatever stands at the end. -/
private theorem exists_kindOf?_of_sign {c : Char} (cs : List Char)
    (hlast : ∀ d, kindOf? c d = some k) :
    ∃ first ∈ (c :: cs).head?, ∃ last ∈ (c :: cs).getLast?, kindOf? first last = some k :=
  ⟨c, rfl, _, List.getLast?_eq_some_getLast (List.cons_ne_nil c cs), hlast _⟩

/-- Both ends of a name tell that it is one. -/
private theorem exists_kindOf?_of_name {name : List Char} (hname : isName name = true) :
    ∃ first ∈ name.head?, startsName first = true ∧
      ∃ last ∈ name.getLast?, kindOf? first last = some .ident := by
  cases name with
  | nil => cases hname
  | cons c cs =>
    rw [isName, Bool.and_eq_true, List.all_eq_true] at hname
    have hlast := List.getLast_mem (List.cons_ne_nil c cs)
    refine ⟨c, rfl, hname.1, _, List.getLast?_eq_some_getLast (List.cons_ne_nil c cs), ?_⟩
    rw [kindOf?, if_pos hname.1, if_neg]
    intro hparen
    rw [hparen] at hlast
    rcases List.mem_cons.1 hlast with rfl | hlast
    · exact absurd hname.1 (by decide)
    · exact absurd (hname.2 _ hlast) (by decide)

/-- A numeral starts as no name does, with a digit or a dash. -/
private theorem exists_kindOf?_of_numeral (n : Numeral) :
    ∃ first ∈ n.text.head?, startsName first = false ∧ (first.isDigit || first == '-') = true := by
  obtain ⟨c, cs, hcs, hc, -⟩ := Token.head_numeral n
  refine ⟨c, hcs ▸ rfl, (ne_of_isDigit hc).1, ?_⟩
  rwa [Bool.or_eq_true, beq_iff_eq]

/-- The ends of a token tell its kind. -/
theorem exists_kindOf?_of_mem_pattern (h : w ∈ k.pattern) :
    ∃ first ∈ w.head?, ∃ last ∈ w.getLast?, kindOf? first last = some k := by
  cases k with
  | function =>
    obtain ⟨name, hname, rfl⟩ := mem_function.1 h
    obtain ⟨c, hc, hstart, -⟩ := exists_kindOf?_of_name hname
    refine ⟨c, List.mem_head?_append_of_mem_head? hc, '(', List.getLast?_concat, ?_⟩
    rw [kindOf?, if_pos hstart, if_pos rfl]
  | ident =>
    obtain ⟨c, hc, -, hlast⟩ := exists_kindOf?_of_name (mem_namePattern.1 h)
    exact ⟨c, hc, hlast⟩
  | dimension =>
    obtain ⟨n, unit, hunit, rfl⟩ := mem_dimension.1 h
    obtain ⟨c, hc, hstart, hnumber⟩ := exists_kindOf?_of_numeral n
    obtain ⟨hne, hall⟩ := chars_of_mem_unitPattern hunit
    refine ⟨c, List.mem_head?_append_of_mem_head? hc, unit.getLast hne,
      List.mem_getLast?_append_of_mem_getLast? (List.getLast?_eq_some_getLast hne), ?_⟩
    rw [kindOf?, hstart, if_neg Bool.false_ne_true, if_pos hnumber,
      if_pos (hall _ (List.getLast_mem hne))]
  | number =>
    obtain ⟨n, rfl⟩ := mem_numberPattern.1 h
    obtain ⟨c, hc, hstart, hnumber⟩ := exists_kindOf?_of_numeral n
    have hne : n.text ≠ [] := by
      rintro hnil
      rw [hnil] at hc
      cases hc
    refine ⟨c, hc, _, List.getLast?_eq_some_getLast hne, ?_⟩
    rw [kindOf?, hstart, if_neg Bool.false_ne_true, if_pos hnumber,
      Token.not_unit_of_mem_text (List.getLast_mem hne), if_neg Bool.false_ne_true]
  | hexColor =>
    obtain ⟨ds, -, -, -, rfl⟩ := mem_hexColor.1 h
    exact exists_kindOf?_of_sign ds fun _ => rfl
  | doubleQuoted | singleQuoted =>
    obtain ⟨content, -, rfl⟩ := mem_quotedPattern.1 h
    exact exists_kindOf?_of_sign _ fun _ => rfl
  | comma | close | slash =>
    obtain ⟨_, rfl, rfl⟩ := h
    exact exists_kindOf?_of_sign [] fun _ => rfl

/-- No text belongs to two patterns. -/
theorem kind_eq_of_mem_pattern {k' : TokenKind} (h : w ∈ k.pattern) (h' : w ∈ k'.pattern) :
    k = k' := by
  obtain ⟨first, hfirst, last, hlast, hk⟩ := exists_kindOf?_of_mem_pattern h
  obtain ⟨first', hfirst', last', hlast', hk'⟩ := exists_kindOf?_of_mem_pattern h'
  obtain rfl := Option.mem_unique hfirst hfirst'
  obtain rfl := Option.mem_unique hlast hlast'
  exact Option.some.inj (hk.symm.trans hk')

/-- A token starts with a character that is no blank. -/
theorem exists_head_of_mem_pattern (h : w ∈ k.pattern) :
    ∃ c cs, w = c :: cs ∧ Token.isBlank c = false := by
  obtain ⟨c, hc, last, -, hk⟩ := exists_kindOf?_of_mem_pattern h
  obtain ⟨cs, rfl⟩ := List.head?_eq_some_iff.1 hc
  refine ⟨c, cs, rfl, ?_⟩
  by_contra hblank
  simp only [Token.isBlank, Bool.not_eq_false, Bool.or_eq_true, beq_iff_eq] at hblank
  rcases hblank with (((rfl | rfl) | rfl) | rfl) | rfl <;> cases hk

end Kinds

end TokenKind

end Sitework
