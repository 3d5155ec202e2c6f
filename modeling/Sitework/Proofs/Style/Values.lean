import Sitework.Proofs.Style.Colors
import Sitework.Proofs.Style.Tokens
import Sitework.Style.Rendering

/-!
# Rendered values read back

What is rendered for a value is read as that value, as long as all its numbers are finite. A number
that is not is written as a word, or as no token at all, and no reader takes it; so whatever is read
from a rendered value has finite numbers only.
-/

namespace Sitework

namespace Text

/-- A character that is not blank ends the blanks at the end. -/
theorem trimRight_append {cs : List Char} {c : Char} (hc : isBlank c = false) :
    trimRight (cs ++ [c]) = cs ++ [c] := by
  simp [trimRight, hc]

/-- Cutting blanks leaves the last character when that is not blank. -/
theorem getLast?_trim_append (cs : List Char) {c : Char} (hc : isBlank c = false) :
    (trim (cs ++ [c])).getLast? = some c := by
  have hdrop : ∃ ds, (cs ++ [c]).dropWhile isBlank = ds ++ [c] := by
    induction cs with
    | nil => exact ⟨[], by simp [hc]⟩
    | cons d cs ih =>
      rw [List.cons_append, List.dropWhile_cons]
      split
      · exact ih
      · exact ⟨d :: cs, rfl⟩
  obtain ⟨ds, hds⟩ := hdrop
  rw [trim, hds, trimRight_append hc, List.getLast?_concat]

/-- A text that ends otherwise than a word is not that word with blanks around it. -/
theorem trimmed_ne {text word : String} (cs : List Char) (c : Char)
    (htext : text.toList = cs ++ [c]) (hc : isBlank c = false)
    (hword : word.toList.getLast? ≠ some c) : trimmed text ≠ word := by
  rintro rfl
  refine hword ?_
  rw [trimmed, String.toList_ofList, htext, getLast?_trim_append cs hc]

end Text

namespace Binary64

/-- The token that a number is written as, with a unit behind it. -/
def token? (unit : List Char) : Binary64 → Option Token
  | .nan => some ⟨.ident, ['N', 'a', 'N'] ++ unit⟩
  | .infinite true => none
  | .infinite false => some ⟨.ident, ['i', 'n', 'f'] ++ unit⟩
  | .finite negative x fits =>
    some ⟨if unit = [] then .number else .dimension,
      (cssNumber.write (.finite negative x fits)).toList ++ unit⟩

/-- The word for a number that is not finite is a name, with the unit behind it. -/
private theorem isName_append_unit {word unit : List Char}
    (hword : word = ['i', 'n', 'f'] ∨ word = ['N', 'a', 'N'])
    (hunit : unit.all Char.isAlpha = true) : TokenKind.isName (word ++ unit) = true := by
  have hall : unit.all TokenKind.continuesName = true := by
    rw [List.all_eq_true]
    intro c hc
    simp [TokenKind.continuesName, Char.isAlphanum, List.all_eq_true.1 hunit c hc]
  rcases hword with rfl | rfl <;>
    simp [TokenKind.isName, hall, TokenKind.startsName, TokenKind.continuesName]

/-- A written number that a comma or a parenthesis follows is found as its token. -/
theorem scan?_write (x : Binary64) (unit rest : List Char)
    (hunit : unit.all Char.isAlpha = true) (hrest : ∀ c ∈ rest.head?, c = ',' ∨ c = ')') :
    Token.scan? ((cssNumber.write x).toList ++ unit ++ rest) =
      (x.token? unit).bind fun t => (Token.scan? rest).map (t :: ·) := by
  have hends : ∀ c ∈ rest.head?, TokenKind.continuesName c = false ∧ c ≠ '(' := by
    intro c hc
    rcases hrest c hc with rfl | rfl <;> decide
  match x with
  | .infinite true =>
    have hnone : Token.scan? ('-' :: 'i' :: ('n' :: 'f' :: (unit ++ rest))) = none := by
      rw [Token.scan?, if_neg (by decide)]
      simp [TokenKind.longest, TokenKind.all, TokenKind.reach, TokenKind.nameLength,
        TokenKind.numberLength, TokenKind.unsignedLength, TokenKind.runLength,
        TokenKind.startsName]
    exact hnone
  | .infinite false =>
    exact Token.scan?_ident _ _ (isName_append_unit (.inl rfl) hunit) hends
  | .nan =>
    exact Token.scan?_ident _ _ (isName_append_unit (.inr rfl) hunit) hends
  | .finite negative m fits =>
    obtain ⟨n, htext, -⟩ := exists_numeral (isFinite_finite negative m fits)
    simp only [token?, htext, Option.bind_some]
    split
    · next h =>
      subst h
      rw [List.append_nil]
      refine Token.scan?_number n fun c hc => ?_
      rcases hrest c hc with rfl | rfl <;> decide
    · next h =>
      refine Token.scan?_dimension n h hunit fun c hc => ?_
      rcases hrest c hc with rfl | rfl <;> decide

/-- The token of a finite number is that of a numeral which denotes it. -/
theorem IsFinite.exists_token? {x : Binary64} (hx : x.IsFinite) (unit : List Char) :
    ∃ n : Numeral, n.value = x ∧
      x.token? unit = some ⟨if unit = [] then .number else .dimension, n.text ++ unit⟩ := by
  match x with
  | .infinite negative => exact absurd rfl (hx.1 negative)
  | .nan => exact absurd rfl hx.2
  | .finite negative m fits =>
    obtain ⟨n, htext, hvalue⟩ := exists_numeral hx
    exact ⟨n, hvalue, by rw [token?, htext]⟩

/-- A token of a number that is not finite is a name. -/
theorem kind_of_token? {x : Binary64} (hx : ¬ x.IsFinite) {unit : List Char} {t : Token}
    (h : x.token? unit = some t) :
    t = ⟨.ident, ['i', 'n', 'f'] ++ unit⟩ ∨ t = ⟨.ident, ['N', 'a', 'N'] ++ unit⟩ := by
  obtain rfl | rfl | rfl := eq_of_not_isFinite hx
  · cases h
  · exact .inl (Option.some.inj h).symm
  · exact .inr (Option.some.inj h).symm

/-- A token of a number neither separates nor closes arguments. -/
theorem kind_ne_of_token? {x : Binary64} {unit : List Char} {t : Token}
    (h : x.token? unit = some t) : t.kind ≠ .close ∧ t.kind ≠ .comma := by
  by_cases hx : x.IsFinite
  · obtain ⟨n, -, htoken⟩ := hx.exists_token? unit
    obtain rfl := Option.some.inj (h.symm.trans htoken)
    simp only
    split <;> decide
  · obtain rfl | rfl := kind_of_token? hx h <;> exact ⟨by simp, by simp⟩

/-- A finite number with a unit reads as a dimension. -/
theorem IsFinite.dimension?_of_token? {x : Binary64} (hx : x.IsFinite) {unit : List Char}
    (hne : unit ≠ []) (hunit : unit.all Char.isAlpha = true) {t : Token}
    (h : x.token? unit = some t) :
    t.kind = .dimension ∧ t.dimension? = some (x, String.ofList unit) := by
  obtain ⟨n, rfl, htoken⟩ := hx.exists_token? unit
  obtain rfl := Option.some.inj (h.symm.trans htoken)
  simp only [if_neg hne, true_and]
  refine Token.dimension?_text n ?_
  obtain ⟨c, cs, rfl⟩ := List.exists_cons_of_ne_nil hne
  simp [List.all_eq_true.1 hunit c (by simp)]

/-- A finite number without a unit reads as a number. -/
theorem IsFinite.number?_of_token? {x : Binary64} (hx : x.IsFinite) {t : Token}
    (h : x.token? [] = some t) : t.dimension? = none ∧ t.number? = some x := by
  obtain ⟨n, rfl, htoken⟩ := hx.exists_token? []
  obtain rfl := Option.some.inj (h.symm.trans htoken)
  simp only [if_true, List.append_nil]
  exact ⟨rfl, Token.number?_text n⟩

end Binary64

namespace Value

/-- A reading that gives one value under a condition and fails otherwise. -/
def Gives {α : Type} (reading : Reading α) (condition : Prop) (x : α) : Prop :=
  ∀ y, reading = .ok y ↔ condition ∧ x = y

namespace Gives

variable {α β : Type} {reading : Reading α} {condition more : Prop} {x : α}

/-- A reading that succeeds gives its value under any condition that holds. -/
theorem of_ok (h : reading = .ok x) (hcondition : condition) : Gives reading condition x := by
  intro y
  simp [h, hcondition]

/-- A reading that fails gives it under any condition that does not. -/
theorem of_error {fault : ValueFault} (h : reading = .error fault) (hcondition : ¬ condition) :
    Gives reading condition x := by
  intro y
  simp [h, hcondition]

theorem eq_ok (h : Gives reading condition x) (hcondition : condition) : reading = .ok x :=
  (h x).2 ⟨hcondition, rfl⟩

theorem congr {other : Prop} (h : Gives reading condition x) (hiff : condition ↔ other) :
    Gives reading other x := by
  intro y
  rw [h y, hiff]

/-- What is made of a value is given under the same condition. -/
theorem map (h : Gives reading condition x) (f : α → β) :
    Gives (reading.map f) condition (f x) := by
  cases reading with
  | error fault => exact of_error rfl fun hcondition => by simpa using h.eq_ok hcondition
  | ok y =>
    obtain ⟨hcondition, rfl⟩ := (h y).1 rfl
    exact of_ok rfl hcondition

/-- A reading after another one gives its value under both conditions. -/
theorem bind (h : Gives reading condition x) {next : α → Reading β} {y : β}
    (hnext : Gives (next x) more y) : Gives (reading >>= next) (condition ∧ more) y := by
  cases reading with
  | error fault => exact of_error rfl fun hcondition => by simpa using h.eq_ok hcondition.1
  | ok x' =>
    obtain ⟨hcondition, rfl⟩ := (h x').1 rfl
    intro y'
    exact (hnext y').trans (by simp [hcondition])

end Gives

variable {x : Binary64} {t : Token}

/-- A written number of pixels is read back exactly if it is finite. -/
theorem pixelArgument_gives (h : x.token? ['p', 'x'] = some t) :
    Gives (pixelArgument t) x.IsFinite x := by
  by_cases hx : x.IsFinite
  · obtain ⟨-, hdimension⟩ := hx.dimension?_of_token? (by decide) (by decide) h
    exact .of_ok (by rw [pixelArgument, hdimension]; rfl) hx
  · obtain rfl | rfl := Binary64.kind_of_token? hx h <;> exact .of_error rfl hx

/-- So is a written number of degrees. -/
theorem degreeArgument_gives (h : x.token? ['d', 'e', 'g'] = some t) :
    Gives (degreeArgument t) x.IsFinite x := by
  by_cases hx : x.IsFinite
  · obtain ⟨-, hdimension⟩ := hx.dimension?_of_token? (by decide) (by decide) h
    exact .of_ok (by rw [degreeArgument, hdimension]; rfl) hx
  · obtain rfl | rfl := Binary64.kind_of_token? hx h <;> exact .of_error rfl hx

/-- So is a number without a unit. -/
theorem numberArgument_gives (h : x.token? [] = some t) :
    Gives (numberArgument t) x.IsFinite x := by
  by_cases hx : x.IsFinite
  · obtain ⟨-, hnumber⟩ := hx.number?_of_token? h
    exact .of_ok (by rw [numberArgument, hnumber]) hx
  · obtain rfl | rfl := Binary64.kind_of_token? hx h <;> exact .of_error rfl hx

end Value

/-- A length without a number that is not finite. -/
def Length.IsFinite : Length → Prop
  | .px x => x.IsFinite
  | _ => True

/-- A track size without a number that is not finite. -/
def TrackSize.IsFinite : TrackSize → Prop
  | .px x => x.IsFinite
  | .auto => True

/-- A font size without a number that is not finite. -/
def FontSize.IsFinite : FontSize → Prop
  | .px x => x.IsFinite
  | .inherit => True

namespace Value

/-- A value that is scanned gives its tokens. -/
theorem tokens_of_scan? {value : String} {ts : List Token}
    (h : Token.scan? value.toList = some ts) : tokens value = .ok ts := by
  rw [tokens, Token.tokenize?, h]

/-- One that is not is reported. -/
theorem error_of_scan? {value : String} (h : Token.scan? value.toList = none) :
    tokens value = .error (.untokenizable value) := by
  rw [tokens, Token.tokenize?, h]

/-- So is a length in pixels. -/
theorem lengthOf_gives {x : Binary64} {t : Token} (h : x.token? ['p', 'x'] = some t)
    (value : String) : Gives (lengthOf value t) x.IsFinite (.px x) := by
  by_cases hx : x.IsFinite
  · obtain ⟨hkind, hdimension⟩ := hx.dimension?_of_token? (by decide) (by decide) h
    exact .of_ok (by rw [lengthOf, hkind, hdimension]; rfl) hx
  · obtain rfl | rfl := Binary64.kind_of_token? hx h <;> exact .of_error rfl hx

/-- A rendered number of pixels is read as a length exactly if it is finite. -/
theorem length_pixels_gives (x : Binary64) :
    Gives (length (pixels x)) x.IsFinite (.px x) := by
  have htokens : Token.scan? (pixels x).toList = (x.token? ['p', 'x']).map ([·]) := by
    have h := x.scan?_write ['p', 'x'] [] (by decide) (by simp)
    rw [List.append_nil] at h
    rw [pixels, String.toList_append]
    refine h.trans ?_
    simp [Option.map_eq_bind]
  cases htoken : x.token? ['p', 'x'] with
  | none =>
    rw [htoken] at htokens
    refine .of_error (by rw [length, error_of_scan? htokens]; rfl) fun hx => ?_
    obtain ⟨n, -, h⟩ := hx.exists_token? ['p', 'x']
    simp [h] at htoken
  | some t =>
    rw [htoken] at htokens
    rw [length, tokens_of_scan? htokens]
    exact lengthOf_gives htoken _

/-- The whole of the parent or of the viewport, as it is written. -/
private theorem length_hundred (value : String) (unit : List Char) {l : Length}
    (hvalue : value.toList = (Numeral.ofNat 100).text ++ unit)
    (hunit : unit = ['%'] ∧ l = .fill ∨ (unit = ['v', 'h'] ∨ unit = ['v', 'w']) ∧ l = .screen) :
    length value = .ok l := by
  have hsame : (Binary64.ofInt (100 : Nat) == .ofInt 100) = true :=
    Binary64.sameValue_self_iff.2 (Binary64.isFinite_ofInt (by decide)).2
  have hscan : Token.scan? value.toList =
      some [⟨.dimension, (Numeral.ofNat 100).text ++ unit⟩] := by
    have hdimension : Token.scan? ((Numeral.ofNat 100).text ++ unit ++ []) =
        (Token.scan? []).map (⟨.dimension, (Numeral.ofNat 100).text ++ unit⟩ :: ·) := by
      rcases hunit with ⟨rfl, -⟩ | ⟨rfl | rfl, -⟩
      · exact Token.scan?_percent _ _
      · exact Token.scan?_dimension _ (by simp) (by decide) (by simp)
      · exact Token.scan?_dimension _ (by simp) (by decide) (by simp)
    rw [hvalue, ← List.append_nil (_ ++ unit), hdimension, Token.scan?_nil]
    simp
  have hdimension : Token.dimension? ⟨.dimension, (Numeral.ofNat 100).text ++ unit⟩ =
      some (.ofInt (100 : Nat), String.ofList unit) := by
    rw [Token.dimension?_text, Numeral.value_ofNat]
    rcases hunit with ⟨rfl, -⟩ | ⟨rfl | rfl, -⟩ <;> decide
  have hread : lengthOf value ⟨.dimension, (Numeral.ofNat 100).text ++ unit⟩ = .ok l := by
    simp only [lengthOf, hdimension]
    rcases hunit with ⟨rfl, rfl⟩ | ⟨rfl | rfl, rfl⟩ <;> exact if_pos hsame
  rw [length, tokens_of_scan? hscan]
  exact hread

/-- A rendered length is read back exactly if its numbers are finite. -/
theorem length_css_gives (axis : Axis) (l : Length) :
    Gives (length (l.css axis)) l.IsFinite l := by
  cases l with
  | px x => exact length_pixels_gives x
  | fill => exact .of_ok (length_hundred "100%" ['%'] rfl (by simp)) trivial
  | auto =>
    have hscan := Token.scan?_ident "fit-content".toList [] (by decide) (by simp)
    rw [List.append_nil, Token.scan?_nil] at hscan
    refine .of_ok ?_ trivial
    rw [length, Length.css, tokens_of_scan? hscan]
    rfl
  | screen =>
    refine .of_ok ?_ trivial
    cases axis with
    | horizontal => exact length_hundred "100vw" ['v', 'w'] rfl (by simp)
    | vertical => exact length_hundred "100vh" ['v', 'h'] rfl (by simp)

/-- A rendered font size is read back exactly if its numbers are finite. -/
theorem fontSize_css_gives (size : FontSize) :
    Gives (fontSize size.css) size.IsFinite size := by
  cases size with
  | inherit => exact .of_ok (if_pos (by decide)) trivial
  | px x =>
    have hname : Text.trimmed (pixels x) ≠ "inherit" := by
      refine Text.trimmed_ne ((cssNumber.write x).toList ++ ['p']) 'x' ?_ (by decide) (by decide)
      simp [pixels]
    have hread : fontSize (pixels x) = (do
        match ← length (pixels x) with
        | .px n => return .px n
        | _ => .error (.notPixels (pixels x))) := if_neg hname
    have hgives : Gives (fontSize (pixels x)) (x.IsFinite ∧ True) (.px x) :=
      hread ▸ (length_pixels_gives x).bind (.of_ok rfl trivial)
    rwa [and_true] at hgives

end Value

/-- Keywords whose rendered spelling is read back. -/
class Keyword.Faithful (α : Type) [Keyword α] : Prop where
  read?_css : ∀ x : α, Keyword.read? (Text.trimmed (Keyword.css x)) = some x

namespace Keyword.Faithful

instance : Faithful TextAlign := ⟨fun x => by cases x <;> decide⟩
instance : Faithful Display := ⟨fun x => by cases x <;> decide⟩
instance : Faithful FlexDirection := ⟨fun x => by cases x <;> decide⟩
instance : Faithful AlignItems := ⟨fun x => by cases x <;> decide⟩
instance : Faithful JustifyContent := ⟨fun x => by cases x <;> decide⟩
instance : Faithful BorderStyle := ⟨fun x => by cases x <;> decide⟩
instance : Faithful Position := ⟨fun x => by cases x <;> decide⟩
instance : Faithful FontWeight := ⟨fun x => by cases x <;> decide⟩

end Keyword.Faithful

namespace Value

/-- A rendered keyword is read back. -/
theorem keyword_css {α : Type} [Keyword α] [Keyword.Faithful α] (what : String) (x : α) :
    keyword what (Keyword.css x) = .ok x := by
  rw [keyword, Keyword.Faithful.read?_css]

/-- A rendered font weight is read back. -/
theorem fontWeight_css (weight : FontWeight) : fontWeight (Keyword.css weight) = .ok weight := by
  rw [fontWeight, Keyword.Faithful.read?_css]

/-- Digits are read as the number that they were written for. -/
private theorem ofDigits?_digits (n : Nat) : Integer.ofDigits? (Decimal.digits n) = some n := by
  have hall : (Decimal.digits n).all Char.isDigit = true := by
    rw [List.all_eq_true]
    exact fun c hc => Decimal.isDigit_of_mem_digits hc
  rw [Integer.ofDigits?, if_pos ⟨Decimal.digits_ne_nil n, hall⟩]
  exact congrArg some (Decimal.ofDigits_digits n)

/-- A digit is neither blank nor a sign. -/
private theorem ne_of_isDigit {c : Char} (hc : c.isDigit = true) :
    Text.isBlank c = false ∧ c ≠ '+' ∧ c ≠ '-' := by
  have hrange : 48 ≤ c.toNat ∧ c.toNat ≤ 57 := by
    simp only [Char.isDigit, ge_iff_le, Bool.and_eq_true, decide_eq_true_eq,
      UInt32.le_iff_toNat_le] at hc
    exact hc
  refine ⟨?_, ?_, ?_⟩
  · by_contra h
    simp only [Text.isBlank, Bool.not_eq_false, Bool.or_eq_true, Bool.and_eq_true,
      decide_eq_true_eq, beq_iff_eq] at h
    omega
  · rintro rfl
    simp at hrange
  · rintro rfl
    simp at hrange

/-- An integer is written by its digits, with a minus sign if it is negative. -/
theorem toList_toString (n : Int) :
    (toString n).toList =
      if n < 0 then '-' :: Decimal.digits n.natAbs else Decimal.digits n.natAbs := by
  obtain n | n := n
  · exact Nat.toList_repr
  · have h : (toString (Int.negSucc n)).toList = '-' :: (Nat.repr (n + 1)).toList := by
      rw [show toString (Int.negSucc n) = "-" ++ Nat.repr (n + 1) from rfl, String.toList_append]
      rfl
    rw [h, Nat.toList_repr, if_pos (Int.negSucc_lt_zero n)]
    rfl

/-- An integer within its bounds is read back. -/
private theorem between?_toString {low high n : Int} (hlow : low ≤ n) (hhigh : n ≤ high) :
    Integer.between? low high (toString n).toList = some n := by
  obtain ⟨c, cs, hcs⟩ := List.exists_cons_of_ne_nil (Decimal.digits_ne_nil n.natAbs)
  have hdigit : c.isDigit = true := Decimal.isDigit_of_mem_digits (hcs ▸ List.mem_cons_self ..)
  obtain ⟨-, hplus, hminus⟩ := ne_of_isDigit hdigit
  have hread := ofDigits?_digits n.natAbs
  rw [toList_toString]
  split
  · next h =>
    have hvalue : -Int.ofNat n.natAbs = n := by
      rw [Int.ofNat_eq_natCast]
      omega
    simp only [Integer.between?, hread, Option.map_some, hvalue, Option.filter_some]
    simp [hlow, hhigh]
  · next h =>
    have hvalue : Int.ofNat n.natAbs = n := by
      rw [Int.ofNat_eq_natCast]
      omega
    rw [hcs] at hread ⊢
    unfold Integer.between?
    split
    · next h => exact absurd (List.cons.inj h).1 hplus
    · next h => exact absurd (List.cons.inj h).1 hminus
    · simp only [hread, Option.map_some, hvalue, Option.filter_some]
      simp [hlow, hhigh]

/-- A rendered stacking order is read back. -/
theorem zIndex_toString (z : Int32) : zIndex (toString z.toInt) = .ok z := by
  have hblank : ∀ c ∈ (toString z.toInt).toList, Text.isBlank c = false := by
    intro c hc
    rw [toList_toString] at hc
    split at hc
    · rcases List.mem_cons.1 hc with rfl | hc
      · decide
      · exact (ne_of_isDigit (Decimal.isDigit_of_mem_digits hc)).1
    · exact (ne_of_isDigit (Decimal.isDigit_of_mem_digits hc)).1
  have hhigh : z.toInt ≤ 2 ^ 31 - 1 := by
    have := Int32.toInt_lt z
    omega
  rw [zIndex, Text.trim_of_not_blank hblank, between?_toString (Int32.le_toInt z) hhigh]
  simp only [Int32.ofInt_toInt]

/-- Of a font stack that starts with a quoted family, that family is read. -/
private theorem fontFamily_eq_ok_iff {value : String} {content rest : List Char}
    (hvalue : value.toList = '"' :: content ++ '"' :: rest) (hcontent : '"' ∉ content)
    (family : String) :
    fontFamily value = .ok family ↔
      (Token.scan? rest).isSome = true ∧ String.ofList content = family := by
  have hscan := Token.scan?_quoted hcontent rest
  rw [← hvalue] at hscan
  have hquoted : Token.quoted? ⟨.doubleQuoted, '"' :: content ++ ['"']⟩ =
      some (String.ofList content) := by
    simp [Token.quoted?]
  cases hrest : Token.scan? rest with
  | none =>
    rw [hrest] at hscan
    simp [fontFamily, tokens, Token.tokenize?, hscan, bind, Except.bind]
  | some ts =>
    rw [hrest] at hscan
    have hread : fontFamily value = .ok (String.ofList content) := by
      simp only [fontFamily, tokens_of_scan? hscan, bind, Except.bind, hquoted]
    simp [hread]

/-- A rendered font family without a double quote is read back. -/
theorem fontFamily_css {family : String} (h : '"' ∉ family.toList) :
    fontFamily (fontFamilyCss family) = .ok family := by
  have hrest : (Token.scan? ", sans-serif".toList).isSome = true := by
    have hname := Token.scan?_ident "sans-serif".toList [] (by decide) (by simp)
    rw [List.append_nil, Token.scan?_nil] at hname
    rw [show ", sans-serif".toList = ',' :: ' ' :: "sans-serif".toList from rfl,
      Token.scan?_comma, Token.scan?_blank (by decide), hname]
    rfl
  have htext : (fontFamilyCss family).toList =
      '"' :: family.toList ++ '"' :: ", sans-serif".toList := by
    simp [fontFamilyCss]
  refine (fontFamily_eq_ok_iff htext h _).2 ⟨hrest, ?_⟩
  rw [String.ofList_toList]

/-- A family that is read from a rendered font family has no double quote. -/
theorem quote_not_mem_of_fontFamily_css {family read : String}
    (h : fontFamily (fontFamilyCss family) = .ok read) : '"' ∉ read.toList := by
  have hcontent : '"' ∉ family.toList.takeWhile (· != '"') := by
    intro hmem
    have hall := List.all_takeWhile (p := (· != '"')) (l := family.toList)
    simpa using List.all_eq_true.1 hall _ hmem
  obtain ⟨rest, hrest⟩ : ∃ rest, (fontFamilyCss family).toList =
      '"' :: family.toList.takeWhile (· != '"') ++ '"' :: rest := by
    have hsplit := List.takeWhile_append_dropWhile (p := (· != '"')) (l := family.toList)
    cases hdrop : family.toList.dropWhile (· != '"') with
    | nil =>
      rw [hdrop, List.append_nil] at hsplit
      exact ⟨", sans-serif".toList, by rw [hsplit]; simp [fontFamilyCss]⟩
    | cons c cs =>
      have hc : c = '"' := by
        have := List.head?_dropWhile_not (· != '"') family.toList
        simpa [hdrop] using this
      rw [hdrop, hc] at hsplit
      refine ⟨cs ++ '"' :: ", sans-serif".toList, ?_⟩
      conv_lhs => rw [fontFamilyCss, String.toList_append, String.toList_append, ← hsplit]
      simp
  obtain ⟨-, rfl⟩ := (fontFamily_eq_ok_iff hrest hcontent read).1 h
  rwa [String.toList_ofList]

end Value

namespace TrackSize

/-- The token that a track size is written as. -/
def token? : TrackSize → Option Token
  | .px x => x.token? ['p', 'x']
  | .auto => some ⟨.dimension, (Numeral.ofNat 1).text ++ ['f', 'r']⟩

/-- A written track size before a closing parenthesis is found as its token. -/
theorem scan?_css (size : TrackSize) (rest : List Char) :
    Token.scan? (size.css.toList ++ ')' :: rest) =
      size.token?.bind fun t => (Token.scan? (')' :: rest)).map (t :: ·) := by
  cases size with
  | px x =>
    have h := x.scan?_write ['p', 'x'] (')' :: rest) (by decide) (by simp)
    rwa [show (TrackSize.px x).css.toList = (cssNumber.write x).toList ++ ['p', 'x'] from
      String.toList_append]
  | auto =>
    have h : Token.scan? ((Numeral.ofNat 1).text ++ ['f', 'r'] ++ ')' :: rest) =
        (Token.scan? (')' :: rest)).map (⟨.dimension, (Numeral.ofNat 1).text ++ ['f', 'r']⟩ :: ·) :=
      Token.scan?_dimension _ (by simp) (by decide) (by simp)
    exact h

/-- The size of a track is written as a dimension or as a name. -/
theorem kind_of_token? {size : TrackSize} {t : Token} (h : size.token? = some t) :
    t.kind = .dimension ∨ t.kind = .ident := by
  cases size with
  | px x =>
    by_cases hx : x.IsFinite
    · exact .inl (hx.dimension?_of_token? (by decide) (by decide) h).1
    · obtain rfl | rfl := Binary64.kind_of_token? hx h <;> exact .inr rfl
  | auto => exact .inl (Option.some.inj h ▸ rfl)

/-- A size without a token is not finite. -/
theorem not_isFinite_of_token? {size : TrackSize} (h : size.token? = none) : ¬ size.IsFinite := by
  cases size with
  | px x =>
    intro hx
    obtain ⟨n, -, htoken⟩ := Binary64.IsFinite.exists_token? hx ['p', 'x']
    exact Option.some_ne_none _ (htoken.symm.trans h)
  | auto => simp [token?] at h

end TrackSize

namespace Value

/-- A written size of a track is read back exactly if it is finite. -/
theorem trackSize_gives {size : TrackSize} {t : Token} (h : size.token? = some t) :
    Gives (trackSize t) size.IsFinite size := by
  cases size with
  | px x =>
    by_cases hx : x.IsFinite
    · obtain ⟨-, hdimension⟩ := hx.dimension?_of_token? (by decide) (by decide) h
      exact .of_ok (by rw [trackSize, hdimension]; rfl) hx
    · obtain rfl | rfl := Binary64.kind_of_token? hx h <;> exact .of_error rfl hx
  | auto =>
    obtain rfl := Option.some.inj h
    refine .of_ok ?_ trivial
    rw [trackSize, Token.dimension?_text _ (by decide), Numeral.value_ofNat]
    exact if_pos (Binary64.sameValue_self_iff.2 Binary64.isFinite_one.2)

/-- The characters of a rendered grid template, with its count as a numeral. -/
theorem toList_gridTracks_css (tracks : GridTracks) :
    tracks.css.toList = "repeat".toList ++ '(' ::
      ((Numeral.ofNat tracks.count.toNat).text ++ ',' :: ' ' ::
        (tracks.size.css.toList ++ [')'])) := by
  have hcount : (toString tracks.count.toNat).toList =
      (Numeral.ofNat tracks.count.toNat).text :=
    Nat.toList_repr.trans (Numeral.text_ofNat _).symm
  simp only [GridTracks.css, String.toList_append, hcount, List.append_assoc]
  rfl

/-- The tokens of a rendered grid template. -/
private theorem scan?_gridTemplate (tracks : GridTracks) :
    Token.scan? tracks.css.toList = tracks.size.token?.map fun t =>
      [⟨.function, "repeat".toList ++ ['(']⟩, ⟨.number, (Numeral.ofNat tracks.count.toNat).text⟩,
        ⟨.comma, [',']⟩, t, ⟨.close, [')']⟩] := by
  rw [toList_gridTracks_css, Token.scan?_function (by decide),
    Token.scan?_number _ (by simp; decide),
    Token.scan?_comma, Token.scan?_blank (by decide), TrackSize.scan?_css, Token.scan?_close,
    Token.scan?_nil]
  cases tracks.size.token? <;> rfl

/-- A rendered grid template is read back exactly if its numbers are finite. -/
theorem gridTemplate_css_gives (tracks : GridTracks) :
    Gives (gridTemplate tracks.css) tracks.size.IsFinite tracks := by
  have hscan := scan?_gridTemplate tracks
  cases htoken : tracks.size.token? with
  | none =>
    rw [htoken] at hscan
    exact .of_error (by rw [gridTemplate, error_of_scan? hscan]; rfl)
      (TrackSize.not_isFinite_of_token? htoken)
  | some t =>
    rw [htoken] at hscan
    have hkind := TrackSize.kind_of_token? htoken
    have hsplit : splitArguments? [⟨.number, (Numeral.ofNat tracks.count.toNat).text⟩,
        ⟨.comma, [',']⟩, t, ⟨.close, [')']⟩] =
          some ([⟨.number, (Numeral.ofNat tracks.count.toNat).text⟩, t], []) := by
      rcases hkind with hkind | hkind <;> simp [splitArguments?, hkind]
    have hcount : (Token.number? ⟨.number, (Numeral.ofNat tracks.count.toNat).text⟩).bind
        (Binary64.toCount? (2 ^ 32 - 1)) = some tracks.count.toNat := by
      have := tracks.count.toNat_lt
      rw [Token.number?_text, Numeral.value_ofNat, Option.bind_some,
        Binary64.toCount?_ofInt (by omega), Nat.min_eq_left (by omega)]
    have hread : gridTemplate tracks.css =
        (trackSize t).map (⟨UInt32.ofNat tracks.count.toNat, ·⟩) := by
      rw [gridTemplate, tokens_of_scan? hscan]
      simp only [bind, Except.bind, Token.functionName?_text, hsplit, hcount]
      rfl
    have hgives := (trackSize_gives htoken).map (GridTracks.mk tracks.count)
    rw [hread, UInt32.ofNat_toNat]
    exact hgives

end Value

/-- A transform with finite numbers. -/
def Transform.IsFinite (t : Transform) : Prop :=
  ∀ p, (t.get p).IsFinite

/-- A transformation is finite if its five numbers are. -/
theorem Transform.isFinite_iff {t : Transform} :
    t.IsFinite ↔ t.left.IsFinite ∧ t.top.IsFinite ∧ t.rotate.IsFinite ∧ t.scaleX.IsFinite ∧
      t.scaleY.IsFinite :=
  Transform.forall_get_iff Binary64.IsFinite

namespace Value

/-- One function of a transform is read before the others. -/
theorem transformSteps_cons (parts : Transform) {first : Token} {name : String}
    (hname : first.functionName? = some name) {rest arguments after : List Token}
    (hsplit : splitArguments? rest = some (arguments, after)) :
    transformSteps parts (first :: rest) =
      transformStep parts name arguments >>= fun parts => transformSteps parts after := by
  rw [transformSteps]
  split
  · next h => simp [h] at hname
  · next h =>
    obtain rfl := Option.some.inj (h.symm.trans hname)
    split
    · next h => simp [h] at hsplit
    · next given following h =>
      obtain ⟨rfl, rfl⟩ := Prod.mk.inj (Option.some.inj (h.symm.trans hsplit))
      cases transformStep parts _ given <;> simp only <;> rfl

/-- The token that opens the arguments of a function. -/
def opening (name : String) : Token :=
  ⟨.function, name.toList ++ ['(']⟩

/-- The token that closes arguments. -/
def closing : Token :=
  ⟨.close, [')']⟩

@[simp] theorem functionName?_opening (name : String) :
    (opening name).functionName? = some name := by
  rw [opening, Token.functionName?_text, String.ofList_toList]

/-- The only argument of a call is the token before the parenthesis. -/
theorem splitArguments?_one {t : Token} (ht : t.kind ≠ .close ∧ t.kind ≠ .comma)
    (after : List Token) : splitArguments? (t :: closing :: after) = some ([t], after) := by
  simp [closing, splitArguments?, ht]

/-- Two arguments of a call stand on both sides of the comma. -/
theorem splitArguments?_two {t u : Token} (ht : t.kind ≠ .close ∧ t.kind ≠ .comma)
    (hu : u.kind ≠ .close ∧ u.kind ≠ .comma) (after : List Token) :
    splitArguments? (t :: ⟨.comma, [',']⟩ :: u :: closing :: after) = some ([t, u], after) := by
  simp [closing, splitArguments?, ht, hu]

/-- The characters of the three functions of a transform, with the written numbers left open. -/
private theorem toList_functions (a b c d e : String) :
    ("translate(" ++ (a ++ "px") ++ ", " ++ (b ++ "px") ++ ") rotate(" ++ c ++ "deg) scale(" ++ d ++
      ", " ++ e ++ ")").toList =
    "translate".toList ++ '(' :: (a.toList ++ ['p', 'x'] ++ ',' :: ' ' ::
      (b.toList ++ ['p', 'x'] ++ ')' :: ' ' :: ("rotate".toList ++ '(' ::
        (c.toList ++ ['d', 'e', 'g'] ++ ')' :: ' ' :: ("scale".toList ++ '(' ::
          (d.toList ++ [] ++ ',' :: ' ' :: (e.toList ++ [] ++ [')']))))))) := by
  simp

/-- The characters of a rendered transform. -/
theorem toList_transform_css (t : Transform) : t.css.toList =
    "translate".toList ++ '(' :: ((cssNumber.write t.left).toList ++ ['p', 'x'] ++ ',' :: ' ' ::
      ((cssNumber.write t.top).toList ++ ['p', 'x'] ++ ')' :: ' ' :: ("rotate".toList ++ '(' ::
        ((cssNumber.write t.rotate).toList ++ ['d', 'e', 'g'] ++ ')' :: ' ' ::
          ("scale".toList ++ '(' :: ((cssNumber.write t.scaleX).toList ++ [] ++ ',' :: ' ' ::
            ((cssNumber.write t.scaleY).toList ++ [] ++ [')']))))))) :=
  toList_functions _ _ _ _ _

/-- The tokens of a rendered transform, from those of its parts. -/
private theorem scan?_transform (t : Transform) :
    Token.scan? t.css.toList = (t.left.token? ['p', 'x']).bind fun left =>
      (t.top.token? ['p', 'x']).bind fun top =>
      (t.rotate.token? ['d', 'e', 'g']).bind fun rotate =>
      (t.scaleX.token? []).bind fun scaleX =>
      (t.scaleY.token? []).map fun scaleY =>
        [opening "translate", left, ⟨.comma, [',']⟩, top, closing, opening "rotate", rotate,
          closing, opening "scale", scaleX, ⟨.comma, [',']⟩, scaleY, closing] := by
  rw [toList_transform_css, Token.scan?_function (by decide),
    Binary64.scan?_write _ _ _ (by decide) (by simp), Token.scan?_comma,
    Token.scan?_blank (by decide), Binary64.scan?_write _ _ _ (by decide) (by simp),
    Token.scan?_close, Token.scan?_blank (by decide),
    Token.scan?_function (by decide), Binary64.scan?_write _ _ _ (by decide) (by simp),
    Token.scan?_close, Token.scan?_blank (by decide), Token.scan?_function (by decide),
    Binary64.scan?_write _ _ _ (by decide) (by simp), Token.scan?_comma,
    Token.scan?_blank (by decide), Binary64.scan?_write _ _ _ (by decide) (by simp),
    Token.scan?_close, Token.scan?_nil]
  rcases t.left.token? ['p', 'x'] with _ | left
  · rfl
  rcases t.top.token? ['p', 'x'] with _ | top
  · rfl
  rcases t.rotate.token? ['d', 'e', 'g'] with _ | rotate
  · rfl
  rcases t.scaleX.token? [] with _ | scaleX
  · rfl
  rcases t.scaleY.token? [] with _ | scaleY <;> rfl

/-- The tokens of a rendered transform give its parts. -/
private theorem transformSteps_gives {t : Transform} {left top rotate scaleX scaleY : Token}
    (hleft : t.left.token? ['p', 'x'] = some left) (htop : t.top.token? ['p', 'x'] = some top)
    (hrotate : t.rotate.token? ['d', 'e', 'g'] = some rotate)
    (hscaleX : t.scaleX.token? [] = some scaleX) (hscaleY : t.scaleY.token? [] = some scaleY) :
    Gives
      (transformSteps .identity
        [opening "translate", left, ⟨.comma, [',']⟩, top, closing, opening "rotate", rotate,
          closing, opening "scale", scaleX, ⟨.comma, [',']⟩, scaleY, closing])
      t.IsFinite t := by
  have hmove : Gives (transformStep .identity "translate" [left, top])
      (t.left.IsFinite ∧ t.top.IsFinite ∧ True) ⟨t.left, t.top, 0, 1, 1⟩ :=
    (pixelArgument_gives hleft).bind ((pixelArgument_gives htop).bind (.of_ok rfl trivial))
  have hturn : Gives (transformStep ⟨t.left, t.top, 0, 1, 1⟩ "rotate" [rotate])
      (t.rotate.IsFinite ∧ True) ⟨t.left, t.top, t.rotate, 1, 1⟩ :=
    (degreeArgument_gives hrotate).bind (.of_ok rfl trivial)
  have hsize : Gives (transformStep ⟨t.left, t.top, t.rotate, 1, 1⟩ "scale" [scaleX, scaleY])
      (t.scaleX.IsFinite ∧ t.scaleY.IsFinite ∧ True) t :=
    (numberArgument_gives hscaleX).bind ((numberArgument_gives hscaleY).bind (.of_ok rfl trivial))
  -- each function is read with what the functions before it have set
  have hthird : Gives (transformSteps ⟨t.left, t.top, t.rotate, 1, 1⟩
      [opening "scale", scaleX, ⟨.comma, [',']⟩, scaleY, closing])
      ((t.scaleX.IsFinite ∧ t.scaleY.IsFinite ∧ True) ∧ True) t := by
    rw [transformSteps_cons _ (functionName?_opening _)
      (splitArguments?_two (Binary64.kind_ne_of_token? hscaleX)
        (Binary64.kind_ne_of_token? hscaleY) [])]
    exact hsize.bind (.of_ok (transformSteps.eq_1 t) trivial)
  have hsecond : Gives (transformSteps ⟨t.left, t.top, 0, 1, 1⟩
      [opening "rotate", rotate, closing, opening "scale", scaleX, ⟨.comma, [',']⟩, scaleY,
        closing])
      ((t.rotate.IsFinite ∧ True) ∧ (t.scaleX.IsFinite ∧ t.scaleY.IsFinite ∧ True) ∧ True) t := by
    rw [transformSteps_cons _ (functionName?_opening _)
      (splitArguments?_one (Binary64.kind_ne_of_token? hrotate) _)]
    exact hturn.bind hthird
  rw [transformSteps_cons _ (functionName?_opening _)
    (splitArguments?_two (Binary64.kind_ne_of_token? hleft) (Binary64.kind_ne_of_token? htop) _)]
  refine (hmove.bind hsecond).congr ?_
  rw [Transform.isFinite_iff]
  simp only [and_true, and_assoc]

/-- A rendered transform is read back exactly if its numbers are finite. -/
theorem transform_css_gives (t : Transform) : Gives (transform t.css) t.IsFinite t := by
  have hscan := scan?_transform t
  have hname : Text.trimmed t.css ≠ "none" := by
    have hend : ∃ cs, t.css.toList = cs ++ [')'] := by
      rw [toList_transform_css]
      simp only [← List.append_assoc, ← List.cons_append]
      exact ⟨_, rfl⟩
    obtain ⟨cs, hcs⟩ := hend
    exact Text.trimmed_ne cs ')' hcs (by decide) (by decide)
  have hread {ts : List Token} (h : Token.scan? t.css.toList = some ts) :
      transform t.css = transformSteps .identity ts := by
    simp only [transform, tokens_of_scan? h, bind, Except.bind, hname, if_false]
  cases hts : Token.scan? t.css.toList with
  | none =>
    refine .of_error (by rw [transform, error_of_scan? hts]; rfl) fun hfinite => ?_
    rw [Transform.isFinite_iff] at hfinite
    obtain ⟨hl, ht, hr, hx, hy⟩ := hfinite
    obtain ⟨_, -, hl⟩ := hl.exists_token? ['p', 'x']
    obtain ⟨_, -, ht⟩ := ht.exists_token? ['p', 'x']
    obtain ⟨_, -, hr⟩ := hr.exists_token? ['d', 'e', 'g']
    obtain ⟨_, -, hx⟩ := hx.exists_token? []
    obtain ⟨_, -, hy⟩ := hy.exists_token? []
    simp [hts, hl, ht, hr, hx, hy] at hscan
  | some ts =>
    rw [hts] at hscan
    obtain ⟨left, hleft, hscan⟩ := Option.bind_eq_some_iff.1 hscan.symm
    obtain ⟨top, htop, hscan⟩ := Option.bind_eq_some_iff.1 hscan
    obtain ⟨rotate, hrotate, hscan⟩ := Option.bind_eq_some_iff.1 hscan
    obtain ⟨scaleX, hscaleX, hscan⟩ := Option.bind_eq_some_iff.1 hscan
    obtain ⟨scaleY, hscaleY, rfl⟩ := Option.map_eq_some_iff.1 hscan
    rw [hread hts]
    exact transformSteps_gives hleft htop hrotate hscaleX hscaleY

end Value

end Sitework
