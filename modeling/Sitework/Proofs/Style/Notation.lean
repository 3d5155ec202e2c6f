import Sitework.Proofs.Style.Accepted
import Sitework.Proofs.Text.Character
import Sitework.Proofs.Text.Split

/-!
# The characters of accepted values

Color notations are made of letters, digits, blanks and a few signs. So an accepted color holds no
quote, no backslash and nothing that ends its declaration or its rule, and the same is true of
everything else that a style renders, apart from the quotes around an accepted font family.
-/

namespace Sitework

namespace Text

/-- What is cut off at the start is blank. -/
theorem isBlank_of_not_mem_dropWhile {cs : List Char} {c : Char} (hc : c ∈ cs)
    (h : c ∉ cs.dropWhile isBlank) : isBlank c = true := by
  rw [← List.takeWhile_append_dropWhile (p := isBlank) (l := cs), List.mem_append] at hc
  rcases hc with hc | hc
  · exact List.all_eq_true.1 List.all_takeWhile c hc
  · exact absurd hc h

/-- What is cut off at the end is blank. -/
theorem isBlank_of_not_mem_trimRight {cs : List Char} {c : Char} (hc : c ∈ cs)
    (h : c ∉ trimRight cs) : isBlank c = true := by
  refine isBlank_of_not_mem_dropWhile (List.mem_reverse.2 hc) fun hmem => h ?_
  exact List.mem_reverse.2 hmem

/-- What is cut off at the ends is blank. -/
theorem isBlank_of_not_mem_trim {cs : List Char} {c : Char} (hc : c ∈ cs) (h : c ∉ trim cs) :
    isBlank c = true := by
  by_cases hfirst : c ∈ cs.dropWhile isBlank
  · exact isBlank_of_not_mem_trimRight hfirst h
  · exact isBlank_of_not_mem_dropWhile hc hfirst

end Text

namespace Hex

/-- The code points of hexadecimal digits. -/
theorem isDigit_iff {c : Char} : isDigit c = true ↔
    (48 ≤ c.toNat ∧ c.toNat ≤ 57) ∨ (97 ≤ c.toNat ∧ c.toNat ≤ 102) ∨
      (65 ≤ c.toNat ∧ c.toNat ≤ 70) := by
  have hle {a b : Char} : a ≤ b ↔ a.toNat ≤ b.toNat := UInt32.le_iff_toNat_le
  have hvalue : isDigit c = true ↔
      ('0' ≤ c ∧ c ≤ '9') ∨ ('a' ≤ c ∧ c ≤ 'f') ∨ ('A' ≤ c ∧ c ≤ 'F') := by
    unfold isDigit value?
    split_ifs <;> simp_all
  rw [hvalue]
  simp only [hle]
  rfl

end Hex

namespace Decimal

/-- Letters, digits and the signs of numerals. -/
def isNumeral (c : Char) : Bool :=
  c.isAlphanum || c == '+' || c == '-' || c == '.'

/-- Decimal digits occur in numerals. -/
theorem isNumeral_of_isDigit {c : Char} (h : c.isDigit = true) : isNumeral c = true := by
  rw [isNumeral, Char.isAlphanum, h, Bool.or_true, Bool.true_or, Bool.true_or, Bool.true_or]

/-- A sign may come before the characters of a numeral. -/
theorem isNumeral_of_signed {sign : Char} (hsign : isNumeral sign = true) {cs : List Char}
    (h : ∀ c ∈ cs, isNumeral c = true) : ∀ c ∈ sign :: cs, isNumeral c = true :=
  List.forall_mem_cons.2 ⟨hsign, h⟩

/-- A power of ten consists of characters of numerals. -/
theorem isNumeral_of_power? {cs : List Char} (h : (power? cs).isSome = true) :
    ∀ c ∈ cs, isNumeral c = true := by
  unfold power? at h
  split at h
  next negative digits hsign =>
  have hdigits : ∀ c ∈ digits, isNumeral c = true := by
    split at h
    · exact absurd h Bool.false_ne_true
    · next hall =>
      rw [not_or, not_not] at hall
      exact fun c hc => isNumeral_of_isDigit (List.all_eq_true.1 hall.2 c hc)
  split at hsign
  · obtain ⟨-, rfl⟩ := Prod.mk.inj hsign
    exact isNumeral_of_signed rfl hdigits
  · obtain ⟨-, rfl⟩ := Prod.mk.inj hsign
    exact isNumeral_of_signed rfl hdigits
  · obtain ⟨-, rfl⟩ := Prod.mk.inj hsign
    exact hdigits

/-- The run of digits at the start and what follows it. -/
private theorem isNumeral_of_dropWhile {cs : List Char}
    (h : ∀ c ∈ cs.dropWhile Char.isDigit, isNumeral c = true) : ∀ c ∈ cs, isNumeral c = true := by
  intro c hc
  rw [← List.takeWhile_append_dropWhile (p := Char.isDigit) (l := cs), List.mem_append] at hc
  rcases hc with hc | hc
  · exact isNumeral_of_isDigit (List.all_eq_true.1 List.all_takeWhile c hc)
  · exact h c hc

/-- A number without a sign consists of characters of numerals. -/
theorem isNumeral_of_unsigned? {cs : List Char} (h : (unsigned? cs).isSome = true) :
    ∀ c ∈ cs, isNumeral c = true := by
  refine isNumeral_of_dropWhile ?_
  unfold unsigned? at h
  extract_lets whole rest at h
  change ∀ c ∈ rest, isNumeral c = true
  generalize rest = rest at h ⊢
  split at h
  next fraction after hparts =>
  have hafter : ∀ c ∈ after, isNumeral c = true := by
    simp only at h
    split at h
    · exact absurd h Bool.false_ne_true
    · -- what may follow the digits is a power of ten
      cases after with
      | nil => exact List.forall_mem_nil _
      | cons c after =>
        simp only at h
        split at h
        · next hletter =>
          rw [Option.isSome_map] at h
          rw [List.forall_mem_cons]
          refine ⟨?_, isNumeral_of_power? h⟩
          rcases hletter with rfl | rfl <;> rfl
        · exact absurd h Bool.false_ne_true
  split at hparts
  · obtain ⟨-, rfl⟩ := Prod.mk.inj hparts
    rw [List.forall_mem_cons]
    exact ⟨rfl, isNumeral_of_dropWhile hafter⟩
  · obtain ⟨-, rfl⟩ := Prod.mk.inj hparts
    exact hafter

/-- A number consists of characters of numerals. -/
theorem isNumeral_of_read? {cs : List Char} (h : (read? cs).isSome = true) :
    ∀ c ∈ cs, isNumeral c = true := by
  unfold read? at h
  split at h
  · rw [Option.isSome_map] at h
    exact isNumeral_of_signed rfl (isNumeral_of_unsigned? h)
  · rw [Option.isSome_map] at h
    exact isNumeral_of_signed rfl (isNumeral_of_unsigned? h)
  · rw [Option.isSome_map] at h
    exact isNumeral_of_unsigned? h

end Decimal

namespace Single

open Decimal

/-- A number is written with letters, digits and the signs of numerals. -/
theorem isNumeral_of_read? {cs : List Char} (h : (Single.read? cs).isSome = true) :
    ∀ c ∈ cs, isNumeral c = true := by
  have hname {name : List Char} {word : String} (hword : word.toList.all Char.isAlphanum = true)
      (h : String.ofList (Text.lower name) = word) : ∀ c ∈ name, isNumeral c = true := by
    intro c hc
    rw [isNumeral, Text.isAlphanum_of_lower_eq h hword c hc]
    rfl
  by_cases hdecimal : (Decimal.read? cs).isSome = true
  · exact Decimal.isNumeral_of_read? hdecimal
  · unfold Single.read? at h
    split at h
    next negative name hsign =>
    have hchars : ∀ c ∈ name, isNumeral c = true := by
      simp only at h
      split at h
      · next hinfinite =>
        rcases hinfinite with hinfinite | hinfinite
        · exact hname rfl hinfinite
        · exact hname rfl hinfinite
      · split at h
        · next hnan => exact hname rfl hnan
        · rw [Option.isSome_map] at h
          exact absurd h hdecimal
    split at hsign
    · obtain ⟨-, rfl⟩ := Prod.mk.inj hsign
      exact isNumeral_of_signed rfl hchars
    · obtain ⟨-, rfl⟩ := Prod.mk.inj hsign
      exact isNumeral_of_signed rfl hchars
    · obtain ⟨-, rfl⟩ := Prod.mk.inj hsign
      exact hchars

end Single

namespace Color

open Decimal

/-- Letters, digits, blanks and the signs of color notations. -/
def isNotation (c : Char) : Bool :=
  isNumeral c || Text.isBlank c || "#%(),/".toList.contains c

/-- A color may hold every character of a numeral. -/
theorem isNotation_of_isNumeral {c : Char} (h : isNumeral c = true) : isNotation c = true := by
  rw [isNotation, h, Bool.true_or, Bool.true_or]

/-- A color may hold letters and digits. -/
theorem isNotation_of_isAlphanum {c : Char} (h : c.isAlphanum = true) : isNotation c = true := by
  refine isNotation_of_isNumeral ?_
  rw [isNumeral, h, Bool.true_or, Bool.true_or, Bool.true_or]

/-- A color may hold blanks. -/
theorem isNotation_of_isBlank {c : Char} (h : Text.isBlank c = true) : isNotation c = true := by
  rw [isNotation, h, Bool.or_true, Bool.true_or]

/-- A word of letters and digits in any case is a notation. -/
theorem isNotation_of_lower_eq {cs : List Char} {word : String}
    (h : String.ofList (Text.lower cs) = word) (hword : word.toList.all Char.isAlphanum = true) :
    ∀ c ∈ cs, isNotation c = true :=
  fun c hc => isNotation_of_isAlphanum (Text.isAlphanum_of_lower_eq h hword c hc)

/-- A hexadecimal digit is a letter or a decimal digit. -/
theorem isAlphanum_of_value? {c : Char} (h : (Hex.value? c).isSome = true) :
    c.isAlphanum = true := by
  rw [Text.isAlphanum_iff, Text.isAlpha_iff, Text.isUpper_iff, Text.isLower_iff, Text.isDigit_iff]
  have hranges := Hex.isDigit_iff.1 h
  omega

theorem isNotation_of_value? {c : Char} (h : (Hex.value? c).isSome = true) :
    isNotation c = true :=
  isNotation_of_isAlphanum (isAlphanum_of_value? h)

/-- As many characters as a color has digits, all of which are digits or plus signs. -/
def IsSignedHex (cs : List Char) : Prop :=
  cs.length ∈ [3, 4, 6, 8] ∧ ∀ c ∈ cs, Hex.isDigit c = true ∨ c = '+'

/-- A plus sign may take the place of the first digit of a byte. -/
theorem isDigit_of_paired? {a b : Char} {byte : UInt8} (h : paired? a b = some byte) :
    (Hex.isDigit a = true ∨ a = '+') ∧ (Hex.isDigit b = true ∨ b = '+') := by
  unfold paired? at h
  split at h
  · next hsign =>
    obtain ⟨low, hlow, -⟩ := Option.map_eq_some_iff.1 h
    exact ⟨.inr hsign, .inl (Option.isSome_of_eq_some hlow)⟩
  · simp only [bind, Option.bind_eq_some_iff] at h
    obtain ⟨high, hhigh, low, hlow, -⟩ := h
    exact ⟨.inl (Option.isSome_of_eq_some hhigh), .inl (Option.isSome_of_eq_some hlow)⟩

/-- What stands for a byte by itself is a hexadecimal digit or a plus sign. -/
theorem isDigit_of_doubled? {c : Char} {byte : UInt8} (h : doubled? c = some byte) :
    Hex.isDigit c = true ∨ c = '+' := by
  obtain ⟨digit, hdigit, -⟩ := Option.map_eq_some_iff.1 h
  exact .inl (Option.isSome_of_eq_some hdigit)

/-- What is read as the digits of a color are such digits. -/
theorem isSignedHex_of_ofHex? {cs : List Char} (h : (ofHex? cs).isSome = true) :
    IsSignedHex cs := by
  obtain ⟨color, hcolor⟩ := Option.isSome_iff_exists.1 h
  unfold ofHex? at hcolor
  split at hcolor
  · simp only [bind, Option.bind_eq_some_iff] at hcolor
    obtain ⟨_, hr, _, hg, _, hb, -⟩ := hcolor
    refine ⟨by simp, ?_⟩
    simp only [List.forall_mem_cons, isDigit_of_doubled? hr, isDigit_of_doubled? hg,
      isDigit_of_doubled? hb, true_and]
    exact nofun
  · simp only [bind, Option.bind_eq_some_iff] at hcolor
    obtain ⟨_, hr, _, hg, _, hb, _, ha, -⟩ := hcolor
    refine ⟨by simp, ?_⟩
    simp only [List.forall_mem_cons, isDigit_of_doubled? hr, isDigit_of_doubled? hg,
      isDigit_of_doubled? hb, isDigit_of_doubled? ha, true_and]
    exact nofun
  · simp only [bind, Option.bind_eq_some_iff] at hcolor
    obtain ⟨_, hr, _, hg, _, hb, -⟩ := hcolor
    refine ⟨by simp, ?_⟩
    simp only [List.forall_mem_cons, isDigit_of_paired? hr, isDigit_of_paired? hg,
      isDigit_of_paired? hb, true_and]
    exact nofun
  · simp only [bind, Option.bind_eq_some_iff] at hcolor
    obtain ⟨_, hr, _, hg, _, hb, _, ha, -⟩ := hcolor
    refine ⟨by simp, ?_⟩
    simp only [List.forall_mem_cons, isDigit_of_paired? hr, isDigit_of_paired? hg,
      isDigit_of_paired? hb, isDigit_of_paired? ha, true_and]
    exact nofun
  · exact absurd hcolor (Option.some_ne_none color).symm

/-- The digits of a color are notations. -/
theorem isNotation_of_ofHex? {cs : List Char} (h : (ofHex? cs).isSome = true) :
    ∀ c ∈ cs, isNotation c = true := by
  intro c hc
  rcases (isSignedHex_of_ofHex? h).2 c hc with hdigit | rfl
  · exact isNotation_of_value? hdigit
  · rfl

/-- A number in a color consists of characters that a color may hold. -/
theorem isNotation_of_read? {cs : List Char} {x : Float32} (h : Single.read? cs = some x) :
    ∀ c ∈ cs, isNotation c = true :=
  fun c hc => isNotation_of_isNumeral (Single.isNumeral_of_read? (Option.isSome_of_eq_some h) c hc)

/-- An argument that is a share is a notation. -/
theorem isNotation_of_share? {whole : Float32} {cs : List Char} {share : Float32 × Bool}
    (h : share? whole cs = some share) : ∀ c ∈ cs, isNotation c = true := by
  unfold share? at h
  split at h
  · next x hx =>
    obtain ⟨digits, hdigits, hread⟩ := Option.bind_eq_some_iff.1 hx
    rw [← Text.append_of_before? hdigits, List.forall_mem_append, List.forall_mem_singleton]
    exact ⟨isNotation_of_read? hread, rfl⟩
  · obtain ⟨x, hread, -⟩ := Option.map_eq_some_iff.1 h
    exact isNotation_of_read? hread

/-- A number before a unit is a notation. -/
theorem isNotation_of_beforeUnit? {unit : String} {cs : List Char} {x : Float32}
    (hunit : unit.toList.all Char.isAlphanum = true)
    (h : (beforeUnit? unit cs).bind Single.read? = some x) : ∀ c ∈ cs, isNotation c = true := by
  obtain ⟨digits, hdigits, hread⟩ := Option.bind_eq_some_iff.1 h
  unfold beforeUnit? at hdigits
  split at hdigits
  · next hlower =>
    obtain rfl := Option.some.inj hdigits
    rw [← List.take_append_drop (cs.length - unit.length) cs, List.forall_mem_append]
    have hword : String.ofList (Text.lower (cs.drop (cs.length - unit.length))) = unit := by
      rw [hlower, String.ofList_toList]
    exact ⟨isNotation_of_read? hread, isNotation_of_lower_eq hword hunit⟩
  · exact absurd hdigits (Option.some_ne_none digits).symm

/-- An argument that is an angle is a notation. -/
theorem isNotation_of_angle? {cs : List Char} {x : Float32} (h : angle? cs = some x) :
    ∀ c ∈ cs, isNotation c = true := by
  simp only [angle?, Option.orElse_eq_orElse, Option.orElse_eq_or, Option.or_eq_some_iff,
    Option.map_eq_some_iff] at h
  rcases h with h | ⟨-, ⟨_, h, -⟩ | ⟨-, ⟨_, h, -⟩ | ⟨-, ⟨_, h, -⟩ | ⟨-, h⟩⟩⟩⟩
  · exact isNotation_of_beforeUnit? rfl h
  · exact isNotation_of_beforeUnit? rfl h
  · exact isNotation_of_beforeUnit? rfl h
  · exact isNotation_of_beforeUnit? rfl h
  · exact isNotation_of_read? h

/-- The three channel texts of a color function are notations. -/
def AreChannels (x y z : List Char) : Prop :=
  ∀ channel ∈ [x, y, z], ∀ c ∈ channel, isNotation c = true

variable {x y z : List Char} {alpha : Float32}

theorem AreChannels.of_forall (hx : ∀ c ∈ x, isNotation c = true)
    (hy : ∀ c ∈ y, isNotation c = true) (hz : ∀ c ∈ z, isNotation c = true) :
    AreChannels x y z := by
  simp only [AreChannels, List.forall_mem_cons]
  exact ⟨hx, hy, hz, nofun⟩

/-- What is read as red, green and blue are channels. -/
theorem areChannels_of_callRgb? (h : (callRgb? x y z alpha).isSome = true) :
    AreChannels x y z := by
  obtain ⟨color, hcolor⟩ := Option.isSome_iff_exists.1 h
  simp only [callRgb?, bind, Option.bind_eq_some_iff] at hcolor
  obtain ⟨_, hx, _, hy, _, hz, -⟩ := hcolor
  exact .of_forall (isNotation_of_share? hx) (isNotation_of_share? hy) (isNotation_of_share? hz)

/-- What is read as a hue with two shares are channels. -/
theorem areChannels_of_callHue? {convert : Float32 → Float32 → Float32 → Float32 → Color}
    (h : (callHue? convert x y z alpha).isSome = true) : AreChannels x y z := by
  obtain ⟨color, hcolor⟩ := Option.isSome_iff_exists.1 h
  simp only [callHue?, bind, Option.bind_eq_some_iff] at hcolor
  obtain ⟨_, hx, _, hy, _, hz, -⟩ := hcolor
  exact .of_forall (isNotation_of_angle? hx) (isNotation_of_share? hy) (isNotation_of_share? hz)

/-- What is read as a lightness with two axes are channels. -/
theorem areChannels_of_callOklab? (h : (callOklab? x y z alpha).isSome = true) :
    AreChannels x y z := by
  obtain ⟨color, hcolor⟩ := Option.isSome_iff_exists.1 h
  simp only [callOklab?, bind, Option.bind_eq_some_iff] at hcolor
  obtain ⟨_, hx, _, hy, _, hz, -⟩ := hcolor
  exact .of_forall (isNotation_of_share? hx) (isNotation_of_share? hy) (isNotation_of_share? hz)

/-- What is read as a lightness with a chroma and a hue are channels. -/
theorem areChannels_of_callOklch? (h : (callOklch? x y z alpha).isSome = true) :
    AreChannels x y z := by
  obtain ⟨color, hcolor⟩ := Option.isSome_iff_exists.1 h
  simp only [callOklch?, bind, Option.bind_eq_some_iff] at hcolor
  obtain ⟨_, hx, _, hy, _, hz, -⟩ := hcolor
  exact .of_forall (isNotation_of_share? hx) (isNotation_of_share? hy) (isNotation_of_angle? hz)

/-- A color function has a name of letters, and its channels are notations. -/
theorem isNotation_of_call {name : String} {color : Color}
    (h : call name x y z alpha = .ok color) :
    name.toList.all Char.isAlphanum = true ∧ AreChannels x y z := by
  unfold call at h
  extract_lets checked at h
  have hchecked {o : Option Color} {space : String} (h : checked space o = .ok color) :
      o.isSome = true := by
    cases o with
    | none => cases h
    | some color => rfl
  split_ifs at h with hrgb hhwb hhsl hhsv hoklab hoklch
  · exact ⟨by rcases hrgb with rfl | rfl <;> rfl, areChannels_of_callRgb? (hchecked h)⟩
  · exact ⟨by rcases hhwb with rfl | rfl <;> rfl, areChannels_of_callHue? (hchecked h)⟩
  · exact ⟨by rcases hhsl with rfl | rfl <;> rfl, areChannels_of_callHue? (hchecked h)⟩
  · exact ⟨by rcases hhsv with rfl | rfl <;> rfl, areChannels_of_callHue? (hchecked h)⟩
  · exact ⟨by subst hoklab; rfl, areChannels_of_callOklab? (hchecked h)⟩
  · exact ⟨by subst hoklch; rfl, areChannels_of_callOklch? (hchecked h)⟩

/-- A name of letters in any case, with blanks after it, is a notation. -/
theorem isNotation_of_trimRight {name : List Char}
    (h : (String.ofList (Text.lower (Text.trimRight name))).toList.all Char.isAlphanum = true) :
    ∀ c ∈ name, isNotation c = true := by
  intro c hc
  by_cases hkept : c ∈ Text.trimRight name
  · exact isNotation_of_lower_eq rfl h c hkept
  · exact isNotation_of_isBlank (Text.isBlank_of_not_mem_trimRight hc hkept)

/-- What stands between arguments that are notations is a notation as well. -/
theorem isNotation_of_splitBy {arguments : List Char}
    (h : ∀ piece ∈ (Text.splitBy separatesArguments arguments).filter (· ≠ []),
      ∀ c ∈ piece, isNotation c = true) :
    ∀ c ∈ arguments, isNotation c = true := by
  intro c hc
  rcases Text.mem_splitBy (p := separatesArguments) hc with hseparates | ⟨piece, hpiece, hmem⟩
  · simp only [separatesArguments, Bool.or_eq_true, beq_iff_eq] at hseparates
    rcases hseparates with (((((rfl | rfl) | rfl) | rfl) | rfl) | rfl) | rfl <;> rfl
  · refine h piece ?_ c hmem
    exact List.mem_filter.2 ⟨hpiece, decide_eq_true (List.ne_nil_of_mem hmem)⟩

/-- The name and the arguments of a color function are notations. -/
theorem isNotation_of_ofCall {name arguments : List Char} {color : Color}
    (h : ofCall name arguments = .ok color) :
    (∀ c ∈ name, isNotation c = true) ∧ ∀ c ∈ arguments, isNotation c = true := by
  unfold ofCall at h
  simp only at h
  split at h
  · next x y z hpieces =>
    obtain ⟨hletters, hchannels⟩ := isNotation_of_call h
    refine ⟨isNotation_of_trimRight hletters, isNotation_of_splitBy ?_⟩
    rw [hpieces]
    exact hchannels
  · next x y z alpha hpieces =>
    split at h
    · next opacity percent halpha =>
      obtain ⟨hletters, hchannels⟩ := isNotation_of_call h
      refine ⟨isNotation_of_trimRight hletters, isNotation_of_splitBy ?_⟩
      rw [hpieces, show [x, y, z, alpha] = [x, y, z] ++ [alpha] from rfl, List.forall_mem_append,
        List.forall_mem_singleton]
      exact ⟨hchannels, isNotation_of_share? halpha⟩
    · exact absurd h nofun
  · exact absurd h nofun

/-- A named color is in the list of names. -/
theorem exists_mem_names_of_named? {name : String} (h : (named? name).isSome = true) :
    ∃ n, (name, n) ∈ names := by
  rw [named?, Option.isSome_map] at h
  obtain ⟨n, hn⟩ := Option.isSome_iff_exists.1 h
  obtain ⟨before, after, hsplit, -⟩ := List.lookup_eq_some_iff.1 hn
  refine ⟨n, ?_⟩
  rw [hsplit]
  exact List.mem_append_right _ List.mem_cons_self

/-- The names of colors have letters only. -/
theorem isAlphanum_of_named? {name : String} (h : (named? name).isSome = true) :
    name.toList.all Char.isAlphanum = true := by
  have hnames : (names.all fun entry => entry.1.toList.all Char.isAlphanum) = true := by
    decide +kernel
  obtain ⟨n, hn⟩ := exists_mem_names_of_named? h
  exact List.all_eq_true.1 hnames (name, n) hn

/-- A text that has the form of a call consists of its name and of its arguments in parentheses. -/
theorem append_of_splitCall? {cs name arguments : List Char}
    (h : splitCall? cs = some (name, arguments)) : name ++ '(' :: arguments ++ [')'] = cs := by
  simp only [splitCall?, bind, Option.bind_eq_some_iff] at h
  obtain ⟨⟨first, rest⟩, hcut, inner, hinner, hparts⟩ := h
  obtain ⟨rfl, rfl⟩ := Prod.mk.inj (Option.some.inj hparts)
  have hrest : inner ++ [')'] = rest := Text.append_of_before? hinner
  rw [← Text.append_of_breakOn? hcut, ← hrest, List.append_assoc, List.cons_append]

/-- What is read as a color is a notation. -/
theorem isNotation_of_ofTrimmed {cs : List Char} {color : Color} (h : ofTrimmed cs = .ok color) :
    ∀ c ∈ cs, isNotation c = true := by
  unfold ofTrimmed at h
  split at h
  · next htransparent => exact isNotation_of_lower_eq htransparent rfl
  · split at h
    · next digits hdigits =>
      split at h
      · next found hhex =>
        rw [← Text.append_of_after? hdigits, List.forall_mem_append, List.forall_mem_singleton]
        exact ⟨rfl, isNotation_of_ofHex? (by rw [hhex]; rfl)⟩
      · exact absurd h nofun
    · split at h
      · next name arguments hcall =>
        obtain ⟨hname, harguments⟩ := isNotation_of_ofCall h
        rw [← append_of_splitCall? hcall, List.forall_mem_append, List.forall_mem_append,
          List.forall_mem_cons, List.forall_mem_singleton]
        exact ⟨⟨hname, rfl, harguments⟩, rfl⟩
      · split at h
        · next hhex => exact isNotation_of_ofHex? (by rw [hhex]; rfl)
        · next hnamed =>
          exact isNotation_of_lower_eq rfl (isAlphanum_of_named? (by rw [hnamed]; rfl))
        · exact absurd h nofun

/-- An accepted color holds nothing but notations. -/
theorem isNotation_of_isColor {text : String} (h : Validation.isColor text = true) :
    ∀ c ∈ text.toList, isNotation c = true := by
  intro c hc
  obtain ⟨color, hcolor⟩ := Validation.isColor_iff_parse.1 h
  by_cases hkept : c ∈ Text.trim text.toList
  · exact isNotation_of_ofTrimmed hcolor c hkept
  · exact isNotation_of_isBlank (Text.isBlank_of_not_mem_trim hc hkept)

end Color

namespace Binary64

/-- Rendered numbers are notations. -/
theorem isNotation_of_write {x : Binary64} : ∀ c ∈ (cssNumber.write x).toList,
    Color.isNotation c = true := by
  by_cases hx : x.IsFinite
  · obtain ⟨n, hn, -⟩ := exists_numeral hx
    have hdigit : ∀ c ∈ n.whole ++ n.fraction, Color.isNotation c = true := fun c hc =>
      Color.isNotation_of_isNumeral (Decimal.isNumeral_of_isDigit (n.isDigit c hc))
    rw [List.forall_mem_append] at hdigit
    have hunsigned : ∀ c ∈ n.unsigned, Color.isNotation c = true := by
      rw [Numeral.unsigned, List.forall_mem_append]
      refine ⟨hdigit.1, ?_⟩
      split
      · exact fun c hc => absurd hc List.not_mem_nil
      · rw [List.forall_mem_cons]
        exact ⟨rfl, hdigit.2⟩
    rw [hn, Numeral.text]
    split
    · rw [List.forall_mem_cons]
      exact ⟨rfl, hunsigned⟩
    · exact hunsigned
  · refine List.all_eq_true.1 ?_
    obtain rfl | rfl | rfl := eq_of_not_isFinite hx <;> rfl

end Binary64

namespace CssProperty

open Color

private theorem isNotation_append {s t : String} (hs : ∀ c ∈ s.toList, isNotation c = true)
    (ht : ∀ c ∈ t.toList, isNotation c = true) : ∀ c ∈ (s ++ t).toList, isNotation c = true := by
  rw [String.toList_append, List.forall_mem_append]
  exact ⟨hs, ht⟩

private theorem isNotation_of_all {s : String} (h : s.toList.all isNotation = true) :
    ∀ c ∈ s.toList, isNotation c = true :=
  List.all_eq_true.1 h

/-- A number of pixels is written in characters that a color may hold. -/
private theorem isNotation_of_pixels (x : Binary64) :
    ∀ c ∈ (pixels x).toList, isNotation c = true := by
  exact isNotation_append Binary64.isNotation_of_write (isNotation_of_all rfl)

private theorem isNotation_of_digits (n : Nat) :
    ∀ c ∈ Decimal.digits n, isNotation c = true := fun _ hc =>
  isNotation_of_isNumeral (Decimal.isNumeral_of_isDigit (Decimal.isDigit_of_mem_digits hc))

/-- So are the tracks of a grid. -/
private theorem isNotation_of_gridTracks (tracks : GridTracks) :
    ∀ c ∈ tracks.css.toList, isNotation c = true := by
  have hcount : ∀ c ∈ (toString tracks.count.toNat).toList, isNotation c = true := by
    rw [show (toString tracks.count.toNat).toList = Decimal.digits tracks.count.toNat from
      Nat.toList_repr]
    exact isNotation_of_digits _
  have hsize : ∀ c ∈ tracks.size.css.toList, isNotation c = true := by
    cases tracks.size with
    | px x => exact isNotation_of_pixels x
    | auto => exact isNotation_of_all rfl
  rw [GridTracks.css]
  refine isNotation_append (isNotation_append (isNotation_append (isNotation_append ?_ hcount) ?_)
    hsize) ?_
  · exact isNotation_of_all rfl
  · exact isNotation_of_all rfl
  · exact isNotation_of_all rfl

/-- So is a transformation. -/
private theorem isNotation_of_transform (t : Transform) :
    ∀ c ∈ t.css.toList, isNotation c = true := by
  have hword (word : String) (h : word.toList.all isNotation = true) := isNotation_of_all h
  have htranslate : ∀ c ∈ ("translate(" ++ pixels t.left ++ ", " ++ pixels t.top ++
      ") rotate(").toList, isNotation c = true :=
    isNotation_append (isNotation_append (isNotation_append (isNotation_append (hword _ rfl)
      (isNotation_of_pixels _)) (hword _ rfl)) (isNotation_of_pixels _)) (hword _ rfl)
  have hrotate := isNotation_append (isNotation_append htranslate
    (Binary64.isNotation_of_write (x := t.rotate))) (hword "deg) scale(" rfl)
  have hscale := isNotation_append (isNotation_append hrotate
    (Binary64.isNotation_of_write (x := t.scaleX))) (hword ", " rfl)
  exact isNotation_append (isNotation_append hscale
    (Binary64.isNotation_of_write (x := t.scaleY))) (hword ")" rfl)

/-- So is a length. -/
private theorem isNotation_of_length (axis : Axis) (l : Length) :
    ∀ c ∈ (l.css axis).toList, isNotation c = true := by
  cases l with
  | px x => exact isNotation_of_pixels x
  | _ => cases axis <;> exact isNotation_of_all rfl

/-- So is an integer. -/
private theorem isNotation_of_integer (n : Int) :
    ∀ c ∈ (toString n).toList, isNotation c = true := by
  rw [Value.toList_toString]
  split
  · rw [List.forall_mem_cons]
    exact ⟨rfl, isNotation_of_digits _⟩
  · exact isNotation_of_digits _

/-- What is rendered for anything but a font family is a notation, if the colors are accepted. -/
theorem isNotation_of_render? {d : CssProperty} (hd : d ≠ .fontFamily) {s : Style}
    (hcolor : ∀ q text, s.get (.color q) = some text → Validation.isColor text = true)
    {value : String} (h : d.render? s = some value) : ∀ c ∈ value.toList, isNotation c = true := by
  cases d with
  | fontFamily => exact absurd rfl hd
  | color q => exact isNotation_of_isColor (hcolor q value h)
  | length q =>
    obtain ⟨l, -, rfl⟩ := Option.map_eq_some_iff.1 h
    exact isNotation_of_length _ l
  | fontSize =>
    obtain ⟨size, -, rfl⟩ := Option.map_eq_some_iff.1 h
    cases size with
    | px x => exact isNotation_of_pixels x
    | inherit => exact isNotation_of_all rfl
  | gridTemplate a =>
    obtain ⟨tracks, -, rfl⟩ := Option.map_eq_some_iff.1 h
    exact isNotation_of_gridTracks tracks
  | transform =>
    obtain ⟨t, -, rfl⟩ := Option.map_eq_some_iff.1 h
    exact isNotation_of_transform t
  | zIndex =>
    obtain ⟨z, -, rfl⟩ := Option.map_eq_some_iff.1 h
    exact isNotation_of_integer _
  | borderStyle | fontWeight | textAlign | display | flexDirection | alignItems | justifyContent
  | position =>
    obtain ⟨x, -, rfl⟩ := Option.map_eq_some_iff.1 h
    cases x <;> exact isNotation_of_all rfl

end CssProperty

end Sitework
